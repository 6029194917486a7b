import Runbook.Text.Basic

/-!
# Arguments of a command line

A command takes options and plain arguments in any order. An option is written `--name` or by a
letter; its value follows an equals sign, the letter, or as the next argument. After `--` all
arguments are plain. A level of the command line ends where the name of a command begins the
next one.
-/

namespace Runbook

/-- Why no request is made of a command line. -/
inductive Halt where
  | misuse
  | help
  | version
deriving DecidableEq, Repr

/-- What an option takes. A flag and a single value may be given once; values may be given again
and again. An option can also halt everything. -/
inductive OptionKind where
  | flag
  | value
  | values
  | halt (reason : Halt)
deriving DecidableEq, Repr

/-- An option: its name, its letter and what it takes. -/
structure OptionSpec where
  name : String
  letter : Option Char
  kind : OptionKind
deriving DecidableEq, Repr

/-- What is understood at a level: options, names of commands, and at most so many plain
arguments, or any number of them. -/
structure Level where
  options : List OptionSpec
  commands : List String
  places : Option Nat
deriving DecidableEq, Repr

/-- What is given at a level: the options with their values, and the plain arguments. -/
structure Given where
  options : List (String × String)
  plain : List String
deriving DecidableEq, Repr

namespace Given

/-- Nothing. -/
def none : Given := ⟨[], []⟩

/-- The values of an option. -/
def values (given : Given) (name : String) : List String :=
  (given.options.filter fun entry => entry.1 = name).map Prod.snd

/-- The value of an option. -/
def value? (given : Given) (name : String) : Option String := (given.values name).head?

/-- Is an option given? -/
def has (given : Given) (name : String) : Bool := !(given.values name).isEmpty

/-- One more option, which may have to be the first of its name. -/
def addOption (given : Given) (spec : OptionSpec) (value : String) : Except Halt Given :=
  let again : Bool := spec.kind = .values
  if given.has spec.name && !again then .error .misuse
  else .ok { given with options := given.options ++ [(spec.name, value)] }

/-- One more plain argument, where there is a place for it. -/
def addPlain (given : Given) (level : Level) (argument : String) : Except Halt Given :=
  if level.places.any fun places => places ≤ given.plain.length then .error .misuse
  else .ok { given with plain := given.plain ++ [argument] }

end Given

/-- The forms of an argument before `--`. -/
inductive ArgumentForm where
  | rest
  | named (name : List Char) (value : Option (List Char))
  | letters (letters : List Char)
  | plain
deriving DecidableEq, Repr

namespace ArgumentForm

/-- The form of an argument. A single hyphen is a plain argument. -/
def of (argument : List Char) : ArgumentForm :=
  match argument with
  | ['-', '-'] => rest
  | '-' :: '-' :: text =>
      match Text.cutAt ['='] text with
      | some (name, value) => named name (some value)
      | none => named text none
  | '-' :: c :: text => letters (c :: text)
  | _ => plain

/-- May the argument be the value of the option before it? -/
def isValue (argument : String) : Bool := of argument.toList = plain

end ArgumentForm

namespace Level

/-- The option of a name. -/
def named? (level : Level) (name : List Char) : Option OptionSpec :=
  level.options.find? fun spec => spec.name.toList = name

/-- The option of a letter. -/
def lettered? (level : Level) (letter : Char) : Option OptionSpec :=
  level.options.find? fun spec => spec.letter = some letter

/-- What an argument adds: options, and perhaps one that waits for its value. -/
abbrev Reading := Given × Option OptionSpec

/-- An option with the value that was written with it, if any. -/
def readOption (given : Given) (spec : OptionSpec) (attached : Option (List Char)) :
    Except Halt Reading :=
  match spec.kind, attached with
  | .halt _, some _ => .error .misuse
  | .halt reason, none => .error reason
  | .flag, some _ => .error .misuse
  | .flag, none => (given.addOption spec "").map fun given => (given, none)
  | _, some value => (given.addOption spec (String.ofList value)).map fun given => (given, none)
  | _, none => .ok (given, some spec)

/-- Letters after one hyphen: of an option that takes a value, all that follows is the value,
without an equals sign in front. -/
def readLetters (level : Level) (given : Given) : List Char → Except Halt Reading
  | [] => .ok (given, none)
  | letter :: rest =>
      match level.lettered? letter with
      | none => .error .misuse
      | some spec =>
          match spec.kind with
          | .halt reason => .error reason
          | .flag =>
              match given.addOption spec "" with
              | .error reason => .error reason
              | .ok given => level.readLetters given rest
          | _ =>
              match rest with
              | [] => .ok (given, some spec)
              | '=' :: value => readOption given spec (some value)
              | value => readOption given spec (some value)

/-- Read the arguments of a level. The answer is what is given, and the command that follows with
its own arguments. -/
def read (level : Level) (given : Given) :
    List String → Except Halt (Given × Option (String × List String))
  | [] => .ok (given, none)
  | argument :: rest =>
      if level.commands.contains argument then .ok (given, some (argument, rest))
      else
        let reading : Except Halt (Option Reading) :=
          match ArgumentForm.of argument.toList with
          | .rest => .ok none
          | .plain => (given.addPlain level argument).map fun given => some (given, none)
          | .letters letters => (level.readLetters given letters).map some
          | .named name attached =>
              match level.named? name with
              | none => .error .misuse
              | some spec => (readOption given spec attached).map some
        match reading with
        | .error reason => .error reason
        | .ok none =>
            let added := rest.foldlM (fun (given : Given) argument => given.addPlain level argument) given
            added.map fun given => (given, none)
        | .ok (some (given, none)) => level.read given rest
        | .ok (some (given, some spec)) =>
            match rest with
            | [] => .error .misuse
            | value :: rest =>
                if ArgumentForm.isValue value then
                  match given.addOption spec value with
                  | .error reason => .error reason
                  | .ok given => level.read given rest
                else .error .misuse

end Level

end Runbook
