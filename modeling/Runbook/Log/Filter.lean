import Runbook.ErrorCode
import Runbook.Log.Level
import Runbook.Pattern.Reader
import Runbook.Text.Blank
import Runbook.Yaml.Scalar

/-!
# Filters of the log

A filter is a list of directives with commas between. A directive is a level, or a target with
a level, `target[span{field=value}]=level`, of which all parts but one can be missing.
A directive without a level lets everything through. Where two directives are about the same
events the later one counts.
-/

namespace Runbook

/-- A field that a span has to have, and the value it has to have. -/
structure FieldFilter where
  name : String
  value : Option String
deriving DecidableEq, Repr

/-- What a directive is about. -/
structure LogScope where
  target : Option String
  span : Option String
  field : Option FieldFilter
deriving DecidableEq, Repr

/-- The level for a scope. -/
structure LogDirective where
  scope : LogScope
  level : LogLevel
deriving DecidableEq, Repr

/-- Why a text is no directive. -/
inductive FilterError where
  | directive
  | level
  | field
deriving DecidableEq, Repr

/-- The display text of an error. What the reader of patterns has to say about a field is left
out. -/
def FilterError.message : FilterError → String
  | .directive => "invalid filter directive"
  | .level =>
      "error parsing level filter: expected one of \"off\", \"error\", \"warn\", \"info\", "
        ++ "\"debug\", \"trace\", or a number 0-5"
  | .field => "invalid field filter: "

namespace FieldFilter

/-- A positive decimal without an exponent. -/
def plainDecimal (d : Binary64.Decimal) : List Char :=
  let digits := Nat.toDigits 10 d.digits
  if 0 ≤ d.exponent then digits ++ List.replicate d.exponent.toNat '0'
  else
    let places := (-d.exponent).toNat
    let padded := List.replicate (places + 1 - digits.length) '0' ++ digits
    let whole := padded.length - places
    padded.take whole ++ '.' :: padded.drop whole

/-- A double without an exponent. -/
def plainReal (x : Binary64) : String :=
  let sign := if x.isNegative then ['-'] else []
  let digits := if x.isZero then ['0'] else plainDecimal x.shortest.strip
  String.ofList (sign ++ digits)

/-- The double that a text writes, a sign before it allowed. -/
def real? : List Char → Option Binary64
  | '-' :: text => Yaml.decimal? true text
  | '+' :: text => Yaml.decimal? false text
  | text => Yaml.decimal? false text

/-- The integer that a text writes with a minus sign. -/
def negative? : List Char → Option Int
  | '-' :: '+' :: _ => none
  | '-' :: digits => (Text.natural? (Nat.pow 2 63) digits).map fun n => -(n : Int)
  | _ => none

/-- The text of a value: numbers in their usual form, all else as a pattern. -/
def valueText? (text : List Char) : Option String :=
  match Text.natural? Text.maxWord text, negative? text, real? text with
  | some n, _, _ => some (toString n)
  | _, some i, _ => some (toString i)
  | _, _, some x => some (plainReal x)
  | _, _, none => (Pattern.parse? text).map fun _ => String.ofList text

/-- A field: a name, or a name and a value up to a second equals sign. -/
def parse (text : List Char) : Except FilterError FieldFilter :=
  if text.isEmpty then .error .directive
  else
    match Text.splitOn '=' text with
    | name :: value :: _ =>
        match valueText? value with
        | some value => .ok ⟨String.ofList name, some value⟩
        | none => .error .field
    | _ => .ok ⟨String.ofList text, none⟩

/-- The text of a field. -/
def text (field : FieldFilter) : String :=
  match field.value with
  | some value => field.name ++ "=" ++ value
  | none => field.name

end FieldFilter

namespace LogScope

/-- Everything. -/
def all : LogScope := ⟨none, none, none⟩

/-- The text of a scope. -/
def text (scope : LogScope) : String :=
  let field := match scope.field with
    | some field => "\x7b" ++ field.text ++ "\x7d"
    | none => ""
  let inner := if scope.span.isSome || scope.field.isSome
    then "[" ++ scope.span.getD "" ++ field ++ "]" else ""
  scope.target.getD "" ++ inner

/-- Is the scope about targets and names of fields alone? -/
def isFixed (scope : LogScope) : Bool :=
  scope.span.isNone && scope.field.all fun field => field.value.isNone

/-- Is the scope about spans? -/
def isOfSpans (scope : LogScope) : Bool := scope.span.isSome || scope.field.isSome

end LogScope

namespace LogDirective

/-- The level at the end of a directive. -/
def levelOf (text : List Char) : Except FilterError LogLevel :=
  if text.isEmpty then .ok .trace
  else
    match LogLevel.parse? text with
    | some level => .ok level
    | none => .error .level

/-- The level that may follow a closed bracket. -/
def levelAfter (text : List Char) : Except FilterError LogLevel :=
  match text with
  | [] => .ok .trace
  | '=' :: level => levelOf level
  | _ => .error .directive

/-- What follows an open bracket: a span, a field in braces, or both. -/
def parseSpan (target : Option String) (text : List Char) : Except FilterError LogDirective := do
  let ends (c : Char) : Bool := c = ']' || c = '\x7b'
  let span := String.ofList (text.takeWhile fun c => !ends c)
  match text.dropWhile fun c => !ends c with
  | ']' :: rest => return ⟨⟨target, some span, none⟩, ← levelAfter rest⟩
  | '\x7b' :: rest =>
      match rest.dropWhile (· ≠ '\x7d') with
      | '\x7d' :: after =>
          let field ← FieldFilter.parse (rest.takeWhile (· ≠ '\x7d'))
          match after with
          | ']' :: rest =>
              let span := if span.isEmpty then none else some span
              return ⟨⟨target, span, some field⟩, ← levelAfter rest⟩
          | _ => throw .directive
      | _ => throw .directive
  | _ => throw .directive

/-- May a directive begin with the character? -/
def begins (c : Char) : Bool :=
  c = '-' || c = ':' || c = '_' || Text.isAlphabetic c || Text.isNumeric c

/-- A directive. A word by itself is a level where it names one, and a target otherwise. -/
def parse (text : List Char) : Except FilterError LogDirective :=
  match text with
  | [] => .error .directive
  | '[' :: rest => parseSpan none rest
  | c :: _ =>
      if begins c then
        let ends (c : Char) : Bool := c = '=' || c = '['
        let word := text.takeWhile fun c => !ends c
        match text.dropWhile fun c => !ends c with
        | '=' :: level =>
            (levelOf level).map fun level => ⟨⟨some (String.ofList word), none, none⟩, level⟩
        | '[' :: rest => parseSpan (some (String.ofList word)) rest
        | _ =>
            match LogLevel.parse? word with
            | some level => .ok ⟨.all, level⟩
            | none => .ok ⟨⟨some (String.ofList word), none, none⟩, .trace⟩
      else .error .directive

/-- The text of a directive. -/
def text (directive : LogDirective) : String :=
  let scope := directive.scope.text
  let isAll : Bool := directive.scope = .all
  if isAll then directive.level.name else scope ++ "=" ++ directive.level.name

end LogDirective

/-- A filter: its directives, of which no two are about the same. -/
structure LogFilter where
  directives : List LogDirective

/-- A setting of the log that is of no use. -/
structure LogError where
  setting : String
  detail : String
deriving DecidableEq, Repr

namespace LogError

/-- The display text of an error. -/
def message (error : LogError) : String :=
  "invalid log level '" ++ error.setting ++ "': " ++ error.detail

/-- The catalogue's code for an error. -/
def code (_error : LogError) : ErrorCode := .logging

end LogError

namespace LogFilter

/-- A directive put after others, which take away the one about the same. -/
def add (directives : List LogDirective) (directive : LogDirective) : List LogDirective :=
  directives.filter (fun other => other.scope ≠ directive.scope) ++ [directive]

/-- The filter of a list of directives. -/
def parse (text : String) : Except FilterError LogFilter := do
  let pieces := (Text.splitOn ',' text.toList).filter fun piece => !piece.isEmpty
  let directives ← pieces.mapM fun piece => LogDirective.parse (Text.trim piece)
  return ⟨directives.foldl add []⟩

/-- The text of a filter. A directive about spans that names a field without a value counts in
both parts of a filter, and is written twice. -/
def text (filter : LogFilter) : String :=
  let fixed := filter.directives.filter fun directive => directive.scope.isFixed
  let ofSpans := filter.directives.filter fun directive => directive.scope.isOfSpans
  Text.commaJoin "," ((fixed ++ ofSpans).map LogDirective.text)

/-- The directives for a level, which hold for the parts of this program; of all others only
warnings are logged. -/
def forLevel (level : LogLevel) : String :=
  "warn,digito=" ++ level.name ++ ",digito_common=" ++ level.name

/-- The filter that a setting asks for: a level by name, or directives. -/
def ofSetting (setting : String) : Except LogError LogFilter :=
  let directives :=
    match LogLevel.ofWord? setting.toList with
    | some level => forLevel level
    | none => setting
  (parse directives).mapError fun cause => ⟨setting, cause.message⟩

end LogFilter

end Runbook
