import Runbook.CommandLine.Argument
import Runbook.Proofs.Except

/-!
# Reading arguments

What a level makes of its arguments, as a relation with one rule per way an argument can be read
(`Reads`). By it arguments that stand after others are read as if the others had been given before
(`read_append`), and one more value of an option that takes several changes nothing but the values
of this option, wherever it stands (`Reads.plus`).
-/

namespace Runbook

namespace Given

variable {given other added : Given} {spec : OptionSpec} {level : Level}
  {name value text argument : String}

/-- An option is taken unless it is there already and takes one value. -/
theorem addOption_eq_ok_iff : given.addOption spec text = .ok added ↔
    (given.has spec.name = true → spec.kind = .values) ∧
      added = { given with options := given.options ++ [(spec.name, text)] } := by
  rw [addOption]
  by_cases there : given.has spec.name = true <;> by_cases again : spec.kind = .values <;>
    simp [there, again, eq_comm (a := added)]

/-- A plain argument is taken as long as there is a place for it. -/
theorem addPlain_eq_ok_iff : given.addPlain level argument = .ok added ↔
    (∀ places, level.places = some places → given.plain.length < places) ∧
      added = { given with plain := given.plain ++ [argument] } := by
  rw [addPlain]
  cases level.places with
  | none => simp [eq_comm (a := added)]
  | some places =>
      simp only [Option.any_some, Option.some.injEq, forall_eq', decide_eq_true_eq]
      split
      · rename_i full
        simp [Nat.not_lt.2 full]
      · rename_i room
        simp [Nat.lt_of_not_le room, eq_comm (a := added)]

/-- An option adds its value to those of its name. -/
theorem values_append (given : Given) (key name text : String) :
    values { given with options := given.options ++ [(key, text)] } name =
      given.values name ++ if key = name then [text] else [] := by
  by_cases same : key = name <;> simp [values, List.filter_append, same]

/-- Several more plain arguments, where there are places for them. -/
def addAllPlain (given : Given) (level : Level) (arguments : List String) : Except Halt Given :=
  arguments.foldlM (fun given argument => given.addPlain level argument) given

/-- `other` is `given` and one more value of an option. -/
structure Plus (given : Given) (name value : String) (other : Given) : Prop where
  plain : other.plain = given.plain
  others : ∀ key, key ≠ name → other.values key = given.values key
  values : (other.values name).Perm (value :: given.values name)

namespace Plus

/-- One more value is one value more. -/
theorem of_append (given : Given) (name value : String) :
    Plus given name value { given with options := given.options ++ [(name, value)] } where
  plain := rfl
  others key other := by rw [values_append, if_neg other.symm, List.append_nil]
  values := by
    rw [values_append, if_pos rfl]
    exact List.perm_append_singleton _ _

/-- Every other option is given as before. -/
theorem has (plus : given.Plus name value other) {key : String} (differs : key ≠ name) :
    other.has key = given.has key := by
  rw [Given.has, Given.has, plus.others key differs]

/-- Every other option has its value as before. -/
theorem value? (plus : given.Plus name value other) {key : String} (differs : key ≠ name) :
    other.value? key = given.value? key := by
  rw [Given.value?, Given.value?, plus.others key differs]

/-- An option that was not given has the one value that is added. -/
theorem values_eq_singleton (plus : given.Plus name value other)
    (absent : given.values name = []) : other.values name = [value] := by
  have alone := plus.values
  rw [absent] at alone
  exact List.perm_singleton.1 alone

/-- What can be added to the one can be added to the other. -/
theorem addOption (plus : given.Plus name value other)
    (several : spec.name = name → spec.kind = .values)
    (adds : given.addOption spec text = .ok added) :
    ∃ more, other.addOption spec text = .ok more ∧ added.Plus name value more := by
  obtain ⟨fits, rfl⟩ := addOption_eq_ok_iff.1 adds
  refine ⟨_, addOption_eq_ok_iff.2 ⟨fun there => ?_, rfl⟩, plus.plain, fun key differs => ?_, ?_⟩
  · by_cases same : spec.name = name
    · exact several same
    · exact fits ((plus.has same).symm.trans there)
  · rw [values_append, values_append, plus.others key differs]
  · rw [values_append, values_append, ← List.cons_append]
    exact plus.values.append_right _

/-- A plain argument is taken beside one more value as without it. -/
theorem addPlain (plus : given.Plus name value other)
    (adds : given.addPlain level argument = .ok added) :
    ∃ more, other.addPlain level argument = .ok more ∧ added.Plus name value more := by
  obtain ⟨room, rfl⟩ := addPlain_eq_ok_iff.1 adds
  refine ⟨_, addPlain_eq_ok_iff.2 ⟨?_, rfl⟩, ?_, plus.others, plus.values⟩
  · rw [plus.plain]
    exact room
  · dsimp only
    rw [plus.plain]

/-- The arguments that stand where all are plain are added to both alike. -/
theorem addAllPlain {arguments : List String} (plus : given.Plus name value other)
    (adds : given.addAllPlain level arguments = .ok added) :
    ∃ more, other.addAllPlain level arguments = .ok more ∧ added.Plus name value more := by
  induction arguments generalizing given other with
  | nil =>
      cases adds
      exact ⟨other, rfl, plus⟩
  | cons argument rest ih =>
      rw [Given.addAllPlain, List.foldlM_cons, bind_eq_ok_iff] at adds
      obtain ⟨next, here, later⟩ := adds
      obtain ⟨more, again, still⟩ := plus.addPlain here
      obtain ⟨last, others, atLast⟩ := ih still later
      refine ⟨last, ?_, atLast⟩
      rw [Given.addAllPlain, List.foldlM_cons, bind_eq_ok_iff]
      exact ⟨more, again, others⟩

end Plus

end Given

/-- Two hyphens alone make the rest plain, and nothing else does. -/
theorem ArgumentForm.of_eq_rest_iff {argument : List Char} :
    of argument = .rest ↔ argument = ['-', '-'] := by
  constructor
  · intro isRest
    unfold of at isRest
    split at isRest
    · rfl
    · split at isRest <;> cases isRest
    · cases isRest
    · cases isRest
  · rintro rfl
    rfl

namespace Level

/-- What an argument that names no command adds, unless all that follow are plain. -/
def readForm (level : Level) (given : Given) (argument : String) : Except Halt (Option Reading) :=
  match ArgumentForm.of argument.toList with
  | .rest => .ok none
  | .plain => (given.addPlain level argument).map fun given => some (given, none)
  | .letters letters => (level.readLetters given letters).map some
  | .named name attached =>
      match level.named? name with
      | none => .error .misuse
      | some spec => (readOption given spec attached).map some

/-- How the arguments of a level are read: what they give, and the command that ends them. -/
inductive Reads (level : Level) :
    Given → List String → Given → Option (String × List String) → Prop where
  | none {given} : Reads level given [] given none
  | command {given argument rest} (named : argument ∈ level.commands) :
      Reads level given (argument :: rest) given (some (argument, rest))
  | plain {given argument rest found} (unnamed : argument ∉ level.commands)
      (isRest : level.readForm given argument = .ok .none)
      (added : given.addAllPlain level rest = .ok found) :
      Reads level given (argument :: rest) found .none
  | single {given argument next rest found command} (unnamed : argument ∉ level.commands)
      (adds : level.readForm given argument = .ok (some (next, .none)))
      (later : Reads level next rest found command) :
      Reads level given (argument :: rest) found command
  | double {given argument value next spec other rest found command}
      (unnamed : argument ∉ level.commands)
      (waits : level.readForm given argument = .ok (some (next, some spec)))
      (isValue : ArgumentForm.isValue value = true) (adds : next.addOption spec value = .ok other)
      (later : Reads level other rest found command) :
      Reads level given (argument :: value :: rest) found command

variable {level : Level} {given found next other : Given} {spec : OptionSpec}
  {name value argument : String} {arguments rest : List String}
  {command : Option (String × List String)}

/-- A command ends the reading of a level. -/
theorem read_command (named : argument ∈ level.commands) :
    level.read given (argument :: rest) = .ok (given, some (argument, rest)) := by
  rw [read, if_pos (List.contains_iff_mem.2 named)]

/-- An argument that is no command is read by its form. -/
theorem read_cons (unnamed : argument ∉ level.commands) : level.read given (argument :: rest) =
    match level.readForm given argument with
    | .error reason => .error reason
    | .ok none => (given.addAllPlain level rest).map fun given => (given, none)
    | .ok (some (given, none)) => level.read given rest
    | .ok (some (given, some spec)) =>
        match rest with
        | [] => .error .misuse
        | value :: rest =>
            if ArgumentForm.isValue value then
              match given.addOption spec value with
              | .error reason => .error reason
              | .ok given => level.read given rest
            else .error .misuse := by
  rw [read, if_neg (by simpa using unnamed)]
  rfl

/-- A level reads what the relation says. -/
theorem Reads.read_eq (reads : level.Reads given arguments found command) :
    level.read given arguments = .ok (found, command) := by
  induction reads with
  | none => rfl
  | command named => exact read_command named
  | plain unnamed isRest added => rw [read_cons unnamed, isRest, added]; rfl
  | single unnamed adds _ ih => rw [read_cons unnamed, adds, ← ih]
  | double unnamed waits isValue adds _ ih =>
      rw [read_cons unnamed, waits]
      dsimp only
      rw [if_pos isValue, adds, ← ih]

/-- The relation says what a level reads. -/
theorem reads_of_read {given : Given} {arguments : List String}
    (succeeded : level.read given arguments = .ok (found, command)) :
    level.Reads given arguments found command := by
  match arguments with
  | [] =>
      cases succeeded
      exact .none
  | argument :: rest =>
      by_cases named : argument ∈ level.commands
      · rw [read_command named] at succeeded
        cases succeeded
        exact .command named
      · rw [read_cons named] at succeeded
        split at succeeded
        · cases succeeded
        · rename_i isRest
          obtain ⟨last, added, same⟩ := map_eq_ok_iff.1 succeeded
          cases same
          exact .plain named isRest added
        · rename_i adds
          exact .single named adds (reads_of_read succeeded)
        · rename_i waits
          split at succeeded
          · cases succeeded
          · rename_i value rest
            split at succeeded
            · rename_i isValue
              split at succeeded
              · cases succeeded
              · rename_i adds
                exact .double named waits isValue adds (reads_of_read succeeded)
            · cases succeeded

/-! ### Arguments after others -/

/-- Only two hyphens alone make the rest plain. -/
theorem eq_of_readForm_none (isRest : level.readForm given argument = .ok none) :
    argument = "--" := by
  rw [readForm] at isRest
  split at isRest
  · rename_i form
    exact String.toList_inj.1 (ArgumentForm.of_eq_rest_iff.1 form)
  · obtain ⟨_, _, same⟩ := map_eq_ok_iff.1 isRest
    cases same
  · obtain ⟨_, _, same⟩ := map_eq_ok_iff.1 isRest
    cases same
  · split at isRest
    · cases isRest
    · obtain ⟨_, _, same⟩ := map_eq_ok_iff.1 isRest
      cases same

/-- Arguments that do not make all later ones plain are read, and then the later ones are. -/
theorem read_append (reads : level.Reads given arguments found none) (apart : "--" ∉ arguments)
    (more : List String) : level.read given (arguments ++ more) = level.read found more := by
  generalize ended : (none : Option (String × List String)) = command at reads
  induction reads with
  | none => rfl
  | command named => cases ended
  | plain unnamed isRest added =>
      exact absurd (eq_of_readForm_none isRest ▸ List.mem_cons_self) apart
  | single unnamed adds later ih =>
      rw [List.cons_append, read_cons unnamed, adds]
      exact ih (fun member => apart (List.mem_cons_of_mem _ member)) ended
  | double unnamed waits isValue adds later ih =>
      rw [List.cons_append, List.cons_append, read_cons unnamed, waits]
      dsimp only
      rw [if_pos isValue, adds]
      exact ih (fun member => apart (List.mem_cons_of_mem _ (List.mem_cons_of_mem _ member))) ended

/-! ### One more value -/

/-- The option of a name takes several values. -/
def Several (level : Level) (name : String) : Prop :=
  ∀ spec ∈ level.options, spec.name = name → spec.kind = .values

/-- The option that waits for a value is the one just read. -/
theorem eq_of_readOption {attached : Option (List Char)} {waiting : OptionSpec}
    (waits : readOption given spec attached = .ok (next, some waiting)) : waiting = spec := by
  rw [readOption.eq_def] at waits
  split at waits
  · cases waits
  · cases waits
  · cases waits
  · obtain ⟨_, _, same⟩ := map_eq_ok_iff.1 waits
    cases same
  · obtain ⟨_, _, same⟩ := map_eq_ok_iff.1 waits
    cases same
  · cases waits
    rfl

/-- The option that waits behind letters is one of the level. -/
theorem mem_options_of_readLetters {letters : List Char}
    (waits : level.readLetters given letters = .ok (next, some spec)) : spec ∈ level.options := by
  induction letters generalizing given with
  | nil => cases waits
  | cons letter rest ih =>
      rw [readLetters] at waits
      split at waits
      · cases waits
      · rename_i known
        have inside := List.mem_of_find?_eq_some known
        split at waits
        · cases waits
        · split at waits
          · cases waits
          · exact ih waits
        · split at waits
          · cases waits
            exact inside
          · exact eq_of_readOption waits ▸ inside
          · exact eq_of_readOption waits ▸ inside

/-- An option that waits for its value is one of the level. -/
theorem mem_options_of_readForm
    (waits : level.readForm given argument = .ok (some (next, some spec))) :
    spec ∈ level.options := by
  rw [readForm] at waits
  split at waits
  · cases waits
  · obtain ⟨_, _, same⟩ := map_eq_ok_iff.1 waits
    cases same
  · obtain ⟨reading, here, same⟩ := map_eq_ok_iff.1 waits
    cases same
    exact mem_options_of_readLetters here
  · split at waits
    · cases waits
    · rename_i known
      obtain ⟨reading, here, same⟩ := map_eq_ok_iff.1 waits
      cases same
      exact eq_of_readOption here ▸ List.mem_of_find?_eq_some known

/-- An option is taken beside one more value as without it. -/
theorem addOption_plus {text : String} {waiting : Option OptionSpec}
    (several : spec.name = name → spec.kind = .values) (plus : given.Plus name value other)
    (adds : (given.addOption spec text).map (fun given => (given, none)) = .ok (next, waiting)) :
    ∃ more, (other.addOption spec text).map (fun given => (given, none)) = .ok (more, waiting) ∧
      next.Plus name value more := by
  obtain ⟨added, here, same⟩ := map_eq_ok_iff.1 adds
  cases same
  obtain ⟨more, again, still⟩ := plus.addOption several here
  exact ⟨more, map_eq_ok_iff.2 ⟨more, again, rfl⟩, still⟩

/-- An option is read beside one more value as without it. -/
theorem readOption_plus {attached : Option (List Char)} {waiting : Option OptionSpec}
    (several : spec.name = name → spec.kind = .values) (plus : given.Plus name value other)
    (adds : readOption given spec attached = .ok (next, waiting)) :
    ∃ more, readOption other spec attached = .ok (more, waiting) ∧ next.Plus name value more := by
  rw [readOption.eq_def] at adds ⊢
  split at adds
  · cases adds
  · cases adds
  · cases adds
  · exact addOption_plus several plus adds
  · exact addOption_plus several plus adds
  · cases adds
    exact ⟨other, rfl, plus⟩

/-- Letters are read beside one more value as without it. -/
theorem readLetters_plus {letters : List Char} {waiting : Option OptionSpec}
    (several : level.Several name) (plus : given.Plus name value other)
    (adds : level.readLetters given letters = .ok (next, waiting)) :
    ∃ more, level.readLetters other letters = .ok (more, waiting) ∧ next.Plus name value more := by
  induction letters generalizing given other with
  | nil =>
      cases adds
      exact ⟨other, rfl, plus⟩
  | cons letter rest ih =>
      rw [readLetters] at adds ⊢
      cases known : level.lettered? letter with
      | none => rw [known] at adds; cases adds
      | some spec =>
          rw [known] at adds
          dsimp only at adds ⊢
          split at adds
          · cases adds
          · split at adds
            · cases adds
            · rename_i added flagged
              obtain ⟨more, again, still⟩ :=
                plus.addOption (several _ (List.mem_of_find?_eq_some known)) flagged
              rw [again]
              exact ih still adds
          · split at adds
            · cases adds
              exact ⟨other, rfl, plus⟩
            · exact readOption_plus (several _ (List.mem_of_find?_eq_some known)) plus adds
            · exact readOption_plus (several _ (List.mem_of_find?_eq_some known)) plus adds

/-- That the rest is plain does not depend on what is given. -/
theorem readForm_none (isRest : level.readForm given argument = .ok none) :
    level.readForm other argument = .ok none := by
  rw [eq_of_readForm_none isRest]
  rfl

/-- A form is read beside one more value as without it. -/
theorem readForm_plus {waiting : Option OptionSpec} (several : level.Several name)
    (plus : given.Plus name value other)
    (adds : level.readForm given argument = .ok (some (next, waiting))) :
    ∃ more, level.readForm other argument = .ok (some (more, waiting)) ∧
      next.Plus name value more := by
  rw [readForm] at adds ⊢
  split at adds
  · cases adds
  · obtain ⟨added, here, same⟩ := map_eq_ok_iff.1 adds
    cases same
    obtain ⟨more, again, still⟩ := plus.addPlain here
    exact ⟨more, map_eq_ok_iff.2 ⟨more, again, rfl⟩, still⟩
  · obtain ⟨reading, here, same⟩ := map_eq_ok_iff.1 adds
    cases same
    obtain ⟨more, again, still⟩ := readLetters_plus several plus here
    exact ⟨more, map_eq_ok_iff.2 ⟨_, again, rfl⟩, still⟩
  · split at adds
    · cases adds
    · rename_i spec known
      obtain ⟨reading, here, same⟩ := map_eq_ok_iff.1 adds
      cases same
      obtain ⟨more, again, still⟩ :=
        readOption_plus (several _ (List.mem_of_find?_eq_some known)) plus here
      exact ⟨more, map_eq_ok_iff.2 ⟨_, again, rfl⟩, still⟩

/-- Where the option of a value takes several, arguments are read the same way after it: it is one
value more in the end. -/
theorem Reads.plus (several : level.Several name)
    (reads : level.Reads given arguments found command) (plus : given.Plus name value other) :
    ∃ more, level.Reads other arguments more command ∧ found.Plus name value more := by
  induction reads generalizing other with
  | none => exact ⟨other, .none, plus⟩
  | command named => exact ⟨other, .command named, plus⟩
  | plain unnamed isRest added =>
      obtain ⟨more, again, still⟩ := plus.addAllPlain added
      exact ⟨more, .plain unnamed (readForm_none isRest) again, still⟩
  | single unnamed adds later ih =>
      obtain ⟨next, again, still⟩ := readForm_plus several plus adds
      obtain ⟨more, reads, atLast⟩ := ih still
      exact ⟨more, .single unnamed again reads, atLast⟩
  | double unnamed waits isValue adds later ih =>
      obtain ⟨next, again, still⟩ := readForm_plus several plus waits
      have known := several _ (mem_options_of_readForm waits)
      obtain ⟨after, added, plus⟩ := still.addOption known adds
      obtain ⟨more, reads, atLast⟩ := ih plus
      exact ⟨more, .double unnamed again isValue added reads, atLast⟩

end Level

end Runbook
