import Runbook.Proofs.Alarm.Template

/-!
# Which variables a template has

A variable begins at the first opener that a character other than a brace follows and, later, a
brace; its body reaches up to the next brace, and reading goes on behind that (`Reads`). There is
one such reading of a text, and it is the one that `bodies` does (`reads_iff`). So what is found
stands in the template, and nothing is found only where there is nothing to find
(`variables_exact`).
-/

namespace Runbook.AlarmTemplate

/-- Behind `front` an opener stands in a text, then a character that is no closing brace, and
somewhere behind that a closing brace. -/
def OpensAt (text front : List Char) : Prop :=
  ∃ c behind, text = front ++ (opener ++ c :: behind) ∧ c ≠ '\x7d' ∧ '\x7d' ∈ behind

/-- The first variable of a text: nothing opens before it, and its body ends at the next closing
brace. -/
structure Foremost (text front body after : List Char) : Prop where
  split : text = front ++ (opener ++ (body ++ '\x7d' :: after))
  named : body ≠ []
  first : '\x7d' ∉ body
  least : ∀ other, OpensAt text other → front.length ≤ other.length

/-- The bodies of a text's variables from left to right, the next one looked for behind the brace
of the one before. -/
inductive Reads : List Char → List (List Char) → Prop where
  | done {text} (closed : ∀ front, ¬ OpensAt text front) : Reads text []
  | next {text front body after names} (foremost : Foremost text front body after)
      (later : Reads after names) : Reads text (body :: names)

variable {c : Char} {text rest front other body after : List Char} {names : List (List Char)}

/-- A variable opens at the beginning exactly where the text begins with one. -/
theorem opensAt_nil_iff : OpensAt text [] ↔ ∃ body after, Begins text body after := by
  constructor
  · rintro ⟨c, behind, rfl, differs, ends⟩
    obtain ⟨body, after, rfl, first⟩ := List.eq_append_cons_of_mem ends
    refine ⟨c :: body, after, by simp, by simp, ?_⟩
    simp [Ne.symm differs, first]
  · rintro ⟨body, after, rfl, named, first⟩
    obtain ⟨c, body, rfl⟩ := List.exists_cons_of_ne_nil named
    refine ⟨c, body ++ '\x7d' :: after, by simp, ?_, by simp⟩
    rintro rfl
    exact first List.mem_cons_self

/-- An opener behind some front stands behind a longer one in a longer text. -/
theorem eq_nil_or_of_opensAt_cons (opens : OpensAt (c :: rest) other) :
    other = [] ∨ ∃ front, other = c :: front ∧ OpensAt rest front := by
  cases other with
  | nil => exact .inl rfl
  | cons d front =>
      obtain ⟨e, behind, split, differs, ends⟩ := opens
      obtain ⟨rfl, tails⟩ := List.cons.inj split
      exact .inr ⟨front, rfl, e, behind, tails, differs, ends⟩

/-- A variable that begins the text is the foremost. -/
theorem Begins.foremost (begins : Begins text body after) : Foremost text [] body after :=
  ⟨begins.split, begins.named, begins.first, fun _ _ => Nat.zero_le _⟩

/-- The foremost variable opens behind what stands before it. -/
theorem Foremost.opensAt (foremost : Foremost text front body after) : OpensAt text front := by
  obtain ⟨c, body, rfl⟩ := List.exists_cons_of_ne_nil foremost.named
  refine ⟨c, body ++ '\x7d' :: after, foremost.split, ?_, by simp⟩
  rintro rfl
  exact foremost.first List.mem_cons_self

/-- A character that begins no variable changes nothing in what is read behind it. -/
theorem Reads.pass (foreign : ∀ body after, ¬ Begins (c :: rest) body after)
    (reads : Reads rest names) : Reads (c :: rest) names := by
  have closed : ¬ OpensAt (c :: rest) [] := fun opens =>
    let ⟨body, after, begins⟩ := opensAt_nil_iff.1 opens
    foreign body after begins
  cases reads with
  | done none =>
      refine .done fun front opens => ?_
      rcases eq_nil_or_of_opensAt_cons opens with rfl | ⟨front, rfl, later⟩
      · exact closed opens
      · exact none front later
  | @next _ front body after _ foremost later =>
      have split : c :: rest = c :: front ++ (opener ++ (body ++ '\x7d' :: after)) := by
        rw [foremost.split, List.cons_append]
      refine .next ⟨split, foremost.named, foremost.first, fun other opens => ?_⟩ later
      rcases eq_nil_or_of_opensAt_cons opens with rfl | ⟨other, rfl, behind⟩
      · exact absurd opens closed
      · simpa using foremost.least other behind

/-- Reading takes the variables from left to right. -/
theorem reads_bodies (text : List Char) : Reads text (bodies text) := by
  have scan := scan_bodies text
  generalize bodies text = names at scan
  induction scan with
  | done => exact .done fun front ⟨c, behind, split, _, _⟩ => by simp [opener] at split
  | found begins _ ih => exact .next begins.foremost ih
  | pass foreign _ ih => exact ih.pass foreign

/-- A text has one first variable. -/
theorem Foremost.unique {inner behind : List Char} (foremost : Foremost text front body after)
    (same : Foremost text other inner behind) : body = inner ∧ after = behind := by
  have length : front.length = other.length :=
    Nat.le_antisymm (foremost.least other same.opensAt) (same.least front foremost.opensAt)
  have split := foremost.split
  rw [same.split] at split
  have tails := (List.append_inj split length.symm).2
  have found := congrArg untilBrace (List.append_cancel_left tails)
  rw [untilBrace_append_cons same.first, untilBrace_append_cons foremost.first] at found
  cases found
  exact ⟨rfl, rfl⟩

/-- A text is read in one way. -/
theorem Reads.unique {others : List (List Char)} (reads : Reads text names)
    (same : Reads text others) : names = others := by
  induction reads generalizing others with
  | done closed =>
      cases same with
      | done => rfl
      | next foremost => exact absurd foremost.opensAt (closed _)
  | next foremost _ ih =>
      cases same with
      | done closed => exact absurd foremost.opensAt (closed _)
      | next again later =>
          obtain ⟨rfl, rfl⟩ := foremost.unique again
          rw [ih later]

/-- The bodies that the scan finds are how the text is read. -/
theorem reads_iff : Reads text names ↔ names = bodies text :=
  ⟨fun reads => reads.unique (reads_bodies text), fun same => same ▸ reads_bodies text⟩

/-- Nothing is found exactly where no variable opens anywhere. -/
theorem bodies_eq_nil_iff : bodies text = [] ↔ ∀ front, ¬ OpensAt text front := by
  constructor
  · intro none
    have reads := reads_bodies text
    rw [none] at reads
    cases reads with
    | done closed => exact closed
  · intro closed
    exact (reads_iff.1 (.done closed)).symm

/-- A body that is found is not empty and holds no closing brace. -/
theorem named_of_mem_bodies (member : body ∈ bodies text) : body ≠ [] ∧ '\x7d' ∉ body := by
  have scan := scan_bodies text
  generalize bodies text = names at member scan
  induction scan with
  | done => cases member
  | found begins _ ih =>
      rcases List.mem_cons.1 member with rfl | member
      · exact ⟨begins.named, begins.first⟩
      · exact ih member
  | pass _ _ ih => exact ih member

/-- What reading finds in a template are its variables. Each has a name without closing brace, and
its token stands in the template. There is none exactly where no opener is followed by a character
other than a closing brace and, later, by a closing brace. And the names are the bodies that stand,
from left to right and without overlap, between the first such opener and the next closing brace. -/
theorem variables_exact (template : String) :
    (∀ name ∈ variableNames template,
        name ≠ "" ∧ '\x7d' ∉ name.toList ∧ token name <:+: template.toList) ∧
      (variableNames template = [] ↔ ∀ front, ¬ OpensAt template.toList front) ∧
        (∀ names, Reads template.toList names ↔ names = bodies template.toList) ∧
          ∀ name, name ∈ variableNames template ↔ name.toList ∈ bodies template.toList := by
  refine ⟨?_, ?_, fun _ => reads_iff, fun _ => mem_variableNames⟩
  · intro name member
    rw [mem_variableNames] at member
    obtain ⟨named, first⟩ := named_of_mem_bodies member
    refine ⟨?_, first, infix_of_mem_bodies member⟩
    rintro rfl
    exact named rfl
  · rw [← bodies_eq_nil_iff, List.eq_nil_iff_forall_not_mem, List.eq_nil_iff_forall_not_mem]
    constructor
    · intro none body member
      exact none (String.ofList body) (mem_variableNames.2 (by simpa using member))
    · intro none name member
      exact none name.toList (mem_variableNames.1 member)

/-- A template with an opener inside a variable, empty braces, and an opener that nothing closes. -/
def crowdedTemplate : String := "$\x7b\x7d $\x7ba$\x7bb\x7d $\x7bc"

/-- The opener inside belongs to the variable's name. -/
theorem variables_exact_crowded :
    "a$\x7bb" ∈ variableNames crowdedTemplate ∧ '\x7d' ∉ "a$\x7bb".toList ∧
      token "a$\x7bb" <:+: crowdedTemplate.toList := by
  have bodies : bodies crowdedTemplate.toList = ["a$\x7bb".toList] := by
    simp [crowdedTemplate, AlarmTemplate.bodies, untilBrace]
  have member : "a$\x7bb" ∈ variableNames crowdedTemplate := by
    rw [mem_variableNames, bodies]
    exact List.mem_singleton_self _
  obtain ⟨_, first, inside⟩ := (variables_exact crowdedTemplate).1 _ member
  exact ⟨member, first, inside⟩

end Runbook.AlarmTemplate
