import Mathlib.Data.List.Perm.Basic
import Runbook.Proofs.Alarm.Template

/-!
# Binding all variables at once

Variables are bound one after the other, each in the text that the bindings before it left. Where
no variable of the template holds `$` or `{` and all names and values are plain, this is
`substitute`, which reads the template once and never what it puts in (`render_eq_substitute`). So
the order of the bindings does not count, and the variables that are left are those without one.
-/

namespace Runbook.AlarmTemplate

/-- The value of a binding whose token begins a text, and what follows the token. -/
def leading? (bindings : List (String × String)) (text : List Char) :
    Option (String × List Char) :=
  bindings.findSome? fun binding =>
    (Text.dropLead (token binding.1) text).map fun after => (binding.2, after)

/-- The value that is put in is that of a listed name whose variable stands in front. -/
theorem exists_of_leading? {bindings : List (String × String)} {text after : List Char}
    {value : String} (found : leading? bindings text = some (value, after)) :
    ∃ name, (name, value) ∈ bindings ∧ text = token name ++ after := by
  obtain ⟨binding, listed, same⟩ := List.exists_of_findSome?_eq_some found
  obtain ⟨rest, lead, same⟩ := Option.map_eq_some_iff.1 same
  cases same
  exact ⟨binding.1, listed, Text.dropLead_eq_some_iff.1 lead⟩

/-- A text with the token of every binding replaced by its value, in one pass from left to
right. -/
def substitute (bindings : List (String × String)) : List Char → List Char
  | [] => []
  | c :: rest =>
      match _found : leading? bindings (c :: rest) with
      | some (value, after) => value.toList ++ substitute bindings after
      | none => c :: substitute bindings rest
termination_by text => text.length
decreasing_by
  · obtain ⟨name, _, split⟩ := exists_of_leading? _found
    rw [split, token]
    simp
    omega
  · simp

/-- A text that stands for itself wherever it is put: it is not empty and holds neither `$` nor a
brace. -/
structure Plain (text : List Char) : Prop where
  filled : text ≠ []
  dollar : '$' ∉ text
  opens : '\x7b' ∉ text
  closes : '\x7d' ∉ text

/-- A plain value fits whatever text it is put into. -/
theorem Plain.fits {value : List Char} (plain : Plain value) (text : List Char) :
    Fits value text := by
  refine ⟨fun inside => plain.dollar (inside.subset (by simp [opener])), fun ends => ?_,
    fun _ => ?_⟩
  · exact plain.dollar (List.mem_of_getLast? ends)
  · obtain ⟨c, rest, rfl⟩ := List.exists_cons_of_ne_nil plain.filled
    refine ⟨c, rest, rfl, ?_⟩
    rintro rfl
    exact plain.opens List.mem_cons_self

/-- Bindings that can be made at once: no name is bound twice, and all names and values are
plain. -/
structure Binds (bindings : List (String × String)) : Prop where
  once : (bindings.map Prod.fst).Nodup
  names : ∀ binding ∈ bindings, Plain binding.1.toList
  values : ∀ binding ∈ bindings, Plain binding.2.toList

variable {bindings : List (String × String)} {binding : String × String}
  {text left right body after : List Char} {name value : String}

namespace Binds

/-- The bindings behind the first one bind. -/
theorem tail (binds : Binds (binding :: bindings)) : Binds bindings :=
  ⟨(List.nodup_cons.1 binds.once).2,
    fun other listed => binds.names other (List.mem_cons_of_mem _ listed),
    fun other listed => binds.values other (List.mem_cons_of_mem _ listed)⟩

/-- Bindings bind in any order. -/
theorem perm {order : List (String × String)} (binds : Binds bindings)
    (perm : order.Perm bindings) : Binds order :=
  ⟨(perm.map Prod.fst).nodup_iff.2 binds.once,
    fun other listed => binds.names other (perm.mem_iff.1 listed),
    fun other listed => binds.values other (perm.mem_iff.1 listed)⟩

/-- A name has one value. -/
theorem unique (binds : Binds bindings) {other : String} (first : (name, value) ∈ bindings)
    (second : (name, other) ∈ bindings) : value = other := by
  have same := List.inj_on_of_nodup_map binds.once first second rfl
  exact congrArg Prod.snd same

end Binds

/-! ### Tokens as variables -/

/-- A text that is a variable followed by more begins with that variable. -/
theorem begins_token (plain : Plain name.toList) (after : List Char) :
    Begins (token name ++ after) name.toList after :=
  ⟨by simp [token_eq], plain.filled, plain.closes⟩

/-- A text begins with a variable where that is written in front. -/
theorem Begins.eq_token (begins : Begins text name.toList after) : text = token name ++ after := by
  simp [begins.split, token_eq]

/-- One variable at most begins a text. -/
theorem Begins.unique {other behind : List Char} (begins : Begins text body after)
    (again : Begins text other behind) : body = other ∧ after = behind := by
  have split := begins.split.symm.trans again.split
  have found := congrArg untilBrace (List.append_cancel_left split)
  rw [untilBrace_append_cons begins.first, untilBrace_append_cons again.first] at found
  simpa using found

/-- A text with more behind it begins with the same variable. -/
theorem Begins.append (begins : Begins text body after) (right : List Char) :
    Begins (text ++ right) body (after ++ right) :=
  ⟨by simp [begins.split], begins.named, begins.first⟩

/-- A variable alone is read as its name. -/
theorem bodies_token (plain : Plain name.toList) : bodies (token name) = [name.toList] := by
  have begins := begins_token plain []
  rw [List.append_nil] at begins
  rw [bodies_of_begins begins, bodies]

/-- A value is put in exactly where the text begins with a variable bound to it. -/
theorem leading?_eq_some_iff (binds : Binds bindings) :
    leading? bindings text = some (value, after) ↔
      ∃ name, (name, value) ∈ bindings ∧ Begins text name.toList after := by
  constructor
  · intro found
    obtain ⟨name, listed, rfl⟩ := exists_of_leading? found
    exact ⟨name, listed, begins_token (binds.names _ listed) after⟩
  · rintro ⟨name, listed, begins⟩
    cases found : leading? bindings text with
    | none =>
        have missed := List.findSome?_eq_none_iff.1 found (name, value) listed
        rw [Text.dropLead_eq_some_iff.2 begins.eq_token] at missed
        cases missed
    | some result =>
        obtain ⟨other, behind⟩ := result
        obtain ⟨another, also, split⟩ := exists_of_leading? found
        obtain ⟨same, rfl⟩ := begins.unique (split ▸ begins_token (binds.names _ also) behind)
        rw [String.toList_inj.1 same] at listed
        rw [binds.unique listed also]

/-! ### One pass over a text -/

/-- In front, a bound variable gives way to its value. -/
theorem substitute_of_begins (binds : Binds bindings) (listed : (name, value) ∈ bindings)
    (begins : Begins text name.toList after) :
    substitute bindings text = value.toList ++ substitute bindings after := by
  have found := (leading?_eq_some_iff binds).2 ⟨name, listed, begins⟩
  cases text with
  | nil => exact absurd begins.split (by simp [opener])
  | cons c rest =>
      rw [substitute]
      split
      · rename_i same
        rw [found] at same
        cases same
        rfl
      · rename_i missed
        rw [found] at missed
        cases missed

/-- A character that begins no token of a binding stays. -/
theorem substitute_of_foreign {c : Char} {rest : List Char} (binds : Binds bindings)
    (foreign : ∀ name value after, (name, value) ∈ bindings →
      ¬ Begins (c :: rest) name.toList after) :
    substitute bindings (c :: rest) = c :: substitute bindings rest := by
  rw [substitute]
  split
  · rename_i found
    obtain ⟨name, listed, begins⟩ := (leading?_eq_some_iff binds).1 found
    exact absurd begins (foreign _ _ _ listed)
  · rfl

/-- What one pass does with a text, step by step. -/
inductive Pass (bindings : List (String × String)) : List Char → List Char → Prop
  | done : Pass bindings [] []
  | bound {name value text after result} (listed : (name, value) ∈ bindings)
      (begins : Begins text name.toList after) (later : Pass bindings after result) :
      Pass bindings text (value.toList ++ result)
  | kept {c rest result}
      (foreign : ∀ name value after, (name, value) ∈ bindings →
        ¬ Begins (c :: rest) name.toList after)
      (later : Pass bindings rest result) : Pass bindings (c :: rest) (c :: result)

/-- A substitution is one pass over the text. -/
theorem pass_substitute (binds : Binds bindings) (text : List Char) :
    Pass bindings text (substitute bindings text) := by
  induction text using substitute.induct bindings with
  | case1 =>
      rw [substitute]
      exact .done
  | case2 c rest value after found ih =>
      obtain ⟨name, listed, begins⟩ := (leading?_eq_some_iff binds).1 found
      rw [substitute_of_begins binds listed begins]
      exact .bound listed begins ih
  | case3 c rest missed ih =>
      have foreign (name value : String) (after : List Char) (listed : (name, value) ∈ bindings) :
          ¬ Begins (c :: rest) name.toList after := by
        intro begins
        rw [(leading?_eq_some_iff binds).2 ⟨name, listed, begins⟩] at missed
        cases missed
      rw [substitute_of_foreign binds foreign]
      exact .kept foreign ih

/-- A text whose openers are closed is passed over apart from what follows, unless the two make an
opener where they meet. -/
theorem substitute_append (binds : Binds bindings) (closed : Closed left)
    (apart : left.getLast? = some '$' → right.head? ≠ some '\x7b') :
    substitute bindings (left ++ right) =
      substitute bindings left ++ substitute bindings right := by
  have pass := pass_substitute binds left
  generalize substitute bindings left = result at pass
  induction pass with
  | done => rfl
  | @bound name value text after result listed begins later ih =>
      have inside : after <:+ text := ⟨token name, begins.eq_token.symm⟩
      have apartLater : after.getLast? = some '$' → right.head? ≠ some '\x7b' := by
        intro ends
        obtain ⟨front, rfl⟩ := inside
        exact apart (by simp [ends])
      rw [substitute_of_begins binds listed (begins.append right),
        ih (closed.suffix inside) apartLater, List.append_assoc]
  | @kept c rest result foreign later ih =>
      have apartLater : rest.getLast? = some '$' → right.head? ≠ some '\x7b' := by
        intro ends
        exact apart (by simp [List.getLast?_cons, ends])
      have foreignLonger (name value : String) (after : List Char)
          (listed : (name, value) ∈ bindings) :
          ¬ Begins (c :: (rest ++ right)) name.toList after := by
        intro begins
        obtain ⟨behind, here, _⟩ := closed.begins_of_append apart begins
        exact foreign name value behind listed here
      rw [List.cons_append, substitute_of_foreign binds foreignLonger,
        ih (closed.suffix (List.suffix_cons c rest)) apartLater, List.cons_append]

/-- A text in which no variable opens is kept. -/
theorem substitute_of_no_opener (binds : Binds bindings) (plain : ¬ opener <:+: text) :
    substitute bindings text = text := by
  induction text with
  | nil => rw [substitute]
  | cons c rest ih =>
      have foreign (name value : String) (after : List Char) (_ : (name, value) ∈ bindings) :
          ¬ Begins (c :: rest) name.toList after := by
        intro begins
        rw [begins.split] at plain
        exact plain List.infix_append_left
      rw [substitute_of_foreign binds foreign,
        ih fun inside => plain (inside.trans (List.suffix_cons c rest).isInfix)]

/-- A binding whose token does not occur makes no difference. -/
theorem substitute_cons_of_absent (binds : Binds (binding :: bindings))
    (absent : ¬ token binding.1 <:+: text) :
    substitute (binding :: bindings) text = substitute bindings text := by
  have pass := pass_substitute binds.tail text
  generalize substitute bindings text = result at pass
  induction pass with
  | done => rw [substitute]
  | @bound name value text after result listed begins later ih =>
      have inside : after <:+: text := ⟨token name, [], by simp [begins.eq_token]⟩
      rw [substitute_of_begins binds (List.mem_cons_of_mem _ listed) begins,
        ih fun found => absent (found.trans inside)]
  | @kept c rest result foreign later ih =>
      have foreignToo (name value : String) (after : List Char)
          (listed : (name, value) ∈ binding :: bindings) :
          ¬ Begins (c :: rest) name.toList after := by
        intro begins
        rcases List.mem_cons.1 listed with rfl | listed
        · exact absent ⟨[], after, begins.eq_token.symm⟩
        · exact foreign name value after listed begins
      rw [substitute_of_foreign binds foreignToo,
        ih fun found => absent (found.trans (List.suffix_cons c rest).isInfix)]

/-! ### One binding before the others -/

/-- What one pass does after a variable is bound, one pass does with its binding among the
others. -/
theorem Bound.substitute_eq {result : List Char} (bound : Bound binding text result)
    (binds : Binds (binding :: bindings)) (flat : Flat text) :
    substitute bindings result = substitute (binding :: bindings) text := by
  have plain := binds.values binding List.mem_cons_self
  induction bound with
  | unused absent => rw [substitute_cons_of_absent binds absent]
  | @replaced before after result absent later ih =>
      have fits := plain.fits (before ++ (token binding.1 ++ after))
      have old : substitute (binding :: bindings) (before ++ (token binding.1 ++ after)) =
          substitute bindings before ++
            (binding.2.toList ++ substitute (binding :: bindings) after) := by
        rw [substitute_append binds flat.closed_of_token (by simp [token_eq, opener]),
          substitute_cons_of_absent binds absent,
          substitute_of_begins binds List.mem_cons_self
            (begins_token (binds.names binding List.mem_cons_self) after)]
      have new : substitute bindings (before ++ (binding.2.toList ++ result)) =
          substitute bindings before ++ (binding.2.toList ++ substitute bindings result) := by
        rw [substitute_append binds.tail flat.closed_of_token (fits.apart result),
          substitute_append binds.tail (closed_of_no_opener fits.plain)
            fun ends => absurd ends fits.ended,
          substitute_of_no_opener binds.tail fits.plain]
      rw [new, old, ih flat.behind_token]

/-- Binding a variable that can be read takes its body away and nothing else. -/
theorem Bound.bodies_eq {result : List Char} (bound : Bound binding text result) (flat : Flat text)
    (named : Plain binding.1.toList) (plain : Plain binding.2.toList) :
    bodies result = (bodies text).filter (· ≠ binding.1.toList) := by
  induction bound with
  | unused absent => rw [filter_bodies_of_absent absent]
  | replaced absent later ih =>
      rw [flat.bodies_value (plain.fits _), flat.bodies_token, List.filter_append,
        List.filter_append, filter_bodies_of_absent absent, bodies_token named,
        ih flat.behind_token]
      simp

/-! ### All bindings -/

/-- Without bindings a text is kept. -/
theorem substitute_nil (text : List Char) : substitute [] text = text := by
  have binds : Binds [] := ⟨by simp, nofun, nofun⟩
  induction text with
  | nil => rw [substitute]
  | cons c rest ih => rw [substitute_of_foreign binds (by simp), ih]

/-- One pass does not depend on the order of the bindings. -/
theorem substitute_perm {order : List (String × String)} (binds : Binds bindings)
    (perm : order.Perm bindings) : substitute order text = substitute bindings text := by
  have pass := pass_substitute (binds.perm perm) text
  generalize substitute order text = result at pass
  induction pass with
  | done => rw [substitute]
  | bound listed begins later ih =>
      rw [substitute_of_begins binds (perm.mem_iff.1 listed) begins, ih]
  | kept foreign later ih =>
      rw [substitute_of_foreign binds fun name value after listed =>
        foreign name value after (perm.mem_iff.2 listed), ih]

/-- Bindings one after the other do what one pass does. -/
theorem foldl_bind_eq_substitute (binds : Binds bindings) (flat : Flat text) :
    bindings.foldl bind text = substitute bindings text := by
  induction bindings generalizing text with
  | nil => rw [substitute_nil, List.foldl_nil]
  | cons binding bindings ih =>
      have bound := bound_bind binding text
      have fits := (binds.values binding List.mem_cons_self).fits text
      rw [List.foldl_cons, ih binds.tail (bound.flat flat fits), bound.substitute_eq binds flat]

/-- The bodies after binding are those of the variables that were not bound. -/
theorem mem_bodies_foldl_bind_iff (binds : Binds bindings) (flat : Flat text) :
    body ∈ bodies (bindings.foldl bind text) ↔
      body ∈ bodies text ∧ ∀ binding ∈ bindings, body ≠ binding.1.toList := by
  induction bindings generalizing text with
  | nil => simp
  | cons binding bindings ih =>
      have bound := bound_bind binding text
      have plain := binds.values binding List.mem_cons_self
      have step := bound.bodies_eq flat (binds.names binding List.mem_cons_self) plain
      rw [List.foldl_cons, ih binds.tail (bound.flat flat (plain.fits text)), step]
      simp [and_assoc]

/-- The names of a table's entries are bound once. -/
theorem binds_entries {table : Table String String}
    (plain : ∀ binding ∈ table.entries, Plain binding.1.toList ∧ Plain binding.2.toList) :
    Binds table.entries := by
  refine ⟨List.pairwise_map.2 (table.ascending.imp fun {first second} before same => ?_),
    fun binding listed => (plain binding listed).1, fun binding listed => (plain binding listed).2⟩
  simp [same, Ordered.irrefl] at before

/-- A variable is unbound where the template has it and no binding names it. -/
theorem mem_unbound_iff {template name : String} {bindings : Table String String} :
    name ∈ unbound template bindings ↔
      name ∈ variableNames template ∧ ∀ binding ∈ bindings.entries, name ≠ binding.1 := by
  rw [unbound, List.mem_filter, Bool.not_eq_true', ← Bool.not_eq_true,
    Table.contains_eq_true_iff]
  simp only [Table.get?_eq_some_iff, Prod.forall, not_exists]
  refine and_congr_right fun _ => ⟨?_, fun differs value listed => differs name value listed rfl⟩
  rintro missing other value listed rfl
  exact missing value listed

/-- Where no variable of a template holds an opener, and plain names get plain values, rendering is
one pass over the template, whatever the order of the bindings. The variables that have none are
left, and no others. -/
theorem render_eq_substitute {template : String} {bindings : Table String String}
    (flat : Flat template.toList)
    (plain : ∀ binding ∈ bindings.entries, Plain binding.1.toList ∧ Plain binding.2.toList)
    {order : List (String × String)} (perm : order.Perm bindings.entries) :
    render template order = String.ofList (substitute bindings.entries template.toList) ∧
      variableNames (render template order) = unbound template bindings := by
  have binds := binds_entries plain
  refine ⟨?_, ?_⟩
  · rw [render, foldl_bind_eq_substitute (binds.perm perm) flat, substitute_perm binds perm]
  · -- Both lists ascend, so it is enough that they have the same members.
    refine eq_of_ascending id (sortedDistinct_pairwise _)
      ((sortedDistinct_pairwise _).filter _) fun name => ?_
    rw [mem_variableNames, render, String.toList_ofList,
      mem_bodies_foldl_bind_iff (binds.perm perm) flat, ← mem_variableNames]
    refine Iff.trans ?_ mem_unbound_iff.symm
    simp only [perm.mem_iff, ne_eq, String.toList_inj]

/-- A template with three variables and a `$` in front of one of them. -/
def placeTemplate : String := "$\x7bRole\x7d in $$\x7bEnv\x7d at $\x7bZone\x7d$\x7b\x7d"

/-- Values for two of its variables. -/
def placeBindings : Table String String := Table.ofList [("Env", "prod"), ("Role", "db")]

/-- Bound in descending order, the two give what one pass gives, and the third variable is left. -/
theorem render_eq_substitute_place :
    [("Role", "db"), ("Env", "prod")].Perm placeBindings.entries ∧
      render placeTemplate [("Role", "db"), ("Env", "prod")] =
        "db in $prod at $\x7bZone\x7d$\x7b\x7d" ∧
      String.ofList (substitute placeBindings.entries placeTemplate.toList) =
        "db in $prod at $\x7bZone\x7d$\x7b\x7d" ∧
      variableNames (render placeTemplate [("Role", "db"), ("Env", "prod")]) = ["Zone"] := by
  have entries : placeBindings.entries = [("Env", "prod"), ("Role", "db")] := by decide
  have perm : [("Role", "db"), ("Env", "prod")].Perm placeBindings.entries := by
    rw [entries]
    exact List.Perm.swap _ _ _
  have bodies : bodies placeTemplate.toList = ["Role".toList, "Env".toList, "Zone".toList] := by
    simp [placeTemplate, AlarmTemplate.bodies, untilBrace]
  have flat : Flat placeTemplate.toList := by
    rw [Flat, bodies]
    decide
  have plain : ∀ binding ∈ placeBindings.entries,
      Plain binding.1.toList ∧ Plain binding.2.toList := by
    rw [entries]
    simp only [List.forall_mem_cons, List.not_mem_nil, false_implies, implies_true, and_true]
    exact ⟨⟨by constructor <;> decide, by constructor <;> decide⟩,
      by constructor <;> decide, by constructor <;> decide⟩
  have filled : render placeTemplate [("Role", "db"), ("Env", "prod")] =
      "db in $prod at $\x7bZone\x7d$\x7b\x7d" := by decide +kernel
  obtain ⟨once, left⟩ := render_eq_substitute flat plain perm
  refine ⟨perm, filled, once.symm.trans filled, left.trans ?_⟩
  rw [unbound, variableNames, bodies]
  decide

end Runbook.AlarmTemplate
