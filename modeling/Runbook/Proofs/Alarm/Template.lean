import Runbook.Alarm.Template
import Runbook.Proofs.Table
import Runbook.Proofs.Text.Occurrence

/-!
# Which variables are left in a template

`Scan` is the reading of a text from left to right that `bodies` does. Reading goes on behind a part
in which every opener is closed as if the part were not there (`bodies_append`). So binding a
variable takes its body away and brings none in, under two conditions (`Bound.bodies_sublist`): no
variable holds an opener, and the value neither holds an opener nor makes one with the text around
it.
-/

namespace Runbook.AlarmTemplate

/-- What a variable begins with. -/
def opener : List Char := ['$', '\x7b']

/-- A variable begins a text. -/
structure Begins (text body after : List Char) : Prop where
  split : text = opener ++ (body ++ '\x7d' :: after)
  named : body ≠ []
  first : '\x7d' ∉ body

/-- The variables of a text, read from left to right. -/
inductive Scan : List Char → List (List Char) → Prop where
  | done : Scan [] []
  | found {text body after bodies} (begins : Begins text body after)
      (later : Scan after bodies) : Scan text (body :: bodies)
  | pass {c rest bodies} (foreign : ∀ body after, ¬ Begins (c :: rest) body after)
      (later : Scan rest bodies) : Scan (c :: rest) bodies

/-- Up to the first closing brace is read what stands before it. -/
theorem untilBrace_append_cons {body : List Char} (first : '\x7d' ∉ body) (after : List Char) :
    untilBrace (body ++ '\x7d' :: after) = some (body, after) := by
  induction body with
  | nil => simp [untilBrace]
  | cons c body ih =>
      simp only [List.mem_cons, not_or] at first
      simp [untilBrace, Ne.symm first.1, ih first.2]

/-- What is read up to a closing brace holds none. -/
theorem not_mem_of_untilBrace {text body after : List Char}
    (found : untilBrace text = some (body, after)) : '\x7d' ∉ body := by
  induction text generalizing body with
  | nil => simp [untilBrace] at found
  | cons c text ih =>
      simp only [untilBrace] at found
      split at found
      · cases found
        simp
      · rename_i differs
        simp only [Option.map_eq_some_iff, Prod.mk.injEq] at found
        obtain ⟨⟨inner, outer⟩, later, rfl, rfl⟩ := found
        simp [Ne.symm differs, ih later]

/-- A variable that is opened and closed, and not empty, begins the text. -/
theorem begins_of_untilBrace {c : Char} {behind body after : List Char}
    (found : untilBrace behind = some (c :: body, after)) :
    Begins ('$' :: '\x7b' :: behind) (c :: body) after :=
  ⟨by rw [eq_append_of_untilBrace found]; rfl, by simp, not_mem_of_untilBrace found⟩

/-- A variable that begins a text is read first. -/
theorem bodies_of_begins {text body after : List Char} (begins : Begins text body after) :
    bodies text = body :: bodies after := by
  obtain ⟨rfl, named, first⟩ := begins
  obtain ⟨c, body, rfl⟩ := List.exists_cons_of_ne_nil named
  have found := untilBrace_append_cons first after
  simp only [opener, List.cons_append, List.nil_append] at found ⊢
  rw [bodies]
  split
  · rename_i same
    rw [found] at same
    cases same
    rfl
  · rename_i other
    exact absurd found (other c body after)

/-- A character that begins no variable is passed over. -/
theorem bodies_of_foreign {c : Char} {rest : List Char}
    (foreign : ∀ body after, ¬ Begins (c :: rest) body after) :
    bodies (c :: rest) = bodies rest := by
  rw [bodies.eq_def]
  split
  · rename_i behind same
    split
    · rename_i found
      exact absurd (same ▸ begins_of_untilBrace found) (foreign _ _)
    · rw [(List.cons.inj same).2]
  · rename_i same
    rw [(List.cons.inj same).2]
  · rename_i same
    cases same

/-- Reading does what `Scan` says. -/
theorem scan_bodies (text : List Char) : Scan text (bodies text) := by
  induction text using bodies.induct with
  | case1 rest c body after found ih =>
      rw [bodies_of_begins (begins_of_untilBrace found)]
      exact .found (begins_of_untilBrace found) ih
  | case2 rest closed ih =>
      have foreign (body after : List Char) : ¬ Begins ('$' :: '\x7b' :: rest) body after := by
        rintro ⟨split, named, first⟩
        obtain ⟨c, body, rfl⟩ := List.exists_cons_of_ne_nil named
        simp only [opener, List.cons_append, List.nil_append, List.cons.injEq, true_and] at split
        exact closed c body after (split ▸ untilBrace_append_cons first after)
      rw [bodies_of_foreign foreign]
      exact .pass foreign ih
  | case3 c rest other ih =>
      have foreign (body after : List Char) : ¬ Begins (c :: rest) body after := by
        rintro ⟨split, -, -⟩
        simp only [opener, List.cons_append, List.nil_append, List.cons.injEq] at split
        exact other _ split.1 split.2
      rw [bodies_of_foreign foreign]
      exact .pass foreign ih
  | case4 =>
      rw [bodies]
      exact .done

/-- Every opener in a text is followed by a closing brace. -/
def Closed (text : List Char) : Prop :=
  ∀ tail, opener ++ tail <:+ text → '\x7d' ∈ tail

/-- The end of a closed text is closed. -/
theorem Closed.suffix {text tail : List Char} (closed : Closed text) (inside : tail <:+ text) :
    Closed tail :=
  fun _ found => closed _ (found.trans inside)

/-- The empty text is closed. -/
theorem Closed.nil : Closed [] := fun _ found => by
  simpa [opener] using List.suffix_nil.1 found

/-- A text without openers has none to close. -/
theorem closed_of_no_opener {text : List Char} (plain : ¬ opener <:+: text) : Closed text :=
  fun _ found => absurd (List.infix_append_left.trans found.isInfix) plain

/-- A variable that begins a text of closed openers with another text behind it ends in the first
text, unless the two make an opener where they meet. -/
theorem Closed.begins_of_append {c : Char} {rest right : List Char} (closed : Closed (c :: rest))
    (apart : (c :: rest).getLast? = some '$' → right.head? ≠ some '\x7b')
    {body after : List Char} (begins : Begins (c :: rest ++ right) body after) :
    ∃ behind, Begins (c :: rest) body behind ∧ after = behind ++ right := by
  obtain ⟨split, named, first⟩ := begins
  simp only [opener, List.cons_append, List.nil_append, List.cons.injEq] at split
  obtain ⟨rfl, split⟩ := split
  cases rest with
  | nil => exact absurd (by simp at split; simp [split]) (apart rfl)
  | cons d tail =>
      simp only [List.cons_append, List.cons.injEq] at split
      obtain ⟨rfl, split⟩ := split
      obtain ⟨front, back, rfl, plain⟩ := List.eq_append_cons_of_mem (closed tail List.suffix_rfl)
      -- The first closing brace is in the text, so the variable is as well.
      have same : untilBrace (body ++ '\x7d' :: after) = some (front, back ++ right) := by
        rw [← split, List.append_assoc, List.cons_append, untilBrace_append_cons plain]
      rw [untilBrace_append_cons first] at same
      cases same
      exact ⟨back, ⟨rfl, named, first⟩, rfl⟩

/-- A text whose openers are closed is read apart from what follows, unless the two make an opener
where they meet. -/
theorem bodies_append {left right : List Char} (closed : Closed left)
    (apart : left.getLast? = some '$' → right.head? ≠ some '\x7b') :
    bodies (left ++ right) = bodies left ++ bodies right := by
  have scan := scan_bodies left
  generalize bodies left = names at scan
  induction scan with
  | done => simp
  | @found text body after names begins later ih =>
      have inside : after <:+ text := ⟨opener ++ body ++ ['\x7d'], by simp [begins.split]⟩
      have whole : Begins (text ++ right) body (after ++ right) :=
        ⟨by simp [begins.split], begins.named, begins.first⟩
      have apartLater : after.getLast? = some '$' → right.head? ≠ some '\x7b' := by
        intro ends
        obtain ⟨front, rfl⟩ := inside
        exact apart (by simp [ends])
      rw [bodies_of_begins whole, ih (closed.suffix inside) apartLater, List.cons_append]
  | @pass c rest names foreign later ih =>
      have apartLater : rest.getLast? = some '$' → right.head? ≠ some '\x7b' := by
        intro ends
        exact apart (by simp [List.getLast?_cons, ends])
      have passed : bodies (c :: (rest ++ right)) = bodies (rest ++ right) := by
        refine bodies_of_foreign fun body after begins => ?_
        obtain ⟨behind, inside, _⟩ := closed.begins_of_append apart begins
        exact foreign body behind inside
      rw [List.cons_append, passed, ih (closed.suffix (List.suffix_cons c rest)) apartLater]

/-- No variable of a text holds an opener. -/
def Flat (text : List Char) : Prop := ∀ body ∈ bodies text, ¬ opener <:+: body

/-- The first opener that is not closed has closed ones only in front. -/
theorem exists_unclosed {text : List Char} (unclosed : ¬ Closed text) :
    ∃ front tail, text = front ++ (opener ++ tail) ∧ '\x7d' ∉ tail ∧ Closed front := by
  induction text with
  | nil => exact absurd Closed.nil unclosed
  | cons c text ih =>
      simp only [Closed, not_forall] at unclosed
      obtain ⟨tail, found, missing⟩ := unclosed
      rcases List.suffix_cons_iff.1 found with whole | later
      · exact ⟨[], tail, whole.symm, missing, Closed.nil⟩
      · obtain ⟨front, tail, rfl, missing, closed⟩ := ih fun closed => missing (closed tail later)
        by_cases longer : Closed (c :: front)
        · exact ⟨c :: front, tail, rfl, missing, longer⟩
        · -- The new character opens a variable that the front does not close either.
          simp only [Closed, not_forall] at longer
          obtain ⟨inner, begins, open_⟩ := longer
          rcases List.suffix_cons_iff.1 begins with whole | later
          · refine ⟨[], inner ++ (opener ++ tail), ?_, ?_, Closed.nil⟩
            · rw [← List.cons_append, ← whole]
              simp
            · simp [opener, open_, missing]
          · exact absurd (closed inner later) open_

/-- What stands in front of a token has its openers closed, where no variable holds an opener. -/
theorem Flat.closed {left rest : List Char} (flat : Flat (left ++ (opener ++ rest)))
    (ends : '\x7d' ∈ rest) : Closed left := by
  by_contra unclosed
  obtain ⟨front, tail, rfl, missing, closed⟩ := exists_unclosed unclosed
  obtain ⟨body, after, rfl, first⟩ := List.eq_append_cons_of_mem ends
  -- The first opener that is not closed reaches over the one behind `left`.
  have begins : Begins (opener ++ (tail ++ (opener ++ (body ++ '\x7d' :: after))))
      (tail ++ (opener ++ body)) after :=
    ⟨by simp, by simp [opener], by simp [opener, missing, first]⟩
  have read : bodies (front ++ (opener ++ tail) ++ (opener ++ (body ++ '\x7d' :: after))) =
      bodies front ++ (tail ++ (opener ++ body)) :: bodies after := by
    rw [List.append_assoc, List.append_assoc, bodies_append closed (by simp [opener]),
      bodies_of_begins begins]
  refine flat (tail ++ (opener ++ body)) (by rw [read]; simp) ?_
  exact List.infix_append_of_infix_right List.infix_append_left

/-- A body is what stands between an opener and the next closing brace. -/
theorem infix_of_mem_bodies {text body : List Char} (member : body ∈ bodies text) :
    opener ++ (body ++ ['\x7d']) <:+: text := by
  have scan := scan_bodies text
  generalize bodies text = names at member scan
  induction scan with
  | done => cases member
  | @found text first after names begins later ih =>
      rw [begins.split]
      rcases List.mem_cons.1 member with rfl | member
      · exact ⟨[], after, by simp⟩
      · exact (ih member).trans ⟨opener ++ first ++ ['\x7d'], [], by simp⟩
  | pass foreign later ih => exact (ih member).trans (List.suffix_cons _ _).isInfix

/-- A text in which no variable opens has none. -/
theorem bodies_eq_nil_of_no_opener {text : List Char} (plain : ¬ opener <:+: text) :
    bodies text = [] := by
  refine List.eq_nil_iff_forall_not_mem.2 fun body member => plain ?_
  exact List.infix_append_left.trans (infix_of_mem_bodies member)

/-! ### Binding one variable -/

/-- A variable is an opener, a name and a closing brace. -/
theorem token_eq (name : String) : token name = opener ++ (name.toList ++ ['\x7d']) := rfl

/-- A variable is closed. -/
theorem closed_token (name : String) : Closed (token name) := by
  rintro tail ⟨front, split⟩
  have ends : (front ++ (opener ++ tail)).getLast? = some '\x7d' := by
    simp [split, token_eq]
  cases last : tail.getLast? with
  | none =>
      rw [List.getLast?_eq_none_iff.1 last] at ends
      simp [opener] at ends
  | some c =>
      obtain rfl : c = '\x7d' := by simpa [last] using ends
      exact List.mem_of_getLast? last

/-- An opener behind a `$`. -/
def doubled : List Char := '$' :: opener

/-- A dollar sign before a variable makes a doubled one. -/
theorem doubled_of_getLast {front rest : List Char} (ends : front.getLast? = some '$') :
    doubled <:+: front ++ (opener ++ rest) := by
  obtain ⟨front, rfl⟩ := List.getLast?_eq_some_iff.1 ends
  exact ⟨front, rest, by simp [doubled]⟩

/-- A value makes no opener where it is put in a text: it holds none and does not end in `$`; and
where a `$` can stand before it, it begins with a character other than `{`. -/
structure Fits (value text : List Char) : Prop where
  plain : ¬ opener <:+: value
  ended : value.getLast? ≠ some '$'
  solid : doubled <:+: text → ∃ c rest, value = c :: rest ∧ c ≠ '\x7b'

/-- A value that fits a text fits its parts. -/
theorem Fits.part {value text part : List Char} (fits : Fits value text)
    (inside : part <:+: text) : Fits value part :=
  ⟨fits.plain, fits.ended, fun found => fits.solid (found.trans inside)⟩

/-- What stands before a variable in a flat text is closed. -/
theorem Flat.closed_of_token {before after : List Char} {name : String}
    (flat : Flat (before ++ (token name ++ after))) : Closed before := by
  rw [token_eq, List.append_assoc] at flat
  exact flat.closed (by simp)

/-- A value that fits makes no opener with the text in front of the token that it replaces. -/
theorem Fits.apart {value before after : List Char} {name : String}
    (fits : Fits value (before ++ (token name ++ after))) (right : List Char)
    (ends : before.getLast? = some '$') : (value ++ right).head? ≠ some '\x7b' := by
  rw [token_eq, List.append_assoc] at fits
  obtain ⟨c, rest, rfl, differs⟩ := fits.solid (doubled_of_getLast ends)
  simpa using differs

/-- A token is read apart from the text around it. -/
theorem Flat.bodies_token {before after : List Char} {name : String}
    (flat : Flat (before ++ (token name ++ after))) :
    bodies (before ++ (token name ++ after)) =
      bodies before ++ (bodies (token name) ++ bodies after) := by
  rw [bodies_append flat.closed_of_token (by simp [token_eq, opener]),
    bodies_append (closed_token _) (by simp [token_eq])]

/-- A value that fits is read apart from the text around it, and as a text without variables. -/
theorem Flat.bodies_value {before after value right : List Char} {name : String}
    (flat : Flat (before ++ (token name ++ after)))
    (fits : Fits value (before ++ (token name ++ after))) :
    bodies (before ++ (value ++ right)) = bodies before ++ bodies right := by
  rw [bodies_append flat.closed_of_token (fits.apart right),
    bodies_append (closed_of_no_opener fits.plain) fun ends => absurd ends fits.ended,
    bodies_eq_nil_of_no_opener fits.plain, List.nil_append]

/-- What stands behind a variable in a flat text is flat. -/
theorem Flat.behind_token {before after : List Char} {name : String}
    (flat : Flat (before ++ (token name ++ after))) : Flat after :=
  fun body member => flat body (by simp [flat.bodies_token, member])

/-- A value that fits a text fits what stands behind a variable in it. -/
theorem Fits.behind_token {value before after : List Char} {name : String}
    (fits : Fits value (before ++ (token name ++ after))) : Fits value after :=
  fits.part ⟨before ++ token name, [], by simp⟩

/-- A text and what becomes of it, token by token. -/
inductive Bound (binding : String × String) : List Char → List Char → Prop where
  | unused {text} (absent : ¬ token binding.1 <:+: text) : Bound binding text text
  | replaced {before after result} (absent : ¬ token binding.1 <:+: before)
      (later : Bound binding after result) :
      Bound binding (before ++ (token binding.1 ++ after))
        (before ++ (binding.2.toList ++ result))

/-- Binding does what `Bound` says. -/
theorem bound_bind (binding : String × String) (text : List Char) :
    Bound binding text (bind text binding) := by
  have nonempty : token binding.1 ≠ [] := by simp [token]
  induction text using Text.replaceAll.induct (token binding.1) with
  | case1 text _ missing =>
      rw [bind, Text.replaceAll_of_cutAt_none missing]
      refine .unused fun found => ?_
      rw [← Text.contains_iff_infix, Text.contains, missing] at found
      cases found
  | case2 text _ before after cut ih =>
      rw [bind, Text.replaceAll_of_cutAt nonempty cut, Text.eq_append_of_cutAt cut,
        List.append_assoc]
      exact .replaced (Text.not_infix_of_cutAt nonempty cut) ih
  | case3 text empty => exact absurd nonempty empty

/-- A last character other than a dollar sign is none of those before the brace. -/
theorem not_mem_dropLast_doubled {text : List Char} (ends : text.getLast? ≠ some '$') (c : Char)
    (last : text.getLast? = some c) : c ∉ doubled.dropLast := by
  intro member
  obtain rfl : c = '$' := by simpa [doubled, opener] using member
  exact ends last

section

variable {binding : String × String} {text result : List Char}

/-- A binding makes no opener behind a `$`. -/
theorem Bound.doubled_of_result (bound : Bound binding text result)
    (fits : Fits binding.2.toList text) (found : doubled <:+: result) : doubled <:+: text := by
  induction bound with
  | unused => exact found
  | @replaced before after result absent later ih =>
      have rest : after <:+: before ++ (token binding.1 ++ after) :=
        ⟨before ++ token binding.1, [], by simp⟩
      by_cases ends : before.getLast? = some '$'
      · rw [token_eq, List.append_assoc]
        exact doubled_of_getLast ends
      · rcases (Text.infix_append_iff_of_getLast (not_mem_dropLast_doubled ends)).1 found with
          inFront | found
        · exact inFront.trans List.infix_append_left
        · rcases (Text.infix_append_iff_of_getLast (not_mem_dropLast_doubled fits.ended)).1 found
            with inside | beyond
          · exact absurd ((List.suffix_cons '$' opener).isInfix.trans inside) fits.plain
          · exact (ih (fits.part rest) beyond).trans rest

/-- What a text without a token reads is not the body of that token. -/
theorem filter_bodies_of_absent {name : String} (absent : ¬ token name <:+: text) :
    (bodies text).filter (· ≠ name.toList) = bodies text := by
  refine List.filter_eq_self.2 fun body member => ?_
  rw [decide_eq_true_iff]
  rintro rfl
  exact absent (infix_of_mem_bodies member)

/-- Binding a variable takes its body away and brings none in. -/
theorem Bound.bodies_sublist (bound : Bound binding text result) (flat : Flat text)
    (fits : Fits binding.2.toList text) :
    (bodies result).Sublist ((bodies text).filter (· ≠ binding.1.toList)) := by
  induction bound with
  | unused absent => rw [filter_bodies_of_absent absent]
  | replaced absent later ih =>
      rw [flat.bodies_value fits, flat.bodies_token, List.filter_append, List.filter_append,
        filter_bodies_of_absent absent]
      exact (List.Sublist.refl _).append
        ((ih flat.behind_token fits.behind_token).trans (List.sublist_append_right _ _))

/-- A flat text stays flat where a fitting value is put in. -/
theorem Bound.flat (bound : Bound binding text result) (flat : Flat text)
    (fits : Fits binding.2.toList text) : Flat result :=
  fun body member => flat body (List.mem_of_mem_filter
    ((bound.bodies_sublist flat fits).subset member))

end

/-! ### Binding one variable after the other -/

/-- The bodies after binding are old ones of variables that were not bound. -/
theorem mem_bodies_of_foldl_bind {bindings : List (String × String)} {text body : List Char}
    (flat : Flat text) (fits : ∀ binding ∈ bindings, Fits binding.2.toList text)
    (member : body ∈ bodies (bindings.foldl bind text)) :
    body ∈ bodies text ∧ ∀ binding ∈ bindings, body ≠ binding.1.toList := by
  induction bindings generalizing text with
  | nil => exact ⟨member, by simp⟩
  | cons binding rest ih =>
      have here := fits binding List.mem_cons_self
      have bound := bound_bind binding text
      have step := bound.bodies_sublist flat here
      have fitsNext : ∀ later ∈ rest, Fits later.2.toList (bind text binding) := by
        intro later listed
        obtain ⟨plain, ended, solid⟩ := fits later (List.mem_cons_of_mem _ listed)
        exact ⟨plain, ended, fun found => solid (bound.doubled_of_result here found)⟩
      obtain ⟨inside, others⟩ := ih (bound.flat flat here) fitsNext member
      obtain ⟨old, differs⟩ := List.mem_filter.1 (step.subset inside)
      refine ⟨old, fun other listed => ?_⟩
      rcases List.mem_cons.1 listed with rfl | listed
      · exact of_decide_eq_true differs
      · exact others other listed

/-- The variables of a template are those whose names are read in it. -/
theorem mem_variableNames {template name : String} :
    name ∈ variableNames template ↔ name.toList ∈ bodies template.toList := by
  rw [variableNames, mem_sortedDistinct, List.mem_map]
  constructor
  · rintro ⟨body, member, rfl⟩
    simpa using member
  · intro member
    exact ⟨name.toList, member, String.ofList_toList⟩

/-- A template all of whose variables have bindings has no variables after rendering, where none
of them holds an opener and the values fit. -/
theorem variableNames_render_eq_nil {template : String} {bindings : Table String String}
    (bound : unbound template bindings = []) (flat : Flat template.toList)
    (fits : ∀ binding ∈ bindings.entries, Fits binding.2.toList template.toList) :
    variableNames (render template bindings.entries) = [] := by
  refine List.eq_nil_iff_forall_not_mem.2 fun name member => ?_
  rw [mem_variableNames, render, String.toList_ofList] at member
  obtain ⟨old, others⟩ := mem_bodies_of_foldl_bind flat fits member
  have known : bindings.contains name = true := by
    simpa using List.filter_eq_nil_iff.1 bound name (mem_variableNames.2 old)
  obtain ⟨value, found⟩ := Table.contains_eq_true_iff.1 known
  exact others (name, value) (Table.get?_eq_some_iff.1 found) rfl

end Runbook.AlarmTemplate
