import Runbook.Json.Reader
import Runbook.Table

/-!
# Objects list each key once

Of repeated keys the reader keeps the last, so that in every value that it reads an object lists
each of its keys once, at every depth (`keysOnce_of_parse?`). The invariant is carried along both
machines: scalar tokens hold no object, and the containers under way hold sound values only.
-/

namespace Runbook

/-- What every step of a fold keeps, the fold keeps. -/
theorem foldlM_keeps {σ α : Type} {step : σ → α → Option σ} (Kept : σ → Prop)
    {inputs : List α}
    (each : ∀ before, ∀ input ∈ inputs, ∀ after, step before input = some after →
      Kept before → Kept after)
    {start last : σ} (folded : inputs.foldlM step start = some last) (kept : Kept start) :
    Kept last := by
  induction inputs generalizing start with
  | nil =>
      cases folded
      exact kept
  | cons input rest ih =>
      rw [List.foldlM_cons, Option.bind_eq_bind, Option.bind_eq_some_iff] at folded
      obtain ⟨next, stepped, folded⟩ := folded
      exact ih (fun before other member => each before other (List.mem_cons_of_mem _ member)) folded
        (each start input List.mem_cons_self next stepped kept)

namespace Json

/-- Every object in the value lists each of its keys once. -/
inductive KeysOnce : Json → Prop
  | null : KeysOnce .null
  | bool (value : Bool) : KeysOnce (.bool value)
  | number (value : Number) : KeysOnce (.number value)
  | string (text : String) : KeysOnce (.string text)
  | array {items : List Json} (each : ∀ item ∈ items, KeysOnce item) : KeysOnce (.array items)
  | object {members : List (String × Json)} (once : (members.map Prod.fst).Nodup)
      (each : ∀ member ∈ members, KeysOnce member.2) : KeysOnce (.object members)

/-- An object in which keys stand once has no key twice. -/
theorem KeysOnce.nodup {members : List (String × Json)} (once : KeysOnce (.object members)) :
    (members.map Prod.fst).Nodup := by
  cases once
  assumption

/-! ### Members in order -/

/-- Members are kept as the entries of a table are. -/
theorem insertMember_eq (key : String) (value : Json) (members : List (String × Json)) :
    insertMember key value members = insertEntry key value members := by
  induction members with
  | nil => rfl
  | cons head rest ih =>
      simp only [insertMember, insertEntry]
      split
      · rfl
      · rename_i notBefore
        by_cases same : key = head.1
        · subst same
          simp [Ordered.irrefl]
        · have before : Ordered.before head.1 key = true := by
            rw [← Bool.not_eq_false]
            exact fun notAfter => same (Ordered.total (by simpa using notBefore) notAfter)
          rw [if_neg same, if_pos before, ih]

/-- Members that keep the rule make an object that does, whatever keys were read twice. -/
theorem keysOnce_ofMembers {members : List (String × Json)}
    (each : ∀ member ∈ members, KeysOnce member.2) : KeysOnce (ofMembers members) := by
  have sorted : ∀ (members done : List (String × Json)), Ascending done →
      (∀ member ∈ done, KeysOnce member.2) → (∀ member ∈ members, KeysOnce member.2) →
      KeysOnce (.object (members.foldl
        (fun sorted member => insertMember member.1 member.2 sorted) done)) := by
    intro members
    induction members with
    | nil =>
        intro done ascending inside _
        refine .object (List.pairwise_map.2 (ascending.imp fun {a b} before same => ?_)) inside
        simp [same, Ordered.irrefl] at before
    | cons head rest ih =>
        intro done ascending inside each
        rw [List.foldl_cons, insertMember_eq]
        refine ih _ (ascending.insertEntry _ _) (fun member found => ?_)
          fun member later => each member (List.mem_cons_of_mem _ later)
        rcases mem_insertEntry found with rfl | old
        · exact each head List.mem_cons_self
        · exact inside member old
  exact sorted members [] List.Pairwise.nil (by simp) each

/-! ### Tokens -/

/-- A scalar token holds a sound value. -/
def Token.Sound : Token → Prop
  | .scalar value => KeysOnce value
  | _ => True

/-- The value of a word has no keys. -/
theorem keysOnce_of_ofWord? {word : List Char} {value : Json} (read : ofWord? word = some value) :
    KeysOnce value := by
  simp only [ofWord?] at read
  split at read
  · cases read
    exact .null
  · split at read
    · cases read
      exact .bool true
    · split at read
      · cases read
        exact .bool false
      · obtain ⟨number, _, rfl⟩ := Option.map_eq_some_iff.1 read
        exact .number number

/-- The tokens of a lexer are sound. -/
def Lexer.Sound (lexer : Lexer) : Prop := ∀ token ∈ lexer.tokens, token.Sound

/-- A mark carries no value. -/
theorem structural?_sound {c : Char} {token : Token} (mark : structural? c = some token) :
    token.Sound := by
  unfold structural? at mark
  split at mark <;> cases mark <;> trivial

/-- Beginning a token keeps those before it sound. -/
theorem Lexer.sound_enter {tokens : List Token} (sound : ∀ token ∈ tokens, token.Sound)
    (c : Char) : (Lexer.enter tokens c).Sound := by
  rw [Lexer.enter]
  split
  · rename_i token mark
    exact List.forall_mem_cons.2 ⟨structural?_sound mark, sound⟩
  · split
    · exact sound
    · split <;> exact sound

/-- A step ends a word, ends a text, or leaves the tokens as they are. -/
theorem Lexer.Sound.step {lexer next : Lexer} (sound : lexer.Sound) {c : Char}
    (stepped : lexer.step c = some next) : next.Sound := by
  have kept : ∀ {state : Lexing}, some { lexer with state } = some next → next.Sound := by
    intro state same
    cases same
    exact sound
  cases state : lexer.state with
  | between =>
      simp only [Lexer.step, state] at stepped
      cases stepped
      exact sound_enter sound c
  | word chars =>
      simp only [Lexer.step, state] at stepped
      split at stepped
      · obtain ⟨value, read, entered⟩ := Option.bind_eq_some_iff.1 stepped
        cases entered
        have scalar : (Token.scalar value).Sound := keysOnce_of_ofWord? read
        exact sound_enter (List.forall_mem_cons.2 ⟨scalar, sound⟩) c
      · exact kept stepped
  | quoted chars =>
      simp only [Lexer.step, state] at stepped
      split at stepped
      · cases stepped
        exact List.forall_mem_cons.2 ⟨trivial, sound⟩
      · split at stepped
        · exact kept stepped
        · split at stepped
          · cases stepped
          · exact kept stepped
  | escape chars =>
      simp only [Lexer.step, state] at stepped
      split at stepped
      · exact kept stepped
      · obtain ⟨_, _, same⟩ := Option.map_eq_some_iff.1 stepped
        exact kept (congrArg some same)
  | hex chars count value =>
      simp only [Lexer.step, state] at stepped
      obtain ⟨digit, _, stepped⟩ := Option.bind_eq_some_iff.1 stepped
      split at stepped
      · exact kept stepped
      · split at stepped
        · exact kept stepped
        · split at stepped
          · cases stepped
          · exact kept stepped
  | lowMark chars high =>
      simp only [Lexer.step, state] at stepped
      split at stepped
      · exact kept stepped
      · cases stepped
  | lowEscape chars high =>
      simp only [Lexer.step, state] at stepped
      split at stepped
      · exact kept stepped
      · cases stepped
  | lowHex chars high count value =>
      simp only [Lexer.step, state] at stepped
      obtain ⟨digit, _, stepped⟩ := Option.bind_eq_some_iff.1 stepped
      split at stepped
      · exact kept stepped
      · split at stepped
        · exact kept stepped
        · cases stepped

/-- The tokens of a text are sound. -/
theorem sound_tokens? {text : List Char} {tokens : List Token} (read : tokens? text = some tokens) :
    ∀ token ∈ tokens, token.Sound := by
  obtain ⟨lexer, folded, finished⟩ := Option.bind_eq_some_iff.1 read
  have sound : lexer.Sound :=
    foldlM_keeps Lexer.Sound (fun _ _ _ _ stepped sound => sound.step stepped) folded (by nofun)
  split at finished
  · cases finished
    exact fun token member => sound token (List.mem_reverse.1 member)
  · obtain ⟨value, word, same⟩ := Option.bind_eq_some_iff.1 finished
    cases same
    have scalar : (Token.scalar value).Sound := keysOnce_of_ofWord? word
    have all := List.forall_mem_cons.2 ⟨scalar, sound⟩
    exact fun token member => all token (List.mem_reverse.1 member)
  · cases finished

/-! ### Values -/

/-- What an open container holds so far is sound. -/
def Frame.Sound : Frame → Prop
  | .items done => ∀ item ∈ done, KeysOnce item
  | .members done => ∀ member ∈ done, KeysOnce member.2
  | .member done _ => ∀ member ∈ done, KeysOnce member.2

/-- The open containers and the finished value of a builder are sound. -/
structure Builder.Sound (builder : Builder) : Prop where
  frames : ∀ frame ∈ builder.frames, frame.Sound
  finished : ∀ value, builder.expected = .finished value → KeysOnce value

namespace Builder

/-- A value that keeps the rule may be put into the innermost frame. -/
theorem sound_put {frames : List Frame} (sound : ∀ frame ∈ frames, frame.Sound) {value : Json}
    (once : KeysOnce value) {next : Builder} (put : Builder.put frames value = some next) :
    next.Sound := by
  unfold Builder.put at put
  split at put
  · cases put
    refine ⟨by simp, ?_⟩
    rintro _ ⟨⟩
    exact once
  · cases put
    obtain ⟨inner, outer⟩ := List.forall_mem_cons.1 sound
    exact ⟨List.forall_mem_cons.2 ⟨List.forall_mem_cons.2 ⟨once, inner⟩, outer⟩, nofun⟩
  · cases put
    obtain ⟨inner, outer⟩ := List.forall_mem_cons.1 sound
    exact ⟨List.forall_mem_cons.2 ⟨List.forall_mem_cons.2 ⟨once, inner⟩, outer⟩, nofun⟩
  · cases put

/-- A value may begin with any sound token. -/
theorem sound_begin {maxDepth : Nat} {frames : List Frame}
    (sound : ∀ frame ∈ frames, frame.Sound) {token : Token} (scalar : token.Sound) {next : Builder}
    (begun : Builder.begin maxDepth frames token = some next) : next.Sound := by
  unfold Builder.begin at begun
  split at begun
  · split at begun <;> cases begun
    exact ⟨List.forall_mem_cons.2 ⟨nofun, sound⟩, nofun⟩
  · split at begun <;> cases begun
    exact ⟨List.forall_mem_cons.2 ⟨nofun, sound⟩, nofun⟩
  · exact sound_put sound (.string _) begun
  · exact sound_put sound scalar begun
  · cases begun

/-- Closing a frame puts a value that keeps the rule into the next. -/
theorem sound_close {frames : List Frame} (sound : ∀ frame ∈ frames, frame.Sound) {token : Token}
    {next : Builder} (closed : Builder.close frames token = some next) : next.Sound := by
  unfold Builder.close at closed
  split at closed
  · split at closed
    · obtain ⟨inner, outer⟩ := List.forall_mem_cons.1 sound
      refine sound_put outer (.array fun item member => ?_) closed
      exact inner item (List.mem_reverse.1 member)
    · cases closed
  · split at closed
    · obtain ⟨inner, outer⟩ := List.forall_mem_cons.1 sound
      refine sound_put outer (keysOnce_ofMembers fun member found => ?_) closed
      exact inner member (List.mem_reverse.1 found)
    · cases closed
  · cases closed

/-- Naming a member adds no value. -/
theorem sound_name {frames : List Frame} (sound : ∀ frame ∈ frames, frame.Sound) {token : Token}
    {next : Builder} (named : Builder.name frames token = some next) : next.Sound := by
  unfold Builder.name at named
  split at named
  · split at named <;> cases named
    obtain ⟨inner, outer⟩ := List.forall_mem_cons.1 sound
    exact ⟨List.forall_mem_cons.2 ⟨inner, outer⟩, nofun⟩
  · cases named

/-- Each step of the builder keeps its frames sound. -/
theorem Sound.step {builder next : Builder} (sound : builder.Sound) {maxDepth : Nat}
    {token : Token} (scalar : token.Sound) (stepped : builder.step maxDepth token = some next) :
    next.Sound := by
  unfold Builder.step at stepped
  split at stepped
  · exact sound_begin sound.frames scalar stepped
  · rcases Option.or_eq_some_iff.1 stepped with closed | ⟨_, begun⟩
    · exact sound_close sound.frames closed
    · exact sound_begin sound.frames scalar begun
  · rcases Option.or_eq_some_iff.1 stepped with closed | ⟨_, named⟩
    · exact sound_close sound.frames closed
    · exact sound_name sound.frames named
  · exact sound_name sound.frames stepped
  · split at stepped <;> cases stepped
    exact ⟨sound.frames, nofun⟩
  · dsimp only at stepped
    split at stepped
    · cases stepped
      exact ⟨sound.frames, nofun⟩
    · cases stepped
      exact ⟨sound.frames, nofun⟩
    · exact sound_close sound.frames stepped
  · cases stepped

end Builder

/-- In a value that is read every object lists each of its keys once. -/
theorem keysOnce_of_parse? {text : String} {value : Json} (read : parse? text = some value) :
    KeysOnce value := by
  obtain ⟨tokens, tokenized, rest⟩ := Option.bind_eq_some_iff.1 read
  obtain ⟨builder, folded, finished⟩ := Option.bind_eq_some_iff.1 rest
  have start : (Builder.mk [] .value).Sound := ⟨nofun, nofun⟩
  have sound : builder.Sound :=
    foldlM_keeps Builder.Sound
      (fun _ token member _ stepped sound =>
        sound.step (sound_tokens? tokenized token member) stepped)
      folded start
  split at finished
  · rename_i done expected
    cases finished
    exact sound.finished _ expected
  · cases finished

end Json

end Runbook
