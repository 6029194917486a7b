import Runbook.Yaml.Token

/-!
# Nodes of a YAML document

The tree that the tokens of one document spell: scalars still as text, tags written out, and
an alias as the number of an anchor. A name's anchors are numbered by how many names there were
when the anchor came, so a name given again shares its number with the next new name; the last
node under a number is the one its aliases stand for.
-/

namespace Runbook.Yaml

/-- A node. -/
inductive Node where
  | reference (number : Nat)
  | scalar (tag : Option String) (text : String) (style : ScalarStyle)
  | sequence (tag : Option String) (items : List Node)
  | mapping (tag : Option String) (entries : List (Node × Node))
deriving Inhabited

/-- The node that stands where nothing is written. -/
def Node.empty : Node := .scalar none "" .plain

mutual

/-- How many marks and scalars spell a node. -/
def Node.size : Node → Nat
  | .reference _ => 1
  | .scalar _ _ _ => 1
  | .sequence _ items => 2 + sizeItems items
  | .mapping _ entries => 2 + sizeEntries entries

/-- The sizes of items, added up. -/
def sizeItems : List Node → Nat
  | [] => 0
  | item :: items => item.size + sizeItems items

/-- The sizes of entries, added up. -/
def sizeEntries : List (Node × Node) → Nat
  | [] => 0
  | (key, value) :: entries => key.size + value.size + sizeEntries entries

end

/-- The anchors met so far: numbers of names, the place each number was last given to, and the
nodes at such places. -/
structure Anchors where
  numbers : List (String × Nat)
  places : List (Nat × Nat)
  nodes : List (Nat × Node)
  next : Nat

namespace Anchors

/-- No anchors. -/
def none : Anchors := ⟨[], [], [], 0⟩

/-- The anchor `name` begins; its place is returned too. -/
def declare (anchors : Anchors) (name : String) : Nat × Anchors :=
  let number := anchors.numbers.length
  let place := anchors.next
  (place,
    { anchors with
      numbers := (name, number) :: anchors.numbers.filter fun entry => entry.1 ≠ name
      places := (number, place) :: anchors.places.filter fun entry => entry.1 ≠ number
      next := place + 1 })

/-- The node at a place is complete. -/
def record (anchors : Anchors) (place : Option Nat) (node : Node) : Anchors :=
  match place with
  | some place => { anchors with nodes := (place, node) :: anchors.nodes }
  | Option.none => anchors

/-- The node that the aliases of a number stand for. -/
def node? (anchors : Anchors) (number : Nat) : Option Node :=
  (anchors.places.lookup number).bind fun place => anchors.nodes.lookup place

end Anchors

/-- The tag handles in force, with what each leads to. -/
abbrev Handles := List (String × String)

/-- The handles that every document has, which it may give another meaning. -/
def standardHandles : Handles := [("!", "!"), ("!!", "tag:yaml.org,2002:")]

/-- The tokens that are left, and the anchors so far. -/
structure Reading where
  tokens : List Token
  anchors : Anchors

/-- The properties before a node: its tag, and the place of its anchor. -/
structure Properties where
  tag : Option String
  place : Option Nat

/-- A tag written out. The lone mark on a scalar says nothing. -/
def resolveTag (handles : Handles) (handle suffix : String) : Option String :=
  if handle = "" then some suffix else (handles.lookup handle).map (· ++ suffix)

/-- Tag and anchor in either order, each at most once. -/
def takeProperties (handles : Handles) (reading : Reading) : Option (Properties × Reading) :=
  let declare (name : String) (tag : Option String) (rest : List Token) :=
    let (place, anchors) := reading.anchors.declare name
    (Properties.mk tag (some place), Reading.mk rest anchors)
  match reading.tokens with
  | .anchor name :: .tag handle suffix :: rest => do
      let tag ← resolveTag handles handle suffix
      return declare name (some tag) rest
  | .tag handle suffix :: .anchor name :: rest => do
      let tag ← resolveTag handles handle suffix
      return declare name (some tag) rest
  | .anchor name :: rest => some (declare name none rest)
  | .tag handle suffix :: rest => do
      let tag ← resolveTag handles handle suffix
      return (⟨some tag, none⟩, { reading with tokens := rest })
  | _ => some (⟨none, none⟩, reading)

/-- Does an entry of a block sequence end before this token? -/
def endsBlockItem : List Token → Bool
  | .blockEntry :: _ => true
  | .blockEnd :: _ => true
  | _ => false

/-- Does an item of a sequence without indentation end before this token? -/
def endsFlushItem : List Token → Bool
  | .blockEntry :: _ => true
  | .key :: _ => true
  | .value :: _ => true
  | .blockEnd :: _ => true
  | _ => false

/-- Does a key or value of a block mapping end before this token? -/
def endsBlockMember : List Token → Bool
  | .key :: _ => true
  | .value :: _ => true
  | .blockEnd :: _ => true
  | _ => false

/-- Does a key of a flow collection end before this token? -/
def endsFlowKey (close : Token) : List Token → Bool
  | .value :: _ => true
  | .flowEntry :: _ => true
  | token :: _ => token = close
  | [] => false

/-- Does a value of a flow collection end before this token? -/
def endsFlowValue (close : Token) : List Token → Bool
  | .flowEntry :: _ => true
  | token :: _ => token = close
  | [] => false

mutual

/-- One node. `block` admits block collections, `flush` a sequence whose hyphens are no deeper
than the key it belongs to. -/
def readNode (handles : Handles) (block flush : Bool) : Nat → Reading → Option (Node × Reading)
  | 0, _ => none
  | fuel + 1, reading =>
      match reading.tokens with
      | .reference name :: rest => do
          let number ← reading.anchors.numbers.lookup name
          return (.reference number, { reading with tokens := rest })
      | _ => do
          let (properties, reading) ← takeProperties handles reading
          let finish (node : Node) (reading : Reading) : Option (Node × Reading) :=
            some (node, { reading with anchors := reading.anchors.record properties.place node })
          let tag := properties.tag
          let into (rest : List Token) : Reading := { reading with tokens := rest }
          match reading.tokens with
          | .blockEntry :: _ =>
              if flush then do
                let (items, reading) ← readFlushItems handles fuel reading
                finish (.sequence tag items) reading
              else if tag.isSome || properties.place.isSome then
                finish (.scalar tag "" .plain) reading
              else none
          | .scalar text style :: rest =>
              let tag := if tag = some "!" then none else tag
              finish (.scalar tag text style) (into rest)
          | .flowSequenceStart :: rest => do
              let (items, reading) ← readFlowItems handles true fuel (into rest)
              finish (.sequence tag items) reading
          | .flowMappingStart :: rest => do
              let (entries, reading) ← readFlowEntries handles true fuel (into rest)
              finish (.mapping tag entries) reading
          | token :: rest =>
              if block && token = .blockSequenceStart then do
                let (items, reading) ← readBlockItems handles fuel (into rest)
                finish (.sequence tag items) reading
              else if block && token = .blockMappingStart then do
                let (entries, reading) ← readBlockEntries handles fuel (into rest)
                finish (.mapping tag entries) reading
              else if tag.isSome || properties.place.isSome then
                finish (.scalar tag "" .plain) reading
              else none
          | [] =>
              if tag.isSome || properties.place.isSome then
                finish (.scalar tag "" .plain) reading
              else none

/-- The items of a block sequence up to its end. -/
def readBlockItems (handles : Handles) : Nat → Reading → Option (List Node × Reading)
  | 0, _ => none
  | fuel + 1, reading =>
      match reading.tokens with
      | .blockEntry :: rest => do
          let reading := { reading with tokens := rest }
          let (item, reading) ←
            if endsBlockItem rest then some (Node.empty, reading)
            else readNode handles true false fuel reading
          let (items, reading) ← readBlockItems handles fuel reading
          return (item :: items, reading)
      | .blockEnd :: rest => some ([], { reading with tokens := rest })
      | _ => none

/-- The items of a sequence whose hyphens stand at the column of the mapping around it. -/
def readFlushItems (handles : Handles) : Nat → Reading → Option (List Node × Reading)
  | 0, _ => none
  | fuel + 1, reading =>
      match reading.tokens with
      | .blockEntry :: rest => do
          let reading := { reading with tokens := rest }
          let (item, reading) ←
            if endsFlushItem rest then some (Node.empty, reading)
            else readNode handles true false fuel reading
          let (items, reading) ← readFlushItems handles fuel reading
          return (item :: items, reading)
      | _ => some ([], reading)

/-- The entries of a block mapping up to its end. A value may lack its key. -/
def readBlockEntries (handles : Handles) : Nat → Reading → Option (List (Node × Node) × Reading)
  | 0, _ => none
  | fuel + 1, reading =>
      match reading.tokens with
      | .blockEnd :: rest => some ([], { reading with tokens := rest })
      | .key :: rest => do
          let reading := { reading with tokens := rest }
          let (key, reading) ←
            if endsBlockMember rest then some (Node.empty, reading)
            else readNode handles true true fuel reading
          let (value, reading) ← readBlockValue handles fuel reading
          let (entries, reading) ← readBlockEntries handles fuel reading
          return ((key, value) :: entries, reading)
      | _ => none

/-- The value after a key of a block mapping; it may be missing. -/
def readBlockValue (handles : Handles) : Nat → Reading → Option (Node × Reading)
  | 0, _ => none
  | fuel + 1, reading =>
      match reading.tokens with
      | .value :: rest =>
          let reading := { reading with tokens := rest }
          if endsBlockMember rest then some (Node.empty, reading)
          else readNode handles true true fuel reading
      | _ => some (Node.empty, reading)

/-- The items of a flow sequence up to its end. A key makes an item a mapping of one entry. -/
def readFlowItems (handles : Handles) (first : Bool) : Nat → Reading → Option (List Node × Reading)
  | 0, _ => none
  | fuel + 1, reading =>
      let finished (rest : List Token) := some ([], { reading with tokens := rest })
      let item (tokens : List Token) : Option (List Node × Reading) :=
        let reading := { reading with tokens := tokens }
        match tokens with
        | .flowSequenceEnd :: rest => finished rest
        | .key :: rest => do
            let reading := { reading with tokens := rest }
            let (key, reading) ←
              if endsFlowKey .flowSequenceEnd rest then
                some (Node.empty, { reading with tokens := rest.drop 1 })
              else readNode handles false false fuel reading
            let (value, reading) ← readFlowValue handles .flowSequenceEnd fuel reading
            let (items, reading) ← readFlowItems handles false fuel reading
            return (.mapping none [(key, value)] :: items, reading)
        | _ => do
            let (item, reading) ← readNode handles false false fuel reading
            let (items, reading) ← readFlowItems handles false fuel reading
            return (item :: items, reading)
      match reading.tokens with
      | .flowSequenceEnd :: rest => finished rest
      | .flowEntry :: rest => if first then none else item rest
      | tokens => if first then item tokens else none

/-- The value after a key of a flow collection; it may be missing. -/
def readFlowValue (handles : Handles) (close : Token) : Nat → Reading → Option (Node × Reading)
  | 0, _ => none
  | fuel + 1, reading =>
      match reading.tokens with
      | .value :: rest =>
          let reading := { reading with tokens := rest }
          if endsFlowValue close rest then some (Node.empty, reading)
          else readNode handles false false fuel reading
      | _ => some (Node.empty, reading)

/-- The entries of a flow mapping up to its end. A node that is no key has no value. -/
def readFlowEntries (handles : Handles) (first : Bool) :
    Nat → Reading → Option (List (Node × Node) × Reading)
  | 0, _ => none
  | fuel + 1, reading =>
      let finished (rest : List Token) := some ([], { reading with tokens := rest })
      let entry (tokens : List Token) : Option (List (Node × Node) × Reading) :=
        let reading := { reading with tokens := tokens }
        match tokens with
        | .flowMappingEnd :: rest => finished rest
        | .key :: rest => do
            let reading := { reading with tokens := rest }
            let (key, reading) ←
              if endsFlowKey .flowMappingEnd rest then some (Node.empty, reading)
              else readNode handles false false fuel reading
            let (value, reading) ← readFlowValue handles .flowMappingEnd fuel reading
            let (entries, reading) ← readFlowEntries handles false fuel reading
            return ((key, value) :: entries, reading)
        | _ => do
            let (key, reading) ← readNode handles false false fuel reading
            let (entries, reading) ← readFlowEntries handles false fuel reading
            return ((key, Node.empty) :: entries, reading)
      match reading.tokens with
      | .flowMappingEnd :: rest => finished rest
      | .flowEntry :: rest => if first then none else entry rest
      | tokens => if first then entry tokens else none

end

/-- The directives before a document: whether a version was named, and the handles named. Each
may be named once, and the version must be 1.1 or 1.2. -/
def takeDirectives : Bool → Handles → List Token → Option (Bool × Handles × List Token)
  | versioned, handles, .version major minor :: rest =>
      if versioned ∨ major ≠ 1 ∨ (minor ≠ 1 ∧ minor ≠ 2) then none
      else takeDirectives true handles rest
  | versioned, handles, .tagHandle handle lead :: rest =>
      if (handles.lookup handle).isSome then none
      else takeDirectives versioned (handles ++ [(handle, lead)]) rest
  | versioned, handles, tokens => some (versioned, handles, tokens)

/-- A document with the anchors in it. -/
structure Document where
  root : Node
  anchors : Anchors

/-- Does a document have no content before this token? -/
def endsDocument : List Token → Bool
  | [] => true
  | .version _ _ :: _ => true
  | .tagHandle _ _ :: _ => true
  | .documentStart :: _ => true
  | .documentEnd :: _ => true
  | _ => false

/-- The document that the tokens spell: none where there are no tokens, and an error for a
second document. Only the first may lack its start mark. -/
def document? (tokens : List Token) : Option (Option Document) := do
  let fuel := 4 * tokens.length + 4
  let (versioned, named, rest) ← takeDirectives false [] tokens
  let handles := named ++ standardHandles
  let explicit := versioned || !named.isEmpty
  match rest with
  | [] => if explicit then none else return none
  | token :: after =>
      let (root, reading) ←
        if token = .documentStart then
          if endsDocument after then some (Node.empty, Reading.mk after Anchors.none)
          else readNode handles true false fuel ⟨after, Anchors.none⟩
        else if explicit then none
        else readNode handles true false fuel ⟨rest, Anchors.none⟩
      let ended := reading.tokens.dropWhile (· = .documentEnd)
      if ended.isEmpty then return some ⟨root, reading.anchors⟩ else none

end Runbook.Yaml
