import Mathlib.Data.List.Forall2
import Runbook.Proofs.Json.Keys
import Runbook.Proofs.Rules.Conformity

/-!
# Documents written in JSON

A JSON object is turned into a YAML mapping of the same shape: the values have the same texts, items
and members (`asString_ofJson`, `asSequence_ofJson`, `get?_ofJson`), and no key becomes a tag
(`untagged_ofJson`), whatever it begins with. So what the accessors of a document say of a JSON text
is what the object itself says (`json_keeps_shape`).
-/

namespace Runbook

namespace Json

/-- The value is an object with a member under the key. -/
def HasKey (value : Json) (key : String) : Prop :=
  ∃ members, value = .object members ∧ key ∈ members.map Prod.fst

/-- The members of the object under a key; none where there is no object. -/
def membersUnder (value : Json) (key : String) : List (String × Json) :=
  ((value.get? key).bind asObject).getD []

/-- The items of the array under a key; none where there is no array. -/
def itemsUnder (value : Json) (key : String) : List Json :=
  ((value.get? key).bind asArray).getD []

/-- The text under a key. -/
def textUnder (value : Json) (key : String) : Option String := (value.get? key).bind asString

/-- The name of an output: the output itself where it is a string, and else the text under one of
two keys. -/
def outputName? : Json → Option String
  | .string name => some name
  | output => ((output.get? "Name").or (output.get? "name")).bind asString

/-- A member is there exactly where the object has its key. -/
theorem get?_isSome_iff {value : Json} {key : String} :
    (value.get? key).isSome = true ↔ value.HasKey key := by
  cases value with
  | object members =>
      simp only [get?, HasKey, List.lookup_isSome_iff, beq_iff_eq, Json.object.injEq,
        exists_eq_left', List.mem_map]
      exact exists_congr fun member => and_congr_right fun _ => eq_comm
  | _ => simp [get?, HasKey]

/-- What stands under a key is sound with the whole. -/
theorem KeysOnce.of_get? {value inner : Json} (once : value.KeysOnce) {key : String}
    (found : value.get? key = some inner) : inner.KeysOnce := by
  cases once with
  | object _ each =>
      obtain ⟨before, after, rfl, _⟩ := List.lookup_eq_some_iff.1 found
      exact each (key, inner) (by simp)
  | _ => cases found

/-- The keys of an object under a key stand there once. -/
theorem nodup_membersUnder {value : Json} (once : value.KeysOnce) (key : String) :
    ((value.membersUnder key).map Prod.fst).Nodup := by
  rw [membersUnder]
  cases found : value.get? key with
  | none => exact List.nodup_nil
  | some inner =>
      cases inner with
      | object members => exact (once.of_get? found).nodup
      | _ => exact List.nodup_nil

end Json

namespace Yaml

variable {value : Json}

/-- Items are taken over one by one. -/
theorem ofItems_eq_map (items : List Json) : ofItems items = items.map ofJson := by
  induction items with
  | nil => rfl
  | cons item rest ih => rw [ofItems, ih, List.map_cons]

/-- Members are taken over one by one, under their keys as texts. -/
theorem ofMembers_eq_map (members : List (String × Json)) :
    ofMembers members = members.map fun member => (.string member.1, ofJson member.2) := by
  induction members with
  | nil => rfl
  | cons member rest ih => rw [ofMembers, ih, List.map_cons]

/-- No value carries a tag. -/
theorem untagged_ofJson (value : Json) : (ofJson value).untagged = ofJson value := by
  cases value <;> rfl

/-- A text stays that text, and nothing else becomes one. -/
theorem asString_ofJson (value : Json) : (ofJson value).asString = value.asString := by
  rw [asString, untagged_ofJson]
  cases value <;> rfl

/-- An array becomes the sequence of its items, and nothing else becomes one. -/
theorem asSequence_ofJson (value : Json) :
    (ofJson value).asSequence = value.asArray.map (List.map ofJson) := by
  rw [asSequence, untagged_ofJson]
  cases value <;> simp [ofJson, Json.asArray, ofItems_eq_map]

/-- An object becomes the mapping of its members, and nothing else becomes one. -/
theorem asMapping_ofJson (value : Json) :
    (ofJson value).asMapping = value.asObject.map ofMembers := by
  rw [asMapping, untagged_ofJson]
  cases value <;> rfl

/-- An entry is found where the member was. -/
theorem lookupEntry_ofMembers (key : String) (members : List (String × Json)) :
    lookupEntry key (ofMembers members) = (members.lookup key).map ofJson := by
  induction members with
  | nil => rfl
  | cons member rest ih =>
      obtain ⟨name, inner⟩ := member
      by_cases same : key = name
      · simp [ofMembers, lookupEntry, same]
      · simp [ofMembers, lookupEntry, List.lookup_cons, beq_eq_false_iff_ne.2 same, Ne.symm same, ih]

/-- What is under a key is what was there, taken over. -/
theorem get?_ofJson (value : Json) (key : String) :
    (ofJson value).get? key = (value.get? key).map ofJson := by
  rw [get?, asMapping_ofJson]
  cases value with
  | object members => exact lookupEntry_ofMembers key members
  | _ => rfl

/-- The keys are kept. -/
theorem hasKey_ofJson_iff {value : Json} {key : String} :
    (ofJson value).HasKey key ↔ value.HasKey key := by
  rw [← get?_isSome_iff, ← Json.get?_isSome_iff, get?_ofJson, Option.isSome_map]

/-- A text that may be absent is kept. -/
theorem bind_asString_map_ofJson (value : Option Json) :
    (value.map ofJson).bind asString = value.bind Json.asString := by
  cases value with
  | none => rfl
  | some inner => exact asString_ofJson inner

/-- A text under a key is kept. -/
theorem textUnder_ofJson (value : Json) (key : String) :
    ((ofJson value).get? key).bind asString = value.textUnder key := by
  rw [get?_ofJson, bind_asString_map_ofJson, Json.textUnder]

end Yaml

/-- A declared parameter is a member of an object: it has the member's key for its name, and its
definition has the keys of the member's value and says the same under them. -/
structure DeclaredParameter.Mirrors (parameter : DeclaredParameter) (member : String × Json) :
    Prop where
  name : parameter.name = member.1
  keys : ∀ key, parameter.definition.HasKey key ↔ member.2.HasKey key
  description : parameter.description = member.2.textUnder "description"
  type : parameter.type = member.2.textUnder "type"
  default : parameter.default? = (member.2.get? "default").map Yaml.ofJson

namespace Document

/-- The parameters are the members of the object under their key, in its order. -/
theorem parameters_ofJson (value : Json) :
    (Document.mk (Yaml.ofJson value)).parameters =
      (value.membersUnder "parameters").map fun member => ⟨member.1, Yaml.ofJson member.2⟩ := by
  rw [parameters, Yaml.get?_ofJson, Json.membersUnder]
  cases value.get? "parameters" with
  | none => rfl
  | some declarations =>
      simp only [Option.map_some, Option.bind_some, Yaml.asMapping_ofJson]
      cases declarations.asObject with
      | none => rfl
      | some members =>
          simp [Yaml.ofMembers_eq_map, List.filterMap_map, Function.comp_def, Yaml.asString,
            Yaml.untagged]

/-- A parameter mirrors the member that it is read from. -/
theorem mirrors_ofJson (member : String × Json) :
    DeclaredParameter.Mirrors ⟨member.1, Yaml.ofJson member.2⟩ member where
  name := rfl
  keys _ := Yaml.hasKey_ofJson_iff
  description := Yaml.textUnder_ofJson member.2 "description"
  type := Yaml.textUnder_ofJson member.2 "type"
  default := Yaml.get?_ofJson member.2 "default"

/-- What is read from the items of a sequence is read from the items of the array. -/
theorem items_ofJson (value : Json) (key : String) :
    (((Yaml.ofJson value).get? key).bind Yaml.asSequence).getD [] =
      (value.itemsUnder key).map Yaml.ofJson := by
  rw [Yaml.get?_ofJson, Json.itemsUnder]
  cases value.get? key with
  | none => rfl
  | some items =>
      simp only [Option.map_some, Option.bind_some, Yaml.asSequence_ofJson]
      cases items.asArray <;> rfl

/-- The name of a step is the text under its key. -/
theorem stepName?_ofJson (step : Json) : stepName? (Yaml.ofJson step) = step.textUnder "name" :=
  Yaml.textUnder_ofJson step "name"

/-- The name of an output is kept. -/
theorem outputName?_ofJson (output : Json) :
    outputName? (Yaml.ofJson output) = output.outputName? := by
  cases output with
  | string name => rfl
  | object members =>
      change (((Yaml.ofJson (.object members)).get? "Name").or
        ((Yaml.ofJson (.object members)).get? "name")).bind Yaml.asString = _
      rw [Yaml.get?_ofJson, Yaml.get?_ofJson, ← Option.map_or, Yaml.bind_asString_map_ofJson]
      rfl
  | _ => rfl

/-- The steps of a document are those of its object. -/
theorem stepNames_ofJson (value : Json) :
    (Document.mk (Yaml.ofJson value)).stepNames =
      (value.itemsUnder "mainSteps").filterMap fun step => step.textUnder "name" := by
  rw [stepNames, items_ofJson, List.filterMap_map]
  exact List.filterMap_congr fun step _ => stepName?_ofJson step

/-- The outputs of a document are those of its object. -/
theorem outputNames_ofJson (value : Json) :
    (Document.mk (Yaml.ofJson value)).outputNames =
      (value.itemsUnder "outputs").filterMap Json.outputName? := by
  rw [outputNames, items_ofJson, List.filterMap_map]
  exact List.filterMap_congr fun output _ => outputName?_ofJson output

/-- A JSON text is a document exactly where it denotes an object. -/
theorem parse_json_eq_ok_iff {content : String} {document : Document} :
    parse content .json = .ok document ↔ ∃ members,
      Json.parse? content = some (.object members) ∧
        document = ⟨Yaml.ofJson (.object members)⟩ := by
  rw [parse]
  cases Json.parse? content with
  | none => simp
  | some value =>
      simp only [ofValue, Yaml.asMapping_ofJson, Option.isSome_map, Option.some.injEq]
      cases value with
      | object members => simp [Json.asObject, eq_comm]
      | _ => simp [Json.asObject]

/-- Every JSON text that denotes an object is a document of the same shape: its elements are the
keys of the object; its parameters are, each once and in order, the members of the object under
their key; and its steps and outputs have the names that stand in the arrays. -/
theorem json_keeps_shape {content : String} {members : List (String × Json)}
    (read : Json.parse? content = some (.object members)) :
    ∃ document, parse content .json = .ok document ∧
      (∀ key, document.hasElement key = true ↔ key ∈ members.map Prod.fst) ∧
      List.Forall₂ DeclaredParameter.Mirrors document.parameters
        ((Json.object members).membersUnder "parameters") ∧
      (document.parameters.map DeclaredParameter.name).Nodup ∧
      document.stepNames =
        ((Json.object members).itemsUnder "mainSteps").filterMap
          (fun step => step.textUnder "name") ∧
      document.outputNames =
        ((Json.object members).itemsUnder "outputs").filterMap Json.outputName? := by
  refine ⟨⟨Yaml.ofJson (.object members)⟩, parse_json_eq_ok_iff.2 ⟨members, read, rfl⟩,
    fun key => ?_, ?_, ?_, stepNames_ofJson _, outputNames_ofJson _⟩
  · rw [hasElement_iff, Yaml.hasKey_ofJson_iff]
    simp [Json.HasKey]
  · rw [parameters_ofJson, List.forall₂_map_left_iff]
    exact List.forall₂_same.2 fun member _ => mirrors_ofJson member
  · have once := Json.nodup_membersUnder (Json.keysOnce_of_parse? read) "parameters"
    rw [parameters_ofJson, List.map_map]
    exact once

/-- A document with a parameter whose name begins as a tag does. -/
def taggedText : String :=
  "\x7b\"parameters\": \x7b\"!Tagged\": \x7b\"type\": \"String\"\x7d\x7d, " ++
    "\"mainSteps\": [\x7b\"name\": \"Stop\"\x7d], \"outputs\": [\"Stop.Id\"]\x7d"

def taggedMembers : List (String × Json) :=
  [("mainSteps", .array [.object [("name", .string "Stop")]]),
    ("outputs", .array [.string "Stop.Id"]),
    ("parameters", .object [("!Tagged", .object [("type", .string "String")])])]

/-- The sample is read as an object with a lone key that begins as a tag does. -/
theorem parse?_taggedText : Json.parse? taggedText = some (.object taggedMembers) := by
  rfl

/-- The key of the parameter is read as its name. -/
theorem json_keeps_shape_tagged :
    ∃ document, parse taggedText .json = .ok document ∧
      document.hasElement "parameters" = true ∧ document.hasElement "!Tagged" = false ∧
      document.parameters.map DeclaredParameter.name = ["!Tagged"] ∧
      document.stepNames = ["Stop"] ∧ document.outputNames = ["Stop.Id"] := by
  obtain ⟨document, parsed, elements, parameters, -, steps, outputs⟩ :=
    json_keeps_shape parse?_taggedText
  refine ⟨document, parsed, (elements _).2 (by decide), ?_, ?_, steps.trans rfl, outputs.trans rfl⟩
  · rw [← Bool.not_eq_true, elements]
    decide
  · obtain ⟨parameter, _, mirrors, none, same⟩ := List.forall₂_cons_right_iff.1 parameters
    rw [List.forall₂_nil_right_iff.1 none] at same
    rw [same, List.map_singleton, mirrors.name]

end Document

end Runbook
