import Runbook.Metadata.Basic
import Runbook.Proofs.Except
import Runbook.Proofs.Json.Keys

/-!
# Reading records

A record of a document is what its fields read among the members of an object
(`DocumentMetadata.ReadFrom`). Such members are read as that record where each key stands once
(`ReadFrom.ofJson_eq`), and no other record is read from them (`readFrom_of_ofJson`). What a
decoder needs to succeed is stated apart for every decoder of the record.
-/

namespace Runbook

namespace Json

/-- Only a text is one. -/
theorem asString_eq_some_iff {value : Json} {text : String} :
    value.asString = some text ↔ value = .string text := by
  cases value <;> simp [asString]

/-- Only a truth value is one. -/
theorem asBool_eq_some_iff {value : Json} {flag : Bool} :
    value.asBool = some flag ↔ value = .bool flag := by
  cases value <;> simp [asBool]

/-- Only an object is one. -/
theorem asObject_eq_some_iff {value : Json} {members : List (String × Json)} :
    value.asObject = some members ↔ value = .object members := by
  cases value <;> simp [asObject]

/-- Of members under different keys each is found under its own. -/
theorem lookup_of_mem {members : List (String × Json)} (once : (members.map Prod.fst).Nodup)
    {member : String × Json} (inside : member ∈ members) :
    members.lookup member.1 = some member.2 := by
  obtain ⟨before, after, rfl⟩ := List.append_of_mem inside
  refine List.lookup_eq_some_iff.2 ⟨before, after, rfl, fun other earlier => ?_⟩
  rw [List.map_append, List.nodup_append] at once
  have differs := once.2.2 other.1 (List.mem_map_of_mem earlier) member.1 (by simp)
  simpa using Ne.symm differs

/-- The object of some texts. -/
def ofTexts (texts : List (String × String)) : Json :=
  .object (texts.map fun text => (text.1, .string text.2))

/-- An object of texts under different keys has no key twice. -/
theorem keysOnce_ofTexts {texts : List (String × String)} (once : (texts.map Prod.fst).Nodup) :
    (ofTexts texts).KeysOnce := by
  refine .object (by simpa [List.map_map, Function.comp_def] using once) fun member inside => ?_
  obtain ⟨text, _, rfl⟩ := List.mem_map.1 inside
  exact .string text.2

end Json

/-! ### Reading a record -/

variable {α : Type} {members : List (String × Json)} {name : String} {decode : Decoder α}

/-- A field finds among the members what it needs, and nothing that it cannot read. -/
structure RecordField.Served (field : RecordField) (members : List (String × Json)) : Prop where
  present : field.required = true → ∃ value, members.lookup field.name = some value
  fits : ∀ value, members.lookup field.name = some value → field.fault? value = none

/-- A needed member is read exactly where it is there and is decoded. -/
theorem neededMember_eq_ok_iff {value : α} :
    neededMember members name decode = .ok value ↔
      ∃ found, members.lookup name = some found ∧ decode found = .ok value := by
  rw [neededMember]
  cases members.lookup name <;> simp

namespace RecordField

/-- A needed member that is read serves its field. -/
theorem served_needed {value : α} (read : neededMember members name decode = .ok value) :
    (needed name decode).Served members := by
  obtain ⟨found, there, decoded⟩ := neededMember_eq_ok_iff.1 read
  refine ⟨fun _ => ⟨found, there⟩, fun other again => ?_⟩
  rw [needed, there] at again
  cases again
  simp only [needed, faultOf, decoded]

/-- An optional member that is read serves its field. -/
theorem served_optional {value : Option α} (read : optionalMember members name decode = .ok value) :
    (optional name decode).Served members := by
  refine ⟨nofun, fun found there => ?_⟩
  have lookup : members.lookup name = some found := there
  rw [optionalMember, lookup] at read
  simp only [optional, faultOf, read]

end RecordField

/-- An object is read as a record when each of its keys stands once and each field is served. -/
theorem RecordShape.membersOf_object {shape : RecordShape} (once : (members.map Prod.fst).Nodup)
    (served : ∀ field ∈ shape.fields, field.Served members) :
    shape.membersOf (.object members) = .ok members := by
  have sound : members.findSome? shape.memberFault? = none := by
    refine List.findSome?_eq_none_iff.2 fun member inside => ?_
    rw [memberFault?]
    split
    · rename_i field found
      have named : field.name = member.1 := by simpa using List.find?_some found
      refine (served field (List.mem_of_find?_eq_some found)).fits member.2 ?_
      rw [named, Json.lookup_of_mem once inside]
    · rfl
  have covered : shape.absentField? members = none := by
    refine List.find?_eq_none.2 fun field inside absent => ?_
    simp only [Bool.and_eq_true, Option.isNone_iff_eq_none] at absent
    obtain ⟨value, there⟩ := (served field inside).present absent.1
    simp [there] at absent
  simp only [membersOf, sound, covered]

/-- Of an object a record has the members as they are. -/
theorem RecordShape.eq_of_membersOf {shape : RecordShape} {found : List (String × Json)}
    (read : shape.membersOf (.object members) = .ok found) : found = members := by
  simp only [membersOf] at read
  split at read
  · cases read
  · split at read <;> cases read
    rfl

/-- A record of a document is what its fields read among some members. -/
structure DocumentMetadata.ReadFrom (metadata : DocumentMetadata)
    (members : List (String × Json)) : Prop where
  documentName : neededMember members "documentName" Decoder.text = .ok metadata.documentName
  kind : neededMember members "documentType"
    (Decoder.choice DocumentKind.parse? DocumentKind.names) = .ok metadata.kind
  format : neededMember members "documentFormat"
    (Decoder.choice DocumentFormat.parse? DocumentFormat.names) = .ok metadata.format
  content : neededMember members "documentContentPath" Decoder.text = .ok metadata.content
  tag : neededMember members "tag" Decoder.text = .ok metadata.tag
  risk : neededMember members "risk" (Decoder.choice Risk.parse? Risk.names) = .ok metadata.risk
  failures : neededMember members "failureType" FailureType.decoder = .ok metadata.failures
  minorVersion : neededMember members "minorVersion" Decoder.text = .ok metadata.minorVersion
  displayName : optionalMember members "displayName" Decoder.text = .ok metadata.displayName
  description : optionalMember members "description" Decoder.text = .ok metadata.description
  assumeRole : optionalMember members "assumeRoleCfnPath" Decoder.text = .ok metadata.assumeRole
  dependsOn : optionalMember members "dependsOn" Decoder.text = .ok metadata.dependsOn
  builder : optionalMember members "adkPath" Decoder.text = .ok metadata.builder
  recommendedAlarms : optionalMember members "recommendedAlarms" (Decoder.members Decoder.text) =
    .ok metadata.recommendedAlarms
  supportsRollback : optionalMember members "supportsRollback" Decoder.flag =
    .ok metadata.supportsRollback

namespace DocumentMetadata

variable {metadata : DocumentMetadata} {location : Path}

/-- What is read from the members serves every field of the record. -/
theorem ReadFrom.served (read : metadata.ReadFrom members) :
    ∀ field ∈ shape.fields, field.Served members := by
  simp only [shape, List.forall_mem_cons]
  exact ⟨RecordField.served_needed read.documentName, RecordField.served_needed read.kind,
    RecordField.served_needed read.format, RecordField.served_needed read.content,
    RecordField.served_needed read.tag, RecordField.served_needed read.risk,
    RecordField.served_needed read.failures, RecordField.served_needed read.minorVersion,
    RecordField.served_optional read.displayName, RecordField.served_optional read.description,
    RecordField.served_optional read.assumeRole, RecordField.served_optional read.dependsOn,
    RecordField.served_optional read.builder, RecordField.served_optional read.recommendedAlarms,
    RecordField.served_optional read.supportsRollback, nofun⟩

/-- The reader returns what is read from the members, at its location. -/
theorem ReadFrom.ofJson_eq (read : metadata.ReadFrom members)
    (once : (members.map Prod.fst).Nodup) :
    ofJson location (.object members) = .ok { metadata with location } := by
  simp only [ofJson, bind_eq_ok_iff]
  exact ⟨members, RecordShape.membersOf_object once read.served, _, read.documentName, _, read.kind,
    _, read.format, _, read.content, _, read.tag, _, read.risk, _, read.failures,
    _, read.minorVersion, _, read.displayName, _, read.description, _, read.assumeRole,
    _, read.dependsOn, _, read.builder, _, read.recommendedAlarms, _, read.supportsRollback, rfl⟩

/-- A record that is read from an object is what its fields read there. -/
theorem readFrom_of_ofJson (read : ofJson location (.object members) = .ok metadata) :
    metadata.ReadFrom members := by
  simp only [ofJson, bind_eq_ok_iff] at read
  obtain ⟨found, shaped, _, documentName, _, kind, _, format, _, content, _, tag, _, risk,
    _, failures, _, minorVersion, _, displayName, _, description, _, assumeRole, _, dependsOn,
    _, builder, _, recommendedAlarms, _, supportsRollback, same⟩ := read
  obtain rfl : found = members := RecordShape.eq_of_membersOf shaped
  cases same
  exact ⟨documentName, kind, format, content, tag, risk, failures, minorVersion, displayName,
    description, assumeRole, dependsOn, builder, recommendedAlarms, supportsRollback⟩

end DocumentMetadata

/-! ### Decoders that succeed -/

/-- A text under its key is read. -/
theorem neededMember_text {text : String} (there : members.lookup name = some (.string text)) :
    neededMember members name Decoder.text = .ok text :=
  neededMember_eq_ok_iff.2 ⟨_, there, rfl⟩

/-- A known choice under its key is read. -/
theorem neededMember_choice {parse? : String → Option α} {names : List String} {text : String}
    (there : members.lookup name = some (.string text)) (chosen : (parse? text).isSome) :
    ∃ choice, neededMember members name (Decoder.choice parse? names) = .ok choice := by
  obtain ⟨choice, parsed⟩ := Option.isSome_iff_exists.1 chosen
  refine ⟨choice, neededMember_eq_ok_iff.2 ⟨_, there, ?_⟩⟩
  simp only [Decoder.choice, parsed]

/-- An optional member is absent, or its value is read. -/
theorem exists_optionalMember
    (fits : ∀ value, members.lookup name = some value → ∃ result, decode value = .ok result) :
    ∃ result, optionalMember members name decode = .ok result := by
  unfold optionalMember
  split
  · rename_i value there
    obtain ⟨result, decoded⟩ := fits value there
    unfold Decoder.optional
    split
    · exact ⟨none, rfl⟩
    · exact ⟨some result, by rw [decoded]; rfl⟩
  · exact ⟨none, rfl⟩

/-- Members that are all read make an object that is read. -/
theorem exists_decoder_members {entries : List (String × Json)}
    (each : ∀ entry ∈ entries, ∃ result, decode entry.2 = .ok result) :
    ∃ results, Decoder.members decode (.object entries) = .ok results := by
  refine exists_mapM_eq_ok_iff.2 fun entry inside => ?_
  obtain ⟨result, decoded⟩ := each entry inside
  exact ⟨(entry.1, result), by rw [decoded]; rfl⟩

namespace FailureType

/-- Known names are read. -/
theorem exists_ofNames {items : List String} (known : ∀ item ∈ items, item ∈ names) :
    ∃ failures, ofNames items = .ok failures := by
  induction items with
  | nil => exact ⟨[], rfl⟩
  | cons item rest ih =>
      obtain ⟨here, later⟩ := List.forall_mem_cons.1 known
      obtain ⟨failures, read⟩ := ih later
      obtain ⟨failure, parsed⟩ := Option.isSome_iff_exists.1
        ((by decide : ∀ item ∈ names, (parse? item).isSome) item here)
      exact ⟨failure :: failures, by simp only [ofNames, parsed, read]; rfl⟩

end FailureType

end Runbook
