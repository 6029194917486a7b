import Runbook.Proofs.Metadata.Validation

/-!
# Checks that do not mask each other

The faults of a document's descriptor are those of its checks, one after the other
(`faults_eq_flatMap`). A check is of one attribute, or only of the place of the file. It sees the
value of its attribute, and where it compares with the place also the tag of the place, and nothing
else. So a change to one attribute leaves the faults of all others as they are, and a wrong place
hides no more than what would be compared with it (`unmasked`).
-/

namespace Runbook

/-! ### What a fault is of -/

namespace MetadataFault

/-- The attribute that a fault is of. -/
def attribute? : MetadataFault → Option String
  | absent key | otherChoice key _ _ | overlong key _ _ | notText key | notFlag key => some key
  | otherFailure _ => some "failureType"
  | minorVersion _ => some "minorVersion"
  | alarmsNotObject | alarmReference _ _ => some "recommendedAlarms"
  | otherTag _ _ => some "tag"
  | documentName _ _ => some "documentName"
  | notObject | misplaced | notAlarmDirectory => none

/-- Does a fault come from looking at the place of the file? -/
def ofPlace : MetadataFault → Bool
  | misplaced | otherTag _ _ | documentName _ _ | notAlarmDirectory => true
  | _ => false

end MetadataFault

namespace MetadataFile

variable {file other : MetadataFile} {root base : Path} {key : String} {fault : MetadataFault}

/-- The fault of a place that is none for a descriptor. -/
def layoutFault (file : MetadataFile) (root : Path) : List MetadataFault :=
  match Tag.ofMetadataPath? root file.path with
  | none => [.misplaced]
  | some _ => []

/-- The fault of a declared tag that is not the tag of the place. -/
def tagFault (file : MetadataFile) (root : Path) : List MetadataFault :=
  match Tag.ofMetadataPath? root file.path, file.tag? with
  | some expected, some declared =>
      if declared = expected.text then [] else [.otherTag declared expected]
  | _, _ => []

/-- A place has a fault of layout, or one of its tag. -/
theorem placeFault_eq : file.placeFault root = file.layoutFault root ++ file.tagFault root := by
  unfold placeFault layoutFault tagFault
  cases Tag.ofMetadataPath? root file.path with
  | none => rfl
  | some expected => cases file.tag? <;> rfl

/-- An attribute depends on what stands under its key only. -/
theorem attribute?_congr (same : file.raw.get? key = other.raw.get? key) :
    file.attribute? key = other.attribute? key := by
  rw [attribute?, attribute?, same]

/-! ### The faults that each check finds -/

/-- The fault names the attribute that is absent. -/
theorem eq_of_mem_absentFault (member : fault ∈ file.absentFault key) : fault = .absent key := by
  unfold absentFault at member
  split at member
  · split at member
    · exact List.mem_singleton.1 member
    · cases member
  · exact List.mem_singleton.1 member

/-- The fault names the attribute, its value and what is allowed. -/
theorem exists_of_mem_choiceFault {allowed : List String}
    (member : fault ∈ file.choiceFault key allowed) :
    ∃ value, fault = .otherChoice key value allowed := by
  unfold choiceFault at member
  split at member
  · rename_i value _
    split at member
    · cases member
    · exact ⟨value, List.mem_singleton.1 member⟩
  · cases member

/-- The faults name the failure types that are unknown. -/
theorem exists_of_mem_failureFaults (member : fault ∈ file.failureFaults) :
    ∃ item, fault = .otherFailure item := by
  unfold failureFaults at member
  split at member
  · obtain ⟨item, _, rfl⟩ := List.mem_map.1 member
    exact ⟨item, rfl⟩
  · cases member

/-- The fault names the attribute that is too long and its limit. -/
theorem exists_of_mem_lengthFault {limit : String × Nat}
    (member : fault ∈ file.lengthFault limit) :
    ∃ length, fault = .overlong limit.1 length limit.2 := by
  unfold lengthFault at member
  split at member
  · rename_i value _
    split at member
    · exact ⟨value.length, List.mem_singleton.1 member⟩
    · cases member
  · cases member

/-- The fault names the minor version. -/
theorem exists_of_mem_minorVersionFault (member : fault ∈ file.minorVersionFault) :
    ∃ value, fault = .minorVersion value := by
  unfold minorVersionFault at member
  split at member
  · rename_i value _
    split at member
    · cases member
    · exact ⟨value, List.mem_singleton.1 member⟩
  · cases member

/-- The fault names the attribute that is no text. -/
theorem eq_of_mem_textFault (member : fault ∈ file.textFault key) : fault = .notText key := by
  unfold textFault at member
  split at member
  · split at member
    · cases member
    · exact List.mem_singleton.1 member
  · cases member

/-- The fault names the attribute that is no flag. -/
theorem eq_of_mem_flagFault (member : fault ∈ file.flagFault key) : fault = .notFlag key := by
  unfold flagFault at member
  split at member
  · split at member
    · cases member
    · exact List.mem_singleton.1 member
  · cases member

/-- The faults are about the alarms as a whole, or one of them. -/
theorem eq_or_exists_of_mem_alarmFaults (member : fault ∈ file.alarmFaults) :
    fault = .alarmsNotObject ∨ ∃ name reference, fault = .alarmReference name reference := by
  unfold alarmFaults at member
  split at member
  · cases member
  · split at member
    · exact .inl (List.mem_singleton.1 member)
    · obtain ⟨alarm, _, rfl⟩ := List.mem_map.1 member
      exact .inr ⟨alarm.1, alarm.2, rfl⟩

/-- The fault says that the file is misplaced. -/
theorem eq_of_mem_layoutFault (member : fault ∈ file.layoutFault root) : fault = .misplaced := by
  unfold layoutFault at member
  split at member
  · exact List.mem_singleton.1 member
  · cases member

/-- The fault names the declared tag and that of the place. -/
theorem exists_of_mem_tagFault (member : fault ∈ file.tagFault root) :
    ∃ declared expected, fault = .otherTag declared expected := by
  unfold tagFault at member
  split at member
  · rename_i expected declared _ _
    split at member
    · cases member
    · exact ⟨declared, expected, List.mem_singleton.1 member⟩
  · cases member

/-- The fault names the document and why it may not be called so. -/
theorem exists_of_mem_nameFault (member : fault ∈ file.nameFault root) :
    ∃ name cause, fault = .documentName name cause := by
  unfold nameFault at member
  split at member
  · rename_i name _ _
    split at member
    · split at member
      · rename_i cause _
        exact ⟨name, cause, List.mem_singleton.1 member⟩
      · cases member
    · cases member
  · cases member

end MetadataFile

/-! ### Checks -/

/-- A check of descriptors, of one attribute or of none, that may compare with the place of the
file. Its faults say so (`about`), and it sees nothing else of a file (`confined`). -/
structure MetadataCheck where
  attribute? : Option String
  ofPlace : Bool
  faults : MetadataFile → Path → List MetadataFault
  about : ∀ {file root fault}, fault ∈ faults file root →
    fault.attribute? = attribute? ∧ fault.ofPlace = ofPlace
  confined : ∀ {file other : MetadataFile} {root base : Path},
    (∀ key, attribute? = some key → file.raw.get? key = other.raw.get? key) →
    (ofPlace = true →
      Tag.ofMetadataPath? root file.path = Tag.ofMetadataPath? base other.path) →
    faults file root = faults other base

namespace MetadataCheck

open MetadataFile

/-- The check that a needed attribute is there and not blank. -/
def needed (key : String) : MetadataCheck where
  attribute? := some key
  ofPlace := false
  faults file _ := file.absentFault key
  about member := by
    rw [eq_of_mem_absentFault member]
    exact ⟨rfl, rfl⟩
  confined same _ := by simp only [absentFault, attribute?_congr (same key rfl)]

/-- The check that a text is one of the allowed ones. -/
def choice (key : String) (allowed : List String) : MetadataCheck where
  attribute? := some key
  ofPlace := false
  faults file _ := file.choiceFault key allowed
  about member := by
    obtain ⟨value, rfl⟩ := exists_of_mem_choiceFault member
    exact ⟨rfl, rfl⟩
  confined same _ := by simp only [choiceFault, attribute?_congr (same key rfl)]

/-- The check of the list of failures. -/
def failures : MetadataCheck where
  attribute? := some "failureType"
  ofPlace := false
  faults file _ := file.failureFaults
  about member := by
    obtain ⟨item, rfl⟩ := exists_of_mem_failureFaults member
    exact ⟨rfl, rfl⟩
  confined same _ := by simp only [failureFaults, attribute?_congr (same _ rfl)]

/-- The check that a text has no more characters than it may have. -/
def length (limit : String × Nat) : MetadataCheck where
  attribute? := some limit.1
  ofPlace := false
  faults file _ := file.lengthFault limit
  about member := by
    obtain ⟨length, rfl⟩ := exists_of_mem_lengthFault member
    exact ⟨rfl, rfl⟩
  confined same _ := by simp only [lengthFault, attribute?_congr (same _ rfl)]

/-- The check that the minor version has digits only. -/
def minorVersion : MetadataCheck where
  attribute? := some "minorVersion"
  ofPlace := false
  faults file _ := file.minorVersionFault
  about member := by
    obtain ⟨value, rfl⟩ := exists_of_mem_minorVersionFault member
    exact ⟨rfl, rfl⟩
  confined same _ := by simp only [minorVersionFault, attribute?_congr (same _ rfl)]

/-- The check that an attribute is a text if it is there. -/
def text (key : String) : MetadataCheck where
  attribute? := some key
  ofPlace := false
  faults file _ := file.textFault key
  about member := by
    rw [eq_of_mem_textFault member]
    exact ⟨rfl, rfl⟩
  confined same _ := by simp only [textFault, same key rfl]

/-- The check that an attribute is a truth value if it is there. -/
def flag (key : String) : MetadataCheck where
  attribute? := some key
  ofPlace := false
  faults file _ := file.flagFault key
  about member := by
    rw [eq_of_mem_flagFault member]
    exact ⟨rfl, rfl⟩
  confined same _ := by simp only [flagFault, same key rfl]

/-- The check of the recommended alarms. -/
def alarms : MetadataCheck where
  attribute? := some "recommendedAlarms"
  ofPlace := false
  faults file _ := file.alarmFaults
  about member := by
    obtain rfl | ⟨name, reference, rfl⟩ := eq_or_exists_of_mem_alarmFaults member <;>
      exact ⟨rfl, rfl⟩
  confined same _ := by simp only [alarmFaults, same _ rfl]

/-- The check that the file lies where descriptors do. -/
def layout : MetadataCheck where
  attribute? := none
  ofPlace := true
  faults file root := file.layoutFault root
  about member := by
    rw [eq_of_mem_layoutFault member]
    exact ⟨rfl, rfl⟩
  confined _ place := by simp only [layoutFault, place rfl]

/-- The comparison of the declared tag with the place. -/
def tag : MetadataCheck where
  attribute? := some "tag"
  ofPlace := true
  faults file root := file.tagFault root
  about member := by
    obtain ⟨declared, expected, rfl⟩ := exists_of_mem_tagFault member
    exact ⟨rfl, rfl⟩
  confined same place := by
    simp only [tagFault, tag?, attribute?_congr (same _ rfl), place rfl]

/-- The check of the document name against what the place asks of it. -/
def name : MetadataCheck where
  attribute? := some "documentName"
  ofPlace := true
  faults file root := file.nameFault root
  about member := by
    obtain ⟨name, cause, rfl⟩ := exists_of_mem_nameFault member
    exact ⟨rfl, rfl⟩
  confined same place := by
    simp only [nameFault, documentName?, attribute?_congr (same _ rfl), place rfl]

/-- The checks that do not look at the place, in their order. -/
def own : List MetadataCheck :=
  neededOfDocument.map needed
    ++ [choice "documentType" DocumentKind.names, choice "documentFormat" DocumentFormat.names,
      choice "risk" Risk.names, failures]
    ++ limits.map length
    ++ [minorVersion]
    ++ optionalTexts.map text
    ++ [flag "supportsRollback", alarms]

/-- The checks that look at the place, in their order. -/
def placed : List MetadataCheck := [layout, tag, name]

/-- The checks of a document's descriptor, in their order. -/
def all : List MetadataCheck := own ++ placed

/-- Checks of the file itself need no place. -/
theorem ofPlace_of_mem_own {check : MetadataCheck} (member : check ∈ own) :
    check.ofPlace = false := by
  simp only [own, List.mem_append, List.mem_map, List.mem_cons, List.not_mem_nil, or_false]
    at member
  rcases member with ((((⟨_, _, rfl⟩ | rfl | rfl | rfl | rfl) | ⟨_, _, rfl⟩) | rfl) |
    ⟨_, _, rfl⟩) | rfl | rfl <;> rfl

/-- Checks of the place need one. -/
theorem ofPlace_of_mem_placed {check : MetadataCheck} (member : check ∈ placed) :
    check.ofPlace = true := by
  simp only [placed, List.mem_cons, List.not_mem_nil, or_false] at member
  rcases member with rfl | rfl | rfl <;> rfl

end MetadataCheck

namespace MetadataFile

variable {file other : MetadataFile} {root base : Path} {key : String}
  {members others : List (String × Json)}

/-- The faults of a descriptor are those of its checks in their order. -/
theorem faults_eq_flatMap (object : file.raw = .object members) :
    file.faults root = MetadataCheck.all.flatMap fun check => check.faults file root := by
  have isObject : ¬ file.raw.asObject.isNone = true := by simp [object, Json.asObject]
  rw [faults, if_neg isObject, placeFault_eq]
  simp only [MetadataCheck.all, MetadataCheck.own, MetadataCheck.placed, List.flatMap_append,
    List.flatMap_map, List.flatMap_cons, List.flatMap_nil, List.append_nil, List.append_assoc]
  rfl

/-- The violations of a descriptor, but for those of one attribute. -/
def violationsBut (file : MetadataFile) (key : String) (root : Path) : List String :=
  ((file.faults root).filter fun fault => fault.attribute? ≠ some key).map
    (MetadataFault.message file.path)

/-- A change to one attribute of an object leaves the faults of the others as they are. -/
theorem filter_faults_of_alike (path root : Path)
    (alike : ∀ other, other ≠ key → members.lookup other = others.lookup other) :
    ((MetadataFile.mk path (.object members)).faults root).filter
        (fun fault => fault.attribute? ≠ some key) =
      ((MetadataFile.mk path (.object others)).faults root).filter
        (fun fault => fault.attribute? ≠ some key) := by
  rw [faults_eq_flatMap rfl, faults_eq_flatMap rfl, List.filter_flatMap, List.filter_flatMap]
  refine List.flatMap_congr fun check _ => ?_
  by_cases here : check.attribute? = some key
  · -- All that a check of the attribute finds is left out, before the change and after it.
    have none (file : MetadataFile) : (check.faults file root).filter
        (fun fault => fault.attribute? ≠ some key) = [] :=
      List.filter_eq_nil_iff.2 fun fault member => by simp [(check.about member).1, here]
    rw [none, none]
  · have same : check.faults ⟨path, .object members⟩ root =
        check.faults ⟨path, .object others⟩ root := by
      refine check.confined (fun other own => alike other ?_) fun _ => rfl
      rintro rfl
      exact here own
    rw [same]

/-- What the checks that do not look at the place find is the same at every place. -/
theorem flatMap_own_congr (same : file.raw = other.raw) :
    (MetadataCheck.own.flatMap fun check => check.faults file root) =
      MetadataCheck.own.flatMap fun check => check.faults other base := by
  refine List.flatMap_congr fun check member => check.confined (fun _ _ => by rw [same]) ?_
  simp [MetadataCheck.ofPlace_of_mem_own member]

/-- Leaving out the faults that come from looking at the place leaves those of the other checks. -/
theorem filter_ofPlace_faults (object : file.raw = .object members) :
    (file.faults root).filter (fun fault => !fault.ofPlace) =
      MetadataCheck.own.flatMap fun check => check.faults file root := by
  rw [faults_eq_flatMap object, MetadataCheck.all, List.flatMap_append, List.filter_append]
  have kept : (MetadataCheck.own.flatMap fun check => check.faults file root).filter
      (fun fault => !fault.ofPlace) = MetadataCheck.own.flatMap fun check =>
        check.faults file root := by
    refine List.filter_eq_self.2 fun fault member => ?_
    obtain ⟨check, inside, found⟩ := List.mem_flatMap.1 member
    rw [(check.about found).2, MetadataCheck.ofPlace_of_mem_own inside]
    rfl
  have dropped : (MetadataCheck.placed.flatMap fun check => check.faults file root).filter
      (fun fault => !fault.ofPlace) = [] := by
    refine List.filter_eq_nil_iff.2 fun fault member => ?_
    obtain ⟨check, inside, found⟩ := List.mem_flatMap.1 member
    rw [(check.about found).2, MetadataCheck.ofPlace_of_mem_placed inside]
    simp
  rw [kept, dropped, List.append_nil]

/-- At a wrong place the only fault that comes from looking at it is that it is wrong. -/
theorem flatMap_placed_of_misplaced (misplaced : Tag.ofMetadataPath? root file.path = none) :
    (MetadataCheck.placed.flatMap fun check => check.faults file root) = [.misplaced] := by
  simp [MetadataCheck.placed, MetadataCheck.layout, MetadataCheck.tag, MetadataCheck.name,
    layoutFault, tagFault, nameFault, misplaced]

/-- So a descriptor at a wrong place has the faults of the checks that do not look at it, and this
one. -/
theorem faults_of_misplaced (object : file.raw = .object members)
    (misplaced : Tag.ofMetadataPath? root file.path = none) : file.faults root =
      (MetadataCheck.own.flatMap fun check => check.faults file root) ++ [.misplaced] := by
  rw [faults_eq_flatMap object, MetadataCheck.all, List.flatMap_append,
    flatMap_placed_of_misplaced misplaced]

/-- The violations of a descriptor are those of its checks in a fixed order, each of one attribute
or of the place alone. So where two objects differ in one attribute only, their violations are the
same but for those of this attribute. And at a wrong place a descriptor has all faults that it has
at any other place, but for those that come from looking at that place, and at the end its own. -/
theorem unmasked (path root : Path) {members others : List (String × Json)} {key : String}
    (alike : ∀ other, other ≠ key → members.lookup other = others.lookup other) :
    let file : MetadataFile := ⟨path, .object members⟩
    let changed : MetadataFile := ⟨path, .object others⟩
    file.violationsBut key root = changed.violationsBut key root ∧
      file.violations root = (MetadataCheck.all.flatMap fun check => check.faults file root).map
        (MetadataFault.message path) ∧
      (Tag.ofMetadataPath? root path = none → ∀ elsewhere base : Path,
        file.faults root = ((MetadataFile.mk elsewhere file.raw).faults base).filter
          (fun fault => !fault.ofPlace) ++ [.misplaced]) := by
  intro file changed
  refine ⟨?_, ?_, fun misplaced elsewhere base => ?_⟩
  · rw [violationsBut, violationsBut, filter_faults_of_alike path root alike]
  · rw [violations, faults_eq_flatMap rfl]
  · have own : (MetadataCheck.own.flatMap fun check => check.faults file root) =
        MetadataCheck.own.flatMap fun check => check.faults ⟨elsewhere, file.raw⟩ base :=
      flatMap_own_congr rfl
    have there : ((MetadataFile.mk elsewhere file.raw).faults base).filter
        (fun fault => !fault.ofPlace) =
          MetadataCheck.own.flatMap fun check => check.faults ⟨elsewhere, file.raw⟩ base :=
      filter_ofPlace_faults rfl
    have here : file.faults root =
        (MetadataCheck.own.flatMap fun check => check.faults file root) ++ [.misplaced] :=
      faults_of_misplaced rfl (show Tag.ofMetadataPath? root file.path = none from misplaced)
    rw [here, own, there]

/-- Whether its risk is an unknown word or absent, a descriptor has the same seven other violations:
four attributes are absent, two have unknown words, and the place is wrong. The first six stand with
that of the risk at a place that is right as well. -/
theorem unmasked_risk :
    let members : List (String × Json) :=
      [("documentFormat", .string "YML"), ("failureType", .string "AZ,POWER"),
        ("risk", .string "EXTREME"), ("tag", .string "host:util:list:2")]
    let others := members.eraseIdx 2
    let file : MetadataFile :=
      ⟨⟨"docs/host/util/list/1/Documents/metadata.json"⟩, .object members⟩
    let changed : MetadataFile := ⟨file.path, .object others⟩
    (∀ other, other ≠ "risk" → members.lookup other = others.lookup other) ∧
      (file.violations ⟨"docs/host"⟩).length = 8 ∧ (changed.violations ⟨"docs/host"⟩).length = 8 ∧
      (file.violationsBut "risk" ⟨"docs/host"⟩).length = 7 ∧
      file.violationsBut "risk" ⟨"docs/host"⟩ = changed.violationsBut "risk" ⟨"docs/host"⟩ ∧
      file.faults ⟨"docs/host"⟩ =
        (file.faults ⟨"docs"⟩).filter (fun fault => !fault.ofPlace) ++ [.misplaced] := by
  intro members others file changed
  have alike : ∀ other, other ≠ "risk" → members.lookup other = others.lookup other := by
    intro other differs
    have absent : (other == "risk") = false := beq_eq_false_iff_ne.2 differs
    simp [members, others, List.lookup_cons, absent]
  obtain ⟨same, -, hidden⟩ := unmasked file.path ⟨"docs/host"⟩ alike
  exact ⟨alike, by decide +kernel, by decide +kernel, by decide +kernel, same,
    hidden (by decide) file.path ⟨"docs"⟩⟩

end MetadataFile

end Runbook
