import Runbook.Proofs.Audit.Clean
import Runbook.Proofs.Publish.Forecast
import Runbook.Proofs.Publish.Records

/-!
# What passes the audit can be published

Selecting documents validates the descriptors again, and a dry run assembles the contents again. Of
a store that passed the audit neither brings up anything new (`publishable_of_passed`): names are
missing or their documents are selected, each under a name of its own, and a dry run can stop only
at a document whose tag names no category with rules, the contents of which the audit leaves alone.
-/

namespace Runbook

open DocumentMetadata (documentName)

namespace Auditor

variable {auditor : Auditor} {store : MetadataStore}

/-- No two documents have one name where any two files are apart. -/
theorem nodup_declaredNames (apart : store.files.Pairwise MetadataFile.Apart) :
    store.declaredNames.Nodup := by
  rw [MetadataStore.declaredNames, List.Nodup, List.pairwise_filterMap]
  refine (apart.filter _).imp fun {one other} apart name named another again same => ?_
  exact apart.documentName name another named again (by rw [same])

/-- Where no file has issues, no document has issues as one. -/
theorem documentIssues_of_issues
    (none : ∀ file ∈ store.files, auditor.issues store.root file = []) :
    ∀ file ∈ store.documents, auditor.documentIssues store.root file = [] := by
  intro file member
  obtain ⟨inside, notAlarm⟩ := MetadataStore.mem_documents_iff.1 member
  rw [← issues_of_not_isAlarm notAlarm]
  exact none file inside

/-- Where no file has issues, every document becomes a record. -/
theorem exists_validate_of_issues
    (none : ∀ file ∈ store.files, auditor.issues store.root file = []) :
    ∀ file ∈ store.documents, ∃ metadata, file.validate store.root = .ok metadata := by
  intro file member
  obtain ⟨metadata, valid, _⟩ :=
    documentIssues_eq_nil_iff.1 (documentIssues_of_issues none file member)
  exact ⟨metadata, valid⟩

/-- A document without issues that cannot be assembled has no category with rules. -/
theorem unruled_of_unassembled {file : MetadataFile} {root : Path}
    (none : auditor.documentIssues root file = []) {metadata : DocumentMetadata}
    (valid : file.validate root = .ok metadata) {reason : AssemblyError}
    (failed : auditor.assemble metadata = .error reason) {tag : Tag}
    (parsed : metadata.parsedTag? = some tag) :
    tag.category? ≠ some .sop ∧ tag.category? ≠ some .test := by
  obtain ⟨record, again, conforms⟩ := documentIssues_eq_nil_iff.1 none
  rw [valid, Except.ok.injEq] at again
  subst again
  have unruled : ∀ category checks, RuleSet.ofCategory? category = some checks →
      tag.category? ≠ some category := by
    intro category checks ruled named
    have tagged : file.Tagged category := by
      rw [MetadataFile.tagged_iff valid, parsed]
      exact named
    obtain ⟨content, _, assembled, _⟩ := conforms category tagged checks ruled
    rw [failed] at assembled
    cases assembled
  exact ⟨unruled .sop .sop rfl, unruled .test .test rfl⟩

/-- Of a store that passes an audit without warnings every list of names can be selected unless a
name is missing. No two selected documents have one name, and a dry run with the auditor's
assembler stops at none whose tag names a category with rules. -/
theorem publishable_of_passed (strict : auditor.warnOnly = [])
    (distinct : (store.files.map fun file => file.path.components).Nodup)
    (passed : (auditor.run store).passed = true) (names : List String) :
    (∃ missing, store.select names = .error (.dependencyMissing missing)) ∨
    ∃ documents, store.select names = .ok documents ∧
      (documents.map documentName).Nodup ∧
      ∀ service cause,
        ((Publisher.mk auditor.assemble true).publish service documents).1 = .error cause →
        ∃ metadata, Publisher.StopsAt auditor.assemble documents metadata cause ∧
          ∀ tag, metadata.parsedTag? = some tag →
            tag.category? ≠ some .sop ∧ tag.category? ≠ some .test := by
  obtain ⟨none, apart⟩ :=
    (findings_eq_nil_iff distinct).1 ((passed_iff_no_findings strict).1 passed)
  have sound := documentIssues_of_issues none
  cases resolved : store.resolve names with
  | error cause =>
      obtain ⟨missing, rfl⟩ := MetadataStore.resolve_eq_error resolved
      exact .inl ⟨missing, by rw [MetadataStore.select, resolved]; rfl⟩
  | ok wanted =>
      obtain ⟨documents, selected⟩ :=
        MetadataStore.exists_select (exists_validate_of_issues none) resolved
      refine .inr ⟨documents, selected, ?_, fun service cause failed => ?_⟩
      · obtain ⟨_, _, named⟩ := MetadataStore.names_of_select selected
        rw [named]
        exact (nodup_declaredNames apart).filter _
      · obtain ⟨metadata, stops⟩ := Publisher.stopsAt_of_publish failed
        refine ⟨metadata, stops, fun tag parsed => ?_⟩
        obtain ⟨before, after, same, _⟩ := stops.place
        obtain ⟨reason, unassembled, _⟩ := stops.reason
        obtain ⟨file, member, valid⟩ :=
          MetadataStore.exists_file_of_select selected (by simp [same] : metadata ∈ documents)
        exact unruled_of_unassembled (sound file member) valid unassembled parsed

/-- A document without rules passes the audit, and the dry run stops there. -/
theorem publishable_of_passed_sampleStore :
    let names := ["Digito-HostRebootTest_1", "Digito-List"]
    sample.warnOnly = [] ∧ (sampleStore.files.map fun file => file.path.components).Nodup ∧
      (sample.run sampleStore).passed = true ∧
      ∃ documents, sampleStore.select names = .ok documents ∧
        (documents.map documentName).Nodup ∧
        ∃ metadata,
          Publisher.StopsAt sample.assemble documents metadata
            (.assembly "Digito-List" (.builderMissing "Digito-List")) ∧
          ∀ tag, metadata.parsedTag? = some tag →
            tag.category? ≠ some .sop ∧ tag.category? ≠ some .test := by
  intro names
  refine ⟨rfl, distinct_sampleStore, passed_sampleStore, ?_⟩
  have resolved : sampleStore.resolve names = .ok names :=
    MetadataStore.resolve_of_steady (by decide) (by decide) (by decide)
  obtain ⟨none, _⟩ := (findings_eq_nil_iff distinct_sampleStore).1
    ((passed_iff_no_findings rfl).1 passed_sampleStore)
  obtain ⟨documents, selected⟩ :=
    MetadataStore.exists_select (exists_validate_of_issues none) resolved
  rcases publishable_of_passed rfl distinct_sampleStore passed_sampleStore names with
    ⟨missing, failed⟩ | ⟨found, again, distinct, stops⟩
  · rw [selected] at failed
    cases failed
  · rw [selected, Except.ok.injEq] at again
    subst again
    obtain ⟨_, same, named⟩ := MetadataStore.names_of_select selected
    rw [resolved, Except.ok.injEq] at same
    subst same
    have sorted : sampleStore.declaredNames.filter names.contains = names := by decide
    rw [sorted, List.map_eq_cons_iff] at named
    obtain ⟨test, rest, rfl, isTest, named⟩ := named
    obtain ⟨listing, rfl, isListing⟩ := List.map_eq_singleton_iff.1 named
    refine ⟨_, selected, distinct, stops .empty _ ?_⟩
    simp [Publisher.publish, Publisher.publishEach, Publisher.publishOne, sample, isTest, isListing]

end Auditor

end Runbook
