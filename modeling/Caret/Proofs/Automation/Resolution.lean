import Caret.Proofs.Automation.Lineup
import Caret.Proofs.Settings.Loading

namespace Caret.Automation
open Document Text Files

section
variable {running : Version} {document : Table} {cs : List String}

theorem supported_legible (lists : Lists document cs) (legible : ∀ c ∈ cs, ¬ Garbled c) :
    ∃ s, supported running document = .ok s := by
  obtain ⟨vs, read, -⟩ := versions_read legible
  exact ⟨settle running vs, by rw [supported_listed lists, read]; rfl⟩

theorem supported_failed {e : VersionError} (lists : Lists document cs)
    (failed : supported running document = .error e) :
    ∃ front c back cause, cs = front ++ c :: back ∧ (∀ d ∈ front, ¬ Garbled d) ∧ Garbled c ∧
      versionOf c = .error cause ∧ e = .numeral cause := by
  by_cases illegible : ∃ c ∈ cs, Garbled c
  · obtain ⟨front, c, back, cause, split, legible, garbled, unread, whole⟩ :=
      versions_first_garbled illegible
    rw [supported_listed lists, whole] at failed
    cases failed
    exact ⟨front, c, back, cause, split, legible, garbled, unread, rfl⟩
  · have legible : ∀ c ∈ cs, ¬ Garbled c := fun c listed garbled => illegible ⟨c, listed, garbled⟩
    obtain ⟨s, returned⟩ := supported_legible lists legible
    rw [returned] at failed
    cases failed

/-- There is a result unless a classifier has digits that are not numerals. The first such one is
what a failure is about, and a classifier without two runs of digits changes nothing. -/
theorem classifiers_resolved (lists : Lists document cs) :
    ((∃ s, supported running document = .ok s) ↔ ∀ c ∈ cs, ¬ Garbled c) ∧
    (∀ e, supported running document = .error e → ∃ front c back cause, cs = front ++ c :: back ∧
      (∀ d ∈ front, ¬ Garbled d) ∧ Garbled c ∧ versionOf c = .error cause ∧ e = .numeral cause) ∧
    ∀ front c back, cs = front ++ c :: back → ¬ Stating c →
      ∀ document', Lists document' (front ++ back) →
        supported running document' = supported running document := by
  refine ⟨⟨?returned, supported_legible lists⟩, fun e => supported_failed lists, ?passed⟩
  case returned =>
    rintro ⟨s, returned⟩ c listed garbled
    obtain ⟨front, d, back, e, -, -, -, -, failed⟩ := versions_first_garbled ⟨c, listed, garbled⟩
    rw [supported_listed lists, failed] at returned
    cases returned
  case passed =>
    rintro front c back rfl plain document' lists'
    rw [supported_listed lists, supported_listed lists', versions_without plain]

end

theorem classifiers_resolved_garbled :
    let short := classifierStart ++ "3"
    let odd := classifierStart ++ "3.\u00b2"
    Lists (listing [short, odd]) [short, odd] ∧ ¬ Stating short ∧ Garbled odd ∧
      (¬ ∃ s, supported ⟨3, 11⟩ (listing [short, odd]) = .ok s) ∧
      supported ⟨3, 11⟩ (listing [odd]) = supported ⟨3, 11⟩ (listing [short, odd]) ∧
      (∃ s, supported ⟨3, 11⟩ (listing [short]) = .ok s) := by
  intro short odd
  have plain : ¬ Stating short := plain_iff.mp (by decide +kernel)
  have unread : versionOf odd = .error (.notDecimal "\u00b2") := by decide +kernel
  have garbled : Garbled odd := unread_garbled unread
  obtain ⟨returned, -, passed⟩ := classifiers_resolved (listing_lists [short, odd])
  obtain ⟨alone, -, -⟩ := classifiers_resolved (listing_lists [short])
  refine ⟨listing_lists _, plain, garbled, ?_, ?_, alone.mpr ?_⟩
  · rw [returned]
    exact fun legible => legible odd (by simp) garbled
  · exact passed [] short [odd] rfl plain _ (listing_lists [odd])
  · intro c listed
    rw [List.mem_singleton.mp listed]
    exact fun stated => plain (garbled_stating stated)

def superscriptProject : String :=
  "[project]\nclassifiers = [\"Programming Language :: Python :: \u00b2.1\"]\n"

theorem superscript_project_read :
    classifiers? ((Toml.parse (unifyBreaks superscriptProject.toList)).getD []) =
      some [classifierStart ++ "\u00b2.1"] := by
  decide +kernel

/-- The digit states no version, and the classifier is not passed over. -/
theorem superscript_version_fails :
    let home : Path := Path.ofText "/work"
    let files : System := ⟨.ok {}, fun _ => .ok (.file superscriptProject.toUTF8)⟩
    let classifier := classifierStart ++ "\u00b2.1"
    Lists (projectDocument home files) [classifier] ∧ (∀ v, ¬ States classifier v) ∧
      resolve ⟨3, 11⟩ home files = .error (.numeral (.notDecimal "\u00b2")) := by
  intro home files classifier
  have document : projectDocument home files =
      (Toml.parse (unifyBreaks superscriptProject.toList)).getD [] := by
    simp only [projectDocument, files, System.readBytes, Settings.decode_text, Option.bind_some]
  have lists : Lists (projectDocument home files) [classifier] := by
    rw [document]
    exact classifiers_listed superscript_project_read
  have unread : versionOf classifier = .error (.notDecimal "\u00b2") := by decide +kernel
  refine ⟨lists, fun v states => states_not_garbled states (unread_garbled unread), ?_⟩
  rw [resolve, supported_listed lists, versions_failed unread]
  rfl

end Caret.Automation
