import Caret.Proofs.Draft
import Caret.Proofs.Usage.Blame

namespace Caret.Usage

/-- A complaint as its reader sees it. -/
structure Reports (d : Diagnostic) (group : Int) (c : Complaint) : Prop where
  level : d.level = .error c.verdict.code
  location : d.location = ⟨"arg", group, c.position⟩
  lines : ∃ l m, d.excerpt.lines = [l] ∧ l.text = c.echo ∧ (l.number : Int) = group ∧
    l.marker = some m ∧ m.span = c.span

theorem report_reports {d : Diagnostic} {c : Complaint} {group : Int}
    (built : (c.report group).value = .ok d) : Reports d group c := by
  obtain ⟨level, location, l, excerpt, text, number, marked⟩ := draft_build_parts built
  refine ⟨level, location, l, _, ?_, text, number, marked, rfl⟩
  rw [excerpt]

theorem report_built {c : Complaint} {group : Int} (unbroken : Text.hasBreak c.echo = false)
    (positive : 0 < group) : ∃ d, (c.report group).value = .ok d := by
  have plain : ∀ h ∈ (c.draft group).helps, h.Unbroken := by
    intro h member s suggested
    obtain ⟨text, _, rfl⟩ := List.mem_map.mp member
    cases suggested
  exact draft_build_ok (d := c.draft group) {} unbroken plain positive

theorem fail_built {c : Complaint} {group : Int} {d : Diagnostic}
    (failed : (c.fail group).value = .usage d) : (c.report group).value = .ok d := by
  simp only [Complaint.fail, Traced.bind_value] at failed
  split at failed
  · rename_i built
    cases failed
    exact built
  · cases failed

theorem fail_reports {c : Complaint} (group : Int) (unbroken : Text.hasBreak c.echo = false)
    (positive : 0 < group) : ∃ d, (c.fail group).value = .usage d ∧ Reports d group c := by
  obtain ⟨d, built⟩ := report_built unbroken positive
  refine ⟨d, ?_, report_reports built⟩
  simp only [Complaint.fail, Traced.bind_value, built, Traced.pure_value]

section
variable {isError : Bool} {words : Words} (path : String) (line : Int) (style : MarkerStyle)

theorem parse_mistake {n : Nat} {c : Complaint}
    (run : Request.read isError words = .error (n, c)) :
    ∃ d, (parse isError path line style words).value = .error (.usage d) ∧
      Reports d (n + 1) c := by
  have unbroken : Text.hasBreak c.echo = false := by
    cases read_explained run with
    | atEnd shown _ _ _ _ => exact shown.unbroken
    | atWord _ _ _ shown _ _ _ _ _ => exact shown.unbroken
  obtain ⟨d, failed, reports⟩ := fail_reports (n + 1) unbroken (by omega)
  refine ⟨d, ?_, reports⟩
  rw [parse, run]
  exact congrArg Except.error failed

theorem sentence_unbroken (s : Sentence) : ∀ h ∈ (s.draft path line).helps, h.Unbroken := by
  intro h member d suggested
  obtain ⟨p, _, shown⟩ := List.mem_filterMap.mp member
  cases p with
  | note message => cases shown
  | help message =>
    cases shown
    cases suggested
  | fix message code span tip =>
    cases shown
    cases suggested
    exact code.unbroken

theorem parse_sentence (s : Sentence) (numbered : 1 ≤ line) :
    ∃ d, ((s.draft path line).build style).value = .ok d ∧
      (parse s.isError path line style s.words).value = .ok d := by
  obtain ⟨d, built⟩ := draft_build_ok (d := s.draft path line) style s.code.unbroken
    (sentence_unbroken path line s) numbered
  refine ⟨d, built, ?_⟩
  simp only [parse, read_sentence, request_draft, Traced.bind_value, built, Traced.pure_value]

/-- Arguments that are turned down have a mistake in them, unless the line cannot be numbered. -/
theorem usage_mistake {d : Diagnostic}
    (rejected : (parse isError path line style words).value = .error (.usage d)) :
    ∃ n c, Request.read isError words = .error (n, c) ∧ Reports d (n + 1) c := by
  cases run : Request.read isError words with
  | error mistake =>
    obtain ⟨n, c⟩ := mistake
    obtain ⟨d', failed, reports⟩ := parse_mistake path line style run
    obtain rfl : d = d' := by simpa [rejected] using failed
    exact ⟨n, c, rfl, reports⟩
  | ok r =>
    simp only [parse, run, Traced.bind_value] at rejected
    split at rejected <;> simp at rejected

theorem accepted_built {d : Diagnostic}
    (accepted : (parse isError path line style words).value = .ok d) :
    ∃ s : Sentence, s.isError = isError ∧ s.words = words ∧
      ((s.draft path line).build style).value = .ok d := by
  cases run : Request.read isError words with
  | error mistake =>
    obtain ⟨n, c⟩ := mistake
    obtain ⟨d', failed, _⟩ := parse_mistake path line style run
    simp [accepted] at failed
  | ok r =>
    obtain ⟨s, kind, same, rfl⟩ := read_ok run
    refine ⟨s, kind, same, ?_⟩
    simp only [parse, run, request_draft, Traced.bind_value] at accepted
    split at accepted
    · rename_i built
      cases accepted
      exact built
    · cases accepted

theorem accepted_sentence {d : Diagnostic}
    (accepted : (parse isError path line style words).value = .ok d) :
    ∃ s : Sentence, s.isError = isError ∧ s.words = words := by
  obtain ⟨s, kind, same, _⟩ := accepted_built path line style accepted
  exact ⟨s, kind, same⟩

/-- The reader accepts the sentences and nothing else. A sentence can be read in one way only, and
it gives the diagnostic that it describes; without a sentence there is a report. -/
theorem parse_reads_sentences (isError : Bool) (path : String) (line : Int) (style : MarkerStyle)
    (words : Words) (numbered : 1 ≤ line) :
    ((∃ d, (parse isError path line style words).value = .ok d) ↔
      ∃ s : Sentence, s.isError = isError ∧ s.words = words) ∧
    (∀ s : Sentence, s.isError = isError → s.words = words →
      (∀ t : Sentence, t.isError = isError → t.words = words → t = s) ∧
      ∃ d, ((s.draft path line).build style).value = .ok d ∧
        (parse isError path line style words).value = .ok d) ∧
    ((¬ ∃ s : Sentence, s.isError = isError ∧ s.words = words) →
      ∃ d, (parse isError path line style words).value = .error (.usage d)) := by
  refine ⟨⟨?_, ?_⟩, ?_, ?_⟩
  · rintro ⟨d, accepted⟩
    exact accepted_sentence path line style accepted
  · rintro ⟨s, rfl, rfl⟩
    obtain ⟨d, _, accepted⟩ := parse_sentence path line style s numbered
    exact ⟨d, accepted⟩
  · rintro s rfl rfl
    refine ⟨?_, parse_sentence path line style s numbered⟩
    intro t kind same
    exact sentence_words_unique kind same
  · intro none
    cases run : Request.read isError words with
    | error mistake =>
      obtain ⟨n, c⟩ := mistake
      obtain ⟨d, failed, _⟩ := parse_mistake path line style run
      exact ⟨d, failed⟩
    | ok r =>
      obtain ⟨s, kind, same, _⟩ := read_ok run
      exact absurd ⟨s, kind, same⟩ none

end

theorem parse_keywords_as_messages :
    (1 : Int) ≤ 7 ∧ ∃ d, (parse false "main.rs" 7 {}
      ["fix", "let x", "4-4", "note", "fix", "fix", "help", "let _x", "4-5", "span", "note"]).value =
        .ok d := by
  refine ⟨by decide, (parse_reads_sentences false "main.rs" 7 {} _ (by decide)).1.mpr ?_⟩
  exact ⟨⟨⟨.warning, "fix", ⟨"let x", by decide⟩, ⟨"4-4", ⟨4, 4, by decide⟩, by rfl⟩⟩,
    [.note "fix", .fix "help" ⟨"let _x", by decide⟩ ⟨"4-5", ⟨4, 5, by decide⟩, by rfl⟩
      (some "note")]⟩, rfl, rfl⟩

end Caret.Usage
