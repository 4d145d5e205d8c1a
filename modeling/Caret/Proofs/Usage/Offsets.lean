import Caret.Proofs.Usage.Acceptance
import Caret.Proofs.Usage.Passes

namespace Caret.Usage
open Text

/-- Every report on the complaint shows the echo on one line, escaped once, and its marker has the
given place in that line. -/
structure Complaint.Displays (c : Complaint) (echo : String) (place : Span → String → Prop) :
    Prop where
  reported : ∀ group, 1 ≤ group → ∃ d, (c.fail group).value = .usage d
  shown : ∀ group d, (c.fail group).value = .usage d → ∃ l m, d.excerpt.lines = [l] ∧
    l.marker = some m ∧ l.text = escapeBreaks echo ∧ place m.span l.text

def Complaint.Behind (c : Complaint) (echo : String) : Prop := c.Displays echo Beyond

def Complaint.Marks (c : Complaint) (echo word : String) : Prop :=
  c.Displays echo fun span text => Under span text word

theorem displays {c : Complaint} {echo : String} {place : Span → String → Prop}
    (unbroken : hasBreak c.echo = false) (text : c.echo = escapeBreaks echo)
    (placed : place c.span c.echo) : c.Displays echo place := by
  constructor
  · intro group counted
    obtain ⟨d, failed, _⟩ := fail_reports group unbroken counted
    exact ⟨d, failed⟩
  · intro group d failed
    obtain ⟨l, m, lines, shown, _, marked, span⟩ := (report_reports (fail_built failed)).lines
    refine ⟨l, m, lines, marked, shown.trans text, ?_⟩
    rw [shown, span]
    exact placed

theorem shows_marks {c : Complaint} {echo word : String} (shows : c.Shows word)
    (text : c.echo = escapeBreaks echo) : c.Marks echo word :=
  displays shows.unbroken text shows.under

theorem missing_behind (message what : String) (position : Int) (echo : String)
    (hints : List String) : (Complaint.missing message what position echo hints).Behind echo :=
  displays (hasBreak_escapeBreaks echo) rfl
    (missing_at_end message what position echo hints).beyond

theorem invalid_marks (message : String) (position : Int) (remark : String) (hints : List String)
    {before word after : String} (empty : word = "" → after = "") :
    (Complaint.invalid message position (before ++ escapeBreaks word ++ after)
      (Span.ofWord (escapeBreaks before).length (escapeBreaks word).length) remark hints).Marks
      (before ++ word ++ after) word := by
  have text : escapeBreaks (before ++ escapeBreaks word ++ after) =
      escapeBreaks before ++ escapeBreaks word ++ escapeBreaks after := by
    rw [escapeBreaks_append, escapeBreaks_append, escapeBreaks_twice]
  refine shows_marks ⟨rfl, hasBreak_escapeBreaks _, under_between _ _ text rfl ?_⟩ ?_
  · intro none
    rw [empty none]
    rfl
  · rw [escapeBreaks_append, escapeBreaks_append]
    exact text

theorem broken_line_marks (what : String) (position : Int) (echo : String) {word : String}
    (broken : Broken word) :
    (Reading.brokenLine what position echo word).Marks (echo ++ " '" ++ word ++ "'") word := by
  have shows := broken_line_shows what position echo word ((has_break_iff word).mpr broken)
  refine shows_marks shows ?_
  simp only [Reading.brokenLine, Complaint.invalid, Reading.inQuotes, escapeBreaks_append,
    escapeBreaks_twice, String.append_assoc]
  rfl

theorem bad_span_marks (position : Int) (echo word : String) (cause : Span.ReadError) :
    (Reading.badSpan position echo word cause).Marks (echo ++ " " ++ word) word := by
  refine shows_marks (bad_span_shows position echo word cause) ?_
  simp only [Reading.badSpan, Complaint.invalid, escapeBreaks_append, escapeBreaks_twice]

def Refused {α : Type} (step : Pass α) (group : Int) (c : Cursor) (kind : Complaint → Prop) :
    Prop :=
  ∃ complaint after, step c = .error (complaint.fail group).value after ∧ kind complaint

theorem refused_of_ran {α : Type} {step : Pass α} {group : Int} {c : Cursor}
    {kind : Complaint → Prop} {complaint : Complaint} (after : Cursor)
    (ran : step c = Pass.refuse complaint group after)
    (shown : kind complaint) : Refused step group c kind :=
  ⟨complaint, _, ran, shown⟩

section
variable {c : Cursor} {word : String} {rest : Words} (what : String) (group position : Int)
  (echo : String)

theorem line_missing (nothing : c.left = []) :
    Refused (Pass.codeLine what group position echo) group c (·.Behind echo) := by
  refine refused_of_ran c ?_ (missing_behind ("must provide " ++ what) what position echo [])
  rw [Pass.codeLine, bind_ran (next_empty nothing)]

theorem line_broken (left : c.left = word :: rest) (broken : Broken word) :
    Refused (Pass.codeLine what group position echo) group c
      (·.Marks (echo ++ " '" ++ word ++ "'") word) := by
  refine refused_of_ran { c with position := c.position + 1 } ?_
    (broken_line_marks what position echo broken)
  rw [Pass.codeLine, bind_ran (next_taken left)]
  simp only [(has_break_iff word).mpr broken, if_true]

theorem span_missing (nothing : c.left = []) :
    Refused (Pass.span group position echo) group c (·.Behind echo) := by
  refine refused_of_ran c ?_ (missing_behind "must provide span" "span" position echo [])
  rw [Pass.span, bind_ran (next_empty nothing)]

theorem span_unread (left : c.left = word :: rest) {cause : Span.ReadError}
    (unread : Span.parse word = .error cause) :
    Refused (Pass.span group position echo) group c (·.Marks (echo ++ " " ++ word) word) := by
  refine refused_of_ran { c with position := c.position + 1 } ?_
    (bad_span_marks position echo word cause)
  rw [Pass.span, bind_ran (next_taken left)]
  simp only [unread]

end

/-- Escaping is done character by character, in two passes, and a second time it changes nothing. So
no echo that is escaped in parts and then as a whole loses the place of its marker, which is behind
the end for something missing and under the escaped word for a word that is refused. -/
theorem escapes_keep_places :
    (∀ s, (escapeBreaks s).toList =
      spellOut '\n' ['\\', 'n'] (spellOut '\r' ['\\', 'r'] s.toList)) ∧
    (∀ s t, escapeBreaks (s ++ t) = escapeBreaks s ++ escapeBreaks t) ∧
    (∀ s, escapeBreaks (escapeBreaks s) = escapeBreaks s) ∧
    (∀ s, ¬ Broken (escapeBreaks s)) ∧
    (∀ s, (escapeBreaks s).length = s.length + s.toList.count '\n' + s.toList.count '\r') ∧
    (∀ s, escapeBreaks s = s ↔ ¬ Broken s) ∧
    (∀ message what position echo hints,
      (Complaint.missing message what position echo hints).Behind echo) ∧
    (∀ message position remark hints before word after, (word = "" → after = "") →
      (Complaint.invalid message position (before ++ escapeBreaks word ++ after)
        (Span.ofWord (escapeBreaks before).length (escapeBreaks word).length) remark hints).Marks
        (before ++ word ++ after) word) ∧
    ∀ what group position echo (c : Cursor),
      (c.left = [] →
        Refused (Pass.codeLine what group position echo) group c (·.Behind echo) ∧
        Refused (Pass.span group position echo) group c (·.Behind echo)) ∧
      ∀ word rest, c.left = word :: rest →
        (Broken word → Refused (Pass.codeLine what group position echo) group c
          (·.Marks (echo ++ " '" ++ word ++ "'") word)) ∧
        ((∀ s, Span.parse word ≠ .ok s) → Refused (Pass.span group position echo) group c
          (·.Marks (echo ++ " " ++ word) word)) := by
  refine ⟨escapeBreaks_passes, escapeBreaks_append, escapeBreaks_twice, ?unbroken,
    escapeBreaks_length, fun s => escapeBreaks_eq_self_iff, missing_behind, ?invalid, ?readers⟩
  case unbroken =>
    intro s
    exact escapeBreaks_eq_self_iff.mp (escapeBreaks_twice s)
  case invalid =>
    intro message position remark hints before word after empty
    exact invalid_marks message position remark hints empty
  case readers =>
    intro what group position echo c
    refine ⟨fun nothing => ⟨line_missing what group position echo nothing,
      span_missing group position echo nothing⟩, ?_⟩
    intro word rest left
    refine ⟨line_broken what group position echo left, ?_⟩
    intro unread
    cases read : Span.parse word with
    | ok s => exact absurd read (unread s)
    | error cause => exact span_unread group position echo left read

theorem escapes_keep_places_mixed :
    let echo := "fix 'a\nb'"
    let word := "x\r\ny"
    let c : Cursor := { words := ["fix", "a\nb", word], position := 2 }
    (c.left = [word] ∧ Broken word ∧ ∀ s, Span.parse word ≠ .ok s) ∧
    Refused (Pass.codeLine "help code" 2 3 echo) 2 c (·.Marks (echo ++ " '" ++ word ++ "'") word) ∧
    Refused (Pass.span 2 3 echo) 2 c (·.Marks (echo ++ " " ++ word) word) ∧
    (({ c with position := 3 } : Cursor).left = [] ∧
      Refused (Pass.span 2 3 echo) 2 { c with position := 3 } (·.Behind echo)) ∧
    (word = "" → "'" = "") ∧
      (Complaint.invalid "m" 1 ("'" ++ escapeBreaks word ++ "'")
        (Span.ofWord (escapeBreaks "'").length (escapeBreaks word).length) "r" []).Marks
        ("'" ++ word ++ "'") word := by
  intro echo word c
  obtain ⟨-, -, -, -, -, -, -, invalid, readers⟩ := escapes_keep_places
  have broken : Broken word := .inl (by decide)
  have unread : ∀ s, Span.parse word ≠ .ok s := by
    intro s read
    have refused : Span.parse word = .error (.malformed word) := by decide
    rw [refused] at read
    cases read
  have some : word = "" → "'" = "" := by decide
  obtain ⟨line, span⟩ := (readers "help code" 2 3 echo c).2 word [] rfl
  have ended := (readers "help code" 2 3 echo { c with position := 3 }).1 rfl
  exact ⟨⟨rfl, broken, unread⟩, line broken, span unread, ⟨rfl, ended.2⟩, some,
    invalid "m" 1 "r" [] "'" word "'" some⟩

end Caret.Usage
