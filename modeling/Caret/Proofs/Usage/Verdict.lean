import Caret.Proofs.Usage.Acceptance

/-!
What a report says about the command line. Its location names one argument: the place behind the
last one when something is missing, and otherwise the first argument with which no sentence goes
on. Which of the two it is depends on whether more arguments could have helped.
-/
namespace Caret.Usage

def commandLine (isError : Bool) (words : Words) : Words := commandWord isError :: words

/-- Some sentence begins like this. -/
def Viable (isError : Bool) (line : Words) : Prop :=
  ∃ s : Sentence, s.isError = isError ∧ line <+: commandLine isError s.words

def argumentIndex (isError : Bool) (words : Words) (l : Location) : Int :=
  ((lineGroups isError words).take (l.line - 1).toNat).flatten.length + l.col - 1

/-- The argument at a place of the command line is the first one that is not acceptable. -/
structure FirstUnacceptable (isError : Bool) (words : Words) (i : Nat) (word : String) : Prop where
  argument : (commandLine isError words)[i]? = some word
  before : Viable isError ((commandLine isError words).take i)
  within : ¬ Viable isError ((commandLine isError words).take (i + 1))

theorem reports_index (isError : Bool) (words : Words) {d : Diagnostic} {n : Nat} {c : Complaint}
    (reports : Reports d (n + 1) c) : argumentIndex isError words d.location =
      ((lineGroups isError words).take n).flatten.length + c.position - 1 := by
  rw [argumentIndex, reports.location]
  have back : ((n : Int) + 1 - 1).toNat = n := by omega
  rw [back]

theorem first_unacceptable_at {isError : Bool} {front rest more : Words} {word : String}
    (reachable : ∃ r, Request.read isError (front ++ more) = .ok r)
    (settled : ∀ tail, ∃ e, Request.read isError (front ++ word :: tail) = .error e) :
    FirstUnacceptable isError (front ++ word :: rest) (front.length + 1) word := by
  refine ⟨?_, ?_, ?_⟩
  · simp [commandLine]
  · obtain ⟨r, run⟩ := reachable
    obtain ⟨s, kind, same, _⟩ := read_ok run
    refine ⟨s, kind, ?_⟩
    simp [commandLine, same]
  · rintro ⟨s, rfl, tail, same⟩
    obtain ⟨e, failed⟩ := settled tail
    have whole : front ++ word :: tail = s.words := by
      simpa [commandLine, List.take_append, List.take_of_length_le] using same
    rw [whole, read_sentence] at failed
    cases failed

/-- A report shows one line with one marker, and its location names an argument: the next one, for
which the marker keeps a place, or the first unacceptable one, at which it points. -/
theorem report_names_argument (isError : Bool) (path : String) (line : Int) (style : MarkerStyle)
    (words : Words) (d : Diagnostic)
    (rejected : (parse isError path line style words).value = .error (.usage d)) :
    ∃ (code : String) (l : Line) (m : Marker),
      d.level = .error code ∧ d.excerpt.lines = [l] ∧ l.marker = some m ∧
      Text.hasBreak l.text = false ∧ d.location.path = "arg" ∧ d.location.line = l.number ∧
      (code = "MISSING" ∧
          argumentIndex isError words d.location = (commandLine isError words).length ∧
          Beyond m.span l.text ∨
        code = "INVALID" ∧ ∃ (i : Nat) (word : String),
          argumentIndex isError words d.location = i ∧
          FirstUnacceptable isError words i word ∧ Under m.span l.text word) := by
  obtain ⟨n, c, run, reports⟩ := usage_mistake path line style rejected
  have index := reports_index isError words reports
  obtain ⟨level, location, l, m, lines, text, number, marked, span⟩ := reports
  refine ⟨c.verdict.code, l, m, level, lines, marked, l.unbroken, ?_, ?_, ?_⟩
  · rw [location]
  · rw [location, number]
  · rw [index, text, span]
    cases read_explained run with
    | atEnd shown placed _ _ _ =>
      refine .inl ⟨by rw [shown.verdict]; rfl, ?_, shown.beyond⟩
      rw [placed, commandLine, List.length_cons]
      omega
    | atWord front word rest shown split placed settled more reachable =>
      refine .inr ⟨by rw [shown.verdict]; rfl, front.length + 1, word, ?_, ?_, shown.under⟩
      · rw [placed]
        omega
      · rw [split]
        exact first_unacceptable_at reachable fun tail => ⟨_, settled tail⟩

theorem report_names_misspelt_keyword :
    ∃ (d : Diagnostic) (l : Line) (m : Marker),
      (parse false "main.rs" 7 {} ["m", "let x", "4-4", "note", "n", "fx"]).value =
        .error (.usage d) ∧
      d.location = ⟨"arg", 3, 1⟩ ∧ d.excerpt.lines = [l] ∧ l.marker = some m ∧
      FirstUnacceptable false ["m", "let x", "4-4", "note", "n", "fx"] 6 "fx" ∧
      Under m.span l.text "fx" := by
  have rejected : (parse false "main.rs" 7 {} ["m", "let x", "4-4", "note", "n", "fx"]).value =
    .error (.usage _) := rfl
  obtain ⟨code, l, m, level, lines, marked, _, _, _, cases⟩ :=
    report_names_argument _ _ _ _ _ _ rejected
  refine ⟨_, l, m, rejected, rfl, lines, marked, ?_⟩
  rcases cases with ⟨rfl, _⟩ | ⟨_, i, word, index, first, under⟩
  · have other : Level.error "INVALID" = .error "MISSING" := level
    exact absurd other (by decide)
  · have six : argumentIndex false ["m", "let x", "4-4", "note", "n", "fx"] ⟨"arg", 3, 1⟩ = 6 := by
      simp [argumentIndex, lineGroups, commandSlots, tripleSlots, cut, extent]
    obtain rfl : i = 6 := by
      have : ((i : Nat) : Int) = 6 := index.symm.trans six
      omega
    obtain rfl : word = "fx" := by simpa [commandLine] using first.argument.symm
    exact ⟨first, under⟩

theorem accepts_iff_read {line : Int} (isError : Bool) (path : String) (style : MarkerStyle)
    (words : Words) (numbered : 1 ≤ line) :
    (∃ d, (parse isError path line style words).value = .ok d) ↔
      ∃ r, Request.read isError words = .ok r := by
  constructor
  · rintro ⟨d, accepted⟩
    obtain ⟨s, rfl, rfl⟩ := accepted_sentence path line style accepted
    exact ⟨s.request, read_sentence s⟩
  · rintro ⟨r, run⟩
    obtain ⟨s, rfl, rfl, _⟩ := read_ok run
    obtain ⟨d, _, accepted⟩ := parse_sentence path line style s numbered
    exact ⟨d, accepted⟩

theorem verdict_code_unique {a b : Verdict} (same : a.code = b.code) : a = b := by
  cases a <;> cases b <;> first | rfl | simp [Verdict.code] at same

theorem verdict_iff_read (isError : Bool) (path : String) (line : Int) (style : MarkerStyle)
    (words : Words) (verdict : Verdict) :
    (∃ d, (parse isError path line style words).value = .error (.usage d) ∧
        d.level = .error verdict.code) ↔
      ∃ n c, Request.read isError words = .error (n, c) ∧ c.verdict = verdict := by
  constructor
  · rintro ⟨d, rejected, level⟩
    obtain ⟨n, c, run, reports⟩ := usage_mistake path line style rejected
    refine ⟨n, c, run, verdict_code_unique ?_⟩
    simpa [level] using reports.level.symm
  · rintro ⟨n, c, run, rfl⟩
    obtain ⟨d, rejected, reports⟩ := parse_mistake path line style run
    exact ⟨d, rejected, reports.level⟩

theorem read_missing_iff (isError : Bool) (words : Words) :
    (∃ n c, Request.read isError words = .error (n, c) ∧ c.verdict = .missing) ↔
      (¬ ∃ r, Request.read isError words = .ok r) ∧
        ∃ more, more ≠ [] ∧ ∃ r, Request.read isError (words ++ more) = .ok r := by
  constructor
  · rintro ⟨n, c, run, missing⟩
    refine ⟨by simp [run], ?_⟩
    cases read_explained run with
    | atEnd shown placed more some accepted => exact ⟨more, some, accepted⟩
    | atWord front word rest shown split placed settled more reachable =>
      cases missing.symm.trans shown.verdict
  · rintro ⟨rejected, more, some, r, accepted⟩
    cases run : Request.read isError words with
    | ok r => exact absurd ⟨r, run⟩ rejected
    | error mistake =>
      obtain ⟨n, c⟩ := mistake
      refine ⟨n, c, rfl, ?_⟩
      cases read_explained run with
      | atEnd shown _ _ _ _ => exact shown.verdict
      | atWord front word rest shown split placed settled _ _ =>
        rw [split, List.append_assoc, List.cons_append, settled] at accepted
        cases accepted

theorem read_invalid_final {isError : Bool} {words : Words} {n : Nat} {c : Complaint}
    (run : Request.read isError words = .error (n, c)) (invalid : c.verdict = .invalid)
    (more : Words) : Request.read isError (words ++ more) = .error (n, c) := by
  cases read_explained run with
  | atEnd shown _ _ _ _ => cases invalid.symm.trans shown.verdict
  | atWord front word rest shown split placed settled _ _ =>
    rw [split, List.append_assoc, List.cons_append]
    exact settled (rest ++ more)

theorem read_invalid_iff (isError : Bool) (words : Words) :
    (∃ n c, Request.read isError words = .error (n, c) ∧ c.verdict = .invalid) ↔
      ∀ more, ¬ ∃ r, Request.read isError (words ++ more) = .ok r := by
  constructor
  · rintro ⟨n, c, run, invalid⟩ more ⟨r, accepted⟩
    rw [read_invalid_final run invalid more] at accepted
    cases accepted
  · intro never
    cases run : Request.read isError words with
    | ok r => exact absurd ⟨r, by rw [List.append_nil, run]⟩ (never [])
    | error mistake =>
      obtain ⟨n, c⟩ := mistake
      refine ⟨n, c, rfl, ?_⟩
      cases read_explained run with
      | atEnd shown placed more some accepted => exact absurd accepted (never more)
      | atWord _ _ _ shown _ _ _ _ _ => exact shown.verdict

/-- Something is missing exactly when more arguments help, and something is invalid exactly when
none do; then what follows is not looked at. -/
theorem verdict_by_continuation (isError : Bool) (path : String) (line : Int) (style : MarkerStyle)
    (words : Words) (numbered : 1 ≤ line) :
    ((∃ d, (parse isError path line style words).value = .error (.usage d) ∧
        d.level = .error "MISSING") ↔
      (¬ ∃ d, (parse isError path line style words).value = .ok d) ∧
        ∃ more, more ≠ [] ∧ ∃ d, (parse isError path line style (words ++ more)).value = .ok d) ∧
    ((∃ d, (parse isError path line style words).value = .error (.usage d) ∧
        d.level = .error "INVALID") ↔
      ∀ more, ¬ ∃ d, (parse isError path line style (words ++ more)).value = .ok d) ∧
    ∀ d, (parse isError path line style words).value = .error (.usage d) →
      d.level = .error "INVALID" →
      ∀ more, parse isError path line style (words ++ more) =
        parse isError path line style words := by
  simp only [accepts_iff_read _ _ _ _ numbered]
  refine ⟨?_, ?_, ?_⟩
  · exact (verdict_iff_read isError path line style words .missing).trans
      (read_missing_iff isError words)
  · exact (verdict_iff_read isError path line style words .invalid).trans
      (read_invalid_iff isError words)
  · intro d rejected level more
    obtain ⟨n, c, run, invalid⟩ :=
      (verdict_iff_read isError path line style words .invalid).mp ⟨d, rejected, level⟩
    rw [parse, parse, run, read_invalid_final run invalid more]

theorem inverted_span_final :
    (1 : Int) ≤ 7 ∧ ∀ more, ¬ ∃ d, (parse true "main.rs" 7 {}
      (["E1", "m", "let x", "5-4"] ++ more)).value = .ok d := by
  refine ⟨by decide, ?_⟩
  exact (verdict_by_continuation true "main.rs" 7 {} ["E1", "m", "let x", "5-4"]
    (by decide)).2.1.mp ⟨_, rfl, rfl⟩

end Caret.Usage
