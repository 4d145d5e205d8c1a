import Caret.Proofs.CommandLine.Logged
import Caret.Proofs.Usage.Layout

namespace Caret.CommandLine
open Log Usage

def Report (d : Diagnostic) : Prop := d.level = .error "MISSING" ∨ d.level = .error "INVALID"

theorem report_of_reports {d : Diagnostic} {group : Int} {c : Complaint}
    (reports : Reports d group c) : Report d := by
  have level := reports.level
  cases verdict : c.verdict with
  | missing =>
    rw [verdict] at level
    exact .inl level
  | invalid =>
    rw [verdict] at level
    exact .inr level

theorem complain_value {c : Complaint} {d : Diagnostic} (built : (c.report 1).value = .ok d) :
    (complain c).value = .error (.fault (.usage d)) := by
  simp only [complain, Complaint.fail, Traced.bind_value, built, Traced.pure_value, stopWith]

theorem complain_reported {c : Complaint} (unbroken : Text.hasBreak c.echo = false) :
    ∃ d, Report d ∧ (complain c).value = .error (.fault (.usage d)) := by
  obtain ⟨d, failed, reports⟩ := fail_reports 1 unbroken (by decide)
  have value : (complain c).value = .error (stopWith (c.fail 1).value) := rfl
  refine ⟨d, report_of_reports reports, ?_⟩
  rw [value, failed]
  rfl

theorem one_writable : Drawing.Writable 1 := Nat.one_lt_pow (by decide) (by decide)

theorem parse_ends (isError : Bool) (path : String) {line : Int} (style : MarkerStyle)
    (words : Words) (numbered : 1 ≤ line) :
    (∃ d, (parse isError path line style words).value = .ok d) ∨
      ∃ d, Report d ∧ (parse isError path line style words).value = .error (.usage d) := by
  cases run : Request.read isError words with
  | error mistake =>
    obtain ⟨n, c⟩ := mistake
    obtain ⟨d, failed, reports⟩ := parse_mistake path line style run
    exact .inr ⟨d, report_of_reports reports, failed⟩
  | ok r =>
    obtain ⟨s, rfl, rfl, _⟩ := read_ok run
    obtain ⟨d, _, accepted⟩ := parse_sentence path line style s numbered
    exact .inl ⟨d, accepted⟩

section
variable {isError : Bool} {s : Settings} {path : String} {line : Int} {words : Words}
  {d : Diagnostic}

theorem generate_drawn {text : String}
    (accepted : (parse isError path line s.markers words).value = .ok d)
    (drawn : (d.drawn s.palette).value = .ok text) :
    (generate isError ⟨s, path, line⟩ words).value = .ok (text ++ "\n") := by
  simp only [generate, Traced.bind_value, accepted, drawn, Traced.pure_value]

theorem generate_stopped {o : Drawing.Obstacle}
    (accepted : (parse isError path line s.markers words).value = .ok d)
    (stopped : (d.drawn s.palette).value = .error o) :
    (generate isError ⟨s, path, line⟩ words).value = .error (.crash (.drawing o)) := by
  simp only [generate, Traced.bind_value, accepted, stopped, Traced.pure_value]

theorem generate_reported
    (rejected : (parse isError path line s.markers words).value = .error (.usage d)) :
    (generate isError ⟨s, path, line⟩ words).value = .error (.fault (.usage d)) := by
  simp only [generate, Traced.bind_value, rejected, Traced.pure_value, stopWith]

end

theorem example_printed (s : Settings) : ∃ out, (showExample s).value = .ok out := by
  obtain ⟨d, parsed, -, -⟩ := example_parsed s.markers
  have drawn := example_drawn parsed
  have generated := generate_drawn parsed drawn
  refine ⟨exampleLine ++ "\n\n" ++ ((d.render s.palette).value ++ "\n"), ?_⟩
  simp only [showExample, Traced.bind_value, generated, Traced.pure_value]

def generator (isError : Bool) : Command := if isError then .error else .warning

theorem generator_draws (isError : Bool) : (generator isError).draws = true := by
  cases isError <;> rfl

theorem drawing_generator {c : Command} (draws : c.draws = true) :
    ∃ isError, c = generator isError := by
  cases c with
  | help => cases draws
  | «example» => cases draws
  | error => exact ⟨true, rfl⟩
  | warning => exact ⟨false, rfl⟩

theorem generator_run (isError : Bool) (common : Common) (words : List String) :
    (generator isError).run common words = generate isError common words := by
  cases isError <;> rfl

theorem reporting_drawn {d : Diagnostic} {text : String} (drawn : (d.drawn {}).value = .ok text) :
    reporting (.usage d) = { exitCode := 1, console := { err := text ++ "\n" } } := by
  simp only [reporting, Fault.shown, drawn]
  rfl

theorem reporting_stopped {d : Diagnostic} {o : Drawing.Obstacle}
    (stopped : (d.drawn {}).value = .error o) :
    reporting (.usage d) = crashed (.drawing o) := by
  simp only [reporting, Fault.shown, stopped]

end Caret.CommandLine
