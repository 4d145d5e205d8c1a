import Caret.Proofs.CommandLine.Environment
import Caret.Proofs.CommandLine.Verbosity

namespace Caret.CommandLine
open Log

/-- The run looks at the variable for the log level. -/
inductive Consults (lib : Libraries) (argv : List String) : Prop
  | intro {o : Options} {command : Option Command} (options : lib.kit.opening argv = .opened o)
      (word : commandWord o.rest = .ok command) (silent : o.verbose = 0)

theorem start_unreadable {text : String} (unreadable : Unreadable text) :
    ∃ e, startLevel 0 (some text) = .error e := by
  obtain ⟨e, failed⟩ := unreadable_iff.mpr unreadable
  have requested : requestedLevel 0 (some text) = .error e := (environment_text text).trans failed
  exact ⟨e, by rw [startLevel, requested]⟩

theorem start_fails {count : Nat} {text : String} {e : Text.NumeralError}
    (failed : startLevel count (some text) = .error e) : count = 0 ∧ Unreadable text := by
  rcases Nat.eq_zero_or_pos count with rfl | louder
  · refine ⟨rfl, unreadable_iff.mp ?_⟩
    cases heard : parseLevel text with
    | error e => exact ⟨e, rfl⟩
    | ok asked =>
      rw [Int.natCast_zero, start_unasked ((environment_text text).trans heard)] at failed
      cases failed
  · obtain ⟨level, starts⟩ := start_louder louder (some text)
    rw [starts] at failed
    cases failed

section
variable {lib : Libraries} {argv : List String} {text : String}

theorem readable_alike (documented : lib.kit.Documented) {files : Files.System}
    (heard : ¬ (Unreadable text ∧ Consults lib argv)) :
    (perform lib { files, logLevel := some text } argv).Alike (perform lib { files } argv) := by
  cases opening : lib.kit.opening argv with
  | mistaken message =>
    rw [perform_muted documented (stages_mistaken opening),
      perform_muted documented (stages_mistaken opening)]
    exact alike_refl _
  | answered text =>
    rw [perform_muted documented (stages_answered opening),
      perform_muted documented (stages_answered opening)]
    exact alike_refl _
  | opened o =>
    cases word : commandWord o.rest with
    | error stranger =>
      rw [perform_muted documented (stages_unknown opening word),
        perform_muted documented (stages_unknown opening word)]
      exact alike_refl _
    | ok command =>
      obtain ⟨level, starts⟩ := start_unset o.verbose
      have reaches : Reaches lib { files } argv o command level := ⟨opening, word, starts⟩
      cases logging : startLevel o.verbose (some text) with
      | error e =>
        obtain ⟨silent, unreadable⟩ := start_fails logging
        exact absurd ⟨unreadable, .intro opening word silent⟩ heard
      | ok level' =>
        have reaches' : Reaches lib { files, logLevel := some text } argv o command level' :=
          ⟨opening, word, logging⟩
        rw [perform_reaches documented reaches, perform_reaches documented reaches']
        exact behind_alike _ _ _ _ _ _

theorem unreadable_fails (documented : lib.kit.Documented) (files : Files.System)
    (unreadable : Unreadable text) (consults : Consults lib argv) :
    ∃ e, perform lib { files, logLevel := some text } argv =
      { exitCode := 1, console := {}, escaped := some (.crash (.level e)) } := by
  obtain ⟨options, word, silent⟩ := consults
  rename_i o command
  obtain ⟨e, failed⟩ := start_unreadable unreadable
  have unlogged : startLevel o.verbose (some text) = .error e := by
    rw [silent]
    exact failed
  exact ⟨e, perform_muted documented (stages_unlogged options word unlogged)⟩

/-- A text names a level, or none, or cannot be read, which are digits that are not a number. The
last is the only one to matter for how a run ends, and only where the run looks at it: then it ends
the run without a report. -/
theorem level_text_answered (text : String) :
    (∀ n, parseLevel text = .ok (some n) ↔ Names text n) ∧
    (parseLevel text = .ok none ↔ ¬ Unreadable text ∧ ∀ n, ¬ Names text n) ∧
    ((∃ e, parseLevel text = .error e) ↔ Unreadable text) ∧
    ∀ lib : Libraries, lib.kit.Documented → ∀ files argv,
      (¬ (Unreadable text ∧ Consults lib argv) →
        (perform lib { files, logLevel := some text } argv).Alike (perform lib { files } argv)) ∧
      (Unreadable text → Consults lib argv →
        ∃ e, perform lib { files, logLevel := some text } argv =
          { exitCode := 1, console := {}, escaped := some (.crash (.level e)) }) :=
  ⟨fun _ => names_iff, unnamed_iff, unreadable_iff, fun _ documented files _ =>
    ⟨readable_alike documented, unreadable_fails documented files⟩⟩

theorem help_consults : Consults Standard.terse ["help"] :=
  @Consults.intro Standard.terse ["help"] { rest := ["help"] } (some .help) rfl rfl rfl

theorem level_text_answered_scripts :
    Names " \u0661\u0660" 10 ∧ Unreadable "1\u2460" ∧ Standard.terse.kit.Documented ∧
      Consults Standard.terse ["help"] ∧
      (perform Standard.terse { nowhere with logLevel := some " \u0661\u0660" } ["help"]).Alike
        (perform Standard.terse nowhere ["help"]) ∧
      ∃ e, perform Standard.terse { nowhere with logLevel := some "1\u2460" } ["help"] =
        { exitCode := 1, console := {}, escaped := some (.crash (.level e)) } := by
  obtain ⟨named, -, unread, runs⟩ := level_text_answered " \u0661\u0660"
  obtain ⟨-, -, unread', runs'⟩ := level_text_answered "1\u2460"
  have number : parseLevel " \u0661\u0660" = .ok (some 10) := by decide +kernel
  have failed : parseLevel "1\u2460" = .error (.notDecimal "1\u2460") := by decide +kernel
  have unreadable := unread'.mp ⟨_, failed⟩
  have readable : ¬ Unreadable " \u0661\u0660" := by
    intro other
    obtain ⟨e, failed⟩ := unread.mpr other
    rw [number] at failed
    cases failed
  refine ⟨(named 10).mp number, unreadable, Standard.documented, help_consults, ?_, ?_⟩
  · exact (runs Standard.terse Standard.documented nowhere.files ["help"]).1
      fun both => readable both.1
  · exact (runs' Standard.terse Standard.documented nowhere.files ["help"]).2 unreadable
      help_consults

/-- For a superscript digit there is neither a level nor none, and the run fails that would succeed
without it. -/
theorem superscript_level_fails :
    (∃ e, parseLevel "\u00b2" = .error e) ∧ (∀ asked, parseLevel "\u00b2" ≠ .ok asked) ∧
      (perform Standard.terse { nowhere with logLevel := some "\u00b2" } ["help"]).exitCode = 1 ∧
      (perform Standard.terse nowhere ["help"]).exitCode = 0 := by
  have failed : parseLevel "\u00b2" = .error (.notDecimal "\u00b2") := by decide +kernel
  have unreadable := unreadable_iff.mp ⟨_, failed⟩
  obtain ⟨e, ends⟩ := unreadable_fails Standard.terse_documented nowhere.files
    unreadable help_consults
  have reaches : Reaches Standard.terse nowhere ["help"] { rest := ["help"] } (some .help)
      critical := ⟨rfl, rfl, rfl⟩
  refine ⟨⟨_, failed⟩, ?_, congrArg Ending.exitCode ends, ?_⟩
  · intro asked read
    rw [failed] at read
    cases read
  · rw [perform_quiet Standard.terse_documented reaches]
    rfl

end

end Caret.CommandLine
