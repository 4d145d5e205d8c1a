import Caret.Proofs.CommandLine.Endings

/-!
Asking for more of the log. Requests in front of the arguments are counted, no stage but the set-up
of logging looks at the count, and records are written to the error stream only.
-/
namespace Caret.CommandLine
open Log Usage

structure Ending.Alike (a b : Ending) : Prop where
  exitCode : a.exitCode = b.exitCode
  out : a.console.out = b.console.out
  escaped : a.escaped = b.escaped

theorem alike_refl (e : Ending) : e.Alike e := ⟨rfl, rfl, rfl⟩

theorem behind_alike (look : Look) (s s' : Session) (rs rs' : List Record) (e : Ending) :
    (e.behind look s rs).Alike (e.behind look s' rs') := ⟨rfl, rfl, rfl⟩

/-- What the report on a mistake in the options repeats of the words. -/
def repeated (argv : List String) : String := Text.escapeBreaks (String.intercalate " " argv)

/-- With some requests for more a mistake is repeated in no more characters than can be counted. -/
def Repeatable (lib : Libraries) (argv : List String) (k : Nat) : Prop :=
  ∀ message, lib.kit.opening argv = .mistaken message →
    (repeated (List.replicate k "-v" ++ argv)).length < Drawing.wordLimit

theorem repeated_longer (argv : List String) (k : Nat) :
    (repeated argv).length ≤ (repeated (List.replicate k "-v" ++ argv)).length := by
  induction k with
  | zero => exact Nat.le_refl _
  | succ k ih =>
    refine Nat.le_trans ih ?_
    rw [List.replicate_succ, List.cons_append]
    cases List.replicate k "-v" ++ argv with
    | nil => exact Nat.zero_le _
    | cons word words =>
      rw [repeated, repeated, String.intercalate_cons_cons, Text.escapeBreaks_append,
        String.length_append]
      exact Nat.le_add_left _ _

section
variable {message : String} {argv : List String}

theorem invocation_drawn {d : Diagnostic} (short : (repeated argv).length < Drawing.wordLimit)
    (built : ((invalidInvocation message argv).report 1).value = .ok d) :
    ∃ text, (d.drawn {}).value = .ok text := by
  have counted : 0 < Drawing.wordLimit := by decide
  have width : (Span.ofWord 0 (repeated argv).length).width = (repeated argv).length - 1 + 1 := by
    simp [Span.width, Span.ofWord]
  refine report_drawn {} built one_writable one_writable counted ?_
  change (Span.ofWord 0 (repeated argv).length).width < _
  rw [width]
  have wide : 1 < Drawing.wordLimit := by decide
  omega

theorem mistaken_end (message : String) (argv : List String) :
    let e := closing (complain (invalidInvocation message argv)).value
    e.exitCode = 1 ∧ e.console.out = "" ∧
      ((repeated argv).length < Drawing.wordLimit → e.escaped = none) := by
  intro e
  obtain ⟨d, built⟩ := report_built (c := invalidInvocation message argv)
    (Text.hasBreak_escapeBreaks _) (by decide : (0 : Int) < 1)
  have ends : e = reporting (.usage d) := by
    change closing _ = _
    rw [complain_value built, closing]
  cases drawn : (d.drawn {}).value with
  | ok text =>
    rw [ends, reporting_drawn drawn]
    exact ⟨rfl, rfl, fun _ => rfl⟩
  | error o =>
    rw [ends, reporting_stopped drawn]
    refine ⟨rfl, rfl, ?_⟩
    intro short
    obtain ⟨text, shown⟩ := invocation_drawn short built
    cases drawn.symm.trans shown

end

section
variable {lib : Libraries}

theorem louder_mistaken {k : Nat} {argv : List String} {message : String}
    (documented : lib.kit.Documented) (wrong : lib.kit.opening argv = .mistaken message) :
    ∃ message', lib.kit.opening (List.replicate k "-v" ++ argv) = .mistaken message' := by
  have counted := documented.counted argv k
  rw [wrong] at counted
  generalize lib.kit.opening (List.replicate k "-v" ++ argv) = opening at counted ⊢
  cases counted
  exact ⟨_, rfl⟩

theorem louder_opened {k : Nat} {argv : List String} {o : Options}
    (documented : lib.kit.Documented) (options : lib.kit.opening argv = .opened o) :
    lib.kit.opening (List.replicate k "-v" ++ argv) = .opened (o.louder k) := by
  have counted := documented.counted argv k
  rw [options] at counted
  generalize lib.kit.opening (List.replicate k "-v" ++ argv) = opening at counted ⊢
  cases counted
  rfl

theorem mistaken_alike (documented : lib.kit.Documented) (files : Files.System)
    {argv : List String} {message : String} (k : Nat)
    (wrong : lib.kit.opening argv = .mistaken message) :
    ((perform lib { files } (List.replicate k "-v" ++ argv)).exitCode =
        (perform lib { files } argv).exitCode ∧
      (perform lib { files } (List.replicate k "-v" ++ argv)).console.out =
        (perform lib { files } argv).console.out) ∧
    (Repeatable lib argv k → (perform lib { files } (List.replicate k "-v" ++ argv)).Alike
      (perform lib { files } argv)) := by
  obtain ⟨message', wrong'⟩ := louder_mistaken (k := k) documented wrong
  rw [perform_muted documented (stages_mistaken wrong),
    perform_muted documented (stages_mistaken wrong')]
  obtain ⟨code, out, escaped⟩ := mistaken_end message argv
  obtain ⟨code', out', escaped'⟩ := mistaken_end message' (List.replicate k "-v" ++ argv)
  have ended := And.intro (code'.trans code.symm) (out'.trans out.symm)
  refine ⟨ended, ?_⟩
  intro repeatable
  have short := repeatable message wrong
  refine ⟨ended.1, ended.2, ?_⟩
  rw [escaped' short, escaped (Nat.lt_of_le_of_lt (repeated_longer argv k) short)]

/-- A run whose options are understood ends alike however much is asked for. -/
theorem run_alike (documented : lib.kit.Documented) (files : Files.System) {argv : List String}
    (k : Nat) (understood : ∀ message, lib.kit.opening argv ≠ .mistaken message) :
    (perform lib { files } (List.replicate k "-v" ++ argv)).Alike (perform lib { files } argv) := by
  have counted := documented.counted argv k
  cases opening : lib.kit.opening argv with
  | mistaken message => exact absurd opening (understood message)
  | answered text =>
    rw [opening] at counted
    have same : lib.kit.opening (List.replicate k "-v" ++ argv) = .answered text := by
      generalize lib.kit.opening (List.replicate k "-v" ++ argv) = other at counted ⊢
      cases counted
      rfl
    rw [perform_muted documented (stages_answered opening),
      perform_muted documented (stages_answered same)]
    exact alike_refl _
  | opened o =>
    have louder := louder_opened (k := k) documented opening
    cases word : commandWord o.rest with
    | error stranger =>
      rw [perform_muted documented (stages_unknown opening word),
        perform_muted documented (stages_unknown louder word)]
      exact alike_refl _
    | ok command =>
      obtain ⟨level, starts⟩ := start_unset o.verbose
      obtain ⟨level', starts'⟩ := start_unset (o.louder k).verbose
      have reaches : Reaches lib { files } argv o command level := ⟨opening, word, starts⟩
      have reaches' : Reaches lib { files } (List.replicate k "-v" ++ argv) (o.louder k) command
        level' := ⟨louder, word, starts'⟩
      rw [perform_reaches documented reaches, perform_reaches documented reaches']
      exact behind_alike _ _ _ _ _ _

/-- Requests to say more change neither the exit code nor what is printed. They do not change what
escapes either, unless the words are a mistake that is too long to be repeated. What a run logs, it
logs to the error stream, where it stands in front of what the run writes there when its stages run
without a log; the rest of the ending is that of the stages alone. -/
theorem verbosity_keeps_output (documented : lib.kit.Documented) (files : Files.System)
    (argv : List String) (k : Nat) :
    ((perform lib { files } (List.replicate k "-v" ++ argv)).exitCode =
        (perform lib { files } argv).exitCode ∧
      (perform lib { files } (List.replicate k "-v" ++ argv)).console.out =
        (perform lib { files } argv).console.out) ∧
    (Repeatable lib argv k →
      (perform lib { files } (List.replicate k "-v" ++ argv)).Alike (perform lib { files } argv)) ∧
    ∀ around words o command level, Reaches lib around words o command level →
      perform lib around words =
        (Live.finish lib.look (Live.serve lib around o command {})).behind lib.look
          (.ofLevel level) (said (serve lib around.files o command)) := by
  have logged : ∀ around words o command level, Reaches lib around words o command level →
      perform lib around words = _ := fun _ _ _ _ _ => reaches_behind documented
  by_cases mistaken : ∃ message, lib.kit.opening argv = .mistaken message
  · obtain ⟨message, wrong⟩ := mistaken
    obtain ⟨ended, alike⟩ := mistaken_alike documented files k wrong
    exact ⟨ended, alike, logged⟩
  · have alike := run_alike documented files k (not_exists.mp mistaken)
    exact ⟨⟨alike.exitCode, alike.out⟩, fun _ => alike, logged⟩

theorem verbosity_keeps_refusal :
    Standard.terse.kit.Documented ∧ Repeatable Standard.terse ["error", "E1"] 3 ∧
      (perform Standard.terse nowhere ["-v", "-v", "-v", "error", "E1"]).Alike
        (perform Standard.terse nowhere ["error", "E1"]) ∧
      ∃ report first later, perform Standard.terse nowhere ["-v", "-v", "-v", "error", "E1"] =
        Ending.behind Standard.terse.look (.ofLevel trace) (first :: later) report := by
  have reaches : Reaches Standard.terse nowhere ["-v", "-v", "-v", "error", "E1"]
      { verbose := 3, rest := ["error", "E1"] } (some .error) trace := ⟨rfl, rfl, rfl⟩
  have understood : Repeatable Standard.terse ["error", "E1"] 3 := by
    intro message wrong
    cases wrong
  obtain ⟨-, alike, logged⟩ :=
    verbosity_keeps_output Standard.terse_documented nowhere.files ["error", "E1"] 3
  exact ⟨Standard.documented, understood, alike understood, _, _, _, logged nowhere _ _ _ _ reaches⟩

end

end Caret.CommandLine
