import Caret.Proofs.CommandLine.Endings

namespace Caret.CommandLine
open Log

/-- Some options ask for a place and for settings, and for nothing else. -/
structure Asked (lib : Libraries) (around : Surroundings) (front : List String) (o : Options)
    (s : Settings) : Prop where
  unset : around.logLevel = none
  options : lib.kit.opening front = .opened o
  complete : o.rest = []
  silent : o.verbose = 0
  loaded : (loadSettings lib.reader around.files o.config).value = .ok s

/-- A run does what the library does with some words: it prints what they describe in the colours
of the settings, or reports what is wrong with them in those that are built in. What there is an
obstacle to is not printed, and the obstacle escapes. -/
structure Answers (ending : Ending) (isError : Bool) (path : String) (line : Int) (s : Settings)
    (words : List String) : Prop where
  drawn : ∀ d text, (Usage.parse isError path line s.markers words).value = .ok d →
    (d.drawn s.palette).value = .ok text →
      ending = { exitCode := 0, console := { out := text ++ "\n" } }
  undrawn : ∀ d o, (Usage.parse isError path line s.markers words).value = .ok d →
    (d.drawn s.palette).value = .error o →
      ending = { exitCode := 1, escaped := some (.crash (.drawing o)) }
  reported : ∀ d text, (Usage.parse isError path line s.markers words).value = .error (.usage d) →
    (d.drawn {}).value = .ok text →
      ending = { exitCode := 1, console := { err := text ++ "\n" } }
  unreported : ∀ d o, (Usage.parse isError path line s.markers words).value = .error (.usage d) →
    (d.drawn {}).value = .error o →
      ending = { exitCode := 1, escaped := some (.crash (.drawing o)) }
  ends : (∃ d, (Usage.parse isError path line s.markers words).value = .ok d) ∨
    ∃ d, (Usage.parse isError path line s.markers words).value = .error (.usage d)

section
variable {lib : Libraries} {around : Surroundings} {front : List String} {o : Options}
  {s : Settings} {isError : Bool} {args words : List String}

theorem asked_reaches (documented : lib.kit.Documented) (asked : Asked lib around front o s)
    (isError : Bool) (args : List String) :
    Reaches lib around (front ++ (generator isError).word :: args)
      { o with rest := (generator isError).word :: args } (some (generator isError)) critical := by
  refine ⟨documented.followed asked.options asked.complete _ args, command_word_called _ args, ?_⟩
  rw [asked.silent, asked.unset]
  exact start_quiet

theorem command_closing (documented : lib.kit.Documented) (asked : Asked lib around front o s)
    (given : lib.kit.reading (generator isError) args = .given words) :
    perform lib around (front ++ (generator isError).word :: args) =
      closing (generate isError ⟨s, o.place, o.number⟩ words).value := by
  have reaches := asked_reaches documented asked isError args
  have served : (serve lib around.files { o with rest := (generator isError).word :: args }
    (some (generator isError))).value = _ := serve_loaded asked.loaded
  rw [Option.elim_some, List.drop_one, List.tail_cons, given, Command.take, generator_run] at served
  rw [perform_quiet documented reaches, served]
  rfl

theorem command_answers (documented : lib.kit.Documented) (asked : Asked lib around front o s)
    (given : lib.kit.reading (generator isError) args = .given words) :
    Answers (perform lib around (front ++ (generator isError).word :: args)) isError o.place
      o.number s words := by
  rw [command_closing documented asked given]
  refine ⟨?_, ?_, ?_, ?_, ?_⟩
  · intro d text accepted drawn
    rw [generate_drawn accepted drawn, closing]
  · intro d o accepted stopped
    rw [generate_stopped accepted stopped, closing, crashed]
  · intro d text rejected drawn
    rw [generate_reported rejected, closing, reporting_drawn drawn]
  · intro d o rejected stopped
    rw [generate_reported rejected, closing, reporting_stopped stopped, crashed]
  · have numbered := number_positive documented asked.options
    rcases parse_ends isError o.place s.markers words numbered with accepted | ⟨d, _, rejected⟩
    · exact .inl accepted
    · exact .inr ⟨d, rejected⟩

end

/-- The command answers for its arguments as they are, or without their first double dash. -/
theorem arguments_answered {lib : Libraries} (documented : lib.kit.Documented)
    (around : Surroundings) (front : List String) (o : Options) (s : Settings) (isError : Bool)
    (args : List String) (asked : Asked lib around front o s) :
    ("--" ∉ args →
      Answers (perform lib around (front ++ (generator isError).word :: args)) isError o.place
        o.number s args) ∧
    ∀ before after, "--" ∉ before → args = before ++ "--" :: after →
      Answers (perform lib around (front ++ (generator isError).word :: args)) isError o.place
        o.number s (before ++ after) := by
  have draws := generator_draws isError
  constructor
  · intro undashed
    exact command_answers documented asked (documented.raw draws undashed)
  · rintro before after first rfl
    exact command_answers documented asked (documented.dashed draws first)

theorem asked_nowhere {front : List String} {o : Options}
    (options : Standard.terse.kit.opening front = .opened o)
    (bare : o = { line := o.line, path := o.path }) : Asked Standard.terse nowhere front o {} := by
  rw [bare] at options ⊢
  exact ⟨rfl, options, rfl, rfl, rfl⟩

theorem option_words_answered :
    Standard.terse.kit.Documented ∧
      Asked Standard.terse nowhere ["--path", "lib.rs", "--line=42"]
        { line := some 42, path := some "lib.rs" } {} ∧
      Answers (perform Standard.terse nowhere
        ["--path", "lib.rs", "--line=42", "warning", "--flag", "-v", "0-1"]) false "lib.rs" 42 {}
        ["--flag", "-v", "0-1"] := by
  have asked : Asked Standard.terse nowhere ["--path", "lib.rs", "--line=42"]
      { line := some 42, path := some "lib.rs" } {} := asked_nowhere rfl rfl
  exact ⟨Standard.documented, asked, (arguments_answered Standard.documented nowhere
    ["--path", "lib.rs", "--line=42"] _ {} false ["--flag", "-v", "0-1"] asked).1 (by decide)⟩

/-- A double dash is a message to the library, but the command does not see it. -/
theorem double_dash_unseen :
    Asked Standard.terse nowhere [] {} {} ∧
      ∃ d text, (Usage.parse false "src/main.rs" 7 {} ["--", "let x", "0-0"]).value = .ok d ∧
        (d.drawn {}).value = .ok text ∧
        perform Standard.terse nowhere ["warning", "--", "let x", "0-0"] ≠
          { exitCode := 0, console := { out := text ++ "\n" } } := by
  have asked : Asked Standard.terse nowhere [] {} {} := asked_nowhere rfl rfl
  refine ⟨asked, _, _, rfl, rfl, ?_⟩
  have given : Standard.terse.kit.reading (generator false) ["--", "let x", "0-0"] =
    .given ["let x", "0-0"] := rfl
  have answers := command_answers Standard.terse_documented asked given
  have rejected : (Usage.parse false "src/main.rs" 7 {} ["let x", "0-0"]).value =
    .error (.usage _) := rfl
  intro same
  have other := (answers.reported _ _ rejected rfl).symm.trans same
  cases congrArg Ending.exitCode other

end Caret.CommandLine
