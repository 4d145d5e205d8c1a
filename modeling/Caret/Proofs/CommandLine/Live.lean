import Caret.CommandLine.Live
import Caret.Proofs.CommandLine.Stages
import Caret.Proofs.CommandLine.Standard
import Caret.Proofs.Drawing.Drawn

/-!
What a run has printed when it fails. Each hook either prints nothing, or prints what its result says
and cannot fail any more; the worked example, which prints its first lines early, is always drawn to
its end. The streams are taken to accept all that is written.
-/
namespace Caret.CommandLine
open Drawing (Part Writable)

def Progress.heard (look : Log.Look) (p : Progress) (rs : List Log.Record) : Progress :=
  { p with console := { p.console with err := p.console.err ++ p.session.writtenAll look rs } }

def Progress.printed (p : Progress) (text : String) : Progress :=
  { p with console := { p.console with out := p.console.out ++ text } }

/-- Where a program comes to that has printed what its result says. -/
def Progress.after (look : Log.Look) (p : Progress) (t : Traced (Except Stop String)) :
    EStateM.Result Halt Progress Unit :=
  match t.value with
  | .ok out => .ok () ((p.heard look t.records).printed out)
  | .error stop => .error (.stop stop) (p.heard look t.records)

/-- The end of a run as a function, seen on a console. -/
def Outcome.ending (o : Outcome) : Ending :=
  ⟨o.exitCode, ⟨o.stdout, o.stderr⟩, o.crash.map Escaped.crash⟩

section
variable (look : Log.Look) (p : Progress)

theorem heard_nil : p.heard look [] = p := by
  simp [Progress.heard, Log.Session.writtenAll]

theorem heard_append (rs qs : List Log.Record) :
    p.heard look (rs ++ qs) = (p.heard look rs).heard look qs := by
  simp [Progress.heard, Log.Session.writtenAll, String.append_assoc]

end

theorem example_parsed (style : MarkerStyle) : ∃ d,
    (Usage.parse true defaultPath defaultLine style exampleWords).value = .ok d ∧
      (∀ n ∈ (Part.diagnostic d).numbers, Writable n) ∧
      ∀ m ∈ (Part.diagnostic d).markers, m.isCountable = true := by
  have small : ∀ n ∈ [(7 : Int), 5, 7, 7], n.natAbs < 10 := by decide
  have narrow : ∀ s ∈ [(⟨4, 9, by decide⟩ : Span), ⟨10, 21, by decide⟩],
      (decide (s.first < Drawing.wordLimit) && decide (s.width < Drawing.wordLimit)) = true := by
    decide
  refine ⟨_, rfl, ?_, ?_⟩
  · intro n member
    exact Nat.lt_of_lt_of_le (small n member) (Nat.le_self_pow (by decide) 10)
  · intro m member
    exact narrow m.span (List.mem_map_of_mem (f := Marker.span) member)

theorem example_drawn {s : Settings} {d : Diagnostic}
    (parsed : (Usage.parse true defaultPath defaultLine s.markers exampleWords).value = .ok d) :
    (d.drawn s.palette).value = .ok (d.render s.palette).value := by
  obtain ⟨d', parsed', written, counted⟩ := example_parsed s.markers
  obtain rfl : d' = d := Except.ok.inj (parsed'.symm.trans parsed)
  exact Drawing.drawn_clear s.palette d' written counted

namespace Live

section
variable {look : Log.Look} {ε α : Type}

theorem log_heard (r : Log.Record) (p : Progress) :
    (log look r : Live ε Unit) p = .ok () (p.heard look [r]) := by
  simp only [Progress.heard, Log.Session.writtenAll, List.map_singleton, String.join_cons,
    String.join_nil, String.append_empty]
  rfl

theorem records_heard (rs : List Log.Record) (p : Progress) :
    (rs.forM (log look) : Live ε Unit) p = .ok () (p.heard look rs) := by
  induction rs generalizing p with
  | nil =>
    rw [heard_nil]
    rfl
  | cons r rs ih =>
    have steps : ((r :: rs).forM (log look) : Live ε Unit) =
      (do log look r; rs.forM (log look)) := List.forM_cons
    rw [steps, bind_ran (log_heard r p), ih, ← heard_append]
    rfl

theorem listen_heard (t : Traced α) (p : Progress) :
    (listen look t : Live ε α) p = .ok t.value (p.heard look t.records) := by
  rw [listen, bind_ran (records_heard t.records p)]
  rfl

section
variable (look) (gaveUp : Drawing.Stop Empty → ε) (palette : Option Palette) {d : Diagnostic}

theorem draw_drawn {text : String} (drawn : (d.drawn (palette.getD {})).value = .ok text)
    (p : Progress) : draw look gaveUp (palette.map Palette.draft) d.unchecked p =
      .ok text (p.heard look (d.drawn (palette.getD {})).records) := by
  obtain ⟨desk, told, taken, -⟩ := Drawing.buffered palette d
  simp only [draw, taken text drawn, listen_heard, told]

theorem draw_stopped {o : Drawing.Obstacle} (stopped : (d.drawn (palette.getD {})).value = .error o)
    (p : Progress) : draw look gaveUp (palette.map Palette.draft) d.unchecked p =
      .error (gaveUp (.obstacle o)) (p.heard look (d.drawn (palette.getD {})).records) := by
  obtain ⟨desk, told, -, given⟩ := Drawing.buffered palette d
  simp only [draw, given o stopped]
  rw [bind_ran (listen_heard _ p), told]
  rfl

end
end

section
variable (look : Log.Look)

/-- A program ends as its result says. What it prints it prints last, when nothing can fail. -/
def Prints (live : Live Halt Unit) (t : Traced (Except Stop String)) : Prop :=
  ∀ p, live p = p.after look t

theorem text_prints (text : String) : Prints look (print text false) (pure (.ok text)) := by
  intro p
  simp only [Progress.after, Traced.pure_value, Traced.pure_records, heard_nil]
  rfl

theorem line_prints (text : String) : Prints look (print text true) (pure (.ok (text ++ "\n"))) := by
  intro p
  simp only [Progress.after, Traced.pure_value, Traced.pure_records, heard_nil]
  rfl

theorem given_prints (stop : Stop) : Prints look (give stop) (pure (.error stop)) := by
  intro p
  simp only [Progress.after, Traced.pure_value, Traced.pure_records, heard_nil]
  rfl

theorem listen_prints {α : Type} (t : Traced α) {live : α → Live Halt Unit}
    {after : α → Traced (Except Stop String)} (rest : Prints look (live t.value) (after t.value)) :
    Prints look (do live (← listen look t)) (do after (← t)) := by
  intro p
  rw [bind_ran (listen_heard t p), rest]
  simp only [Progress.after, Traced.bind_value, Traced.bind_records, heard_append]

theorem log_prints (level : Int) (message : String) {live : Live Halt Unit}
    {after : Traced (Except Stop String)} (rest : Prints look live after) :
    Prints look (do log look ⟨level, message⟩; live) (do Traced.emit level message; after) := by
  intro p
  rw [bind_ran (log_heard ⟨level, message⟩ p), rest]
  simp only [Progress.after, Traced.bind_value, Traced.bind_records, Traced.emit_records,
    heard_append]

theorem fail_prints {α : Type} (c : Usage.Complaint) (rest : α → Live Halt Unit) :
    Prints look (do rest (← fail look c)) (complain c) := by
  intro p
  have given : (fail look c : Live Halt α) p =
      .error (.stop (stopWith (c.fail 1).value)) (p.heard look (c.fail 1).records) := by
    rw [fail, bind_ran (listen_heard (c.fail 1) p)]
    rfl
  have records : (complain c).records = (c.fail 1).records ++ [] := rfl
  rw [bind_halted given, Progress.after, records, List.append_nil]
  rfl

theorem complaint_prints (c : Usage.Complaint) : Prints look (fail look c) (complain c) := by
  have whole := fail_prints look c (α := Unit) pure
  rwa [bind_pure] at whole

theorem drawing_prints (palette : Palette) (d : Diagnostic) :
    Prints look (do
        let text ← draw look .ofDrawing (some palette.draft) d.unchecked
        print text true)
      (do
        match ← d.drawn palette with
        | .error o => return .error (.crash (.drawing o))
        | .ok text => return .ok (text ++ "\n")) := by
  intro p
  simp only [Progress.after, Traced.bind_value, Traced.bind_records]
  cases drawn : (d.drawn palette).value with
  | ok text =>
    have ran := draw_drawn look Halt.ofDrawing (some palette) drawn p
    rw [Option.map_some, Option.getD_some] at ran
    rw [bind_ran ran, Traced.pure_records, List.append_nil]
    rfl
  | error o =>
    have ran := draw_stopped look Halt.ofDrawing (some palette) drawn p
    rw [Option.map_some, Option.getD_some] at ran
    rw [bind_halted ran, Traced.pure_records, List.append_nil]
    rfl

theorem print_prints (text : String) (newline : Bool) {live : Live Halt Unit}
    {t : Traced (Except Stop String)} {out : String} (sure : t.value = .ok out)
    (rest : Prints look live t) : Prints look (do print text newline; live)
      ⟨t.records, .ok (Console.ended text newline ++ out)⟩ := by
  intro p
  have printed : (print text newline : Live Halt Unit) p =
      .ok () (p.printed (Console.ended text newline)) := rfl
  rw [bind_ran printed, rest]
  simp only [Progress.after, sure, Progress.heard, Progress.printed, String.append_assoc]

theorem generate_prints (isError : Bool) (common : Common) (words : List String) :
    Prints look (generate look isError common words)
      (CommandLine.generate isError common words) := by
  refine listen_prints look (Usage.parse isError _ _ _ words) ?_
  cases (Usage.parse isError common.path common.line common.settings.markers words).value with
  | error f => exact given_prints look (stopWith f)
  | ok d => exact drawing_prints look common.settings.palette d

theorem example_prints (s : Settings) :
    Prints look (showExample look s) (CommandLine.showExample s) := by
  intro p
  unfold showExample CommandLine.showExample CommandLine.generate
  obtain ⟨d, parsed, -, -⟩ := example_parsed s.markers
  have drawn := example_drawn parsed
  -- Neither the arguments nor the line matter any more, and both are long.
  generalize Usage.parse true defaultPath defaultLine s.markers exampleWords = t at parsed ⊢
  generalize exampleLine = line
  rw [bind_ran (listen_heard t p)]
  simp only [Progress.after, Traced.bind_value, Traced.bind_records, parsed]
  have sure : (do
      match ← d.drawn s.palette with
      | .error o => return .error (.crash (.drawing o))
      | .ok text => return .ok (text ++ "\n") : Traced (Except Stop String)).value =
        .ok ((d.render s.palette).value ++ "\n") := by
    simp only [Traced.bind_value, drawn, Traced.pure_value]
  have shown := print_prints look line true rfl (print_prints look "" true sure
    (drawing_prints look s.palette d)) (p.heard look t.records)
  have feeds (rest : String) : "\n\n" ++ rest = "\n" ++ ("\n" ++ rest) := by
    rw [← String.append_assoc]
    rfl
  refine shown.trans ?_
  simp [Progress.after, heard_append, Console.ended, String.append_assoc, feeds, drawn]

end

section
variable (lib : Libraries) (around : Surroundings)

theorem command_prints (c : Command) (common : Common) (words : List String) :
    Prints lib.look (command lib c common words) (c.run common words) := by
  cases c with
  | help => exact line_prints lib.look manual
  | «example» => exact example_prints lib.look common.settings
  | error => exact generate_prints lib.look true common words
  | warning => exact generate_prints lib.look false common words

theorem hand_prints (c : Command) (common : Common) (r : Reading) :
    Prints lib.look ((hooks lib around).hand c common r) (c.take common r) := by
  cases r with
  | given words => exact command_prints lib c common words
  | listed text => exact text_prints lib.look text
  | refused page => exact given_prints lib.look (.refused page)

theorem prepare_prints (o : Options) (word : Option Command) {live : Common → Live Halt Unit}
    (rest : ∀ c common, word = some c →
      Prints lib.look (live common) (c.take common (lib.kit.reading c (o.rest.drop 1)))) :
    Prints lib.look (do live (← prepare lib around o word))
      (CommandLine.serve lib around.files o word) := by
  unfold prepare
  rw [bind_assoc]
  refine listen_prints lib.look (loadSettings lib.reader around.files o.config) ?_
  cases (loadSettings lib.reader around.files o.config).value with
  | error e => exact given_prints lib.look (stopLoading e)
  | ok s =>
    dsimp only
    rw [bind_assoc]
    refine log_prints lib.look Log.debug _ ?_
    cases word with
    | none => exact fail_prints lib.look Usage.missingCommand live
    | some c =>
      rw [pure_bind]
      exact rest c _ rfl

end

section
variable (look : Log.Look)

theorem error_printed (q : Progress) (text : String) :
    (printError text true : Live Escaped Unit) q =
      .ok () { q with console := { q.console with err := q.console.err ++ (text ++ "\n") } } := rfl

theorem present_shown (f : Fault) (p : Progress) : present look f p =
    match f.shown.value with
    | .ok text => .ok () { p with console :=
        { p.console with
          err := p.console.err ++ p.session.writtenAll look f.shown.records ++ text ++ "\n" } }
    | .error o => .error (.crash (.drawing o)) (p.heard look f.shown.records) := by
  have unheard (q : Progress) (rest : String) :
      q.console.err ++ q.session.writtenAll look [] ++ rest = q.console.err ++ rest := by
    simp [Log.Session.writtenAll]
  cases f with
  | general m =>
    simp only [present, error_printed, Fault.shown, Traced.pure_value, Traced.pure_records, unheard,
      String.append_assoc]
  | settings m =>
    simp only [present, error_printed, Fault.shown, Traced.pure_value, Traced.pure_records, unheard,
      String.append_assoc]
  | usage d =>
    simp only [Fault.shown]
    cases drawn : (d.drawn {}).value with
    | ok text =>
      have ran := draw_drawn look Escaped.ofDrawing none drawn p
      rw [Option.map_none, Option.getD_none] at ran
      rw [present, bind_ran ran, error_printed]
      simp only [Progress.heard, String.append_assoc]
    | error o =>
      have ran := draw_stopped look Escaped.ofDrawing none drawn p
      rw [Option.map_none, Option.getD_none] at ran
      rw [present, bind_halted ran]
      rfl

theorem finish_after (session : Log.Session) (t : Traced (Except Stop String)) :
    finish look (Progress.after look { session } t) = (conclude look session t).ending := by
  unfold Progress.after
  cases value : t.value with
  | ok out =>
    simp [finish, conclude, value, Outcome.ending, Progress.heard, Progress.printed]
  | error stop =>
    cases stop with
    | fault f =>
      have shown := present_shown look f
      cases drawn : f.shown.value with
      | ok text =>
        simp only [drawn] at shown
        simp only [finish, settle, bind_ran (shown _), conclude, value, drawn, Outcome.ending]
        simp [Progress.heard, pure, EStateM.pure]
      | error o =>
        simp only [drawn] at shown
        simp only [finish, settle, bind_halted (shown _), conclude, value, drawn, Outcome.ending]
        simp [Progress.heard]
    | refused page =>
      have refused (p : Progress) : settle look (.stop (.refused page)) p =
          .ok (2, none) { p with console := { p.console with
            err := p.console.err ++ page } } := rfl
      simp [finish, refused, conclude, value, Outcome.ending, Progress.heard]
    | crash c =>
      have crashed (p : Progress) : settle look (.stop (.crash c)) p =
          .ok (1, some (.crash c)) p := rfl
      simp [finish, crashed, conclude, value, Outcome.ending, Progress.heard]

end

theorem set_up_started (verbose : Int) (setting : Option String) (p : Progress) :
    setUp verbose setting p = match startLevel verbose setting with
      | .error e => .error (.stop (.crash (.level e))) p
      | .ok level => .ok () { p with session := Log.Session.ofLevel level } := by
  unfold startLevel setUp
  cases Log.requestedLevel verbose setting with
  | error e => rfl
  | ok asked =>
    have current : (get : Live Halt Progress) p = .ok p p := rfl
    simp only [bind_ran current, Log.Session.setup]
    cases Log.Session.resolve asked setting with
    | error e => rfl
    | ok level => rfl

section
variable {lib : Libraries} {around : Surroundings} {argv : List String} {o : Options}
  {word : Option Command}

def called (lib : Libraries) (around : Surroundings) (o : Options) (word : Option Command)
    (common : Common) : Live Halt Unit :=
  match word with
  | none => pure ()
  | some c => (hooks lib around).hand c common (lib.kit.reading c (o.rest.drop 1))

def serve (lib : Libraries) (around : Surroundings) (o : Options) (word : Option Command) :
    Live Halt Unit := do
  called lib around o word (← prepare lib around o word)

theorem serve_prints : Prints lib.look (serve lib around o word)
    (CommandLine.serve lib around.files o word) := by
  refine prepare_prints lib around o word ?_
  rintro c common rfl
  exact hand_prints lib around c common _

theorem main_known (documented : lib.kit.Documented) (options : lib.kit.opening argv = .opened o)
    (known : commandWord o.rest = .ok word) (p : Progress) :
    lib.kit.main (hooks lib around) argv p =
      (do
        setUp o.verbose around.logLevel
        serve lib around o word) p := by
  cases given : o.rest with
  | nil =>
    rw [given] at known
    cases known
    rw [documented.alone options given]
    simp only [hooks, start, serve, bind_assoc]
    rfl
  | cons w words =>
    rw [given] at known
    cases same : Command.ofWord? w with
    | none =>
      rw [commandWord, same] at known
      cases known
    | some c =>
      rw [commandWord, same] at known
      cases known
      have resolved : (hooks lib around).resolve w p = .ok c p := by
        simp only [hooks, resolve, same]
        rfl
      rw [documented.called options given, bind_ran resolved]
      simp only [hooks, start, serve, bind_assoc, called, given, List.drop_one, List.tail_cons]

/-- Whichever way a run goes, it comes to where its stages say. -/
theorem main_after (documented : lib.kit.Documented) :
    lib.kit.main (hooks lib around) argv {} =
      Progress.after lib.look { session := (stages lib around argv).1 }
        (stages lib around argv).2 := by
  have course := stages_course lib around argv
  generalize (stages lib around argv).1 = session at course ⊢
  generalize (stages lib around argv).2 = t at course ⊢
  cases course with
  | mistaken wrong =>
    rw [documented.mistaken wrong]
    exact complaint_prints lib.look _ _
  | answered asked =>
    rw [documented.answered asked]
    exact text_prints lib.look _ _
  | unknown options stranger =>
    obtain ⟨later, given, unknown⟩ := command_word_error stranger
    rw [documented.called options given]
    simp only [hooks, resolve, unknown]
    exact fail_prints lib.look _ _ _
  | @unlogged o word e options known logging =>
    have refused := set_up_started o.verbose around.logLevel {}
    rw [logging] at refused
    rw [main_known documented options known, bind_halted refused]
    exact given_prints lib.look (.crash (.level e)) _
  | @served o word level reaches =>
    have ready := set_up_started o.verbose around.logLevel {}
    rw [reaches.logging] at ready
    rw [main_known documented reaches.options reaches.word, bind_ran ready]
    exact serve_prints _

theorem main_halted (documented : lib.kit.Documented) {stop : Stop}
    (value : (stages lib around argv).2.value = .error stop) : ∃ p,
    lib.kit.main (hooks lib around) argv {} = .error (.stop stop) p := by
  rw [main_after documented, Progress.after, value]
  exact ⟨_, rfl⟩

theorem halted_main (documented : lib.kit.Documented) {stop : Stop} {p : Progress}
    (halted : lib.kit.main (hooks lib around) argv {} = .error (.stop stop) p) :
    (stages lib around argv).2.value = .error stop := by
  rw [main_after documented, Progress.after] at halted
  split at halted
  · cases halted
  · rename_i other value
    cases halted
    exact value

end
end Live

section
variable {lib : Libraries} {around : Surroundings} {argv : List String}

theorem perform_run (documented : lib.kit.Documented) (around : Surroundings)
    (argv : List String) : perform lib around argv = (run lib around argv).ending := by
  rw [perform, Live.main_after documented, Live.finish_after]
  rfl

theorem conclude_failed {look : Log.Look} {session : Log.Session}
    {t : Traced (Except Stop String)} (failed : (conclude look session t).exitCode ≠ 0) :
    (conclude look session t).stdout = "" := by
  cases value : t.value with
  | ok out =>
    simp only [conclude, value] at failed
    exact absurd rfl failed
  | error stop =>
    cases stop with
    | fault f =>
      simp only [conclude, value]
      cases f.shown.value <;> rfl
    | refused page => simp only [conclude, value]
    | crash c => simp only [conclude, value]

/-- A run that fails has printed nothing on the standard output. -/
theorem failure_prints_nothing (documented : lib.kit.Documented) (around : Surroundings)
    (argv : List String) :
    perform lib around argv = (run lib around argv).ending ∧
      ((perform lib around argv).exitCode ≠ 0 → (perform lib around argv).console.out = "") := by
  have ended := perform_run documented around argv
  refine ⟨ended, ?_⟩
  rw [ended]
  exact conclude_failed

end

theorem failure_prints_nothing_logged :
    ∃ around argv, Standard.terse.kit.Documented ∧
      perform Standard.terse around argv = (run Standard.terse around argv).ending ∧
      (perform Standard.terse around argv).exitCode = 1 ∧
      (perform Standard.terse around argv).console.out = "" := by
  let around : Surroundings := { files := ⟨.ok {}, fun _ => .error .missing⟩ }
  obtain ⟨ended, silent⟩ := failure_prints_nothing Standard.terse_documented
    around ["-vvv", "error", "E1"]
  have failed : (perform Standard.terse around ["-vvv", "error", "E1"]).exitCode = 1 := by
    decide +kernel
  exact ⟨around, _, Standard.documented, ended, failed, silent (by rw [failed]; decide)⟩

end Caret.CommandLine
