import Caret.Drawing.Bench
import Caret.Proofs.Drawing.Records
import Caret.Proofs.Drawing.Refusal

namespace Caret.Drawing

/-- No write has an escape sequence in it. -/
def Uncolored (steps : List Step) : Prop := ∀ w, .write w ∈ steps → ∀ e, .escape e ∉ w

theorem code_uncolored {l : Line} {m : Marker} (marked : l.marker = some m)
    (asked : m.inline = true) : Uncolored (codeText l) ↔ l.text.length ≤ m.span.last := by
  have written : codeText l = if m.span.fits l.text.length then colored l.text.toList m
      else [.log (misfit m l), plain (l.text ++ "\n")] := by
    rw [codeText, marked]
    simp only [asked, if_true]
  rw [written]
  by_cases fits : m.span.last < l.text.length
  · have fitting : m.span.fits l.text.length = true := by simpa [Span.fits] using fits
    rw [if_pos fitting]
    constructor
    · intro bare
      refine absurd ?_ (bare _ (List.mem_cons_of_mem _ List.mem_cons_self) (.color m.color))
      exact List.mem_cons_self
    · intro short
      omega
  · have past : ¬ m.span.fits l.text.length = true := by simpa [Span.fits] using fits
    rw [if_neg past]
    constructor
    · intro _
      omega
    · intro _ w member e inside
      simp only [plain, List.mem_cons, List.not_mem_nil, or_false, reduceCtorEq, false_or,
        Step.write.injEq] at member
      subst member
      simp at inside

theorem fallback_iff {l : Line} {m : Marker} (marked : l.marker = some m)
    (asked : m.inline = true) : (fallback? l).toList ≠ [] ↔ l.text.length ≤ m.span.last := by
  rw [fallback?, marked]
  by_cases short : l.text.length ≤ m.span.last
  · simp [asked, short]
  · simp [short]

section
variable {σ ε : Type}

def conclusion : EStateM.Result ε (Bench σ) Unit → σ × Option ε
  | .ok _ b => (b.sink, none)
  | .error cause b => (b.sink, some cause)

variable {sink : Sink σ ε}

theorem perform_cons (s : Step) (steps : List Step) :
    perform sink (s :: steps) = (do Step.perform sink s; perform sink steps) :=
  List.forM_cons

theorem perform_log (r : Log.Record) (steps : List Step) (b : Bench σ) :
    perform sink (.log r :: steps) b = perform sink steps (b.tell r) := by
  have told : Step.perform sink (.log r) b = .ok () (b.tell r) := rfl
  rw [perform_cons, bind_ran told]

theorem perform_taken {w : Write} {b : Bench σ} {after : σ}
    (taken : sink w.toText b.sink = .ok () after) (steps : List Step) :
    perform sink (.write w :: steps) b = perform sink steps { b with sink := after } := by
  have stepped : Step.perform sink (.write w) b = .ok () { b with sink := after } := by
    simp only [Step.perform, taken]
  rw [perform_cons, bind_ran stepped]

theorem perform_refused {w : Write} {b : Bench σ} {cause : ε} {after : σ}
    (refused : sink w.toText b.sink = .error cause after) (steps : List Step) :
    perform sink (.write w :: steps) b = .error cause { b with sink := after } := by
  have stepped : Step.perform sink (.write w) b = .error cause { b with sink := after } := by
    simp only [Step.perform, refused]
  rw [perform_cons, bind_halted stepped]

theorem tell_sink (b : Bench σ) (r : Log.Record) : (b.tell r).sink = b.sink := by
  unfold Bench.tell
  split <;> rfl

theorem tell_session (b : Bench σ) (r : Log.Record) : (b.tell r).session = b.session := by
  unfold Bench.tell
  split <;> rfl

theorem tell_emitted (b : Bench σ) (r : Log.Record) : (b.tell r).emitted =
    b.emitted ++ [r].filter fun r => b.session.accepts r.level := by
  unfold Bench.tell
  cases accepted : b.session.accepts r.level <;> simp [accepted]

theorem performed_conclusion (steps : List Step) (b : Bench σ) :
    conclusion (perform sink steps b) = pour sink b.sink (writes steps) := by
  induction steps generalizing b with
  | nil => rfl
  | cons s steps ih =>
    cases s with
    | log r => rw [perform_log, ih, tell_sink, writes]
    | write w =>
      cases given : sink w.toText b.sink with
      | ok _ after =>
        rw [perform_taken given, ih]
        simp only [writes, pour, given]
      | error cause after =>
        rw [perform_refused given]
        simp only [conclusion, writes, pour, given]

theorem performed_emitted (taking : ∀ s before, ∃ after, sink s before = .ok () after)
    (steps : List Step) (b : Bench σ) : ∃ after, perform sink steps b = .ok () after ∧
      after.emitted = b.emitted ++ (records steps).filter fun r => b.session.accepts r.level := by
  induction steps generalizing b with
  | nil =>
    refine ⟨b, rfl, ?_⟩
    rw [records, List.filter_nil, List.append_nil]
  | cons s steps ih =>
    cases s with
    | log r =>
      obtain ⟨after, ran, emitted⟩ := ih (b.tell r)
      refine ⟨after, by rw [perform_log, ran], ?_⟩
      rw [emitted, tell_emitted, tell_session, records, List.append_assoc, ← List.filter_append,
        List.singleton_append]
    | write w =>
      obtain ⟨next, taken⟩ := taking w.toText b.sink
      obtain ⟨after, ran, emitted⟩ := ih { b with sink := next }
      refine ⟨after, by rw [perform_taken taken, ran], ?_⟩
      rw [emitted, records]

theorem performed_program (taking : ∀ s before, ∃ after, sink s before = .ok () after)
    (p : Palette) (extend : Bool) (x : Part) (b : Bench σ) :
    ∃ after desk, perform sink (Course.render p extend x).steps b = .ok () after ∧
      Press.render sink p.draft extend x.unchecked { sink := b.sink } =
        arrival (hurdle (some p) extend x) desk ∧
      after.sink = desk.sink ∧ desk.records = records (Course.render p extend x).steps ∧
      after.emitted = b.emitted ++ desk.records.filter fun r => b.session.accepts r.level := by
  obtain ⟨after, ran, emitted⟩ := performed_emitted taking (Course.render p extend x).steps b
  obtain ⟨colors, program⟩ := follow_taken taking (Course.render p extend x) { sink := b.sink }
  have poured : conclusion (perform sink (Course.render p extend x).steps b) = _ :=
    performed_conclusion _ b
  rw [ran] at poured
  have left : after.sink = (pour sink b.sink (writes (Course.render p extend x).steps)).1 :=
    congrArg Prod.fst poured
  rw [List.nil_append] at program
  refine ⟨after, ⟨_, colors, records (Course.render p extend x).steps⟩, ran, ?_, left, rfl,
    emitted⟩
  rw [Press.render_followed, program, rendering_hurdle]

end

theorem debug_kept {session : Log.Session} (loud : session.level ≤ Log.debug)
    (rs : List Log.Record) :
    (rs.filter fun r => session.accepts r.level).filter (fun r => r.level == Log.debug) =
      rs.filter fun r => r.level == Log.debug := by
  rw [List.filter_filter]
  apply List.filter_congr
  intro r _
  cases same : r.level == Log.debug with
  | false => rfl
  | true =>
    have level : r.level = Log.debug := by simpa using same
    have positive : 0 < Log.debug := by decide
    simp [Log.Session.accepts, level, loud, positive]

theorem debug_records (p : Palette) (d : Diagnostic) :
    (records (subject p false (.part (.diagnostic d))).1).filter (fun r => r.level == Log.debug) =
      (shownLines d).filterMap fallback? := by
  have all : records (subject p false (.part (.diagnostic d))).1 =
      request (Part.kind (.diagnostic d)) false :: announcement d ::
        (shownLines d).filterMap fallback? := diagnostic_records p d
  have announced : ¬ (Log.trace == Log.debug) = true := by decide
  have lines : ((shownLines d).filterMap fallback?).filter (fun r => r.level == Log.debug) =
      (shownLines d).filterMap fallback? := by
    rw [List.filter_eq_self]
    intro r member
    obtain ⟨l, _, said⟩ := List.mem_filterMap.mp member
    rw [fallback_level said]
    rfl
  rw [all, List.filter_cons, List.filter_cons, lines]
  exact (if_neg announced).trans (if_neg announced)

/-- Drawing a diagnostic tells of the lines that fall back and of no others, line by line. What is
let through at a level does not change what is drawn. A drawing that is stopped by an obstacle has
told of the lines before it. -/
theorem fallback_reported (p : Palette) (d : Diagnostic) :
    (∃ drawing, (subject p false (.part (.diagnostic d))).1 =
        .log (request (Part.kind (.diagnostic d)) false) :: .log (announcement d) :: drawing ∧
      Told p (shownLines d) drawing) ∧
    (∀ l : Line, records (codeText l) = (fallback? l).toList ∧
      ∀ m, l.marker = some m → m.inline = true →
        (Uncolored (codeText l) ↔ records (codeText l) ≠ [])) ∧
    (∀ {σ ε : Type} (sink : Sink σ ε) (b : Bench σ),
      (∀ s before, ∃ after, sink s before = .ok () after) → b.session.level ≤ Log.debug →
        ∃ after desk told,
          perform sink (Course.render p false (.diagnostic d)).steps b = .ok () after ∧
          Press.render sink p.draft false (.diagnostic d.unchecked) { sink := b.sink } =
            arrival (hurdle (some p) false (.diagnostic d)) desk ∧
          after.sink = desk.sink ∧ after.emitted = b.emitted ++ told ∧
          told = desk.records.filter (fun r => b.session.accepts r.level) ∧
          told.filter (fun r => r.level == Log.debug) <+: (shownLines d).filterMap fallback? ∧
          (hurdle (some p) false (.diagnostic d) = none →
            told.filter (fun r => r.level == Log.debug) = (shownLines d).filterMap fallback?)) ∧
    (∀ {σ ε : Type} (sink : Sink σ ε) (b b' : Bench σ), b.sink = b'.sink →
      conclusion (perform sink (Course.render p false (.diagnostic d)).steps b) =
        conclusion (perform sink (Course.render p false (.diagnostic d)).steps b')) ∧
    (∀ session emitted, conclusion (perform buffer (Course.render p false (.diagnostic d)).steps
      ⟨"", session, emitted⟩) = (String.join (written (some p) false (.diagnostic d)), none)) ∧
    (hurdle (some p) false (.diagnostic d) = none →
      (Course.render p false (.diagnostic d)).steps = (subject p false (.part (.diagnostic d))).1 ∧
      String.join (written (some p) false (.diagnostic d)) = (d.render p).value) := by
  have takes := render_takes p false (.diagnostic d)
  refine ⟨diagnostic_told p d, ?_, ?_, ?_, ?_, ?_⟩
  · intro l
    refine ⟨code_records l, ?_⟩
    intro m marked asked
    rw [code_records, code_uncolored marked asked, fallback_iff marked asked]
  · intro σ ε sink b taking loud
    obtain ⟨after, desk, ran, program, same, records, emitted⟩ :=
      performed_program taking p false (.diagnostic d) b
    refine ⟨after, desk, _, ran, program, same, emitted, rfl, ?_, ?_⟩
    · rw [debug_kept loud, records, ← debug_records]
      exact (records_grow takes.before).filter _
    · intro clear
      rw [debug_kept loud, records, takes.whole (rendering_hurdle p false _ ▸ clear), debug_records]
  · intro σ ε sink b b' same
    rw [performed_conclusion, performed_conclusion, same]
  · intro session emitted
    rw [performed_conclusion, pour_buffer, String.empty_append, rendering_written]
  · intro clear
    rw [← rendering_hurdle] at clear
    refine ⟨takes.whole clear, ?_⟩
    rw [← rendering_written, takes.whole clear, drawing_text, text]

theorem fallback_reported_at_end : ∃ (l : Line) (d : Diagnostic) (told : List Log.Record),
    d.excerpt.lines = [l] ∧ Uncolored (codeText l) ∧
    hurdle (some {}) false (.diagnostic d) = none ∧
    (∃ after : Bench String, perform (buffer : Sink String Empty)
        (subject {} false (.part (.diagnostic d))).1 ⟨"", ⟨Log.debug, []⟩, []⟩ = .ok () after ∧
      after.emitted = told) ∧
    told.filter (fun r => r.level == Log.debug) =
      [⟨Log.debug, "Span 1-3 does not fit line 7 (3 chars); not coloring it inline"⟩] := by
  let short : Marker := ⟨⟨1, 3, by decide⟩, '^', 9, none, true⟩
  let whole : Marker := ⟨⟨0, 2, by decide⟩, '~', 10, some "t", true⟩
  let l : Line := ⟨"let", 7, some short, by decide, by decide⟩
  let d : Diagnostic :=
    ⟨.warning, "m", ⟨"p", 7, 1⟩, ⟨[l]⟩,
      [⟨"h", some ⟨[⟨"let", 7, some whole, by decide, by decide⟩]⟩⟩], ["n"]⟩
  have taking : ∀ s before, ∃ after, (buffer : Sink String Empty) s before = .ok () after :=
    fun s before => ⟨before ++ s, rfl⟩
  have loud : (⟨Log.debug, []⟩ : Log.Session).level ≤ Log.debug := by decide
  have clear : hurdle (some {}) false (.diagnostic d) = none := by decide +kernel
  obtain ⟨-, forms, run, -, -, whole⟩ := fallback_reported {} d
  obtain ⟨after, desk, told, ran, -, -, emitted, -, -, reports⟩ :=
    run buffer ⟨"", ⟨Log.debug, []⟩, []⟩ taking loud
  rw [(whole clear).1] at ran
  have lines : (shownLines d).filterMap fallback? =
      [⟨Log.debug, "Span 1-3 does not fit line 7 (3 chars); not coloring it inline"⟩] := by
    decide +kernel
  have plain : Uncolored (codeText l) := by
    apply ((forms l).2 short rfl rfl).mpr
    decide +kernel
  exact ⟨l, d, told, rfl, plain, clear, ⟨after, ran, emitted⟩, (reports clear).trans lines⟩

end Caret.Drawing
