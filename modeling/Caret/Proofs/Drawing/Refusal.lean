import Caret.Proofs.Drawing.Course
import Caret.Proofs.Drawing.Press

/-!
Sinks that refuse. What a program does to a sink is to give it a list of texts one after another
until one is refused, and the list does not depend on the sink. So a sink that takes a limited number
of writes has taken the first ones of that list, and at most one write more has been tried.
-/
namespace Caret.Drawing

section
variable {σ ε : Type}

def pour (sink : Sink σ ε) (before : σ) : List String → σ × Option ε
  | [] => (before, none)
  | s :: rest =>
    match sink s before with
    | .ok _ after => pour sink after rest
    | .error cause after => (after, some cause)

def poured (sink : Sink σ ε) (before : σ) (texts : List String) (hurdle : Option Obstacle) :
    σ × Option (Stop ε) :=
  ((pour sink before texts).1,
    ((pour sink before texts).2.map .sink).or (hurdle.map .obstacle))

theorem feed_left (sink : Sink σ ε) (steps : List Step) (desk : Desk σ) :
    left (Press.feed sink steps desk) = poured sink desk.sink (writes steps) none := by
  induction steps generalizing desk with
  | nil => rfl
  | cons s steps ih =>
    cases s with
    | log r => rw [Press.feed_log, ih, writes]
    | write w =>
      cases given : sink w.toText desk.sink with
      | ok _ after =>
        rw [Press.feed_taken given, ih]
        simp only [poured, writes, pour, given]
      | error cause after =>
        rw [Press.feed_refused given]
        simp only [left, poured, writes, pour, given, Option.map_some, Option.some_or]

theorem follow_left (sink : Sink σ ε) (c : Course) (desk : Desk σ) :
    left (Press.follow sink c desk) = poured sink desk.sink (writes c.steps) c.stop := by
  have fed := feed_left sink c.steps desk
  cases ran : Press.feed sink c.steps desk with
  | ok _ after =>
    have taken : (pour sink desk.sink (writes c.steps)).2 = none := by
      rw [ran] at fed
      simpa [left, poured] using (congrArg Prod.snd fed).symm
    have reached : after.sink = (pour sink desk.sink (writes c.steps)).1 := by
      rw [ran] at fed
      exact congrArg Prod.fst fed
    rw [Press.follow, bind_ran ran, poured, taken, ← reached]
    cases c.stop <;> rfl
  | error stop after =>
    rw [Press.follow, bind_halted ran]
    rw [ran] at fed
    rw [fed, poured, poured]
    cases refused : (pour sink desk.sink (writes c.steps)).2 with
    | none =>
      have stopped := congrArg Prod.snd fed
      simp [left, poured, refused] at stopped
    | some cause => rfl

theorem feed_all {sink : Sink σ ε} (taking : ∀ s before, ∃ after, sink s before = .ok () after)
    (steps : List Step) (desk : Desk σ) : ∃ colors, Press.feed sink steps desk =
      .ok () ⟨(pour sink desk.sink (writes steps)).1, colors, desk.records ++ records steps⟩ := by
  induction steps generalizing desk with
  | nil =>
    refine ⟨desk.colors, ?_⟩
    simp only [pour, writes, records, List.append_nil]
    rfl
  | cons s steps ih =>
    cases s with
    | log r =>
      obtain ⟨colors, ran⟩ := ih { desk with records := desk.records ++ [r] }
      refine ⟨colors, ?_⟩
      rw [Press.feed_log, ran, records, List.append_assoc, List.singleton_append]
      rfl
    | write w =>
      obtain ⟨next, taken⟩ := taking w.toText desk.sink
      obtain ⟨colors, ran⟩ := ih { desk with sink := next, colors := desk.colors ++ w.colors }
      refine ⟨colors, ?_⟩
      rw [Press.feed_taken taken, ran]
      simp only [writes, records, pour, taken]

def arrival (hurdle : Option Obstacle) (desk : Desk σ) : EStateM.Result (Stop ε) (Desk σ) Unit :=
  match hurdle with
  | none => .ok () desk
  | some o => .error (.obstacle o) desk

theorem follow_taken {sink : Sink σ ε}
    (taking : ∀ s before, ∃ after, sink s before = .ok () after) (c : Course) (desk : Desk σ) :
    ∃ colors, Press.follow sink c desk = arrival c.stop
      ⟨(pour sink desk.sink (writes c.steps)).1, colors, desk.records ++ records c.steps⟩ := by
  obtain ⟨colors, ran⟩ := feed_all taking c.steps desk
  rw [Press.follow, bind_ran ran]
  cases c.stop with
  | none => exact ⟨colors, rfl⟩
  | some o => exact ⟨colors ++ c.begun.colors, rfl⟩

theorem pour_buffer (before : String) (texts : List String) :
    pour buffer before texts = (before ++ String.join texts, none) := by
  induction texts generalizing before with
  | nil => simp [pour, String.join]
  | cons s rest ih =>
    have taken : buffer s before = .ok () (before ++ s) := rfl
    simp only [pour, taken, ih, String.join_cons, String.append_assoc]

theorem pour_tape (cause : ε) (t : Tape) (texts : List String) :
    pour (tape none cause) t texts =
      (⟨t.accepted ++ texts, t.attempts + texts.length⟩, none) := by
  induction texts generalizing t with
  | nil => simp [pour]
  | cons s rest ih =>
    have taken : tape none cause s t = .ok () ⟨t.accepted ++ [s], t.attempts + 1⟩ := rfl
    simp only [pour, taken, ih, List.append_assoc, List.singleton_append, List.length_cons]
    rw [Nat.add_assoc, Nat.add_comm 1]

theorem pour_short_tape (cause : ε) (room : Nat) {t : Tape} (texts : List String)
    (within : t.accepted.length ≤ room) :
    pour (tape (some room) cause) t texts =
      (⟨t.accepted ++ texts.take (room - t.accepted.length),
          t.attempts + min (room - t.accepted.length + 1) texts.length⟩,
        if room - t.accepted.length < texts.length then some cause else none) := by
  -- What is taken uses up room; the first write without room is tried and is the last one.
  induction texts generalizing t with
  | nil => simp [pour]
  | cons s rest ih =>
    by_cases fits : t.accepted.length < room
    · have taken : tape (some room) cause s t = .ok () ⟨t.accepted ++ [s], t.attempts + 1⟩ := by
        simp [tape, fits]
      have length : (t.accepted ++ [s]).length = t.accepted.length + 1 := by simp
      obtain ⟨spare, more⟩ : ∃ spare, room - t.accepted.length = spare + 1 :=
        ⟨room - t.accepted.length - 1, by omega⟩
      have after := ih (t := ⟨t.accepted ++ [s], t.attempts + 1⟩) (by simp only [length]; omega)
      have less : room - (t.accepted.length + 1) = spare := by omega
      have count : t.attempts + 1 + min (spare + 1) rest.length =
          t.attempts + min (spare + 1 + 1) (rest.length + 1) := by omega
      simp only [pour, taken, after, length, less, more, count, List.take_succ_cons,
        List.append_assoc, List.singleton_append, List.length_cons, Nat.add_lt_add_iff_right]
    · have refused : tape (some room) cause s t = .error cause ⟨t.accepted, t.attempts + 1⟩ := by
        simp [tape, fits]
      have full : room - t.accepted.length = 0 := by omega
      simp [pour, refused, full]

end

theorem rendered_text (p : Palette) (extend : Bool) (x : Part) :
    (render p extend x).value = text (part p extend x) := rfl

/-- What a program does that gives the texts to its sink, with an obstacle behind the last of them
or with none. -/
structure Delivers (texts : List String) (hurdle : Option Obstacle)
    (program : {σ ε : Type} → Sink σ ε → Press σ ε Unit) : Prop where
  any : ∀ {σ ε : Type} (sink : Sink σ ε) (before : σ),
    outcome (program sink) before = poured sink before texts hurdle
  whole : ∀ {ε : Type} (cause : ε),
    outcome (program (tape none cause)) {} = (⟨texts, texts.length⟩, hurdle.map .obstacle)
  cut : ∀ {ε : Type} (room : Nat) (cause : ε),
    outcome (program (tape (some room) cause)) {} =
      (⟨texts.take room, min (room + 1) texts.length⟩,
        if room < texts.length then some (.sink cause) else hurdle.map .obstacle)

theorem delivers_poured {texts : List String} {hurdle : Option Obstacle}
    {program : {σ ε : Type} → Sink σ ε → Press σ ε Unit}
    (any : ∀ {σ ε : Type} (sink : Sink σ ε) (before : σ),
      outcome (program sink) before = poured sink before texts hurdle) :
    Delivers texts hurdle program := by
  refine ⟨any, ?_, ?_⟩
  · intro ε cause
    rw [any, poured, pour_tape]
    simp
  · intro ε room cause
    have short := pour_short_tape cause room (t := {}) texts (Nat.zero_le _)
    rw [any, poured, short]
    split <;> simp_all

def drawn (palette : Option Palette) (extend : Bool) (x : Part) : List String :=
  writes (part (palette.getD {}) extend x)

def written (palette : Option Palette) (extend : Bool) (x : Part) : List String :=
  writes (Course.part (palette.getD {}) extend x).steps

def hurdle (palette : Option Palette) (extend : Bool) (x : Part) : Option Obstacle :=
  (Course.part (palette.getD {}) extend x).stop

theorem rendering_written (p : Palette) (extend : Bool) (x : Part) :
    writes (Course.render p extend x).steps = written (some p) extend x := rfl

theorem rendering_hurdle (p : Palette) (extend : Bool) (x : Part) :
    (Course.render p extend x).stop = hurdle (some p) extend x := rfl

theorem entry_delivers (palette : Option Palette) (extend : Bool) {x : Part}
    (entry : Entry x.unchecked) :
    Delivers (written palette extend x) (hurdle palette extend x)
      (entry.program (palette.map Palette.draft) extend) := by
  obtain ⟨c, draws, run⟩ := entry_followed palette extend entry
  refine delivers_poured ?_
  intro σ ε sink before
  rw [outcome, run, follow_left, draws.writes, draws.stop, written, hurdle]

theorem text_joined (palette : Option Palette) (extend : Bool) (x : Part) :
    Press.toText (palette.map Palette.draft) extend x.unchecked =
      (hurdle palette extend x).elim (.ok (String.join (written palette extend x)))
        fun o => .error (.obstacle o) := by
  have run := (entry_delivers palette extend (.function x.unchecked)).any buffer ""
  rw [poured, pour_buffer, String.empty_append] at run
  simp only [Entry.program] at run
  rw [Press.toText, run]
  cases hurdle palette extend x <;> rfl

theorem entry_text (palette : Option Palette) (extend : Bool) {x : Part}
    (entry : TextEntry x.unchecked) : entry.text (palette.map Palette.draft) extend =
      (hurdle palette extend x).elim (.ok (String.join (written palette extend x)))
        fun o => .error (.obstacle o) := by
  generalize same : x.unchecked = raw at entry
  cases entry with
  | function =>
    rw [TextEntry.text, ← same]
    exact text_joined palette extend x
  | method d =>
    cases x with
    | diagnostic d' =>
      cases same
      exact text_joined palette false (.diagnostic d')
    | _ => cases same

/-- Every way of writing a part gives the same texts to its sink, and every way of having it as a
text joins them. They are the texts of its drawing, and all of them unless a number in it cannot be
written or a marker cannot be counted. -/
theorem failing_sink_gets_prefix (palette : Option Palette) (extend : Bool) (x : Part) :
    (∀ entry : Entry x.unchecked,
      Delivers (written palette extend x) (hurdle palette extend x)
        (entry.program (palette.map Palette.draft) extend)) ∧
    (∀ entry : TextEntry x.unchecked, entry.text (palette.map Palette.draft) extend =
      (hurdle palette extend x).elim (.ok (String.join (written palette extend x)))
        fun o => .error (.obstacle o)) ∧
    written palette extend x <+: drawn palette extend x ∧
    (hurdle palette extend x = none ↔
      (∀ n ∈ x.numbers, Writable n) ∧ ∀ m ∈ x.markers, m.isCountable = true) ∧
    (hurdle palette extend x = none → written palette extend x = drawn palette extend x ∧
      String.join (written palette extend x) = (render (palette.getD {}) extend x).value) := by
  have takes := Course.part_takes (palette.getD {}) extend x
  refine ⟨fun entry => entry_delivers palette extend entry,
    fun entry => entry_text palette extend entry, writes_prefix takes.before, takes.clear, ?_⟩
  intro clear
  have same : written palette extend x = drawn palette extend x :=
    congrArg writes (takes.whole clear)
  refine ⟨same, ?_⟩
  rw [same]
  rfl

theorem failing_sink_gets_prefix_suggestion : ∃ (h : Help) (e : Excerpt),
    hurdle none true (.help h) = none ∧
    written none true (.help h) = drawn none true (.help h) ∧
    Delivers (written none true (.help h)) none ((Entry.function (Part.help h).unchecked).program
      none true) ∧
    hurdle none false (.excerpt e) = some .tooWide ∧
    (TextEntry.function (Part.excerpt e).unchecked).text none false =
      .error (.obstacle .tooWide) := by
  let l : Line := ⟨"let", 10, some ⟨⟨1, 2, by decide⟩, '~', 9, none, true⟩, by decide, by decide⟩
  let h : Help := ⟨"h", some ⟨[l]⟩⟩
  let wide : Marker := ⟨⟨0, wordLimit, by decide⟩, '^', 9, none, false⟩
  let e : Excerpt := ⟨[⟨"let", 10, some wide, by decide, by decide⟩]⟩
  have clear : hurdle none true (.help h) = none := by decide +kernel
  have stopped : hurdle none false (.excerpt e) = some .tooWide := by decide +kernel
  obtain ⟨delivers, -, -, -, whole⟩ := failing_sink_gets_prefix none true (.help h)
  obtain ⟨-, joined, -⟩ := failing_sink_gets_prefix none false (.excerpt e)
  have delivered := delivers (.function _)
  have text := joined (.function _)
  rw [clear] at delivered
  rw [stopped] at text
  exact ⟨h, e, clear, (whole clear).1, delivered, stopped, text⟩

end Caret.Drawing
