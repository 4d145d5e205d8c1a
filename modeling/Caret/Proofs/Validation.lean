import Caret.Proofs.Drawing.Refusal
import Caret.Proofs.Settings.Section
import Caret.Proofs.Usage.Acceptance

/-!
Checked once. Whatever has passed its checks is drawn in colours that have passed theirs, and then
only the sink can stop the drawing, and a marker that is too wide to be counted. The numbers of a
configuration that is accepted are such colours, so what arguments describe can be built with them.
-/
namespace Caret
open Drawing

namespace Drawing
section
variable {σ ε : Type}

def desk : EStateM.Result (Stop ε) (Desk σ) Unit → Desk σ
  | .ok _ desk => desk
  | .error _ desk => desk

def InRange (index : Int) : Prop := 0 ≤ index ∧ index ≤ 255

/-- A marker whose blanks and symbols can both be counted in a machine word. -/
def Countable (m : Marker) : Prop :=
  m.span.first < 9223372036854775808 ∧ m.span.width < 9223372036854775808

instance : DecidablePred Countable := fun _ => inferInstanceAs (Decidable (_ ∧ _))

/-- A program that never asks for a colour that does not exist, is stopped by its sink or by a marker
that cannot be counted, and by the latter exactly if there is one where the sink takes everything. -/
structure Sound (markers : List Marker)
    (program : {σ ε : Type} → Sink σ ε → Press σ ε Unit) : Prop where
  colors : ∀ {σ ε : Type} (sink : Sink σ ε) (before : σ),
    ∀ index ∈ (desk (program sink { sink := before })).colors, InRange index
  stops : ∀ {σ ε : Type} (sink : Sink σ ε) (before : σ) (stop : Stop ε),
    (outcome (program sink) before).2 = some stop →
      (∃ cause, stop = .sink cause) ∨ (stop = .obstacle .tooWide ∧ ∃ m ∈ markers, ¬ Countable m)
  finishes : ∀ {σ ε : Type} (sink : Sink σ ε) (before : σ),
    (∀ s t, ∃ after, sink s t = .ok () after) →
      ((outcome (program sink) before).2 = none ↔ ∀ m ∈ markers, Countable m)

theorem countable_iff (m : Marker) : m.isCountable = true ↔ Countable m := by
  rw [Marker.isCountable, Bool.and_eq_true, decide_eq_true_iff, decide_eq_true_iff]
  rfl

theorem write_colors (w : Write) : ∀ index ∈ w.colors, InRange index := by
  intro index member
  obtain ⟨ink, _, shown⟩ := List.mem_filterMap.mp member
  cases ink with
  | text s => cases shown
  | escape e =>
    cases e with
    | bold => cases shown
    | reset => cases shown
    | color c =>
      cases shown
      have bound := c.isLt
      unfold InRange
      omega

theorem feed_colors (sink : Sink σ ε) (steps : List Step) (before : Desk σ)
    (inside : ∀ index ∈ before.colors, InRange index) :
    ∀ index ∈ (desk (Press.feed sink steps before)).colors, InRange index := by
  -- A colour is kept before its text is written, so a refused write counts as well.
  induction steps generalizing before with
  | nil => exact inside
  | cons s steps ih =>
    cases s with
    | log r =>
      rw [Press.feed_log]
      exact ih { before with records := before.records ++ [r] } inside
    | write w =>
      have more : ∀ index ∈ before.colors ++ w.colors, InRange index := by
        intro index member
        rcases List.mem_append.mp member with earlier | asked
        · exact inside index earlier
        · exact write_colors w index asked
      cases given : sink w.toText before.sink with
      | ok _ after =>
        rw [Press.feed_taken given]
        exact ih { before with sink := after, colors := before.colors ++ w.colors } more
      | error cause after =>
        rw [Press.feed_refused given]
        exact more

theorem follow_colors (sink : Sink σ ε) (c : Course) (before : σ) :
    ∀ index ∈ (desk (Press.follow sink c { sink := before })).colors, InRange index := by
  have inside := feed_colors sink c.steps { sink := before } nofun
  cases ran : Press.feed sink c.steps { sink := before } with
  | error stop after =>
    rw [Press.follow, bind_halted ran]
    rwa [ran] at inside
  | ok _ after =>
    rw [Press.follow, bind_ran ran]
    rw [ran] at inside
    cases c.stop with
    | none => exact inside
    | some o =>
      intro index member
      rcases List.mem_append.mp member with earlier | asked
      · exact inside index earlier
      · exact write_colors c.begun index asked

theorem pour_all (sink : Sink σ ε) (takes : ∀ s t, ∃ after, sink s t = .ok () after) (before : σ)
    (texts : List String) : (pour sink before texts).2 = none := by
  induction texts generalizing before with
  | nil => rfl
  | cons s rest ih =>
    obtain ⟨after, taken⟩ := takes s before
    simp only [pour, taken, ih]

end

theorem takes_stop {c : Course} {steps : List Step} {numbers : List Int} {markers : List Marker}
    (takes : c.Takes steps numbers markers) (written : ∀ n ∈ numbers, Writable n) :
    c.stop = none ∨ (c.stop = some .tooWide ∧ ∃ m ∈ markers, ¬ Countable m) := by
  cases hurdle : c.stop with
  | none => exact .inl rfl
  | some o =>
    cases o with
    | tooLong =>
      obtain ⟨n, member, long⟩ := takes.long hurdle
      exact absurd (written n member) long
    | tooWide =>
      obtain ⟨m, member, uncounted⟩ := takes.wide hurdle
      exact .inr ⟨rfl, m, member, fun counted => uncounted ((countable_iff m).mpr counted)⟩

theorem takes_clear {c : Course} {steps : List Step} {numbers : List Int} {markers : List Marker}
    (takes : c.Takes steps numbers markers) (written : ∀ n ∈ numbers, Writable n) :
    c.stop = none ↔ ∀ m ∈ markers, Countable m := by
  rw [takes.clear, and_iff_right written]
  simp only [countable_iff]

theorem followed_sound {program : {σ ε : Type} → Sink σ ε → Press σ ε Unit} {c drawing : Course}
    {steps : List Step} {numbers : List Int} {markers : List Marker}
    (run : ∀ {σ ε : Type} (sink : Sink σ ε), program sink = Press.follow sink c)
    (same : c.stop = drawing.stop) (takes : drawing.Takes steps numbers markers)
    (written : ∀ n ∈ numbers, Writable n) : Sound markers program := by
  refine ⟨?_, ?_, ?_⟩
  · intro σ ε sink before
    rw [run]
    exact follow_colors sink c before
  · intro σ ε sink before stop stopped
    rw [outcome, run, follow_left, poured, same] at stopped
    cases refused : (pour sink before (writes c.steps)).2 with
    | some cause =>
      rw [refused] at stopped
      cases stopped
      exact .inl ⟨cause, rfl⟩
    | none =>
      rw [refused] at stopped
      rcases takes_stop takes written with clear | ⟨hurdle, uncounted⟩
      · rw [clear] at stopped
        cases stopped
      · rw [hurdle] at stopped
        cases stopped
        exact .inr ⟨rfl, uncounted⟩
  · intro σ ε sink before taking
    rw [outcome, run, follow_left, poured, pour_all sink taking, same, ← takes_clear takes written]
    cases drawing.stop <;> simp

theorem entry_sound {numbers : PaletteDraft} {p : Palette} {raw : Unchecked.Part} {x : Part}
    (palette : numbers.check = .ok p) (checked : raw.check = .ok x)
    (written : ∀ n ∈ x.numbers, Writable n) (extend : Bool) (entry : Entry raw) :
    Sound x.markers (entry.program (some numbers) extend) := by
  obtain rfl := (palette_check numbers p).mp palette
  obtain rfl := (Unchecked.part_check raw x).mp checked
  obtain ⟨c, draws, run⟩ := entry_followed (some p) extend entry
  exact followed_sound run draws.stop (Course.part_takes p extend x) written

end Drawing

structure Settings.Given (t : Document.Table) (source : Option Files.Path) (numbers : PaletteDraft)
    (styles : MarkerStyleDraft) : Prop where
  palette : ∃ entries, sectionOf t paletteName = .ok entries ∧
    (readSection paletteField paletteName source {} entries).value = .ok numbers
  markers : ∃ entries, sectionOf t markersName = .ok entries ∧
    (readSection markerField markersName source {} entries).value = .ok styles

theorem settings_given {t : Document.Table} {source : Option Files.Path} {s : Settings}
    (accepted : (Settings.ofTable t source).value = .ok s) :
    Settings.Given t source s.palette.draft s.markers.draft := by
  obtain ⟨palette, markers, _⟩ := Settings.table_accepted.mp accepted
  exact ⟨palette, markers⟩

/-- What has passed its checks is drawn without being stopped where its numbers can be written and
its markers can be counted, and so is what arguments describe in the colours and symbols that a
configuration gives: they can be built with these at any place whose line can be numbered. -/
theorem validation_once (extend : Bool) :
    (∀ (numbers : PaletteDraft) (p : Palette) (raw : Unchecked.Part) (x : Part),
      numbers.check = .ok p → raw.check = .ok x → (∀ n ∈ x.numbers, Writable n) →
        ∀ entry : Entry raw, Sound x.markers (entry.program (some numbers) extend)) ∧
    (∀ (t : Document.Table) (source : Option Files.Path) (s : Settings) (isError : Bool)
      (place path : String) (number line : Int) (words : Usage.Words) (accepted : Diagnostic),
      (Settings.ofTable t source).value = .ok s →
      (Usage.parse isError place number s.markers words).value = .ok accepted → 1 ≤ line →
      ∃ (numbers : PaletteDraft) (styles : MarkerStyleDraft) (r : Usage.Request) (d : Diagnostic),
        Settings.Given t source numbers styles ∧
        Usage.Request.read isError words = .ok r ∧
        (Unchecked.Diagnostic.ofDraft styles (r.draft path line)).check = .ok d ∧
        (Usage.parse isError path line s.markers words).value = .ok d ∧
        ((∀ n ∈ (Part.diagnostic d).numbers, Writable n) →
          ∀ entry : Entry (.diagnostic (.ofDraft styles (r.draft path line))),
            Sound (Part.diagnostic d).markers (entry.program (some numbers) extend))) := by
  constructor
  · intro numbers p raw x palette checked written entry
    exact entry_sound palette checked written extend entry
  · intro t source s isError place path number line words accepted configured parsed numbered
    obtain ⟨sentence, rfl, rfl⟩ := Usage.accepted_sentence place number s.markers parsed
    obtain ⟨d, built, again⟩ := Usage.parse_sentence path line s.markers sentence numbered
    have checked : (Unchecked.Diagnostic.ofDraft s.markers.draft
        (sentence.request.draft path line)).check = .ok d := by
      rw [Usage.request_draft, Unchecked.draft_check, map_error_ok]
      exact built
    refine ⟨s.palette.draft, s.markers.draft, sentence.request, d, settings_given configured,
      Usage.read_sentence sentence, checked, again, ?_⟩
    intro written entry
    have whole : (Unchecked.Part.diagnostic (.ofDraft s.markers.draft
        (sentence.request.draft path line))).check = .ok (.diagnostic d) :=
      map_ok.mpr ⟨d, checked, rfl⟩
    exact entry_sound ((palette_check _ _).mpr rfl) whole written extend entry

theorem validation_once_configured :
    (∃ (numbers : PaletteDraft) (p : Palette) (raw : Unchecked.Part) (x : Part),
      numbers = ⟨0, 255, 0, 255⟩ ∧ numbers.check = .ok p ∧ raw.check = .ok x ∧
        (∀ m ∈ x.markers, Countable m) ∧
        ∀ extend, Sound x.markers ((Entry.renderer raw).program (some numbers) extend)) ∧
    ∃ (t : Document.Table) (s : Settings) (d : Diagnostic),
      (Settings.ofTable t none).value = .ok s ∧ s.palette.help = 255 ∧ s.markers.error = 0 ∧
      (Usage.parse true "y" 7 s.markers
        ["E1", "m", "let x", "4-9", "fix", "h", "let _x", "4-5", "span", ""]).value = .ok d ∧
      (∀ m ∈ (Part.diagnostic d).markers, Countable m) ∧
      ∃ (numbers : PaletteDraft) (styles : MarkerStyleDraft) (r : Usage.Request),
        Settings.Given t none numbers styles ∧
        ∀ entry : Entry (.diagnostic (.ofDraft styles (r.draft "y" 7))),
          Sound (Part.diagnostic d).markers (entry.program (some numbers) true) := by
  constructor
  · let numbers : PaletteDraft := ⟨0, 255, 0, 255⟩
    let raw : Unchecked.Part := .line ⟨"x", 3, some ⟨⟨0, 4⟩, "^", 255, none, true⟩⟩
    obtain ⟨p, palette⟩ : ∃ p, numbers.check = .ok p := ⟨_, rfl⟩
    obtain ⟨x, checked, written, counted⟩ : ∃ x, raw.check = .ok x ∧
        (∀ n ∈ x.numbers, Writable n) ∧ ∀ m ∈ x.markers, Countable m :=
      ⟨_, rfl, by decide +kernel, by decide +kernel⟩
    exact ⟨numbers, p, raw, x, rfl, palette, checked, counted, fun extend =>
      (validation_once extend).1 numbers p raw x palette checked written (.renderer raw)⟩
  · let t : Document.Table := [("palette", .table [("help", .integer 255), ("halp", .integer 256)]),
      ("markers", .table [("symbol", .text "-"), ("error_marker", .integer 0)])]
    let s : Settings := ⟨{ help := 255 }, { symbol := '-', error := 0 }, none⟩
    let words := ["E1", "m", "let x", "4-9", "fix", "h", "let _x", "4-5", "span", ""]
    have configured : (Settings.ofTable t none).value = .ok s := rfl
    obtain ⟨d, parsed⟩ : ∃ d, (Usage.parse true "x" 1 s.markers words).value = .ok d := ⟨_, rfl⟩
    obtain ⟨shown, again, written, counted⟩ : ∃ d,
        (Usage.parse true "y" 7 s.markers words).value = .ok d ∧
        (∀ n ∈ (Part.diagnostic d).numbers, Writable n) ∧
        ∀ m ∈ (Part.diagnostic d).markers, Countable m :=
      ⟨_, rfl, by decide +kernel, by decide +kernel⟩
    obtain ⟨numbers, styles, r, d', given, _, _, built, sound⟩ :=
      (validation_once true).2 t none s true "x" "y" 1 7 _ d configured parsed (by decide)
    obtain rfl : shown = d' := Except.ok.inj (again.symm.trans built)
    exact ⟨t, s, shown, configured, rfl, rfl, again, counted, numbers, styles, r, given,
      sound written⟩

/-- A span whose end is the first number that a machine word cannot hold: it is accepted, and then
there is no drawing. -/
theorem wide_span_not_drawn : ∃ d : Diagnostic,
    (Usage.parse false "src/main.rs" 7 {} ["m", "let x", "0-9223372036854775808"]).value = .ok d ∧
    (∀ n ∈ (Part.diagnostic d).numbers, Writable n) ∧
    ∀ (extend : Bool) (entry : TextEntry (Part.diagnostic d).unchecked),
      entry.text (some ({} : Palette).draft) extend = .error (.obstacle .tooWide) := by
  obtain ⟨d, parsed, written, hurdle⟩ : ∃ d,
      (Usage.parse false "src/main.rs" 7 {} ["m", "let x", "0-9223372036854775808"]).value =
        .ok d ∧ (∀ n ∈ (Part.diagnostic d).numbers, Writable n) ∧
      (Course.diagnostic {} d).stop = some .tooWide :=
    ⟨_, rfl, by decide +kernel, by decide +kernel⟩
  refine ⟨d, parsed, written, ?_⟩
  intro extend entry
  have text := entry_text (some {}) extend (x := .diagnostic d) entry
  have stopped : Drawing.hurdle (some {}) extend (.diagnostic d) = some .tooWide := hurdle
  rwa [stopped] at text

-- Without its check a colour does stop the drawing, before anything is written.
example : outcome (Press.marker (tape none ()) ⟨⟨0, 1⟩, "^", 256, none, false⟩) {} =
    (⟨[], 0⟩, some (.color (.outOfRange 256))) := rfl

end Caret
