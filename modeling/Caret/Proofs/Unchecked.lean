import Caret.Unchecked

namespace Caret

theorem bind_ok {ε α β : Type} {x : Except ε α} {f : α → Except ε β} {b : β} :
    x >>= f = .ok b ↔ ∃ a, x = .ok a ∧ f a = .ok b := by
  cases x with
  | error _ => exact ⟨nofun, nofun⟩
  | ok a => exact ⟨fun run => ⟨a, rfl, run⟩, fun ⟨_, same, run⟩ => by cases same; exact run⟩

theorem map_ok {ε α β : Type} {x : Except ε α} {f : α → β} {b : β} :
    x.map f = .ok b ↔ ∃ a, x = .ok a ∧ f a = b := by
  cases x with
  | error _ => exact ⟨nofun, nofun⟩
  | ok a => simp [Except.map]

theorem map_failed {ε α β : Type} {x : Except ε α} {f : α → β} {e : ε} :
    x.map f = .error e ↔ x = .error e := by
  cases x with
  | error _ => exact ⟨fun | rfl => rfl, fun | rfl => rfl⟩
  | ok a => exact ⟨nofun, nofun⟩

theorem map_error_ok {ε ε' α : Type} {x : Except ε α} {f : ε → ε'} {a : α} :
    x.mapError f = .ok a ↔ x = .ok a := by
  cases x with
  | error _ => exact ⟨nofun, nofun⟩
  | ok b => exact ⟨fun | rfl => rfl, fun | rfl => rfl⟩

/-- A check that accepts what `back` takes apart, and nothing else. -/
def Inverts {ε α β : Type} (check : α → Except ε β) (back : β → α) : Prop :=
  ∀ x y, check x = .ok y ↔ x = back y

section
variable {ε α β γ δ : Type} {check : α → Except ε β} {back : β → α}

theorem Inverts.list (one : Inverts check back) :
    Inverts (fun xs : List α => xs.mapM check) (List.map back) := by
  intro xs
  induction xs with
  | nil =>
    intro ys
    cases ys with
    | nil => exact ⟨fun _ => rfl, fun _ => rfl⟩
    | cons y ys => exact ⟨nofun, nofun⟩
  | cons x xs ih =>
    intro ys
    simp only [List.mapM_cons]
    rw [bind_ok]
    constructor
    · rintro ⟨y, first, run⟩
      obtain ⟨rest, later, joined⟩ := bind_ok.mp run
      cases joined
      rw [List.map_cons, (one x y).mp first, (ih rest).mp later]
    · intro same
      cases ys with
      | nil => cases same
      | cons y ys =>
        obtain ⟨head, tail⟩ := List.cons.inj same
        exact ⟨y, (one x y).mpr head, bind_ok.mpr ⟨ys, (ih ys).mpr tail, rfl⟩⟩

theorem Inverts.option (one : Inverts check back) :
    Inverts (fun x : Option α => x.mapM check) (Option.map back) := by
  intro x y
  cases x with
  | none =>
    cases y with
    | none => exact ⟨fun _ => rfl, fun _ => rfl⟩
    | some b => exact ⟨nofun, nofun⟩
  | some a =>
    have mapped : (some a).mapM check = .ok y ↔ ∃ b, check a = .ok b ∧ some b = y := by
      rw [Option.mapM_some]
      exact map_ok
    refine mapped.trans ?_
    constructor
    · rintro ⟨b, accepted, rfl⟩
      rw [(one a b).mp accepted, Option.map_some]
    · intro same
      cases y with
      | none => cases same
      | some b => exact ⟨b, (one a b).mpr (Option.some.inj same), rfl⟩

end

theorem Color.of_int {n : Int} {c : Color} : Color.ofInt? n = some c ↔ n = c.val := by
  have bound := c.isLt
  unfold Color.ofInt?
  split
  · rw [Option.some_inj, Fin.ext_iff]
    constructor
    · intro same
      simp only at same
      omega
    · intro same
      simp only
      omega
  · refine ⟨nofun, ?_⟩
    intro same
    omega

theorem Marker.symbol_of_text {text : String} {c : Char} :
    Marker.symbol? text = some c ↔ text = String.singleton c := by
  unfold Marker.symbol?
  rw [← String.toList_inj, String.toList_singleton]
  split
  · rename_i d single
    rw [single, Option.some_inj, List.singleton_inj]
  · rename_i several
    exact ⟨nofun, fun single => absurd single (several c)⟩

theorem Span.of_ints (first last : Int) (s : Span) :
    Span.ofInts first last = .ok s ↔ first = s.first ∧ last = s.last := by
  have ordered := s.ordered
  unfold Span.ofInts
  split
  · refine ⟨nofun, ?_⟩
    rintro ⟨rfl, rfl⟩
    omega
  · split
    · refine ⟨nofun, ?_⟩
      rintro ⟨rfl, rfl⟩
      omega
    obtain ⟨a, b, _⟩ := s
    simp only [Except.ok.injEq, Span.mk.injEq]
    omega

theorem Marker.make_ok {span : Span} {symbol : String} {color : Int} {message : Option String}
    {inline : Bool} {m : Marker} : Marker.make span symbol color message inline = .ok m ↔
      span = m.span ∧ symbol = String.singleton m.symbol ∧ color = m.color.val ∧
        message = m.message ∧ inline = m.inline := by
  unfold Marker.make
  split
  · rename_i refused
    refine ⟨nofun, ?_⟩
    rintro ⟨_, single, _⟩
    rw [Marker.symbol_of_text.mpr single] at refused
    cases refused
  · rename_i s accepted
    split
    · rename_i refused
      refine ⟨nofun, ?_⟩
      rintro ⟨_, _, index, _⟩
      rw [Color.of_int.mpr index] at refused
      cases refused
    · rename_i c index
      rw [← Marker.symbol_of_text, accepted, ← Color.of_int, index]
      obtain ⟨span', symbol', color', message', inline'⟩ := m
      simp

theorem Line.make_ok {text : String} {number : Int} {marker : Option Marker} {l : Line} :
    Line.make text number marker = .ok l ↔
      text = l.text ∧ number = l.number ∧ marker = l.marker := by
  have unbroken := l.unbroken
  have positive := l.positive
  unfold Line.make
  split
  · rename_i broken
    refine ⟨nofun, ?_⟩
    rintro ⟨rfl, _⟩
    rw [broken] at unbroken
    cases unbroken
  · split
    · obtain ⟨text', number', marker', _, _⟩ := l
      simp only [Except.ok.injEq, Line.mk.injEq]
      refine and_congr_right fun _ => and_congr_left fun _ => ?_
      omega
    · refine ⟨nofun, ?_⟩
      rintro ⟨_, rfl, _⟩
      omega

namespace Unchecked

theorem span_check : Inverts Span.check Caret.Span.unchecked := by
  intro x y
  unfold Span.check
  rw [map_error_ok, Caret.Span.of_ints]
  cases x
  simp [Caret.Span.unchecked, ofSpan]

theorem marker_check : Inverts Marker.check Caret.Marker.unchecked := by
  intro x y
  unfold Marker.check
  rw [bind_ok]
  constructor
  · rintro ⟨span, accepted, made⟩
    obtain ⟨rfl, symbol, color, message, inline⟩ := Marker.make_ok.mp (map_error_ok.mp made)
    rw [Caret.Marker.unchecked, ← (span_check _ _).mp accepted, ← symbol, ← color, ← message,
      ← inline]
  · rintro rfl
    exact ⟨y.span, (span_check _ _).mpr rfl,
      map_error_ok.mpr (Marker.make_ok.mpr ⟨rfl, rfl, rfl, rfl, rfl⟩)⟩

theorem line_check : Inverts Line.check Caret.Line.unchecked := by
  intro x y
  unfold Line.check
  rw [bind_ok]
  constructor
  · rintro ⟨marker, accepted, made⟩
    obtain ⟨text, number, rfl⟩ := Line.make_ok.mp (map_error_ok.mp made)
    rw [Caret.Line.unchecked, ← (marker_check.option _ _).mp accepted, ← text, ← number]
  · rintro rfl
    exact ⟨y.marker, (marker_check.option _ _).mpr rfl,
      map_error_ok.mpr (Line.make_ok.mpr ⟨rfl, rfl, rfl⟩)⟩

theorem excerpt_check : Inverts Excerpt.check Caret.Excerpt.unchecked := by
  intro x y
  obtain ⟨ls⟩ := x
  unfold Excerpt.check
  rw [bind_ok]
  constructor
  · rintro ⟨lines, accepted, made⟩
    cases made
    exact congrArg Excerpt.mk ((line_check.list _ _).mp accepted)
  · intro same
    exact ⟨y.lines, (line_check.list _ _).mpr (Excerpt.mk.inj same), rfl⟩

theorem help_check : Inverts Help.check Caret.Help.unchecked := by
  intro x y
  obtain ⟨message, suggestion⟩ := x
  unfold Help.check
  rw [bind_ok]
  constructor
  · rintro ⟨given, accepted, made⟩
    cases made
    exact congrArg (Help.mk message) ((excerpt_check.option _ _).mp accepted)
  · intro same
    obtain ⟨rfl, parts⟩ := Help.mk.inj same
    exact ⟨y.suggestion, (excerpt_check.option _ _).mpr parts, rfl⟩

theorem diagnostic_check : Inverts Diagnostic.check Caret.Diagnostic.unchecked := by
  intro x y
  obtain ⟨level, message, location, excerpt, helps, notes⟩ := x
  unfold Diagnostic.check
  rw [bind_ok]
  constructor
  · rintro ⟨primary, accepted, run⟩
    obtain ⟨given, suggested, made⟩ := bind_ok.mp run
    cases made
    rw [Caret.Diagnostic.unchecked, ← (excerpt_check _ _).mp accepted,
      ← (help_check.list _ _).mp suggested]
  · intro same
    obtain ⟨rfl, rfl, rfl, primary, given, rfl⟩ := Diagnostic.mk.inj same
    exact ⟨y.excerpt, (excerpt_check _ _).mpr primary,
      bind_ok.mpr ⟨y.helps, (help_check.list _ _).mpr given, rfl⟩⟩

theorem part_check : Inverts Part.check Drawing.Part.unchecked := by
  intro x y
  cases x with
  | diagnostic d =>
    refine map_ok.trans ?_
    cases y <;> simp [diagnostic_check _ _, Drawing.Part.unchecked]
  | excerpt e =>
    refine map_ok.trans ?_
    cases y <;> simp [excerpt_check _ _, Drawing.Part.unchecked]
  | help h =>
    refine map_ok.trans ?_
    cases y <;> simp [help_check _ _, Drawing.Part.unchecked]
  | line l =>
    refine map_ok.trans ?_
    cases y <;> simp [line_check _ _, Drawing.Part.unchecked]
  | marker m =>
    refine map_ok.trans ?_
    cases y <;> simp [marker_check _ _, Drawing.Part.unchecked]
  | note message => cases y <;> simp [Part.check, Drawing.Part.unchecked, eq_comm]

end Unchecked

theorem check_color {owner field : String} {value : Int} {c : Color} :
    checkColor owner field value = .ok c ↔ value = c.val := by
  rw [← Color.of_int]
  unfold checkColor
  cases Color.ofInt? value <;> simp

theorem check_symbol {field text : String} {c : Char} :
    checkSymbol field text = .ok c ↔ text = String.singleton c := by
  rw [← Marker.symbol_of_text]
  unfold checkSymbol
  cases Marker.symbol? text <;> simp

theorem palette_check : Inverts PaletteDraft.check Palette.draft := by
  intro d p
  obtain ⟨error, warning, location, help⟩ := d
  simp only [PaletteDraft.check, bind_ok, check_color]
  constructor
  · rintro ⟨_, rfl, _, rfl, _, rfl, _, rfl, made⟩
    cases made
    rfl
  · intro same
    obtain ⟨rfl, rfl, rfl, rfl⟩ := PaletteDraft.mk.inj same
    exact ⟨_, rfl, _, rfl, _, rfl, _, rfl, rfl⟩

theorem marker_style_check : Inverts MarkerStyleDraft.check MarkerStyle.draft := by
  intro d s
  obtain ⟨symbol, suggestionSymbol, error, warning, suggestion⟩ := d
  simp only [MarkerStyleDraft.check, bind_ok, check_color, check_symbol]
  constructor
  · rintro ⟨_, rfl, _, rfl, _, rfl, _, rfl, _, rfl, made⟩
    cases made
    rfl
  · intro same
    obtain ⟨rfl, rfl, rfl, rfl, rfl⟩ := MarkerStyleDraft.mk.inj same
    exact ⟨_, rfl, _, rfl, _, rfl, _, rfl, _, rfl, rfl⟩

namespace Unchecked
variable (style : MarkerStyle)

theorem single_check (text : String) (number : Int) (marker : Option Caret.Marker) :
    (single text number (marker.map Caret.Marker.unchecked)).check =
      (Caret.Excerpt.single text number marker).mapError .line := by
  have accepted : (marker.map Caret.Marker.unchecked).mapM Marker.check = .ok marker :=
    (marker_check.option _ _).mpr rfl
  have line : Line.check ⟨text, number, marker.map Caret.Marker.unchecked⟩ =
      (Caret.Line.make text number marker).mapError .line := by
    rw [Line.check, accepted]
    rfl
  simp only [single, Excerpt.check, List.mapM_cons, List.mapM_nil, line, Caret.Excerpt.single]
  cases Caret.Line.make text number marker <;> rfl

theorem help_draft_check (number : Int) (d : HelpDraft) :
    (Help.ofDraft style.draft number d).check = (d.build style number).mapError .line := by
  obtain ⟨message, suggestion⟩ := d
  cases suggestion with
  | none => rfl
  | some s =>
    have marker : suggestionMarker style.draft s = (s.marker style).map Caret.Marker.unchecked := by
      obtain ⟨code, diff, tip⟩ := s
      cases diff <;> rfl
    simp only [Help.ofDraft, Help.check, Option.map_some, Option.mapM_some, marker, single_check,
      HelpDraft.build, SuggestionDraft.build]
    cases Caret.Excerpt.single s.code number (s.marker style) <;> rfl

theorem help_drafts_check (number : Int) (ds : List HelpDraft) :
    (ds.map (Help.ofDraft style.draft number)).mapM Help.check =
      (HelpDraft.buildAll style number ds).mapError .line := by
  induction ds with
  | nil => rfl
  | cons d ds ih =>
    rw [List.map_cons, List.mapM_cons, help_draft_check, ih, HelpDraft.buildAll]
    cases d.build style number with
    | error e => rfl
    | ok h => cases HelpDraft.buildAll style number ds <;> rfl

theorem draft_check (d : Draft) :
    (Diagnostic.ofDraft style.draft d).check = (d.assemble style).mapError .line := by
  have primary : primaryMarker style.draft d = (d.marker style).unchecked := by
    obtain ⟨level⟩ := d
    cases level <;> rfl
  have excerpt := single_check d.code d.location.line (some (d.marker style))
  simp only [Option.map_some] at excerpt
  simp only [Diagnostic.ofDraft, Diagnostic.check, primary, excerpt, help_drafts_check,
    Draft.assemble]
  cases Caret.Excerpt.single d.code d.location.line (some (d.marker style)) with
  | error e => rfl
  | ok e => cases HelpDraft.buildAll style d.location.line d.helps <;> rfl

end Unchecked
end Caret
