import Mathlib.Data.List.Forall2
import Caret.Proofs.Drawing.Pens
import Caret.Proofs.Drawing.Refusal

/-!
Two palettes. The steps of a drawing are compared one by one: what is written and logged is the same,
except that where the one palette gives a colour the other gives its own. Nothing is laid out by the
length of what was written, so numbers of different length move no text. Main statement: palettes
make a difference within the sequences for their own colours only, and none at all where they agree.
-/
namespace Caret.Drawing
open Terminal

inductive Ink.Alike (R : Color → Color → Prop) : Ink → Ink → Prop where
  | same (i : Ink) : Alike R i i
  | color {c d : Color} (tinted : R c d) : Alike R (.escape (.color c)) (.escape (.color d))

inductive Step.Alike (R : Color → Color → Prop) : Step → Step → Prop where
  | log (r : Log.Record) : Alike R (.log r) (.log r)
  | write {v w : Write} (inks : List.Forall₂ (Ink.Alike R) v w) : Alike R (.write v) (.write w)

def Alike (R : Color → Color → Prop) : List Step → List Step → Prop := List.Forall₂ (Step.Alike R)

/-- One text becomes the other when colours are put in the place of others. -/
inductive Recolored (R : Color → Color → Prop) : List Char → List Char → Prop where
  | nil : Recolored R [] []
  | char (c : Char) {xs ys : List Char} (rest : Recolored R xs ys) : Recolored R (c :: xs) (c :: ys)
  | color {c d : Color} (tinted : R c d) {xs ys : List Char} (rest : Recolored R xs ys) :
      Recolored R ((Style.Escape.color c).text.toList ++ xs)
        ((Style.Escape.color d).text.toList ++ ys)

/-- The colours that a part has from its palette, those of two palettes side by side. -/
inductive Tint (p q : Palette) (x : Part) : Color → Color → Prop where
  | location : Tint p q x p.location q.location
  | help : Tint p q x p.help q.help
  | label (d : Diagnostic) (drawn : x = .diagnostic d) :
      Tint p q x (levelColor p d.level) (levelColor q d.level)

section
variable {R : Color → Color → Prop}

theorem inks_same (w : Write) : List.Forall₂ (Ink.Alike R) w w :=
  List.forall₂_same.mpr fun i _ => .same i

theorem step_same (s : Step) : Step.Alike R s s := by
  cases s with
  | log r => exact .log r
  | write w => exact .write (inks_same w)

theorem alike_same (steps : List Step) : Alike R steps steps :=
  List.forall₂_same.mpr fun s _ => step_same s

theorem alike_cons {s t : Step} {a b : List Step} (first : Step.Alike R s t) (rest : Alike R a b) :
    Alike R (s :: a) (t :: b) :=
  List.Forall₂.cons first rest

theorem alike_append {a b c d : List Step} (first : Alike R a b) (second : Alike R c d) :
    Alike R (a ++ c) (b ++ d) :=
  List.rel_append first second

theorem alike_flatMap {α : Type} {f g : α → List Step} (each : ∀ x, Alike R (f x) (g x))
    (xs : List α) : Alike R (xs.flatMap f) (xs.flatMap g) := by
  induction xs with
  | nil => exact alike_same []
  | cons x xs ih =>
    rw [List.flatMap_cons, List.flatMap_cons]
    exact alike_append (each x) ih

theorem recolored_text (cs : List Char) {xs ys : List Char} (rest : Recolored R xs ys) :
    Recolored R (cs ++ xs) (cs ++ ys) := by
  induction cs with
  | nil => exact rest
  | cons c cs ih => exact .char c ih

theorem write_recolored {v w : Write} (inks : List.Forall₂ (Ink.Alike R) v w) :
    Recolored R v.toText.toList w.toText.toList := by
  have chars (w : Write) : w.toText.toList = w.flatMap fun i => i.toText.toList := by
    simp [Write.toText, String.toList_join, List.flatMap_map]
  rw [chars, chars]
  induction inks with
  | nil => exact .nil
  | cons first rest ih =>
    rw [List.flatMap_cons, List.flatMap_cons]
    cases first with
    | same i => exact recolored_text _ ih
    | color tinted => exact .color tinted ih

theorem writes_recolored {a b : List Step} (alike : Alike R a b) :
    List.Forall₂ (fun s t => Recolored R s.toList t.toList) (writes a) (writes b) := by
  induction alike with
  | nil => exact .nil
  | cons first rest ih =>
    cases first with
    | log r => exact ih
    | write inks => exact .cons (write_recolored inks) ih

theorem alike_equal (same : ∀ c d, R c d → c = d) {a b : List Step} (alike : Alike R a b) :
    a = b := by
  have inks {v w : Write} (related : List.Forall₂ (Ink.Alike R) v w) : v = w := by
    induction related with
    | nil => rfl
    | cons first rest ih =>
      cases first with
      | same i => rw [ih]
      | color tinted => rw [same _ _ tinted, ih]
  induction alike with
  | nil => rfl
  | cons first rest ih =>
    cases first with
    | log r => rw [ih]
    | write related => rw [inks related, ih]

end

section
variable {R : Color → Color → Prop} {p q : Palette}

theorem rule_alike (location : R p.location q.location) (s : String) :
    Step.Alike R (rule p s) (rule q s) :=
  .write (.cons (.same _) (.cons (.color location) (inks_same _)))

theorem blank_alike (location : R p.location q.location) (width : Nat) :
    Alike R (blankGutter p width) (blankGutter q width) :=
  alike_cons (rule_alike location _) (alike_same _)

theorem ellipsis_alike (location : R p.location q.location) :
    Alike R (ellipsis p) (ellipsis q) :=
  alike_cons (rule_alike location _) (alike_same _)

theorem line_alike (location : R p.location q.location) (width : Nat) (l : Line) :
    Alike R (line p width l) (line q width l) := by
  refine alike_append (alike_cons (rule_alike location _) (alike_same _)) ?_
  cases l.marker with
  | none => exact alike_same []
  | some m => exact alike_cons (rule_alike location _) (alike_same _)

theorem lines_alike (location : R p.location q.location) (width : Nat) (previous : Option Nat)
    (ls : List Line) : Alike R (linesAfter p width previous ls) (linesAfter q width previous ls) := by
  induction ls generalizing previous with
  | nil => exact alike_same []
  | cons l ls ih =>
    refine alike_append (alike_append ?_ (line_alike location width l)) (ih _)
    cases previous with
    | none => exact alike_same []
    | some n =>
      by_cases next : n + 1 = l.number
      · simp only [between, next, if_true]
        exact alike_same []
      · simp only [between, next, if_false]
        exact ellipsis_alike location

theorem excerpt_alike (location : R p.location q.location) (extend : Bool) (e : Excerpt) :
    Alike R (excerpt p extend e) (excerpt q extend e) := by
  refine alike_append (alike_append (blank_alike location _) (lines_alike location _ _ _)) ?_
  split
  · exact blank_alike location _
  · exact alike_same []

theorem help_alike (location : R p.location q.location) (own : R p.help q.help) (extend : Bool)
    (h : Help) : Alike R (help p extend h) (help q extend h) := by
  have label : Step.Alike R (helpLabel p h.message) (helpLabel q h.message) :=
    .write (.cons (.same _) (.cons (.color own) (inks_same _)))
  refine alike_cons label ?_
  cases h.suggestion with
  | none => exact alike_same []
  | some e => exact excerpt_alike location extend e

theorem note_alike (location : R p.location q.location) (indent : Option Int) (message : String) :
    Alike R (note p indent message) (note q indent message) := by
  cases indent with
  | none => exact alike_same _
  | some width => exact alike_cons (rule_alike location _) (alike_same _)

theorem diagnostic_alike (location : R p.location q.location) (own : R p.help q.help)
    (d : Diagnostic) (label : R (levelColor p d.level) (levelColor q d.level)) :
    Alike R (diagnostic p d) (diagnostic q d) := by
  have header : Alike R (header p d) (header q d) :=
    alike_cons (.write (.cons (.same _) (.cons (.color label) (inks_same _)))) (alike_same _)
  have place : Step.Alike R (locationRow p d.location) (locationRow q d.location) :=
    .write (.cons (.color location) (inks_same _))
  have above : Alike R (.log (announcement d) :: Drawing.header p d ++ [locationRow p d.location])
      (.log (announcement d) :: Drawing.header q d ++ [locationRow q d.location]) :=
    alike_append (alike_cons (step_same _) header) (alike_cons place (alike_same []))
  refine alike_append (alike_append (alike_append above (excerpt_alike location _ _)) ?_) ?_
  · exact alike_flatMap (help_alike location own false) d.helps
  · exact alike_flatMap (note_alike location _) d.notes

end

section
variable (p q : Palette) (extend : Bool)

theorem part_alike (x : Part) : Alike (Tint p q x) (part p extend x) (part q extend x) := by
  cases x with
  | diagnostic d => exact diagnostic_alike .location .help d (.label d rfl)
  | excerpt e => exact excerpt_alike .location extend e
  | help h => exact help_alike .location .help extend h
  | line l => exact line_alike .location _ l
  | marker m => exact alike_same _
  | note message => exact note_alike .location none message

theorem shown_chars (x : Part) :
    (x.glyphs p extend).map Glyph.char = (x.glyphs q extend).map Glyph.char := by
  have rows : ((x.rows extend).flatMap fun r => r.glyphs p ++ [feed]).map Glyph.char =
      ((x.rows extend).flatMap fun r => r.glyphs q ++ [feed]).map Glyph.char := by
    simp only [List.map_flatMap, List.map_append, row_glyphs_chars]
  cases x with
  | marker m => rfl
  | _ => exact rows

theorem strip_same {x : Part} (plain : x.Lacks Style.esc) :
    Style.strip (render p extend x).value = Style.strip (render q extend x).value := by
  refine String.toList_injective ?_
  rw [← display_strip, ← display_strip, part_displayed p extend plain, part_displayed q extend plain]
  exact shown_chars p q extend x

end

/-- What a row shows of code, without its gutter. No palette has a part in it. -/
def Piece.glyphs : Piece → List Glyph
  | code l => l.glyphs
  | underline m => penned m.pen (underlining m).toList

/-- A terminal shows code and underlines in the colours of their markers. -/
structure MarkersShown (p : Palette) (extend : Bool) (x : Part) : Prop where
  display : (Terminal.display (render p extend x).value).glyphs = x.glyphs p extend
  lines : (x.rows extend).filterMap Row.piece? = x.lines.flatMap pieces
  rows : ∀ r ∈ x.rows extend, ∀ piece, r.piece? = some piece →
    ∃ gutter, r.glyphs p = penned (rulePen p) gutter ++ piece.glyphs
  alone : ∀ m, x = .marker m → x.glyphs p extend = Piece.glyphs (.underline m) ++ [feed]

theorem markers_shown (p : Palette) (extend : Bool) {x : Part} (plain : x.Lacks Style.esc) :
    MarkersShown p extend x := by
  refine ⟨by rw [part_displayed p extend plain], part_rows_pieces extend x, ?_, ?_⟩
  · intro r _ piece given
    cases r with
    | code width l =>
      cases given
      exact ⟨_, rfl⟩
    | underline width m =>
      cases given
      exact ⟨_, rfl⟩
    | _ => cases given
  · rintro m rfl
    rfl

/-- A palette decides on colours only, and markers have colours of their own. -/
theorem palette_is_cosmetic (p q : Palette) (extend : Bool) (x : Part) (plain : x.Lacks Style.esc) :
    Style.strip (render p extend x).value = Style.strip (render q extend x).value ∧
    (drawn (some p) extend x).length = (drawn (some q) extend x).length ∧
    List.Forall₂ (fun s t => Recolored (Tint p q x) s.toList t.toList)
      (drawn (some p) extend x) (drawn (some q) extend x) ∧
    (p.location = q.location → p.help = q.help →
      (∀ d, x = .diagnostic d → levelColor p d.level = levelColor q d.level) →
      drawn (some p) extend x = drawn (some q) extend x ∧ render p extend x = render q extend x) ∧
    MarkersShown p extend x ∧ MarkersShown q extend x := by
  have alike := part_alike p q extend x
  have recolored := writes_recolored alike
  refine ⟨strip_same p q extend plain, recolored.length_eq, recolored, ?_,
    markers_shown p extend plain, markers_shown q extend plain⟩
  intro location help label
  have agree (c d : Color) (tint : Tint p q x c d) : c = d := by
    cases tint with
    | location => exact location
    | help => exact help
    | label d drawn => exact label d drawn
  have same := alike_equal agree alike
  constructor
  · exact congrArg writes same
  · simp only [render, subject, same]

theorem palette_is_cosmetic_error :
    ∃ d : Diagnostic, Part.Lacks Style.esc (.diagnostic d) ∧
      drawn (some {}) false (.diagnostic d) =
        drawn (some { warning := 255 }) false (.diagnostic d) ∧
      drawn (some {}) false (.diagnostic d) ≠ drawn (some { error := 200 }) false (.diagnostic d) ∧
      Style.strip (render {} false (.diagnostic d)).value =
        Style.strip (render { error := 200 } false (.diagnostic d)).value := by
  let d : Diagnostic := ⟨.error "E1", "m", ⟨"a.rs", 7, 2⟩,
    ⟨[⟨"let x", 7, some ⟨⟨4, 4, by decide⟩, '^', 9, none, true⟩, by decide, by decide⟩]⟩, [], ["n"]⟩
  have plain : Part.Lacks Style.esc (.diagnostic d) := by
    refine ⟨?_, by decide, by decide, by decide, by decide, by decide⟩
    rintro code ⟨⟩
    decide
  obtain ⟨_, _, _, same, _⟩ := palette_is_cosmetic {} { warning := 255 } false (.diagnostic d) plain
  obtain ⟨stripped, _⟩ := palette_is_cosmetic {} { error := 200 } false (.diagnostic d) plain
  refine ⟨d, plain, (same rfl rfl ?_).1, ?_, stripped⟩
  · rintro _ ⟨⟩
    rfl
  · intro equal
    have first : (drawn (some {}) false (.diagnostic d)).head? =
        (drawn (some { error := 200 }) false (.diagnostic d)).head? := congrArg List.head? equal
    exact absurd first (by decide)

end Caret.Drawing
