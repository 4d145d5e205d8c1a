import Caret.Drawing.Course
import Caret.Proofs.Drawing.Records
import Caret.Proofs.Gutter

namespace Caret.Drawing

def Writable (n : Int) : Prop := n.natAbs < 10 ^ Text.maxDigits

instance : DecidablePred Writable := fun n => inferInstanceAs (Decidable (n.natAbs < _))

/-- The numbers that are drawn in a place of their own: a location's and those of the lines. -/
def Part.numbers (x : Part) : List Int :=
  (match x with
    | .diagnostic d => [d.location.line, d.location.col]
    | _ => []) ++ x.lines.map fun l => (l.number : Int)

def Part.markers (x : Part) : List Marker :=
  (match x with
    | .marker m => [m]
    | _ => []) ++ x.lines.filterMap Line.marker

theorem writes_prefix {a b : List Step} (front : a <+: b) : writes a <+: writes b := by
  obtain ⟨rest, rfl⟩ := front
  rw [writes_append]
  exact List.prefix_append _ _

namespace Course

/-- A course goes through some steps as far as numbers can be written and markers be counted. -/
structure Takes (c : Course) (steps : List Step) (numbers : List Int) (markers : List Marker) :
    Prop where
  before : c.steps <+: steps
  whole : c.stop = none → c.steps = steps
  clear : c.stop = none ↔ (∀ n ∈ numbers, Writable n) ∧ ∀ m ∈ markers, m.isCountable = true
  long : c.stop = some .tooLong → ∃ n ∈ numbers, ¬ Writable n
  wide : c.stop = some .tooWide → ∃ m ∈ markers, ¬ m.isCountable = true

section
variable {c a b : Course} {steps s t : List Step} {numbers ns ns' : List Int}
  {markers ms ms' : List Marker}

theorem takes_of (steps : List Step) : Takes (of steps) steps [] [] := by
  refine ⟨List.prefix_refl _, fun _ => rfl, ?_, nofun, nofun⟩
  simp [of]

theorem takes_need {α : Type} {text : Option α} {begun : Write}
    (given : text.isSome = true ↔ ∀ n ∈ ns, Writable n) :
    Takes (need .tooLong text begun) [] ns [] := by
  cases text with
  | none =>
    have missing : ¬ ∀ n ∈ ns, Writable n := by simpa using given
    refine ⟨List.nil_prefix, fun _ => rfl, ?_, ?_, nofun⟩
    · simpa [need, halt] using missing
    · intro _
      by_contra none
      exact missing fun n member => by_contra fun long => none ⟨n, member, long⟩
  | some a =>
    refine ⟨List.nil_prefix, fun _ => rfl, ?_, nofun, nofun⟩
    simpa [need] using given

theorem takes_and_then (first : Takes a s ns ms) (second : Takes b t ns' ms') :
    Takes (a.andThen b) (s ++ t) (ns ++ ns') (ms ++ ms') := by
  obtain ⟨taken, stop, begun⟩ := a
  cases stop with
  | none =>
    obtain rfl : taken = s := first.whole rfl
    obtain ⟨written, counted⟩ := first.clear.mp rfl
    refine ⟨?_, ?_, ?_, ?_, ?_⟩
    · exact (List.prefix_append_right_inj taken).mpr second.before
    · intro clear
      exact congrArg (taken ++ ·) (second.whole clear)
    · rw [List.forall_mem_append, List.forall_mem_append, and_iff_right written,
        and_iff_right counted]
      exact second.clear
    · intro long
      obtain ⟨n, member, unwritten⟩ := second.long long
      exact ⟨n, List.mem_append_right ns member, unwritten⟩
    · intro wide
      obtain ⟨m, member, uncounted⟩ := second.wide wide
      exact ⟨m, List.mem_append_right ms member, uncounted⟩
  | some o =>
    refine ⟨first.before.trans (List.prefix_append s t), nofun, ?_, ?_, ?_⟩
    · refine iff_of_false nofun ?_
      rintro ⟨written, counted⟩
      have clear := first.clear.mpr ⟨fun n member => written n (List.mem_append_left ns' member),
        fun m member => counted m (List.mem_append_left ms' member)⟩
      cases clear
    · intro long
      obtain ⟨n, member, unwritten⟩ := first.long long
      exact ⟨n, List.mem_append_left ns' member, unwritten⟩
    · intro wide
      obtain ⟨m, member, uncounted⟩ := first.wide wide
      exact ⟨m, List.mem_append_left ms' member, uncounted⟩

theorem takes_all {α : Type} {course : α → Course} {steps : α → List Step}
    {numbers : α → List Int} {markers : α → List Marker}
    (each : ∀ x, Takes (course x) (steps x) (numbers x) (markers x)) (xs : List α) :
    Takes (all (xs.map course)) (xs.flatMap steps) (xs.flatMap numbers) (xs.flatMap markers) := by
  induction xs with
  | nil => exact takes_of []
  | cons x xs ih =>
    simp only [List.flatMap_cons]
    exact takes_and_then (each x) ih

theorem takes_same (takes : Takes c steps ns ms) (numbers : ∀ n, n ∈ ns ↔ n ∈ ns')
    (markers : ∀ m, m ∈ ms ↔ m ∈ ms') : Takes c steps ns' ms' := by
  refine ⟨takes.before, takes.whole, ?_, ?_, ?_⟩
  · simpa only [numbers, markers] using takes.clear
  · simpa only [numbers] using takes.long
  · simpa only [markers] using takes.wide

end

theorem number_needed (n : Int) : (Text.writeInteger? n).isSome = true ↔ ∀ m ∈ [n], Writable m := by
  have digits : (toString n.natAbs).length = Gutter.columns n := rfl
  rw [List.forall_mem_singleton, Writable, ← Gutter.short_iff, Text.writeInteger?, digits]
  by_cases short : Gutter.columns n ≤ Text.maxDigits
  · rw [if_neg (Nat.not_lt_of_le short)]
    exact iff_of_true rfl short
  · rw [if_pos (Nat.lt_of_not_le short)]
    exact iff_of_false Bool.false_ne_true short

theorem block_needed (numbers : List Int) :
    (Gutter.blockWidth numbers).isSome = true ↔ ∀ n ∈ numbers, Writable n := by
  rw [Option.isSome_iff_exists]
  simp only [Gutter.block_width_some_iff, exists_and_left, exists_eq', and_true]
  rfl

theorem place_needed (l : Location) :
    l.toText.isSome = true ↔ ∀ n ∈ [l.line, l.col], Writable n := by
  have line := number_needed l.line
  have col := number_needed l.col
  rw [List.forall_mem_singleton] at line col
  rw [List.forall_mem_cons, List.forall_mem_singleton, ← line, ← col, Location.toText]
  cases Text.writeInteger? l.line <;> cases Text.writeInteger? l.col <;> simp

theorem marker_takes (m : Marker) : Takes (marker m) (Drawing.marker m) [] [m] := by
  rw [marker]
  cases counted : m.isCountable with
  | true =>
    refine ⟨List.prefix_refl _, fun _ => rfl, ?_, nofun, nofun⟩
    simp [of, counted]
  | false =>
    refine ⟨List.nil_prefix, nofun, ?_, nofun, ?_⟩
    · simp [halt, counted]
    · intro _
      exact ⟨m, List.mem_singleton_self m, by simp [counted]⟩

section
variable (p : Palette)

theorem line_takes (width : Nat) (l : Line) :
    Takes (line p width l) (Drawing.line p width l) [(l.number : Int)] l.marker.toList := by
  have number : Takes (need .tooLong (Text.writeInteger? l.number) []) [] [(l.number : Int)] [] :=
    takes_need (number_needed l.number)
  rw [line, Drawing.line]
  refine takes_and_then number (takes_and_then (takes_of _) ?_)
  cases l.marker with
  | none => exact takes_of []
  | some m => exact takes_and_then (takes_of _) (marker_takes m)

theorem lines_takes (width : Nat) (ls : List Line) (previous : Option Nat) :
    Takes (linesAfter p width previous ls) (Drawing.linesAfter p width previous ls)
      (ls.map fun l => (l.number : Int)) (ls.filterMap Line.marker) := by
  induction ls generalizing previous with
  | nil => exact takes_of []
  | cons l ls ih =>
    have own := takes_and_then (line_takes p width l) (ih (some l.number))
    have markers : (l :: ls).filterMap Line.marker = l.marker.toList ++ ls.filterMap Line.marker := by
      rw [List.filterMap_cons]
      cases l.marker <;> rfl
    rw [markers, Drawing.linesAfter, List.append_assoc]
    exact takes_and_then (takes_of (between p previous l.number)) own

theorem excerpt_takes (extend : Bool) (e : Excerpt) :
    Takes (excerpt p extend e) (Drawing.excerpt p extend e) e.numbers
      (e.lines.filterMap Line.marker) := by
  have block : Takes (need .tooLong (Gutter.blockWidth e.numbers) []) [] e.numbers [] :=
    takes_need (block_needed e.numbers)
  have lines := takes_and_then (lines_takes p e.width e.lines none)
    (takes_of (if extend || !e.endsMarked then blankGutter p e.width else []))
  have whole := takes_and_then block (takes_and_then (takes_of (blankGutter p e.width)) lines)
  rw [Drawing.excerpt, List.append_assoc]
  refine takes_same whole ?_ ?_ <;> simp [Excerpt.numbers]

theorem help_takes (extend : Bool) (h : Help) :
    Takes (help p extend h) (Drawing.help p extend h) (h.lines.map fun l => (l.number : Int))
      (h.lines.filterMap Line.marker) := by
  obtain ⟨message, suggestion⟩ := h
  cases suggestion with
  | none => exact takes_and_then (takes_of _) (takes_of [])
  | some e => exact takes_and_then (takes_of [helpLabel p message]) (excerpt_takes p extend e)

theorem head_takes (d : Diagnostic) : Takes (head p d) (header p d ++ [locationRow p d.location])
    [d.location.line, d.location.col] [] :=
  takes_and_then (takes_of _) (takes_and_then (takes_need (place_needed d.location)) (takes_of _))

theorem notes_takes (d : Diagnostic) : ∃ ns, ns ⊆ d.excerpt.numbers ∧
    Takes (notes p d) (d.notes.flatMap (note p (noteIndent d))) ns [] := by
  have rows := takes_of (d.notes.flatMap (note p (noteIndent d)))
  unfold notes indentation
  cases d.level with
  | error code => exact ⟨[], List.nil_subset _, takes_and_then (takes_of []) rows⟩
  | warning =>
    refine ⟨d.excerpt.numbers ++ [], by simp, ?_⟩
    exact takes_and_then (takes_need (block_needed d.excerpt.numbers)) rows

theorem diagnostic_takes (d : Diagnostic) :
    Takes (diagnostic p d) (Drawing.diagnostic p d) (Part.diagnostic d).numbers
      (Part.diagnostic d).markers := by
  obtain ⟨ns, known, notes⟩ := notes_takes p d
  have helps := takes_all (help_takes p false) d.helps
  have whole := takes_and_then (takes_of [.log (announcement d)])
    (takes_and_then (head_takes p d)
      (takes_and_then (excerpt_takes p (d.helps.isEmpty && d.notes.isEmpty) d.excerpt)
        (takes_and_then helps notes)))
  have steps : Drawing.diagnostic p d = [.log (announcement d)] ++
      (header p d ++ [locationRow p d.location] ++
        (Drawing.excerpt p (d.helps.isEmpty && d.notes.isEmpty) d.excerpt ++
          (d.helps.flatMap (Drawing.help p false) ++
            d.notes.flatMap (note p (noteIndent d))))) := by
    simp [Drawing.diagnostic]
  rw [steps]
  refine takes_same whole ?_ ?_
  · intro n
    have own : n ∈ ns → n ∈ d.excerpt.numbers := fun member => known member
    simp only [Part.numbers, Part.lines, shownLines, Excerpt.numbers, List.map_append,
      List.map_flatMap, List.mem_append, List.nil_append] at own ⊢
    tauto
  · intro m
    simp [Part.markers, Part.lines, shownLines, List.filterMap_append, List.filterMap_flatMap]

theorem part_takes (extend : Bool) (x : Part) :
    Takes (part p extend x) (Drawing.part p extend x) x.numbers x.markers := by
  cases x with
  | diagnostic d => exact diagnostic_takes p d
  | excerpt e => exact excerpt_takes p extend e
  | help h => exact help_takes p extend h
  | line l =>
    have width : (Gutter.width l.number).isSome = true ↔ ∀ n ∈ [(l.number : Int)], Writable n := by
      rw [List.forall_mem_singleton, Option.isSome_iff_exists]
      simp only [Gutter.width_some_iff, exists_and_left, exists_eq', and_true]
      rfl
    have needed : Takes (need .tooLong (Gutter.width l.number) []) [] [(l.number : Int)] [] :=
      takes_need width
    have whole := takes_and_then needed (line_takes p (Gutter.columns l.number) l)
    refine takes_same whole ?_ ?_
    · simp [Part.numbers, Part.lines]
    · intro m
      simp only [Part.markers, Part.lines, List.filterMap_cons, List.filterMap_nil,
        List.nil_append]
      cases l.marker <;> simp
  | marker m => exact marker_takes m
  | note message => exact takes_of (note p none message)

end
end Course

theorem render_takes (p : Palette) (extend : Bool) (x : Part) :
    (Course.render p extend x).Takes (subject p extend (.part x)).1 x.numbers x.markers :=
  Course.takes_and_then (Course.takes_of _) (Course.part_takes p extend x)

theorem records_grow {a b : List Step} (front : a <+: b) : records a <+: records b := by
  obtain ⟨rest, rfl⟩ := front
  rw [records_append]
  exact List.prefix_append _ _

end Caret.Drawing
