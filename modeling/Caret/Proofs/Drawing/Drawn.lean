import Caret.Proofs.Drawing.Refusal

namespace Caret.Drawing

theorem drawn_ok_iff {c : Course} {shown : String} :
    c.drawn.value = .ok shown ↔ c.stop = none ∧ text c.steps = shown := by
  rw [Course.drawn]
  cases c.stop with
  | none => simp
  | some o => simp

theorem drawn_error_iff {c : Course} {o : Obstacle} :
    c.drawn.value = .error o ↔ c.stop = some o := by
  rw [Course.drawn]
  cases c.stop with
  | none => simp
  | some o' => simp

section
variable (p : Palette) (d : Diagnostic)

theorem drawn_records : (d.drawn p).records <+: (d.render p).records :=
  records_grow (render_takes p false (.diagnostic d)).before

theorem drawn_below : (d.drawn p).Below Log.critical := by
  intro r member
  exact render_below p d r ((drawn_records p d).subset member)

theorem drawn_clear (written : ∀ n ∈ (Part.diagnostic d).numbers, Writable n)
    (counted : ∀ m ∈ (Part.diagnostic d).markers, m.isCountable = true) :
    (d.drawn p).value = .ok (d.render p).value := by
  have takes := render_takes p false (.diagnostic d)
  have clear := takes.clear.mpr ⟨written, counted⟩
  rw [drawing_text, ← takes.whole clear]
  exact drawn_ok_iff.mpr ⟨clear, rfl⟩

end

/-- The program draws the same text into a buffer, or stops at the same obstacle. -/
theorem buffered (palette : Option Palette) (d : Diagnostic) : ∃ desk : Desk String,
    desk.records = (d.drawn (palette.getD {})).records ∧
      (∀ text, (d.drawn (palette.getD {})).value = .ok text →
        Press.writePart buffer (palette.map Palette.draft) false (.diagnostic d.unchecked)
          { sink := "" } = .ok () { desk with sink := text }) ∧
      ∀ o, (d.drawn (palette.getD {})).value = .error o →
        Press.writePart buffer (palette.map Palette.draft) false (.diagnostic d.unchecked)
          { sink := "" } = .error (.obstacle o) desk := by
  have taking : ∀ s before, ∃ after, buffer s before = .ok () after :=
    fun s before => ⟨before ++ s, rfl⟩
  have program := Press.render_followed buffer (palette.getD {}) false (.diagnostic d)
  have same : Part.unchecked (.diagnostic d) = .diagnostic d.unchecked := rfl
  rw [same] at program
  obtain ⟨colors, ran⟩ :=
    follow_taken taking (Course.render (palette.getD {}) false (.diagnostic d)) { sink := "" }
  rw [pour_buffer, String.empty_append, List.nil_append] at ran
  rw [Press.writePart, chosen_palette, program, ran, Diagnostic.drawn]
  generalize Course.render (palette.getD {}) false (.diagnostic d) = course
  refine ⟨⟨text course.steps, colors, records course.steps⟩, rfl, ?_, ?_⟩
  · intro shown drawn
    obtain ⟨clear, rfl⟩ := drawn_ok_iff.mp drawn
    rw [clear]
    rfl
  · intro o failed
    rw [drawn_error_iff.mp failed]
    rfl

end Caret.Drawing
