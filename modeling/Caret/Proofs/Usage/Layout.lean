import Caret.Proofs.Drawing.Cut
import Caret.Proofs.Drawing.Drawn
import Caret.Proofs.Text.Unbroken
import Caret.Proofs.Usage.Acceptance

/-!
How a report is laid out. What was typed stands in the echo of a complaint, where line breaks are
escaped, and the other texts are fixed, so none of them begins a row of its own. A report has one
line with one marker and no notes, and its helps have no suggestions: it is drawn on five rows and
one more for each help. What the rows show is not looked at here.
-/
namespace Caret.Usage
open Drawing

/-- No text of the complaint breaks the line. -/
structure Complaint.Flat (c : Complaint) : Prop where
  message : Text.hasBreak c.message = false
  echo : Text.hasBreak c.echo = false
  remark : Text.hasBreak c.remark = false
  hints : ∀ h ∈ c.hints, Text.hasBreak h = false

section
variable (position : Int) (echo : String)

end

def Slot.name : Slot → String
  | .text what => what
  | .line what => what
  | .span => "span"

section
variable {c : Complaint} {group : Int} {d : Diagnostic}

theorem report_parts (built : (c.report group).value = .ok d) :
    ∃ l, d = ⟨.error c.verdict.code, c.message, ⟨"arg", group, c.position⟩, ⟨[l]⟩,
        (c.hints ++ [hint]).map fun h => ⟨h, none⟩, []⟩ ∧
      l.text = c.echo ∧ (l.number : Int) = group ∧ l.marker = some ((c.draft group).marker {}) := by
  obtain ⟨level, location, l, excerpt, text, number, marked⟩ := draft_build_parts built
  obtain ⟨helps, notes⟩ := draft_build_tail built
  have message := draft_build_message built
  have bare := Except.ok.inj ((bare_helps_build {} group (c.hints ++ [hint])).symm.trans helps)
  refine ⟨l, ?_, text, number, marked⟩
  cases d
  simp only [Diagnostic.mk.injEq]
  exact ⟨level, message, location, excerpt, bare.symm, notes⟩

/-- A report is drawn if its numbers can be written and its marker be counted. -/
theorem report_drawn (p : Palette) (built : (c.report group).value = .ok d)
    (grouped : Writable group) (placed : Writable c.position)
    (first : c.span.first < wordLimit) (width : c.span.width < wordLimit) :
    ∃ text, (d.drawn p).value = .ok text := by
  obtain ⟨l, same, -, number, marked⟩ := report_parts built
  have bare (t : String) : (⟨t, none⟩ : Help).lines = [] := rfl
  have shown : shownLines d = [l] := by simp [same, shownLines, bare]
  refine ⟨_, drawn_clear p d ?_ ?_⟩
  · have place : d.location = ⟨"arg", group, c.position⟩ := congrArg Diagnostic.location same
    have numbers : (Part.diagnostic d).numbers = [group, c.position, group] := by
      simp [Part.numbers, Part.lines, shown, number, place]
    rw [numbers]
    exact List.forall_mem_cons.mpr ⟨grouped, List.forall_mem_cons.mpr
      ⟨placed, List.forall_mem_singleton.mpr grouped⟩⟩
  · have markers : (Part.diagnostic d).markers = [(c.draft group).marker {}] := by
      simp [Part.markers, Part.lines, shown, marked]
    rw [markers]
    refine List.forall_mem_singleton.mpr ?_
    rw [Marker.isCountable, Bool.and_eq_true, decide_eq_true_iff, decide_eq_true_iff]
    exact ⟨first, width⟩

end

end Caret.Usage
