import Caret.Proofs.Drawing.Stripped
import Caret.Terminal

namespace Caret.Terminal
open Style

theorem turning_complete (e : Escape) : e ∈ turning := by
  cases e with
  | bold => exact List.mem_cons_self
  | reset => exact List.mem_cons_of_mem _ List.mem_cons_self
  | color c =>
    refine List.mem_cons_of_mem _ (List.mem_cons_of_mem _ ?_)
    exact List.mem_map.mpr ⟨c, List.mem_finRange c, rfl⟩

theorem turning_found (e : Escape) :
    turning.find? (fun f => f.text.toList == e.text.toList) = some e := by
  cases found : turning.find? fun f => f.text.toList == e.text.toList with
  | none =>
    have missed := List.find?_eq_none.mp found e (turning_complete e)
    exact absurd (beq_self_eq_true e.text.toList) missed
  | some f =>
    have same : f.text.toList = e.text.toList := by simpa using List.find?_some found
    have whole : f.text.toList ++ [] = e.text.toList ++ [] := congrArg (· ++ []) same
    rw [(Drawing.escape_unique whole).1]

theorem obey_text (pen : Pen) (e : Escape) : pen.obey e.text.toList = pen.turn e := by
  unfold Pen.obey
  rw [turning_found]

theorem display_passed (pen : Pen) (run rest : List Char) :
    displayFrom run.length pen (run ++ rest) = displayFrom 0 pen rest := by
  induction run with
  | nil => rfl
  | cons c run ih => exact ih

theorem display_escape (pen : Pen) (e : Escape) (rest : List Char) :
    displayFrom 0 pen (e.text.toList ++ rest) = displayFrom 0 (pen.turn e) rest := by
  have length := escape_length_text e rest
  have taken : (e.text.toList ++ rest).take e.text.toList.length = e.text.toList :=
    List.take_left
  have obeyed := obey_text pen e
  rw [Drawing.escape_chars, List.cons_append] at *
  rw [displayFrom, length]
  simp only [taken, obeyed]
  exact display_passed (pen.turn e) ('[' :: Drawing.command e) rest

/-- Characters that are all shown in one pen. -/
def penned (pen : Pen) (cs : List Char) : List Glyph := cs.map fun c => ⟨c, pen⟩

theorem penned_chars (pen : Pen) (cs : List Char) : (penned pen cs).map Glyph.char = cs := by
  rw [penned, List.map_map]
  exact List.map_id cs

theorem display_text (pen : Pen) {cs : List Char} (plain : esc ∉ cs) (rest : List Char) :
    displayFrom 0 pen (cs ++ rest) = ⟨penned pen cs ++ (displayFrom 0 pen rest).glyphs,
      (displayFrom 0 pen rest).pen⟩ := by
  induction cs with
  | nil => rfl
  | cons c cs ih =>
    rw [List.mem_cons, not_or] at plain
    rw [List.cons_append, displayFrom, escape_length_plain (Ne.symm plain.1), ih plain.2]
    rfl

theorem display_chars (skip : Nat) (pen : Pen) (cs : List Char) :
    (displayFrom skip pen cs).glyphs.map Glyph.char = stripFrom skip cs := by
  induction cs generalizing skip pen with
  | nil => cases skip <;> rfl
  | cons c cs ih =>
    cases skip with
    | succ skip => exact ih skip pen
    | zero =>
      rw [displayFrom, stripFrom]
      cases escapeLength? (c :: cs) with
      | some n => exact ih (n - 1) _
      | none => exact congrArg (c :: ·) (ih 0 pen)

theorem display_strip (s : String) :
    (display s).glyphs.map Glyph.char = (strip s).toList := by
  rw [strip, String.toList_ofList]
  exact display_chars 0 {} s.toList

end Caret.Terminal
