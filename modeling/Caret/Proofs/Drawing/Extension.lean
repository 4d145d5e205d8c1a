import Caret.Proofs.Drawing.Cells
import Caret.Proofs.Drawing.Refusal

namespace Caret

def LastMarked {α β : Type} (marker : α → Option β) (ls : List α) : Prop :=
  ∃ front l m, ls = front ++ [l] ∧ marker l = some m

/-- The block that a request to extend is about. -/
def Unchecked.Part.block? : Unchecked.Part → Option Unchecked.Excerpt
  | .excerpt e => some e
  | .help h => h.suggestion
  | .diagnostic _ => none
  | .line _ => none
  | .marker _ => none
  | .note _ => none

namespace Drawing

def Part.block? : Part → Option Excerpt
  | .excerpt e => some e
  | .help h => h.suggestion
  | .diagnostic _ => none
  | .line _ => none
  | .marker _ => none
  | .note _ => none

theorem last_marked_iff {α β : Type} (marker : α → Option β) (ls : List α) :
    (ls.getLast?.any fun l => (marker l).isSome) = true ↔ LastMarked marker ls := by
  rw [Option.any_eq_true]
  constructor
  · rintro ⟨l, last, marked⟩
    obtain ⟨front, split⟩ := List.getLast?_eq_some_iff.mp last
    obtain ⟨m, given⟩ := Option.isSome_iff_exists.mp marked
    exact ⟨front, l, m, split, given⟩
  · rintro ⟨front, l, m, split, given⟩
    refine ⟨l, List.getLast?_eq_some_iff.mpr ⟨front, split⟩, ?_⟩
    rw [given]
    rfl

namespace Press

theorem ends_marked_iff (e : Unchecked.Excerpt) :
    endsMarked e = true ↔ LastMarked Unchecked.Line.marker e.lines :=
  last_marked_iff _ _

section
variable {σ ε : Type} (sink : Sink σ ε) (p : PaletteDraft)

def blankRow (e : Unchecked.Excerpt) : Press σ ε Unit := do
  let width ← need .tooLong (blockWidth e)
  let tint ← color p.location
  write sink ("\x1b[1m" ++ tint ++ String.ofList (List.replicate width ' ') ++ " |\x1b[0m")
  write sink "\n"

theorem blank_row_gutter (e : Unchecked.Excerpt) : blankRow sink p e = (do
    let width ← need .tooLong (blockWidth e)
    blankGutter sink p width) := by
  have bold_text : bold = "\x1b[1m" := rfl
  have reset_text : reset = "\x1b[0m" := rfl
  have joined : " |" ++ "\x1b[0m" = " |\x1b[0m" := rfl
  simp only [blankRow, blankGutter, rule, Gutter.spaces, bold_text, reset_text, bind_assoc,
    String.append_assoc, joined]

def closing (e : Unchecked.Excerpt) : Press σ ε Unit :=
  if endsMarked e then blankRow sink p e else pure ()

theorem excerpt_extends (e : Unchecked.Excerpt) :
    excerpt sink p true e = (do excerpt sink p false e; closing sink p e) := by
  rw [excerpt, excerpt, closing, blank_row_gutter]
  cases blockWidth e with
  | none => rfl
  | some width => cases endsMarked e <;> simp

theorem help_extends (message : String) (e : Unchecked.Excerpt) :
    help sink p true ⟨message, some e⟩ =
      (do help sink p false ⟨message, some e⟩; closing sink p e) := by
  simp only [help, excerpt_extends sink p e, bind_assoc]

theorem part_extends {x : Unchecked.Part} {e : Unchecked.Excerpt} (block : x.block? = some e) :
    part sink p true x = (do part sink p false x; closing sink p e) := by
  cases x with
  | excerpt _ =>
    cases block
    exact excerpt_extends sink p e
  | help h =>
    obtain ⟨message, suggestion⟩ := h
    cases block
    exact help_extends sink p message e
  | diagnostic d => cases block
  | line l => cases block
  | marker m => cases block
  | note message => cases block

theorem part_unextended {x : Unchecked.Part} (block : x.block? = none) :
    part sink p true x = part sink p false x := by
  cases x with
  | excerpt e => cases block
  | help h =>
    obtain ⟨message, suggestion⟩ := h
    cases block
    rfl
  | diagnostic d => rfl
  | line l => rfl
  | marker m => rfl
  | note message => rfl

theorem part_closed {x : Unchecked.Part} {e : Unchecked.Excerpt} (block : x.block? = some e)
    (marked : LastMarked Unchecked.Line.marker e.lines) :
    part sink p true x = (do part sink p false x; blankRow sink p e) := by
  rw [part_extends sink p block, closing, if_pos ((ends_marked_iff e).mpr marked)]

theorem part_unchanged {x : Unchecked.Part}
    (unmarked : ∀ e, x.block? = some e → ¬ LastMarked Unchecked.Line.marker e.lines) :
    part sink p true x = part sink p false x := by
  cases block : x.block? with
  | none => exact part_unextended sink p block
  | some e =>
    have ends : ¬ endsMarked e = true := by
      intro marked
      exact unmarked e block ((ends_marked_iff e).mp marked)
    rw [part_extends sink p block, closing, if_neg ends, bind_pure_unit]

end
end Press

section
variable (p : Palette) {x : Part}

theorem last_marked_ends (e : Excerpt) : e.endsMarked = true ↔ LastMarked Line.marker e.lines := by
  rw [← last_marked_iff, Excerpt.endsMarked]
  cases e.lines.getLast? <;> rfl

theorem excerpt_drawn_extended (e : Excerpt) : excerpt p true e =
    excerpt p false e ++ if e.endsMarked then blankGutter p e.width else [] := by
  rw [excerpt, excerpt, List.append_assoc, List.append_assoc, List.append_assoc]
  cases e.endsMarked <;> simp

theorem part_drawn_extended {e : Excerpt} (block : x.block? = some e) :
    part p true x = part p false x ++ if e.endsMarked then blankGutter p e.width else [] := by
  cases x with
  | excerpt _ =>
    cases block
    exact excerpt_drawn_extended p e
  | help h =>
    obtain ⟨message, suggestion⟩ := h
    cases block
    exact congrArg (helpLabel p message :: ·) (excerpt_drawn_extended p e)
  | diagnostic d => cases block
  | line l => cases block
  | marker m => cases block
  | note message => cases block

theorem part_drawn_unextended (block : x.block? = none) : part p true x = part p false x := by
  cases x with
  | excerpt e => cases block
  | help h =>
    obtain ⟨message, suggestion⟩ := h
    cases block
    rfl
  | diagnostic d => rfl
  | line l => rfl
  | marker m => rfl
  | note message => rfl

theorem blank_gutter_text (width : Nat) : text (blankGutter p width) =
    "\x1b[1m\x1b[38;5;" ++ toString p.location.val ++ "m" ++
      String.ofList (List.replicate width ' ') ++ " |\x1b[0m\n" := by
  simp [← String.toList_inj, blankGutter, rule, plain, text_write, text_nil, Ink.toText,
    Style.Escape.text, Gutter.spaces]

theorem drawing_closed {e : Excerpt} (block : x.block? = some e)
    (marked : LastMarked Line.marker e.lines) :
    (render p true x).value = (render p false x).value ++
      ("\x1b[1m\x1b[38;5;" ++ toString p.location.val ++ "m" ++
        String.ofList (List.replicate e.width ' ') ++ " |\x1b[0m\n") := by
  have closed := part_drawn_extended p block
  rw [if_pos ((last_marked_ends e).mpr marked)] at closed
  rw [rendered_text, rendered_text, closed, ← blank_gutter_text, text, text, text, writes_append,
    String.join_append]

theorem drawing_unchanged
    (unmarked : ∀ e, x.block? = some e → ¬ LastMarked Line.marker e.lines) :
    (render p true x).value = (render p false x).value := by
  have same : part p true x = part p false x := by
    cases block : x.block? with
    | none => exact part_drawn_unextended p block
    | some e =>
      have unclosed : ¬ e.endsMarked = true := fun ends =>
        unmarked e block ((last_marked_ends e).mp ends)
      rw [part_drawn_extended p block, if_neg unclosed, List.append_nil]
  rw [rendered_text, rendered_text, same]

end

/-- What extension adds: to the programs a step at their end, and to the drawn texts a row. -/
theorem extension_appends_row :
    (∀ {σ ε : Type} (sink : Sink σ ε) (p : PaletteDraft) (x : Unchecked.Part),
      (∀ e, x.block? = some e → LastMarked Unchecked.Line.marker e.lines →
        Press.part sink p true x = (do
          Press.part sink p false x
          let width ← Press.need .tooLong (Press.blockWidth e)
          let tint ← Press.color p.location
          Press.write sink
            ("\x1b[1m" ++ tint ++ String.ofList (List.replicate width ' ') ++ " |\x1b[0m")
          Press.write sink "\n")) ∧
      ((∀ e, x.block? = some e → ¬ LastMarked Unchecked.Line.marker e.lines) →
        Press.part sink p true x = Press.part sink p false x)) ∧
    ∀ (p : Palette) (x : Part),
      (∀ e, x.block? = some e → LastMarked Line.marker e.lines →
        (render p true x).value = (render p false x).value ++
          ("\x1b[1m\x1b[38;5;" ++ toString p.location.val ++ "m" ++
            String.ofList (List.replicate e.width ' ') ++ " |\x1b[0m\n")) ∧
      ((∀ e, x.block? = some e → ¬ LastMarked Line.marker e.lines) →
        (render p true x).value = (render p false x).value) := by
  constructor
  · intro σ ε sink p x
    exact ⟨fun e block marked => Press.part_closed sink p block marked,
      fun unmarked => Press.part_unchanged sink p unmarked⟩
  · intro p x
    exact ⟨fun e block marked => drawing_closed p block marked,
      fun unmarked => drawing_unchanged p unmarked⟩

theorem extension_appends_row_help :
    ∃ e : Excerpt, e.width = 2 ∧ LastMarked Line.marker e.lines ∧
      (render {} true (.help ⟨"h", some e⟩)).value =
        (render {} false (.help ⟨"h", some e⟩)).value ++ "\x1b[1m\x1b[38;5;12m   |\x1b[0m\n" ∧
      (render {} true (.help ⟨"h", some ⟨[]⟩⟩)).value =
        (render {} false (.help ⟨"h", some ⟨[]⟩⟩)).value := by
  let m : Marker := ⟨⟨1, 6, by decide⟩, '~', 9, none, true⟩
  let e : Excerpt :=
    ⟨[⟨"", 7, none, by decide, by decide⟩, ⟨"let", 10, some m, by decide, by decide⟩]⟩
  have marked : LastMarked Line.marker e.lines := ⟨[_], _, m, rfl, rfl⟩
  have unmarked : ∀ x, Part.block? (.help ⟨"h", some ⟨[]⟩⟩) = some x →
      ¬ LastMarked Line.marker x.lines := by
    rintro _ ⟨⟩ ⟨front, l, m, split, -⟩
    simp at split
  have row : "\x1b[1m\x1b[38;5;" ++ toString ({} : Palette).location.val ++ "m" ++
      String.ofList (List.replicate e.width ' ') ++ " |\x1b[0m\n" =
      "\x1b[1m\x1b[38;5;12m   |\x1b[0m\n" := by decide +kernel
  refine ⟨e, by decide, marked, ?_, ?_⟩
  · rw [← row]
    exact (extension_appends_row.2 {} (.help ⟨"h", some e⟩)).1 e rfl marked
  · exact (extension_appends_row.2 {} (.help ⟨"h", some ⟨[]⟩⟩)).2 unmarked

end Drawing
end Caret
