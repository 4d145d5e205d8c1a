import Caret.Draft
import Caret.Proofs.Drawing.Lines

/-!
Reading a whole drawing back, from the blocks up to the diagnostic. Main statement: under one
palette, two legible diagnostics with the same drawing are the same. Log records have no part in
this, and nothing is said about how a drawing would be parsed.
-/
namespace Caret
namespace Drawing

section
variable (p : Palette)

theorem excerpt_kind (extend : Bool) (e : Excerpt) (rest : List Cell) :
    kind (excerptCells p extend e ++ rest) = .blank := by
  simp only [excerptCells, List.append_assoc, blank_kind]

theorem excerpt_unique {extend extend' : Bool} {e e' : Excerpt} {rest rest' : List Cell}
    (legible : e.Legible) (legible' : e'.Legible) (past : (kind rest).ofBlock = false)
    (past' : (kind rest').ofBlock = false)
    (same : excerptCells p extend e ++ rest = excerptCells p extend' e' ++ rest') :
    e = e' ∧ rest = rest' := by
  have closing (x : Bool) (width : Nat) {after : List Cell} (past : (kind after).ofBlock = false) :
      (kind ((if x then blankCells p width else []) ++ after)).ofLines = false := by
    cases x with
    | true => rw [if_pos rfl, blank_kind]; rfl
    | false =>
      simp only [Kind.ofBlock, Bool.or_eq_false_iff] at past
      simpa using past.1
  unfold excerptCells at same
  simp only [List.append_assoc] at same
  obtain ⟨width, lines⟩ := blank_unique p same
  rw [width] at lines
  obtain ⟨sames, rests⟩ := lines_unique p legible legible' (closing _ _ past) (closing _ _ past')
    lines
  obtain ⟨ls⟩ := e
  obtain ⟨ls'⟩ := e'
  obtain rfl : ls = ls' := sames
  refine ⟨rfl, ?_⟩
  -- A closing row on one side alone would have to be what follows on the other.
  have blank (w : Nat) {after : List Cell} (past : (kind after).ofBlock = false) (b : List Cell) :
      after ≠ blankCells p w ++ b := by
    rintro rfl
    rw [blank_kind] at past
    contradiction
  split at rests <;> split at rests
  · exact (blank_unique p rests).2
  · exact absurd rests.symm (blank _ past' _)
  · exact absurd rests (blank _ past _)
  · exact rests

theorem help_kind (h : Help) (rest : List Cell) : kind (helpCells p h ++ rest) = .help := rfl

theorem note_kind (indent : Option Int) (message : String) (rest : List Cell) :
    kind (noteCells p indent message ++ rest) = .note := by
  cases indent with
  | none => rfl
  | some width =>
    rw [noteCells, List.append_assoc, gutter_cells_kind, gutter_kind_spaces]
    decide

theorem message_unique {s t : String} (same : ": " ++ s ++ "\n" = ": " ++ t ++ "\n") : s = t := by
  simpa using same

theorem help_unique {h h' : Help} {rest rest' : List Cell} (legible : h.Legible)
    (legible' : h'.Legible) (past : (kind rest).ofBlock = false)
    (past' : (kind rest').ofBlock = false)
    (same : helpCells p h ++ rest = helpCells p h' ++ rest') : h = h' ∧ rest = rest' := by
  have block {e : Excerpt} {after b : List Cell} (past : (kind after).ofBlock = false) :
      after ≠ excerptCells p false e ++ b := by
    rintro rfl
    rw [excerpt_kind] at past
    contradiction
  obtain ⟨message, suggestion⟩ := h
  obtain ⟨message', suggestion'⟩ := h'
  simp only [helpCells, List.cons_append, List.nil_append, List.cons.injEq,
    Cell.mk.injEq, true_and] at same
  obtain ⟨messages, rests⟩ := same
  obtain rfl := message_unique messages
  cases suggestion with
  | none =>
    cases suggestion' with
    | none => exact ⟨rfl, rests⟩
    | some e' => exact absurd rests (block past)
  | some e =>
    cases suggestion' with
    | none => exact absurd rests.symm (block past')
    | some e' =>
      obtain ⟨rfl, tails⟩ := excerpt_unique p (legible.suggestion e rfl)
        (legible'.suggestion e' rfl) past past' rests
      exact ⟨rfl, tails⟩

theorem note_unique {indent : Option Int} {message message' : String} {rest rest' : List Cell}
    (same : noteCells p indent message ++ rest = noteCells p indent message' ++ rest') :
    message = message' ∧ rest = rest' := by
  simp only [noteCells, List.append_assoc, List.append_cancel_left_eq, List.cons_append,
    List.nil_append, List.cons.injEq, Cell.mk.injEq, true_and] at same
  exact ⟨message_unique same.1, same.2⟩

end

/-- A list of rows of one kind, where each row can be read back whatever follows the block. -/
theorem rows_unique {α : Type} {cells : α → List Cell} {k : Kind} (fine : α → Prop)
    (begins : ∀ x rest, kind (cells x ++ rest) = k) (outside : k.ofBlock = false)
    (one : ∀ {x y rest rest'}, fine x → fine y → (kind rest).ofBlock = false →
      (kind rest').ofBlock = false → cells x ++ rest = cells y ++ rest' → x = y ∧ rest = rest')
    {xs ys : List α} {rest rest' : List Cell} (all : ∀ x ∈ xs, fine x) (all' : ∀ y ∈ ys, fine y)
    (past : (kind rest).ofBlock = false) (past' : (kind rest').ofBlock = false)
    (other : kind rest ≠ k) (other' : kind rest' ≠ k)
    (same : xs.flatMap cells ++ rest = ys.flatMap cells ++ rest') : xs = ys ∧ rest = rest' := by
  have follows (zs : List α) {after : List Cell} (past : (kind after).ofBlock = false) :
      (kind (zs.flatMap cells ++ after)).ofBlock = false := by
    cases zs with
    | nil => exact past
    | cons z zs => rw [List.flatMap_cons, List.append_assoc, begins, outside]
  induction xs generalizing ys with
  | nil =>
    cases ys with
    | nil => exact ⟨rfl, same⟩
    | cons y ys =>
      rw [List.flatMap_cons, List.append_assoc] at same
      have first := congrArg kind same
      rw [begins] at first
      exact absurd first other
  | cons x xs ih =>
    cases ys with
    | nil =>
      rw [List.flatMap_cons, List.append_assoc] at same
      have first := congrArg kind same
      rw [begins] at first
      exact absurd first.symm other'
    | cons y ys =>
      rw [List.flatMap_cons, List.flatMap_cons, List.append_assoc, List.append_assoc] at same
      obtain ⟨rfl, rests⟩ := one (all x List.mem_cons_self) (all' y List.mem_cons_self)
        (follows xs past) (follows ys past') same
      obtain ⟨rfl, tails⟩ := ih (fun z member => all z (List.mem_cons_of_mem _ member))
        (fun z member => all' z (List.mem_cons_of_mem _ member)) rests
      exact ⟨rfl, tails⟩

theorem level_label_unique {a b : Level} (same : a.label = b.label) : a = b := by
  have brackets (code : String) : (Level.error code).label ≠ Level.warning.label := by
    intro same
    have chars := congrArg String.toList same
    simp [Level.label] at chars
  cases a with
  | error code =>
    cases b with
    | error code' => simpa [Level.label] using same
    | warning => exact absurd same (brackets code)
  | warning =>
    cases b with
    | error code' => exact absurd same.symm (brackets code')
    | warning => rfl

theorem location_chars (l : Location) : l.spelling.toList =
    (l.path.toList ++ ':' :: (toString l.line).toList) ++ ':' :: (toString l.col).toList := by
  simp [Location.spelling]

theorem location_text_unique {a b : Location} (same : a.spelling = b.spelling) : a = b := by
  have colon (i : Int) : ':' ∉ (toString i).toList := by
    intro member
    rcases Text.int_text_chars i _ member with sign | digit
    · exact absurd sign (by decide)
    · exact absurd digit (by decide)
  have chars := congrArg String.toList same
  rw [location_chars, location_chars] at chars
  obtain ⟨fronts, cols⟩ := Text.last_separator_unique (colon a.col) (colon b.col) chars
  obtain ⟨paths, lines⟩ := Text.last_separator_unique (colon a.line) (colon b.line) fronts
  obtain ⟨path, line, col⟩ := a
  obtain ⟨path', line', col'⟩ := b
  obtain rfl : path = path' := String.toList_injective paths
  obtain rfl : line = line' := Text.int_text_unique lines
  obtain rfl : col = col' := Text.int_text_unique cols
  rfl

theorem head_unique (p : Palette) {d e : Diagnostic} {rest rest' : List Cell}
    (same : headCells p d ++ rest = headCells p e ++ rest') :
    d.level = e.level ∧ d.message = e.message ∧ d.location = e.location ∧ rest = rest' := by
  simp only [headCells, List.cons_append, List.nil_append, List.cons.injEq, Cell.mk.injEq,
    Style.Escape.color.injEq, true_and] at same
  obtain ⟨⟨_, labels⟩, messages, locations, rests⟩ := same
  exact ⟨level_label_unique labels, by simpa using messages,
    location_text_unique (by simpa using locations), rests⟩

theorem diagnostic_unique (p : Palette) {d e : Diagnostic} (legible : d.Legible)
    (legible' : e.Legible) (same : diagnosticCells p d = diagnosticCells p e) : d = e := by
  -- Behind the first block there is a help, a note or nothing, and never a row of the block.
  have notes_kind (indent : Option Int) (ns : List String) :
      kind (ns.flatMap (noteCells p indent)) = .note ∨
        kind (ns.flatMap (noteCells p indent)) = .nothing := by
    cases ns with
    | nil => exact .inr rfl
    | cons n ns =>
      rw [List.flatMap_cons]
      exact .inl (note_kind p indent n _)
  have notes_over (indent : Option Int) (ns : List String) :
      (kind (ns.flatMap (noteCells p indent))).ofBlock = false ∧
        kind (ns.flatMap (noteCells p indent)) ≠ .help := by
    rcases notes_kind indent ns with note | nothing
    · rw [note]
      decide
    · rw [nothing]
      decide
  have tail_over (hs : List Help) (indent : Option Int) (ns : List String) :
      (kind (hs.flatMap (helpCells p) ++ ns.flatMap (noteCells p indent))).ofBlock = false := by
    cases hs with
    | nil => exact (notes_over indent ns).1
    | cons h hs =>
      rw [List.flatMap_cons, List.append_assoc, help_kind]
      rfl
  unfold diagnosticCells at same
  simp only [List.append_assoc] at same
  obtain ⟨level, message, location, blocks⟩ := head_unique p same
  obtain ⟨excerpt, tails⟩ := excerpt_unique p legible.excerpt legible'.excerpt
    (tail_over _ _ _) (tail_over _ _ _) blocks
  have indent : noteIndent d = noteIndent e := by
    unfold noteIndent
    rw [level, excerpt]
  rw [indent] at tails
  obtain ⟨helps, rests⟩ := rows_unique Help.Legible (help_kind p) rfl (help_unique p)
    legible.helps legible'.helps (notes_over _ _).1 (notes_over _ _).1 (notes_over _ _).2
    (notes_over _ _).2 tails
  have notes : d.notes = e.notes := by
    have ended : d.notes.flatMap (noteCells p (noteIndent e)) ++ [] =
        e.notes.flatMap (noteCells p (noteIndent e)) ++ [] := by simpa using rests
    exact (rows_unique (fun _ => True) (note_kind p _) rfl
      (fun _ _ _ _ same => note_unique p same) (fun _ _ => trivial) (fun _ _ => trivial) rfl rfl
      (by decide) (by decide) ended).1
  cases d
  cases e
  simp_all

end Drawing

/-- Nothing about a legible diagnostic is lost when it is drawn. -/
theorem render_recovers (p : Palette) (d e : Diagnostic) (legible : d.Legible)
    (legible' : e.Legible) (same : (d.render p).value = (e.render p).value) : d = e := by
  have chars := congrArg String.toList same
  rw [Drawing.render_drawn, Drawing.render_drawn] at chars
  exact Drawing.diagnostic_unique p legible legible' (Drawing.flat_unique
    (Drawing.diagnostic_clean p legible) (Drawing.diagnostic_clean p legible') chars)

theorem render_recovers_suggestion :
    ∃ d e : Diagnostic,
      ((Draft.mk (.error "E1") "m" ⟨"a:b", 7, 2⟩ "let" ⟨1, 2, by decide⟩ (some "")
        [⟨"h", some ⟨"let", some ⟨0, 0, by decide⟩, none⟩⟩] ["n"]).build {}).value = .ok d ∧
      e.helps = [⟨"h", some ⟨[⟨"let", 7, some ⟨⟨0, 0, by decide⟩, '~', 10, none, true⟩, by decide,
        by decide⟩]⟩⟩] ∧
      d.Legible ∧ e.Legible ∧ (d.render {}).value = (e.render {}).value ∧ d = e := by
  let d : Diagnostic := ⟨.error "E1", "m", ⟨"a:b", 7, 2⟩,
    ⟨[⟨"let", 7, some ⟨⟨1, 2, by decide⟩, '^', 9, some "", false⟩, by decide, by decide⟩]⟩,
    [⟨"h", some ⟨[⟨"let", 7, some ⟨⟨0, 0, by decide⟩, '~', 10, none, true⟩, by decide,
      by decide⟩]⟩⟩], ["n"]⟩
  have legible : d.Legible := by
    refine ⟨?_, by decide, by decide, ?_, ?_, ?_⟩
    · rintro code ⟨⟩
      decide
    · intro l member
      obtain rfl := List.mem_singleton.mp member
      refine ⟨by decide, ?_, ?_⟩
      · rintro m ⟨⟩
        exact ⟨by rintro text ⟨⟩; decide, by decide, by decide⟩
      · rintro m ⟨⟩ ⟨⟩
    · intro h member
      obtain rfl := List.mem_singleton.mp member
      refine ⟨by decide, ?_⟩
      rintro e ⟨⟩ l member
      obtain rfl := List.mem_singleton.mp member
      refine ⟨by decide, ?_, ?_⟩
      · rintro m ⟨⟩
        exact ⟨by rintro text ⟨⟩, by decide, by decide⟩
      · rintro m ⟨⟩ _
        decide
    · intro n member
      obtain rfl := List.mem_singleton.mp member
      decide
  exact ⟨d, d, rfl, rfl, legible, legible, rfl, render_recovers {} d d legible legible rfl⟩

end Caret
