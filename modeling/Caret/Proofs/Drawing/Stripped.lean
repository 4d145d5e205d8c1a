import Caret.Proofs.Drawing.Lacks
import Caret.Proofs.Drawing.Lines

namespace Caret

namespace Style

theorem escape_length_plain {c : Char} (other : c ≠ esc) (rest : List Char) :
    escapeLength? (c :: rest) = none := by
  unfold escapeLength?
  split
  · rename_i opened
    exact absurd (List.cons.inj opened).1 other
  · rfl

theorem strip_plain {c : Char} (other : c ≠ esc) (rest : List Char) :
    stripFrom 0 (c :: rest) = c :: stripFrom 0 rest := by
  rw [stripFrom, escape_length_plain other]

theorem strip_text {cs : List Char} (plain : esc ∉ cs) (rest : List Char) :
    stripFrom 0 (cs ++ rest) = cs ++ stripFrom 0 rest := by
  induction cs with
  | nil => rfl
  | cons c cs ih =>
    rw [List.mem_cons, not_or] at plain
    rw [List.cons_append, strip_plain (Ne.symm plain.1), ih plain.2, List.cons_append]

theorem strip_passed (run rest : List Char) :
    stripFrom run.length (run ++ rest) = stripFrom 0 rest := by
  induction run with
  | nil => rfl
  | cons c run ih => exact ih

theorem escape_length_style {ps : List Char} (parameters : ∀ c ∈ ps, isParameter c = true)
    (rest : List Char) :
    escapeLength? (esc :: '[' :: (ps ++ 'm' :: rest)) = some (3 + ps.length) := by
  obtain ⟨taken, dropped⟩ :=
    Text.run_taken parameters (Text.stops_cons (by decide : isParameter 'm' = false) rest)
  have final : isIntermediate 'm' = false := by decide
  have none : ('m' :: rest).takeWhile isIntermediate = [] := by simp [final]
  have all : ('m' :: rest).dropWhile isIntermediate = 'm' :: rest := by simp [final]
  simp only [escapeLength?, esc, taken, dropped, none, all]
  rfl

theorem escape_length_text (e : Escape) (rest : List Char) :
    escapeLength? (e.text.toList ++ rest) = some e.text.toList.length := by
  have style : ∃ ps : List Char, Drawing.command e = ps ++ ['m'] ∧
      ∀ c ∈ ps, isParameter c = true := by
    cases e with
    | bold => exact ⟨['1'], rfl, List.all_eq_true.mp (by decide)⟩
    | reset => exact ⟨['0'], rfl, List.all_eq_true.mp (by decide)⟩
    | color c =>
      have fixed : ['3', '8', ';', '5', ';'].all isParameter = true := by decide
      refine ⟨['3', '8', ';', '5', ';'] ++ (toString c.val).toList, rfl, ?_⟩
      intro d member
      rcases List.mem_append.mp member with front | digit
      · exact List.all_eq_true.mp fixed d front
      · have number := Text.nat_text_digits c.val d digit
        simp only [Char.isDigit, Bool.and_eq_true, decide_eq_true_eq] at number
        simp only [isParameter, Bool.and_eq_true, decide_eq_true_eq]
        exact ⟨number.1, Char.le_trans number.2 (by decide)⟩
  obtain ⟨ps, shape, parameters⟩ := style
  have length := escape_length_style parameters rest
  rw [Drawing.escape_chars, shape, List.cons_append, List.cons_append, List.append_assoc,
    List.singleton_append, length]
  simp only [List.length_cons, List.length_append, List.length_nil, Option.some.injEq]
  omega

theorem strip_escape (e : Escape) (rest : List Char) :
    stripFrom 0 (e.text.toList ++ rest) = stripFrom 0 rest := by
  have length := escape_length_text e rest
  rw [Drawing.escape_chars, List.cons_append] at length ⊢
  rw [stripFrom, length]
  exact strip_passed ('[' :: Drawing.command e) rest

theorem escape_length_before (cs rest : List Char) :
    escapeLength? (cs ++ '\n' :: rest) = escapeLength? cs := by
  -- The feed is in none of the ranges, so each run of a sequence that is cut short stops at it.
  have parameter : isParameter '\n' = false := by decide
  have intermediate : isIntermediate '\n' = false := by decide
  have final : isFinal '\n' = false := by decide
  cases cs with
  | nil => rfl
  | cons c cs =>
    by_cases opened : c = esc
    · subst opened
      cases cs with
      | nil => rfl
      | cons d cs =>
        by_cases bracket : d = '['
        · subst bracket
          simp only [escapeLength?, esc, List.cons_append, Text.run_before parameter,
            Text.rest_before parameter, Text.run_before intermediate, Text.rest_before intermediate]
          cases (cs.dropWhile isParameter).dropWhile isIntermediate with
          | nil => simp [final]
          | cons f _ => rfl
        · have closed (xs : List Char) : escapeLength? (esc :: d :: xs) = none := by
            unfold escapeLength?
            split
            · rename_i same
              exact absurd (List.cons.inj (List.cons.inj same).2).1 bracket
            · rfl
          rw [List.cons_append, List.cons_append, closed, closed]
    · rw [List.cons_append, escape_length_plain opened, escape_length_plain opened]

theorem escape_length_bound {cs : List Char} {n : Nat} (found : escapeLength? cs = some n) :
    n ≤ cs.length := by
  unfold escapeLength? at found
  split at found
  · rename_i rest
    simp only at found
    split at found
    · rename_i last
      split at found
      · have parameters := congrArg List.length (List.takeWhile_append_dropWhile (p := isParameter)
          (l := rest))
        have intermediates := congrArg List.length (List.takeWhile_append_dropWhile
          (p := isIntermediate) (l := rest.dropWhile isParameter))
        rw [last] at intermediates
        simp only [List.length_append, List.length_cons, Option.some.injEq] at *
        omega
      · cases found
    · cases found
  · cases found

theorem strip_subset (skip : Nat) (cs : List Char) : stripFrom skip cs ⊆ cs := by
  induction cs generalizing skip with
  | nil => exact List.Subset.refl _
  | cons c cs ih =>
    cases skip with
    | succ skip => exact List.subset_cons_of_subset c (ih skip)
    | zero =>
      rw [stripFrom]
      cases escapeLength? (c :: cs) with
      | none => exact List.cons_subset_cons c (ih 0)
      | some n => exact List.subset_cons_of_subset c (ih _)

theorem strip_ended {skip : Nat} {cs : List Char} (within : skip ≤ cs.length) (rest : List Char) :
    stripFrom skip (cs ++ '\n' :: rest) = stripFrom skip cs ++ '\n' :: stripFrom 0 rest := by
  -- A sequence found before the feed ends before it, so what is to be skipped never reaches it.
  induction cs generalizing skip with
  | nil =>
    obtain rfl : skip = 0 := by simpa using within
    exact strip_plain (by decide) rest
  | cons c cs ih =>
    cases skip with
    | succ skip => exact ih (by simpa using within)
    | zero =>
      have same := escape_length_before (c :: cs) rest
      rw [List.cons_append] at same
      rw [List.cons_append, stripFrom, same, stripFrom]
      cases found : escapeLength? (c :: cs) with
      | none => exact congrArg (c :: ·) (ih (Nat.zero_le _))
      | some n =>
        have bound := escape_length_bound found
        rw [List.length_cons] at bound
        exact ih (by omega)

end Style

namespace Drawing

def Row.shown : Row → List Char
  | header level message => level.label.toList ++ (": " ++ message).toList
  | location place => (" --> " ++ place.spelling).toList
  | blank width => (Gutter.spaces width ++ " |").toList
  | ellipsis => "...".toList
  | code width l => (numberText width l).toList ++ l.text.toList
  | underline width m => (Gutter.spaces width ++ " | ").toList ++ (underlining m).toList
  | help message => ("help: " ++ message).toList
  | note indent message =>
    (match indent with
      | none => []
      | some width => (Gutter.spaces width ++ " = ").toList) ++ ("note: " ++ message).toList

theorem shown_cells (p : Palette) (r : Row) :
    (r.cells p).flatMap (fun c => c.text.toList) = r.shown := by
  cases r with
  | header level message => simp [Row.cells, Row.shown]
  | location place => simp [Row.cells, Row.shown]
  | blank width => simp [Row.cells, Row.shown, gutterCells]
  | ellipsis => simp [Row.cells, Row.shown, gutterCells]
  | code width l =>
    cases inline : inlineMarker l with
    | none => simp [Row.cells, Row.shown, gutterCells, inline]
    | some m =>
      have joined := congrArg String.toList (slices_joined l.text.toList m.span)
      simp only [String.toList_append, String.toList_ofList, List.append_assoc] at joined
      simp only [Row.cells, Row.shown, gutterCells, inline, List.flatMap_append, List.flatMap_cons,
        List.flatMap_nil, String.toList_empty, String.toList_ofList, List.nil_append,
        List.append_nil, List.append_assoc, joined]
  | underline width m => simp [Row.cells, Row.shown, gutterCells]
  | help message => simp [Row.cells, Row.shown]
  | note indent message => cases indent <;> simp [Row.cells, Row.shown, gutterCells]

theorem shown_lacks {c : Char} (control : c < ' ') {r : Row} (plain : r.Lacks c) :
    c ∉ r.shown := by
  rw [← shown_cells {}]
  intro member
  obtain ⟨x, shown, inside⟩ := List.mem_flatMap.mp member
  exact row_lacks {} control plain x shown inside

theorem strip_cells {cells : List Cell} (clean : Clean cells) (rest : List Char) :
    Style.stripFrom 0 (flat cells ++ rest) =
      cells.flatMap (fun c => c.text.toList) ++ Style.stripFrom 0 rest := by
  induction cells with
  | nil => rfl
  | cons c cells ih =>
    rw [flat_cons, Cell.chars, List.append_assoc, List.append_assoc, Style.strip_escape,
      Style.strip_text (clean c List.mem_cons_self),
      ih fun x member => clean x (List.mem_cons_of_mem _ member), List.flatMap_cons,
      List.append_assoc]

theorem strip_stacked (p : Palette) {rows : List Row} (plain : ∀ r ∈ rows, r.Lacks Style.esc) :
    Style.stripFrom 0 (stacked p rows) = rows.flatMap fun r => r.shown ++ ['\n'] := by
  induction rows with
  | nil => rfl
  | cons r rows ih =>
    have clean : Clean (r.cells p) := row_lacks p (by decide) (plain r List.mem_cons_self)
    rw [stacked_cons, Row.chars, strip_cells clean, shown_cells, Style.strip_plain (by decide),
      ih fun x member => plain x (List.mem_cons_of_mem _ member), List.flatMap_cons,
      List.append_assoc, List.singleton_append]

end Drawing
end Caret
