import Caret.Proofs.Drawing.Legible

namespace Caret.Drawing

/-- What a row is taken for. Cells in colour without bold before them are inside a row. -/
inductive Kind where
  | inside | ellipsis | code | underline | blank | help | note | nothing
  deriving DecidableEq, Repr

namespace Kind

def ofLines : Kind → Bool
  | inside | ellipsis | code | underline => true
  | blank | help | note | nothing => false

def ofBlock (k : Kind) : Bool := k.ofLines || k == blank

end Kind

def gutterKind (s : String) : Kind :=
  match s.toList.dropWhile (· == ' ') with
  | ['|', ' '] => .underline
  | ['|'] => .blank
  | '=' :: _ => .note
  | '.' :: _ => .ellipsis
  | 'h' :: _ => .help
  | _ => .code

def kind : List Cell → Kind
  | [] => .nothing
  | ⟨.color _, _⟩ :: _ => .inside
  | ⟨_, s⟩ :: ⟨_, t⟩ :: _ => if s = "" then gutterKind t else .note
  | [_] => .note

section
variable (p : Palette)

theorem spaces_text (n : Nat) : (Gutter.spaces n).toList = List.replicate n ' ' :=
  String.toList_ofList

theorem gutter_kind_spaces (n : Nat) (s : String) :
    gutterKind (Gutter.spaces n ++ s) = gutterKind s := by
  have dropped : (List.replicate n ' ' ++ s.toList).dropWhile (· == ' ') =
      s.toList.dropWhile (· == ' ') := by
    induction n with
    | zero => rfl
    | succ n ih => simp [List.replicate_succ, ih]
  simp only [gutterKind, String.toList_append, spaces_text, dropped]

theorem number_kind (width : Nat) (l : Line) : gutterKind (numberText width l) = .code := by
  obtain ⟨c, cs, digits⟩ := List.exists_cons_of_ne_nil (Text.nat_text_nonempty l.number)
  have digit := Text.nat_text_digits l.number c (by rw [digits]; exact List.mem_cons_self)
  have solid : (c == ' ') = false := by
    rw [beq_eq_false_iff_ne]
    rintro rfl
    contradiction
  unfold gutterKind numberText Gutter.padRight
  simp only [String.toList_append, digits, List.cons_append, List.dropWhile_cons, solid]
  split <;> simp_all

theorem gutter_cells_kind (s behind : String) (rest : List Cell) :
    kind (gutterCells p s behind ++ rest) = gutterKind s := rfl

theorem blank_kind (width : Nat) (rest : List Cell) :
    kind (blankCells p width ++ rest) = .blank := by
  rw [blankCells, gutter_cells_kind, gutter_kind_spaces]
  decide

theorem ellipsis_kind (rest : List Cell) : kind (ellipsisCells p ++ rest) = .ellipsis := by
  rw [ellipsisCells, gutter_cells_kind]
  decide

theorem code_kind (width : Nat) (l : Line) (rest : List Cell) :
    kind (codeCells p width l ++ rest) = .code := by
  unfold codeCells
  split
  · rw [gutter_cells_kind, number_kind]
  · rw [List.append_assoc, gutter_cells_kind, number_kind]

theorem underline_kind (width : Nat) (m : Marker) (rest : List Cell) :
    kind (underlineCells p width m ++ rest) = .underline := by
  rw [underlineCells, List.append_assoc, gutter_cells_kind, gutter_kind_spaces]
  decide

theorem gutter_unique {s s' behind behind' : String} {rest rest' : List Cell}
    (same : gutterCells p s behind ++ rest = gutterCells p s' behind' ++ rest') :
    s = s' ∧ behind = behind' ∧ rest = rest' := by
  simpa [gutterCells] using same

theorem spaces_unique {m n : Nat} {s : String}
    (same : Gutter.spaces m ++ s = Gutter.spaces n ++ s) : m = n := by
  have lengths := congrArg String.length same
  simpa [Gutter.spaces] using lengths

theorem blank_unique {width width' : Nat} {rest rest' : List Cell}
    (same : blankCells p width ++ rest = blankCells p width' ++ rest') :
    width = width' ∧ rest = rest' := by
  obtain ⟨rules, _, rests⟩ := gutter_unique p same
  exact ⟨spaces_unique rules, rests⟩

theorem number_unique {width : Nat} {l l' : Line}
    (same : numberText width l = numberText width l') : l.number = l'.number := by
  have stops (n : Nat) : Text.Stops Char.isDigit (List.replicate n ' ' ++ " | ".toList) := by
    cases n with
    | zero => exact Text.stops_cons (by decide) _
    | succ n => exact Text.stops_cons (by decide) _
  have texts := congrArg String.toList same
  simp only [numberText, Gutter.padRight, String.toList_append, spaces_text, List.append_assoc]
    at texts
  obtain ⟨digits, _⟩ := Text.run_unique (Text.nat_text_digits _) (Text.nat_text_digits _)
    (stops _) (stops _) texts
  exact Text.nat_text_unique digits

theorem slices_joined (cs : List Char) (s : Span) :
    slice cs 0 s.first ++ slice cs s.first s.width ++ String.ofList (cs.drop (s.last + 1)) =
      String.ofList cs := by
  have behind : s.last + 1 = s.first + s.width := by
    have := s.ordered
    simp only [Span.width]
    omega
  rw [slice, slice, List.drop_zero, ← String.ofList_append, ← String.ofList_append, behind,
    ← List.drop_drop, List.append_assoc, List.take_append_drop, List.take_append_drop]

theorem code_unique {width : Nat} {l l' : Line} {rest rest' : List Cell}
    (outside : kind rest ≠ .inside) (outside' : kind rest' ≠ .inside)
    (same : codeCells p width l ++ rest = codeCells p width l' ++ rest') :
    l.number = l'.number ∧ l.text = l'.text ∧
      (inlineMarker l).isSome = (inlineMarker l').isSome ∧ rest = rest' := by
  unfold codeCells at same
  cases inline : inlineMarker l with
  | none =>
    cases inline' : inlineMarker l' with
    | none =>
      simp only [inline, inline'] at same
      obtain ⟨numbers, texts, rests⟩ := gutter_unique p same
      exact ⟨number_unique numbers, by simpa using texts, rfl, rests⟩
    | some m' =>
      simp only [inline, inline', List.append_assoc] at same
      obtain ⟨_, _, rests⟩ := gutter_unique p same
      rw [rests] at outside
      contradiction
  | some m =>
    cases inline' : inlineMarker l' with
    | none =>
      simp only [inline, inline', List.append_assoc] at same
      obtain ⟨_, _, rests⟩ := gutter_unique p same
      rw [← rests] at outside'
      contradiction
    | some m' =>
      simp only [inline, inline', List.append_assoc] at same
      obtain ⟨numbers, before, rests⟩ := gutter_unique p same
      simp only [List.cons_append, List.nil_append, List.cons.injEq, Cell.mk.injEq,
        true_and] at rests
      obtain ⟨⟨_, within⟩, after, tails⟩ := rests
      refine ⟨number_unique numbers, ?_, rfl, tails⟩
      have behind := by simpa using after
      have whole := slices_joined l.text.toList m.span
      rw [before, within, behind, slices_joined] at whole
      simpa using whole.symm

def underlineTail (m : Marker) : List Char :=
  match m.message with
  | some message => ' ' :: message.toList
  | none => []

theorem underline_chars (m : Marker) : (underlining m).toList =
    List.replicate m.span.first ' ' ++ (List.replicate m.span.width m.symbol ++ underlineTail m) := by
  unfold underlining underlineTail
  cases m.message <;> simp [spaces_text]

theorem underline_tail_unique {m m' : Marker} (same : underlineTail m = underlineTail m') :
    m.message = m'.message := by
  unfold underlineTail at same
  cases said : m.message <;> cases said' : m'.message <;> simp_all [String.toList_inj]

theorem replicate_all (n : Nat) (c : Char) : ∀ d ∈ List.replicate n c, (d == c) = true := by
  intro d member
  rw [List.eq_of_mem_replicate member]
  exact beq_self_eq_true c

theorem span_unique {s t : Span} (first : s.first = t.first) (width : s.width = t.width) :
    s = t := by
  obtain ⟨a, b, ordered⟩ := s
  obtain ⟨a', b', ordered'⟩ := t
  simp only [Span.width] at first width
  obtain rfl : a = a' := first
  obtain rfl : b = b' := by omega
  rfl

theorem underline_text_unique {m m' : Marker} (legible : m.Legible) (legible' : m'.Legible)
    (same : underlining m = underlining m') :
    m.span = m'.span ∧ m.symbol = m'.symbol ∧ m.message = m'.message := by
  -- An underline has one symbol at least, so neither run can be lost in what follows it.
  have symbols (x : Marker) : List.replicate x.span.width x.symbol =
      x.symbol :: List.replicate (x.span.width - 1) x.symbol := by
    rw [← List.replicate_succ]
    rfl
  have solid {x : Marker} (fine : x.Legible) : Text.Stops (· == ' ')
      (List.replicate x.span.width x.symbol ++ underlineTail x) := by
    rw [symbols]
    exact Text.stops_cons (by simpa using fine.visible) _
  have chars := congrArg String.toList same
  rw [underline_chars, underline_chars] at chars
  obtain ⟨spaces, drawn⟩ := Text.run_unique (replicate_all _ _) (replicate_all _ _)
    (solid legible) (solid legible') chars
  have symbol : m.symbol = m'.symbol := by
    rw [symbols, symbols] at drawn
    exact (List.cons.inj drawn).1
  have ends (x : Marker) (s : x.symbol = m.symbol) :
      Text.Stops (· == m.symbol) (underlineTail x) := by
    unfold underlineTail
    cases x.message with
    | none => exact Text.stops_nil _
    | some message => exact Text.stops_cons (by simpa using legible.visible.symm) _
  rw [← symbol] at drawn
  obtain ⟨runs, tails⟩ := Text.run_unique (replicate_all _ _) (replicate_all _ _)
    (ends m rfl) (ends m' symbol.symm) drawn
  have first : m.span.first = m'.span.first := by simpa using congrArg List.length spaces
  have width : m.span.width = m'.span.width := by simpa using congrArg List.length runs
  exact ⟨span_unique first width, symbol, underline_tail_unique tails⟩

theorem underline_unique {width : Nat} {m m' : Marker} {rest rest' : List Cell}
    (legible : m.Legible) (legible' : m'.Legible) (inline : m.inline = m'.inline)
    (same : underlineCells p width m ++ rest = underlineCells p width m' ++ rest') :
    m = m' ∧ rest = rest' := by
  rw [underlineCells, underlineCells, List.append_assoc, List.append_assoc] at same
  obtain ⟨_, _, markers⟩ := gutter_unique p same
  simp only [markerCells, List.cons_append, List.nil_append, List.cons.injEq, Cell.mk.injEq,
    Style.Escape.color.injEq, true_and] at markers
  obtain ⟨⟨color, texts⟩, rests⟩ := markers
  obtain ⟨span, symbol, message⟩ := underline_text_unique legible legible' texts
  cases m
  cases m'
  simp_all

theorem inline_shown {l : Line} {m : Marker} (legible : l.Legible) (marked : l.marker = some m) :
    (inlineMarker l).isSome = m.inline := by
  cases inline : m.inline with
  | false => simp [inlineMarker, marked, inline, Option.filter]
  | true => simp [inlineMarker, marked, inline, legible.fits m marked inline, Option.filter]

theorem line_parts_unique {l l' : Line} (text : l.text = l'.text) (number : l.number = l'.number)
    (marker : l.marker = l'.marker) : l = l' := by
  cases l
  cases l'
  simp_all

theorem line_unique {width : Nat} {l l' : Line} {rest rest' : List Cell} (legible : l.Legible)
    (legible' : l'.Legible) (outside : kind rest ≠ .inside) (outside' : kind rest' ≠ .inside)
    (unmarked : kind rest ≠ .underline) (unmarked' : kind rest' ≠ .underline)
    (same : lineCells p width l ++ rest = lineCells p width l' ++ rest') :
    l = l' ∧ rest = rest' := by
  unfold lineCells at same
  rw [List.append_assoc, List.append_assoc] at same
  cases marked : l.marker with
  | none =>
    cases marked' : l'.marker with
    | none =>
      rw [marked, marked'] at same
      obtain ⟨number, text, _, rests⟩ := code_unique p outside outside' same
      exact ⟨line_parts_unique text number (marked.trans marked'.symm), rests⟩
    | some m' =>
      rw [marked, marked'] at same
      have below := underline_kind p width m' rest'
      obtain ⟨_, _, _, rests⟩ := code_unique p outside (by rw [below]; decide) same
      rw [← rests] at below
      exact absurd below unmarked
  | some m =>
    have below := underline_kind p width m rest
    cases marked' : l'.marker with
    | none =>
      rw [marked, marked'] at same
      obtain ⟨_, _, _, rests⟩ := code_unique p (by rw [below]; decide) outside' same
      rw [rests] at below
      exact absurd below unmarked'
    | some m' =>
      rw [marked, marked'] at same
      have below' := underline_kind p width m' rest'
      obtain ⟨number, text, shown, rests⟩ :=
        code_unique p (by rw [below]; decide) (by rw [below']; decide) same
      rw [inline_shown legible marked, inline_shown legible' marked'] at shown
      obtain ⟨rfl, tails⟩ := underline_unique p (legible.marker m marked)
        (legible'.marker m' marked') shown rests
      exact ⟨line_parts_unique text number (marked.trans marked'.symm), tails⟩

theorem lines_kind (width : Nat) (previous : Option Nat) (l : Line) (ls : List Line)
    (rest : List Cell) : kind (linesCells p width previous (l :: ls) ++ rest) =
      if gap previous l.number then .ellipsis else .code := by
  unfold linesCells lineCells
  split <;> simp only [List.append_assoc, List.nil_append, ellipsis_kind, code_kind]

theorem lines_follow (width : Nat) (previous : Option Nat) (ls : List Line) {rest : List Cell}
    (past : (kind rest).ofLines = false) :
    kind (linesCells p width previous ls ++ rest) ≠ .inside ∧
      kind (linesCells p width previous ls ++ rest) ≠ .underline := by
  cases ls with
  | nil =>
    constructor
    · intro inside
      rw [linesCells, List.nil_append] at inside
      simp [inside, Kind.ofLines] at past
    · intro below
      rw [linesCells, List.nil_append] at below
      simp [below, Kind.ofLines] at past
  | cons l ls =>
    rw [lines_kind]
    split <;> decide

theorem lines_unique {width : Nat} {ls ls' : List Line} {previous : Option Nat}
    {rest rest' : List Cell} (legible : ∀ l ∈ ls, l.Legible) (legible' : ∀ l ∈ ls', l.Legible)
    (past : (kind rest).ofLines = false) (past' : (kind rest').ofLines = false)
    (same : linesCells p width previous ls ++ rest = linesCells p width previous ls' ++ rest') :
    ls = ls' ∧ rest = rest' := by
  have kinds := congrArg kind same
  -- Whether a line has an ellipsis before it depends on the number of the line before.
  induction ls generalizing previous ls' with
  | nil =>
    cases ls' with
    | nil => exact ⟨rfl, same⟩
    | cons l' ls' =>
      rw [lines_kind, linesCells, List.nil_append] at kinds
      split at kinds <;> simp [kinds, Kind.ofLines] at past
  | cons l ls ih =>
    cases ls' with
    | nil =>
      rw [lines_kind, linesCells, List.nil_append] at kinds
      split at kinds <;> simp [← kinds, Kind.ofLines] at past'
    | cons l' ls' =>
      rw [lines_kind, lines_kind] at kinds
      have gaps : gap previous l.number = gap previous l'.number := by
        split at kinds <;> split at kinds <;> simp_all
      simp only [linesCells, gaps, List.append_assoc, List.append_cancel_left_eq] at same
      obtain ⟨outside, unmarked⟩ := lines_follow p width (some l.number) ls past
      obtain ⟨outside', unmarked'⟩ := lines_follow p width (some l'.number) ls' past'
      obtain ⟨rfl, rests⟩ := line_unique p (legible l List.mem_cons_self)
        (legible' l' List.mem_cons_self) outside outside' unmarked unmarked' same
      obtain ⟨rfl, tails⟩ := ih (fun x member => legible x (List.mem_cons_of_mem _ member))
        (fun x member => legible' x (List.mem_cons_of_mem _ member)) rests (congrArg kind rests)
      exact ⟨rfl, tails⟩

end
end Caret.Drawing
