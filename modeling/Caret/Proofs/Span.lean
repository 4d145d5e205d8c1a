import Caret.Proofs.Text.Numerals
import Caret.Span

namespace Caret.Span
open Text

/-- The text is two numerals around a dash. Their order is not looked at. -/
inductive Spells (text : String) (a b : Nat) : Prop
  | intro (front back : List Char) (joined : text.toList = front ++ '-' :: back)
      (first : Numeral front) (last : Numeral back) (low : decimalFold front = a)
      (high : decimalFold back = b)

def PlainlySpelled (text : String) : Prop :=
  ∃ front back, text.toList = front ++ '-' :: back ∧ PlainNumeral front ∧ PlainNumeral back

structure Writable (s : Span) : Prop where
  first : (toString s.first).length ≤ maxDigits
  last : (toString s.last).length ≤ maxDigits

theorem cut_joined {front : List Char} (undashed : '-' ∉ front) (back : List Char) :
    cutAtDash (front ++ '-' :: back) = some (front, back) := by
  have all : ∀ c ∈ front, (c != '-') = true := by
    intro c member
    rw [bne_iff_ne]
    rintro rfl
    exact undashed member
  have stops : Stops (· != '-') ('-' :: back) := stops_cons (by decide) back
  obtain ⟨taken, dropped⟩ := run_taken all stops
  rw [cutAtDash, dropped, taken]

theorem joined_unique {front front' back back' : List Char} (undashed : '-' ∉ front)
    (undashed' : '-' ∉ front') (same : front ++ '-' :: back = front' ++ '-' :: back') :
    front = front' ∧ back = back' := by
  have cut := cut_joined undashed back
  rw [same, cut_joined undashed'] at cut
  obtain ⟨rfl, rfl⟩ := Prod.mk.inj (Option.some.inj cut)
  exact ⟨rfl, rfl⟩

theorem joined_of_cut {cs front back : List Char} (cut : cutAtDash cs = some (front, back)) :
    cs = front ++ '-' :: back := by
  unfold cutAtDash at cut
  split at cut
  · cases cut
  · rename_i mark rest dropped
    obtain ⟨rfl, rfl⟩ := Prod.mk.inj (Option.some.inj cut)
    have dash : mark = '-' := by
      have left : cs.dropWhile (· != '-') ≠ [] := by
        rw [dropped]
        exact List.cons_ne_nil _ _
      have stopped := List.head_dropWhile_not (· != '-') left
      simpa [dropped] using stopped
    rw [dash] at dropped
    rw [← dropped, List.takeWhile_append_dropWhile]

theorem numeral_undashed {cs : List Char} (numeral : Numeral cs) : '-' ∉ cs := by
  intro member
  exact absurd (numeral.decimal '-' member) (by decide)

theorem of_ints_ordered {a b : Nat} (ordered : a ≤ b) : ofInts a b = .ok ⟨a, b, ordered⟩ := by
  have natural : ¬ (a : Int) < 0 := by omega
  have upright : ¬ (b : Int) < (a : Int) := by omega
  simp only [ofInts, dif_neg natural, dif_neg upright, Int.toNat_natCast]

theorem of_ints_inverted {a b : Nat} (inverted : b < a) : ofInts a b = .error (.inverted a b) := by
  have natural : ¬ (a : Int) < 0 := by omega
  have below : (b : Int) < (a : Int) := by omega
  simp only [ofInts, dif_neg natural, dif_pos below]

theorem parse_spelled {text : String} {a b : Nat} (spells : Spells text a b) :
    parse text = match ofInts a b with
      | .error e => .error (.range e)
      | .ok s => .ok s := by
  obtain ⟨front, back, joined, first, last, low, high⟩ := spells
  have readFirst := read_numeral_iff.mpr ⟨first, low⟩
  have readLast := read_numeral_iff.mpr ⟨last, high⟩
  have ends : parse text = readEnds front back := by
    simp only [parse, joined, cut_joined (numeral_undashed first), numeral_digits first,
      numeral_digits last, Bool.and_self, if_true]
  rw [ends]
  cases read : ofInts a b <;> simp only [readEnds, readFirst, readLast, read]

/-- A text that is not two numerals around a dash is refused, and not for its order. -/
theorem parse_unspelled {text : String} (unspelled : ¬ ∃ a b, Spells text a b) :
    ∃ e, parse text = .error e ∧ ∀ cause, e ≠ .range cause := by
  simp only [parse]
  cases cut : cutAtDash text.toList with
  | none => exact ⟨_, rfl, nofun⟩
  | some ends =>
    obtain ⟨front, back⟩ := ends
    simp only
    split
    · unfold readEnds
      cases first : readNumeral front with
      | error e => exact ⟨_, rfl, nofun⟩
      | ok a =>
        cases last : readNumeral back with
        | error e => exact ⟨_, rfl, nofun⟩
        | ok b =>
          obtain ⟨firstNumeral, low⟩ := read_numeral_iff.mp first
          obtain ⟨lastNumeral, high⟩ := read_numeral_iff.mp last
          exact absurd ⟨a, b, .intro front back (joined_of_cut cut) firstNumeral lastNumeral low
            high⟩ unspelled
    · exact ⟨_, rfl, nofun⟩

theorem parse_ok_iff {text : String} {s : Span} :
    parse text = .ok s ↔ Spells text s.first s.last := by
  constructor
  · intro read
    by_cases spelled : ∃ a b, Spells text a b
    · obtain ⟨a, b, spells⟩ := spelled
      rw [parse_spelled spells] at read
      by_cases ordered : a ≤ b
      · rw [of_ints_ordered ordered] at read
        cases read
        exact spells
      · rw [of_ints_inverted (by omega)] at read
        cases read
    · obtain ⟨e, refused, _⟩ := parse_unspelled spelled
      rw [refused] at read
      cases read
  · intro spells
    rw [parse_spelled spells, of_ints_ordered s.ordered]

theorem parse_range_iff {text : String} :
    (∃ cause, parse text = .error (.range cause)) ↔ ∃ a b, Spells text a b ∧ b < a := by
  constructor
  · rintro ⟨cause, read⟩
    by_cases spelled : ∃ a b, Spells text a b
    · obtain ⟨a, b, spells⟩ := spelled
      refine ⟨a, b, spells, ?_⟩
      by_contra upright
      rw [parse_spelled spells, of_ints_ordered (by omega)] at read
      cases read
    · obtain ⟨e, refused, other⟩ := parse_unspelled spelled
      rw [refused] at read
      cases read
      exact absurd rfl (other cause)
  · rintro ⟨a, b, spells, inverted⟩
    exact ⟨_, by rw [parse_spelled spells, of_ints_inverted inverted]⟩

theorem text_joined (s : Span) :
    s.toText.toList = (toString s.first).toList ++ '-' :: (toString s.last).toList := by
  simp only [toText, String.toList_append, List.append_assoc]
  rfl

theorem text_plain (s : Span) : PlainlySpelled s.toText :=
  ⟨_, _, s.text_joined, nat_text_plain s.first, nat_text_plain s.last⟩

theorem parse_text {s : Span} (writable : s.Writable) : parse s.toText = .ok s := by
  exact parse_ok_iff.mpr (.intro _ _ s.text_joined (nat_text_numeral writable.first)
    (nat_text_numeral writable.last) (nat_text_value s.first) (nat_text_value s.last))

theorem spelled_writable {s : Span} {text : String} (spells : Spells text s.first s.last) :
    s.Writable := by
  obtain ⟨front, back, joined, first, last, low, high⟩ := spells
  refine ⟨?_, ?_⟩
  · rw [← low]
    exact numeral_text_short first
  · rw [← high]
    exact numeral_text_short last

theorem plain_undashed {cs : List Char} (plain : PlainNumeral cs) : '-' ∉ cs := by
  intro member
  exact absurd (plain.ascii '-' member) (by decide)

/-- Of the texts that spell a span, the one that is written for it is the only plain one. -/
theorem plain_unique {s : Span} {text : String} (spells : Spells text s.first s.last)
    (plain : PlainlySpelled text) : text = s.toText := by
  obtain ⟨front, back, joined, first, last, low, high⟩ := spells
  obtain ⟨front', back', joined', plainFront, plainBack⟩ := plain
  obtain ⟨rfl, rfl⟩ := joined_unique (numeral_undashed first) (plain_undashed plainFront)
    (joined.symm.trans joined')
  rw [← String.toList_inj, text_joined, ← low, ← high, plain_text plainFront,
    plain_text plainBack, joined]

/-- A text is read exactly if it spells a span, and refused for its order exactly if it spells two
numbers in the other order. What is written for a span reads back as the span; of all texts that
are read as some span it is the plain one. -/
theorem span_spelling (text : String) :
    (∀ s, parse text = .ok s ↔ Spells text s.first s.last) ∧
    ((∃ cause, parse text = .error (.range cause)) ↔ ∃ a b, Spells text a b ∧ b < a) ∧
    ((¬ ∃ a b, Spells text a b) ↔ ∃ e, parse text = .error e ∧ ∀ cause, e ≠ .range cause) ∧
    (∀ s : Span, s.Writable → parse s.toText = .ok s) ∧
    ∀ s, parse text = .ok s → parse s.toText = .ok s ∧ PlainlySpelled s.toText ∧
      ∀ other, parse other = .ok s → PlainlySpelled other → other = s.toText := by
  refine ⟨fun _ => parse_ok_iff, parse_range_iff, ⟨parse_unspelled, ?refused⟩,
    fun _ => parse_text, ?plain⟩
  case refused =>
    rintro ⟨e, refused, other⟩ ⟨a, b, spells⟩
    rw [parse_spelled spells] at refused
    cases ordered : ofInts a b with
    | ok s =>
      rw [ordered] at refused
      cases refused
    | error cause =>
      rw [ordered] at refused
      cases refused
      exact other cause rfl
  case plain =>
    intro s read
    refine ⟨parse_text (spelled_writable (parse_ok_iff.mp read)), s.text_plain, ?_⟩
    intro other readOther
    exact plain_unique (parse_ok_iff.mp readOther)

theorem span_spelling_scripts :
    parse "\u0663-009" = .ok ⟨3, 9, by decide⟩ ∧ Writable ⟨3, 9, by decide⟩ ∧
      parse "3-9" = .ok ⟨3, 9, by decide⟩ ∧
      ∀ other, parse other = .ok ⟨3, 9, by decide⟩ → PlainlySpelled other → other = "3-9" := by
  have read : parse "\u0663-009" = .ok ⟨3, 9, by decide⟩ := by decide +kernel
  have writable : Writable ⟨3, 9, by decide⟩ := ⟨by decide, by decide⟩
  have text : toText ⟨3, 9, by decide⟩ = "3-9" := by decide
  obtain ⟨_, _, _, back, only⟩ := span_spelling "\u0663-009"
  have again := back _ writable
  obtain ⟨_, _, unique⟩ := only _ read
  rw [text] at again unique
  exact ⟨read, writable, again, unique⟩

end Caret.Span
