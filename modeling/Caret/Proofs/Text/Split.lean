import Mathlib.Data.List.Basic

namespace Caret.Text

def Stops (kind : Char → Bool) (cs : List Char) : Prop := ∀ c, cs.head? = some c → kind c = false

theorem stops_nil (kind : Char → Bool) : Stops kind [] := by
  intro c first
  cases first

theorem stops_cons {kind : Char → Bool} {c : Char} (other : kind c = false) (cs : List Char) :
    Stops kind (c :: cs) := by
  intro d first
  cases first
  exact other

theorem run_taken {kind : Char → Bool} {run rest : List Char} (all : ∀ c ∈ run, kind c = true)
    (stops : Stops kind rest) :
    (run ++ rest).takeWhile kind = run ∧ (run ++ rest).dropWhile kind = rest := by
  induction run with
  | nil =>
    cases rest with
    | nil => exact ⟨rfl, rfl⟩
    | cons c cs =>
      have other := stops c rfl
      simp [other]
  | cons c run ih =>
    have one := all c List.mem_cons_self
    obtain ⟨taken, dropped⟩ := ih fun d member => all d (List.mem_cons_of_mem _ member)
    simp [one, taken, dropped]

theorem run_before {kind : Char → Bool} {mark : Char} (other : kind mark = false)
    (cs rest : List Char) : (cs ++ mark :: rest).takeWhile kind = cs.takeWhile kind := by
  induction cs with
  | nil => simp [other]
  | cons c cs ih => simp only [List.cons_append, List.takeWhile_cons, ih]

theorem rest_before {kind : Char → Bool} {mark : Char} (other : kind mark = false)
    (cs rest : List Char) :
    (cs ++ mark :: rest).dropWhile kind = cs.dropWhile kind ++ mark :: rest := by
  induction cs with
  | nil => simp [other]
  | cons c cs ih =>
    simp only [List.cons_append, List.dropWhile_cons, ih]
    split <;> simp

theorem run_unique {kind : Char → Bool} {run run' rest rest' : List Char}
    (all : ∀ c ∈ run, kind c = true) (all' : ∀ c ∈ run', kind c = true)
    (stops : Stops kind rest) (stops' : Stops kind rest') (same : run ++ rest = run' ++ rest') :
    run = run' ∧ rest = rest' := by
  obtain ⟨taken, dropped⟩ := run_taken all stops
  obtain ⟨taken', dropped'⟩ := run_taken all' stops'
  rw [same] at taken dropped
  exact ⟨taken.symm.trans taken', dropped.symm.trans dropped'⟩

theorem last_separator_unique {mark : Char} {front front' back back' : List Char}
    (none : mark ∉ back) (none' : mark ∉ back')
    (same : front ++ mark :: back = front' ++ mark :: back') : front = front' ∧ back = back' := by
  have other {cs : List Char} (none : mark ∉ cs) : ∀ c ∈ cs.reverse, (c != mark) = true := by
    intro c member
    rw [bne_iff_ne]
    rintro rfl
    exact none (List.mem_reverse.mp member)
  have ends (cs : List Char) : Stops (· != mark) (mark :: cs) := stops_cons (by simp) cs
  have turned := congrArg List.reverse same
  simp only [List.reverse_append, List.reverse_cons, List.append_assoc, List.singleton_append]
    at turned
  obtain ⟨backs, fronts⟩ := run_unique (other none) (other none') (ends _) (ends _) turned
  exact ⟨List.reverse_inj.mp (List.cons.inj fronts).2, List.reverse_inj.mp backs⟩

theorem ended_cut {mark : Char} {pieces : List (List Char)} (whole : ∀ cs ∈ pieces, mark ∉ cs) :
    (pieces.flatMap fun cs => cs ++ [mark]).splitOn mark = pieces ++ [[]] := by
  induction pieces with
  | nil => rfl
  | cons cs pieces ih =>
    have one : cs.splitOnP (· == mark) = [cs] := by
      refine List.splitOnP_eq_singleton fun c member => ?_
      rw [beq_eq_false_iff_ne]
      rintro rfl
      exact whole cs List.mem_cons_self member
    have rest := ih fun x member => whole x (List.mem_cons_of_mem _ member)
    have here := List.splitOnP_append_cons (p := (· == mark)) cs
      (pieces.flatMap fun cs => cs ++ [mark]) (beq_self_eq_true mark)
    rw [List.splitOn_eq_splitOnP] at rest
    rw [List.flatMap_cons, List.append_assoc, List.singleton_append, List.splitOn_eq_splitOnP, here,
      one, rest, List.singleton_append, List.cons_append]

theorem nat_text (n : Nat) : (toString n).toList = Nat.toDigits 10 n := by
  simp

theorem nat_text_digits (n : Nat) : ∀ c ∈ (toString n).toList, c.isDigit = true := by
  intro c member
  rw [nat_text] at member
  exact Nat.isDigit_of_mem_toDigits (by decide) (by decide) member

theorem nat_text_unique {m n : Nat} (same : (toString m).toList = (toString n).toList) : m = n := by
  rw [nat_text, nat_text] at same
  have value := congrArg (Nat.ofDigitChars 10 · 0) same
  simpa using value

theorem nat_text_nonempty (n : Nat) : (toString n).toList ≠ [] := by
  rw [nat_text]
  exact Nat.toDigits_ne_nil

theorem int_text (i : Int) : (toString i).toList =
    if 0 ≤ i then (toString i.toNat).toList else '-' :: (toString (-i).toNat).toList := by
  rw [Int.toString_eq_repr, Int.repr_eq_if]
  split
  · rfl
  · rw [String.toList_append]
    rfl

theorem int_text_chars (i : Int) : ∀ c ∈ (toString i).toList, c = '-' ∨ c.isDigit = true := by
  intro c member
  rw [int_text] at member
  split at member
  · exact .inr (nat_text_digits _ c member)
  · rcases List.mem_cons.mp member with sign | digit
    · exact .inl sign
    · exact .inr (nat_text_digits _ c digit)

theorem int_text_unique {i j : Int} (same : (toString i).toList = (toString j).toList) : i = j := by
  have unsigned (n : Nat) (cs : List Char) : (toString n).toList ≠ '-' :: cs := by
    intro signed
    have digit := nat_text_digits n '-' (by rw [signed]; exact List.mem_cons_self)
    contradiction
  rw [int_text, int_text] at same
  split at same <;> split at same
  · have := nat_text_unique same
    omega
  · exact absurd same (unsigned _ _)
  · exact absurd same.symm (unsigned _ _)
  · have := nat_text_unique (List.cons.inj same).2
    omega

end Caret.Text
