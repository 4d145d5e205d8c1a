import Caret.Drawing.Rows
import Caret.Proofs.Text.Split

namespace Caret

def Unescaped (s : String) : Prop := Style.esc ∉ s.toList

instance (s : String) : Decidable (Unescaped s) := inferInstanceAs (Decidable (Style.esc ∉ s.toList))

namespace Drawing

structure Cell where
  escape : Style.Escape
  text : String
  deriving DecidableEq, Repr

def Cell.chars (c : Cell) : List Char := c.escape.text.toList ++ c.text.toList

def flat (cells : List Cell) : List Char := cells.flatMap Cell.chars

theorem flat_append (a b : List Cell) : flat (a ++ b) = flat a ++ flat b :=
  List.flatMap_append

theorem flat_cons (c : Cell) (cells : List Cell) : flat (c :: cells) = c.chars ++ flat cells :=
  List.flatMap_cons

def command : Style.Escape → List Char
  | .bold => ['1', 'm']
  | .color c => ['3', '8', ';', '5', ';'] ++ (toString c.val).toList ++ ['m']
  | .reset => ['0', 'm']

theorem escape_chars (e : Style.Escape) : e.text.toList = Style.esc :: '[' :: command e := by
  cases e with
  | bold => rfl
  | color c =>
    simp only [Style.Escape.text, String.toList_append, command]
    rfl
  | reset => rfl

theorem color_digits_unique {c d : Color} {xs ys : List Char}
    (same : (toString c.val).toList ++ 'm' :: xs = (toString d.val).toList ++ 'm' :: ys) :
    c = d ∧ xs = ys := by
  obtain ⟨digits, rest⟩ := Text.run_unique (Text.nat_text_digits c.val)
    (Text.nat_text_digits d.val) (Text.stops_cons (by decide) xs) (Text.stops_cons (by decide) ys)
    same
  exact ⟨Fin.ext (Text.nat_text_unique digits), (List.cons.inj rest).2⟩

theorem escape_unique {e f : Style.Escape} {xs ys : List Char}
    (same : e.text.toList ++ xs = f.text.toList ++ ys) : e = f ∧ xs = ys := by
  rw [escape_chars, escape_chars] at same
  simp only [List.cons_append, List.cons.injEq, true_and] at same
  cases e with
  | bold => cases f <;> simp_all [command]
  | reset => cases f <;> simp_all [command]
  | color c =>
    cases f with
    | bold => simp [command] at same
    | reset => simp [command] at same
    | color d =>
      have digits : (toString c.val).toList ++ 'm' :: xs = (toString d.val).toList ++ 'm' :: ys := by
        simpa [command] using same
      obtain ⟨rfl, rest⟩ := color_digits_unique digits
      exact ⟨rfl, rest⟩

def Clean (cells : List Cell) : Prop := ∀ c ∈ cells, Unescaped c.text

theorem flat_stops (cells : List Cell) : Text.Stops (· != Style.esc) (flat cells) := by
  cases cells with
  | nil => exact Text.stops_nil _
  | cons c cells =>
    rw [flat_cons, Cell.chars, escape_chars]
    exact Text.stops_cons (by decide) _

theorem unescaped_run {s : String} (clean : Unescaped s) :
    ∀ c ∈ s.toList, (c != Style.esc) = true := by
  intro c member
  rw [bne_iff_ne]
  rintro rfl
  exact clean member

theorem flat_unique {cells others : List Cell} (clean : Clean cells) (clean' : Clean others)
    (same : flat cells = flat others) : cells = others := by
  have opens (c : Cell) (rest : List Cell) : flat (c :: rest) ≠ flat [] := by
    rw [flat_cons, Cell.chars, escape_chars]
    exact List.cons_ne_nil _ _
  induction cells generalizing others with
  | nil =>
    cases others with
    | nil => rfl
    | cons d others => exact absurd same.symm (opens d others)
  | cons c cells ih =>
    cases others with
    | nil => exact absurd same (opens c cells)
    | cons d others =>
      rw [flat_cons, flat_cons, Cell.chars, Cell.chars, List.append_assoc, List.append_assoc] at same
      obtain ⟨escapes, texts⟩ := escape_unique same
      obtain ⟨text, rest⟩ := Text.run_unique (unescaped_run (clean c List.mem_cons_self))
        (unescaped_run (clean' d List.mem_cons_self)) (flat_stops cells) (flat_stops others) texts
      have tails := ih (fun x member => clean x (List.mem_cons_of_mem _ member))
        (fun x member => clean' x (List.mem_cons_of_mem _ member)) rest
      obtain ⟨escape, shown⟩ := c
      obtain ⟨escape', shown'⟩ := d
      obtain rfl : escape = escape' := escapes
      obtain rfl : shown = shown' := String.toList_injective text
      rw [tails]

theorem writes_append (a b : List Step) : writes (a ++ b) = writes a ++ writes b := by
  induction a with
  | nil => rfl
  | cons s a ih => cases s <;> simp [writes, ih]

theorem text_append (a b : List Step) :
    (text (a ++ b)).toList = (text a).toList ++ (text b).toList := by
  simp [text, writes_append, String.toList_join]

theorem text_nil : (text []).toList = [] := rfl

theorem text_write (w : Write) (rest : List Step) :
    (text (.write w :: rest)).toList =
      w.flatMap (fun i => i.toText.toList) ++ (text rest).toList := by
  simp [text, writes, Write.toText, String.toList_join, List.flatMap_map]

theorem text_log (r : Log.Record) (rest : List Step) :
    (text (.log r :: rest)).toList = (text rest).toList := rfl

end Drawing
end Caret
