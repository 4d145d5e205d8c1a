import Caret.Proofs.Drawing.Outline
import Caret.Proofs.Text.Lacks

namespace Caret

structure Marker.Lacks (c : Char) (m : Marker) : Prop where
  symbol : m.symbol ≠ c
  message : ∀ text, m.message = some text → Caret.Lacks c text

structure Line.Lacks (c : Char) (l : Line) : Prop where
  text : Caret.Lacks c l.text
  marker : ∀ m, l.marker = some m → m.Lacks c

def Excerpt.Lacks (c : Char) (e : Excerpt) : Prop := ∀ l ∈ e.lines, l.Lacks c

structure Help.Lacks (c : Char) (h : Help) : Prop where
  message : Caret.Lacks c h.message
  suggestion : ∀ e, h.suggestion = some e → e.Lacks c

structure Diagnostic.Lacks (c : Char) (d : Diagnostic) : Prop where
  code : ∀ code, d.level = .error code → Caret.Lacks c code
  message : Caret.Lacks c d.message
  path : Caret.Lacks c d.location.path
  excerpt : d.excerpt.Lacks c
  helps : ∀ h ∈ d.helps, h.Lacks c
  notes : ∀ n ∈ d.notes, Caret.Lacks c n

instance (c : Char) (m : Marker) : Decidable (m.Lacks c) :=
  decidable_of_iff (m.symbol ≠ c ∧ ∀ text ∈ m.message, Caret.Lacks c text)
    ⟨fun plain => ⟨plain.1, plain.2⟩, fun plain => ⟨plain.symbol, plain.message⟩⟩

instance (c : Char) (l : Line) : Decidable (l.Lacks c) :=
  decidable_of_iff (Caret.Lacks c l.text ∧ ∀ m ∈ l.marker, m.Lacks c)
    ⟨fun plain => ⟨plain.1, plain.2⟩, fun plain => ⟨plain.text, plain.marker⟩⟩

instance (c : Char) (e : Excerpt) : Decidable (e.Lacks c) :=
  inferInstanceAs (Decidable (∀ l ∈ e.lines, l.Lacks c))

instance (c : Char) (h : Help) : Decidable (h.Lacks c) :=
  decidable_of_iff (Caret.Lacks c h.message ∧ ∀ e ∈ h.suggestion, e.Lacks c)
    ⟨fun plain => ⟨plain.1, plain.2⟩, fun plain => ⟨plain.message, plain.suggestion⟩⟩

section
variable {c : Char}

namespace Drawing

/-- What a row takes from a diagnostic lacks the character. -/
def Row.Lacks (c : Char) : Row → Prop
  | header level message =>
    (∀ code, level = .error code → Caret.Lacks c code) ∧ Caret.Lacks c message
  | location place => Caret.Lacks c place.path
  | blank _ => True
  | ellipsis => True
  | code _ l => Caret.Lacks c l.text
  | underline _ m => m.Lacks c
  | help message => Caret.Lacks c message
  | note _ message => Caret.Lacks c message

theorem label_lacks (control : c < ' ') {level : Level}
    (code : ∀ code, level = .error code → Caret.Lacks c code) : Caret.Lacks c level.label := by
  cases level with
  | error text =>
    exact lacks_append (lacks_append (lacks_printed control (by decide)) (code text rfl))
      (lacks_printed control (by decide))
  | warning => exact lacks_printed control (by decide)

theorem location_lacks (control : c < ' ') {l : Location} (path : Caret.Lacks c l.path) :
    Caret.Lacks c l.spelling := by
  have colon : Caret.Lacks c ":" := lacks_printed control (by decide)
  exact lacks_append (lacks_append (lacks_append (lacks_append path colon) (lacks_int control _))
    colon) (lacks_int control _)

theorem underline_lacks (control : c < ' ') {m : Marker} (plain : m.Lacks c) :
    Caret.Lacks c (underlining m) := by
  have symbols : Caret.Lacks c (String.ofList (List.replicate m.span.width m.symbol)) := by
    intro member
    rw [String.toList_ofList] at member
    exact plain.symbol (List.eq_of_mem_replicate member).symm
  unfold underlining
  refine lacks_append (lacks_append (lacks_spaces control _) symbols) ?_
  cases said : m.message with
  | none => exact lacks_printed control (by decide)
  | some text => exact lacks_append (lacks_printed control (by decide)) (plain.message text said)

def Bare (c : Char) (cells : List Cell) : Prop := ∀ x ∈ cells, Caret.Lacks c x.text

theorem bare_nil : Bare c [] := by
  intro x member
  cases member

theorem bare_cons {e : Style.Escape} {s : String} {cells : List Cell} (first : Caret.Lacks c s)
    (rest : Bare c cells) : Bare c (⟨e, s⟩ :: cells) := by
  intro x member
  rcases List.mem_cons.mp member with rfl | later
  · exact first
  · exact rest x later

theorem bare_append {a b : List Cell} (first : Bare c a) (second : Bare c b) : Bare c (a ++ b) := by
  intro x member
  rcases List.mem_append.mp member with early | late
  · exact first x early
  · exact second x late

section
variable (p : Palette)

theorem gutter_lacks (control : c < ' ') {s behind : String} (rule : Caret.Lacks c s)
    (rest : Caret.Lacks c behind) : Bare c (gutterCells p s behind) :=
  bare_cons (lacks_printed control (by decide)) (bare_cons rule (bare_cons rest bare_nil))

theorem code_lacks (control : c < ' ') (width : Nat) {l : Line} (plain : Caret.Lacks c l.text) :
    Bare c ((Row.code width l).cells p) := by
  have number : Caret.Lacks c (numberText width l) :=
    lacks_append (lacks_append (lacks_nat control _) (lacks_spaces control _))
      (lacks_printed control (by decide))
  have cut (start length : Nat) : Caret.Lacks c (slice l.text.toList start length) :=
    lacks_part plain fun _ taken => List.mem_of_mem_drop (List.mem_of_mem_take taken)
  simp only [Row.cells]
  split
  · exact gutter_lacks p control number plain
  · exact bare_append (gutter_lacks p control number (cut _ _)) (bare_cons (cut _ _)
      (bare_cons (lacks_part plain fun _ dropped => List.mem_of_mem_drop dropped) bare_nil))

theorem row_lacks (control : c < ' ') {r : Row} (plain : r.Lacks c) : Bare c (r.cells p) := by
  have empty : Caret.Lacks c "" := lacks_printed control (by decide)
  have spaced (n : Nat) {s : String} (all : Printed s) :
      Caret.Lacks c (Gutter.spaces n ++ s) :=
    lacks_append (lacks_spaces control n) (lacks_printed control all)
  have said {s : String} (text : Caret.Lacks c s) : Caret.Lacks c (": " ++ s) :=
    lacks_append (lacks_printed control (by decide)) text
  cases r with
  | header level message =>
    exact bare_cons empty (bare_cons (label_lacks control plain.1) (bare_cons empty
      (bare_cons (said plain.2) (bare_cons empty bare_nil))))
  | location place =>
    exact bare_cons (lacks_printed control (by decide))
      (bare_cons (location_lacks control plain) bare_nil)
  | blank width => exact gutter_lacks p control (spaced width (by decide)) empty
  | ellipsis => exact gutter_lacks p control (lacks_printed control (by decide)) empty
  | code width l => exact code_lacks p control width plain
  | underline width m =>
    exact bare_append (gutter_lacks p control (spaced width (by decide)) empty)
      (bare_cons empty (bare_cons (underline_lacks control plain) (bare_cons empty bare_nil)))
  | help message =>
    exact bare_cons empty (bare_cons (lacks_printed control (by decide))
      (bare_cons (said plain) bare_nil))
  | note indent message =>
    refine bare_append ?_ (bare_cons (lacks_printed control (by decide))
      (bare_cons (said plain) bare_nil))
    cases indent with
    | none => exact bare_nil
    | some width => exact gutter_lacks p control (spaced width (by decide)) empty

theorem bare_ended (other : c ≠ '\n') {cells : List Cell} (bare : Bare c cells) :
    Bare c (ended cells) := by
  induction cells with
  | nil => exact bare_nil
  | cons x cells ih =>
    have first := bare x List.mem_cons_self
    have rest : Bare c cells := fun y member => bare y (List.mem_cons_of_mem _ member)
    cases cells with
    | nil =>
      have feed : Caret.Lacks c "\n" := by
        intro member
        exact other (List.mem_singleton.mp member)
      exact bare_cons (lacks_append first feed) bare_nil
    | cons y cells => exact bare_cons first (ih rest)

theorem rows_bare (control : c < ' ') (other : c ≠ '\n') {rows : List Row}
    (plain : ∀ r ∈ rows, r.Lacks c) : Bare c (rowCells p rows) := by
  intro x member
  obtain ⟨r, listed, shown⟩ := List.mem_flatMap.mp member
  exact bare_ended other (row_lacks p control (plain r listed)) x shown

end

theorem neighbour_line {ls : List Line} {pair : Option Line × Line} (member : pair ∈ neighbours ls) :
    pair.2 ∈ ls :=
  (List.of_mem_zip member).2

theorem excerpt_rows_lack (extend : Bool) {e : Excerpt} (plain : e.Lacks c) :
    ∀ r ∈ excerptRows extend e, r.Lacks c := by
  intro r member
  rcases List.mem_cons.mp member with rfl | later
  · trivial
  rcases List.mem_append.mp later with lines | closing
  · obtain ⟨pair, next, shown⟩ := List.mem_flatMap.mp lines
    have line := plain pair.2 (neighbour_line next)
    rcases List.mem_append.mp shown with above | own
    · split at above
      · obtain rfl := List.mem_singleton.mp above
        trivial
      · cases above
    rcases List.mem_cons.mp own with rfl | below
    · exact line.text
    · obtain ⟨m, marked, rfl⟩ := Option.map_eq_some_iff.mp (Option.mem_toList.mp below)
      exact line.marker m marked
  · split at closing
    · obtain rfl := List.mem_singleton.mp closing
      trivial
    · cases closing

theorem help_rows_lack {h : Help} (plain : h.Lacks c) : ∀ r ∈ helpRows h, r.Lacks c := by
  obtain ⟨message, suggestion⟩ := h
  intro r member
  rcases List.mem_cons.mp member with rfl | later
  · exact plain.message
  cases suggestion with
  | none => cases later
  | some e => exact excerpt_rows_lack false (plain.suggestion e rfl) r later

theorem later_rows_lack {d : Diagnostic} (path : Caret.Lacks c d.location.path)
    (excerpt : d.excerpt.Lacks c) (helps : ∀ h ∈ d.helps, h.Lacks c)
    (notes : ∀ n ∈ d.notes, Caret.Lacks c n) : ∀ r ∈ (diagnosticRows d).tail, r.Lacks c := by
  intro r member
  rcases List.mem_cons.mp member with rfl | later
  · exact path
  rcases List.mem_append.mp later with block | last
  · rcases List.mem_append.mp block with primary | suggested
    · exact excerpt_rows_lack _ excerpt r primary
    · obtain ⟨h, given, shown⟩ := List.mem_flatMap.mp suggested
      exact help_rows_lack (helps h given) r shown
  · obtain ⟨n, given, rfl⟩ := List.mem_map.mp last
    exact notes n given

theorem diagnostic_rows_lack {d : Diagnostic} (plain : d.Lacks c) :
    ∀ r ∈ diagnosticRows d, r.Lacks c := by
  intro r member
  rcases List.mem_cons.mp member with rfl | later
  · exact ⟨plain.code, plain.message⟩
  · exact later_rows_lack plain.path plain.excerpt plain.helps plain.notes r later

end Drawing
end
end Caret
