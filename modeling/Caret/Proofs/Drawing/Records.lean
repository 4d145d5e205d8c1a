import Caret.Proofs.Drawing.Rows
import Caret.Proofs.Log.Below

namespace Caret

def Help.lines (h : Help) : List Line :=
  match h.suggestion with
  | none => []
  | some e => e.lines

namespace Drawing

/-- What is said about a line whose marker asks for colour and ends behind the line. -/
def fallback? (l : Line) : Option Log.Record :=
  match l.marker with
  | none => none
  | some m =>
    if m.inline = true ∧ l.text.length ≤ m.span.last then
      some ⟨Log.debug, "Span " ++ toString m.span.first ++ "-" ++ toString m.span.last ++
        " does not fit line " ++ toString l.number ++ " (" ++ toString l.text.length ++
        " chars); not coloring it inline"⟩
    else none

def shownLines (d : Diagnostic) : List Line := d.excerpt.lines ++ d.helps.flatMap Help.lines

def Part.lines : Part → List Line
  | .diagnostic d => shownLines d
  | .excerpt e => e.lines
  | .help h => h.lines
  | .line l => [l]
  | .marker _ => []
  | .note _ => []

def Silent (steps : List Step) : Prop := ∀ r, .log r ∉ steps

/-- Some lines are written one after another, each behind its number; between them nothing is
said. -/
inductive Told (p : Palette) : List Line → List Step → Prop
  | nothing {steps : List Step} (silent : Silent steps) : Told p [] steps
  | line {front steps : List Step} {l : Line} {ls : List Line} (width : Nat)
      (silent : Silent front) (rest : Told p ls steps) :
      Told p (l :: ls) (front ++ rule p (numberText width l) :: (codeText l ++ steps))

theorem code_records (l : Line) : records (codeText l) = (fallback? l).toList := by
  unfold codeText fallback?
  cases l.marker with
  | none => rfl
  | some m =>
    cases inline : m.inline with
    | false => simp [records, plain, inline]
    | true =>
      by_cases fits : m.span.last < l.text.length
      · have short : ¬ l.text.length ≤ m.span.last := by omega
        simp [records, colored, plain, inline, Span.fits, fits, short]
      · have short : l.text.length ≤ m.span.last := by omega
        simp only [records, plain, inline, Span.fits, Int.ofNat_lt, fits, short, and_self,
          decide_false, if_true, Bool.false_eq_true, if_false, Option.toList_some, misfit,
          Span.toText, ← String.append_assoc]

theorem fallback_level {l : Line} {r : Log.Record} (said : fallback? l = some r) :
    r.level = Log.debug := by
  unfold fallback? at said
  split at said
  · cases said
  · split at said
    · cases said
      rfl
    · cases said

theorem silent_nil : Silent [] := by
  intro r member
  cases member

theorem silent_append {a b : List Step} (first : Silent a) (second : Silent b) :
    Silent (a ++ b) := by
  intro r member
  rcases List.mem_append.mp member with early | late
  · exact first r early
  · exact second r late

theorem silent_records {steps : List Step} (silent : Silent steps) : records steps = [] := by
  induction steps with
  | nil => rfl
  | cons s steps ih =>
    cases s with
    | log r => exact absurd List.mem_cons_self (silent r)
    | write w => exact ih fun r member => silent r (List.mem_cons_of_mem _ member)

theorem records_append (a b : List Step) : records (a ++ b) = records a ++ records b := by
  induction a with
  | nil => rfl
  | cons s a ih => cases s <;> simp [records, ih]

section
variable {p : Palette} {ls ms : List Line} {a b : List Step}

theorem told_behind (silent : Silent a) (told : Told p ls b) : Told p ls (a ++ b) := by
  cases told with
  | nothing quiet => exact .nothing (silent_append silent quiet)
  | line width quiet rest =>
    rw [← List.append_assoc]
    exact .line width (silent_append silent quiet) rest

theorem told_append (first : Told p ls a) (second : Told p ms b) :
    Told p (ls ++ ms) (a ++ b) := by
  induction first with
  | nothing silent => exact told_behind silent second
  | line width silent _ ih =>
    rw [List.cons_append, List.append_assoc, List.cons_append, List.append_assoc]
    exact .line width silent ih

theorem told_before (told : Told p ls a) (silent : Silent b) : Told p ls (a ++ b) := by
  have both := told_append told (.nothing silent)
  rwa [List.append_nil] at both

/-- What is said in all is what is said about the lines. -/
theorem told_records (told : Told p ls a) : records a = ls.filterMap fallback? := by
  induction told with
  | nothing silent => exact silent_records silent
  | @line front steps l ls width silent _ ih =>
    have behind : records (rule p (numberText width l) :: (codeText l ++ steps)) =
        records (codeText l) ++ records steps := records_append _ _
    rw [records_append, silent_records silent, List.nil_append, behind, code_records, ih,
      List.filterMap_cons]
    cases fallback? l <;> rfl

end

section
variable (p : Palette)

theorem blank_silent (width : Nat) : Silent (blankGutter p width) := by
  intro r member
  simp [blankGutter, rule, plain] at member

theorem ellipsis_silent : Silent (ellipsis p) := by
  intro r member
  simp [ellipsis, rule, plain] at member

theorem line_told (width : Nat) (l : Line) : Told p [l] (line p width l) := by
  have under : Silent (match l.marker with
      | none => []
      | some m => underlineRow p width m) := by
    intro r member
    cases marked : l.marker <;> simp [marked, underlineRow, rule, marker] at member
  have behind : Told p [l] ([] ++ rule p (numberText width l) :: (codeText l ++ _)) :=
    .line width silent_nil (.nothing under)
  exact behind

theorem lines_told (width : Nat) (ls : List Line) (previous : Option Nat) :
    Told p ls (linesAfter p width previous ls) := by
  induction ls generalizing previous with
  | nil => exact .nothing silent_nil
  | cons l ls ih =>
    have own := told_append (line_told p width l) (ih (some l.number))
    have apart : Silent (between p previous l.number) := by
      unfold between
      split
      · exact silent_nil
      · split
        · exact silent_nil
        · exact ellipsis_silent p
    rw [linesAfter, List.append_assoc]
    exact told_behind apart own

theorem excerpt_told (extend : Bool) (e : Excerpt) : Told p e.lines (excerpt p extend e) := by
  have closing : Silent (if extend || !e.endsMarked then blankGutter p e.width else []) := by
    split
    · exact blank_silent p e.width
    · exact silent_nil
  exact told_before (told_behind (blank_silent p e.width) (lines_told p e.width e.lines none))
    closing

theorem help_told (extend : Bool) (h : Help) : Told p h.lines (help p extend h) := by
  obtain ⟨message, suggestion⟩ := h
  have label : Silent [helpLabel p message] := by
    intro r member
    simp [helpLabel] at member
  cases suggestion with
  | none => exact .nothing label
  | some e => exact told_behind label (excerpt_told p extend e)

theorem helps_told (hs : List Help) :
    Told p (hs.flatMap Help.lines) (hs.flatMap (help p false)) := by
  induction hs with
  | nil => exact .nothing silent_nil
  | cons h hs ih =>
    rw [List.flatMap_cons, List.flatMap_cons]
    exact told_append (help_told p false h) ih

theorem notes_silent (indent : Option Int) (notes : List String) :
    Silent (notes.flatMap (note p indent)) := by
  intro r member
  obtain ⟨n, _, inside⟩ := List.mem_flatMap.mp member
  cases indent <;> simp [note, noteRow, rule] at inside

theorem diagnostic_told (d : Diagnostic) : ∃ drawing,
    (subject p false (.part (.diagnostic d))).1 =
      .log (request (Part.kind (.diagnostic d)) false) :: .log (announcement d) :: drawing ∧
    Told p (shownLines d) drawing := by
  have head : Silent (header p d ++ [locationRow p d.location]) := by
    intro r member
    simp [header, locationRow] at member
  have primary := excerpt_told p (d.helps.isEmpty && d.notes.isEmpty) d.excerpt
  exact ⟨_, rfl, told_before (told_append (told_behind head primary) (helps_told p d.helps))
    (notes_silent p (noteIndent d) d.notes)⟩

theorem drawing_text (d : Diagnostic) :
    (d.render p).value = text (subject p false (.part (.diagnostic d))).1 := by
  rw [Diagnostic.render, Drawing.render]

theorem diagnostic_records (d : Diagnostic) :
    (d.render p).records = request (Part.kind (.diagnostic d)) false :: announcement d ::
      (shownLines d).filterMap fallback? := by
  obtain ⟨drawing, steps, told⟩ := diagnostic_told p d
  have all : (d.render p).records = records (subject p false (.part (.diagnostic d))).1 := rfl
  rw [all, steps, records, records, told_records told]

theorem render_below (d : Diagnostic) : (d.render p).Below Log.critical := by
  have trace : Log.trace < Log.critical := by decide
  have debug : Log.debug < Log.critical := by decide
  intro r member
  rw [diagnostic_records, List.mem_cons, List.mem_cons, List.mem_filterMap] at member
  rcases member with rfl | rfl | ⟨l, _, said⟩
  · exact trace
  · exact trace
  · rw [fallback_level said]
    exact debug

end
end Drawing
end Caret
