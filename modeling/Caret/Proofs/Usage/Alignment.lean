import Caret.Proofs.Drawing.Columns
import Caret.Proofs.Drawing.Cut
import Caret.Proofs.Usage.Acceptance
import Mathlib.Data.List.Forall2

namespace Caret.Usage
open Drawing

def spoken (isError : Bool) (words : Words) : Words := if isError then words.drop 1 else words

/-- Nothing that is given holds the character; only the code of an error may. -/
structure Withheld (c : Char) (isError : Bool) (path : String) (style : MarkerStyle)
    (words : Words) : Prop where
  words : ∀ w ∈ spoken isError words, Lacks c w
  path : Lacks c path
  symbol : style.symbol ≠ c
  suggestion : style.suggestionSymbol ≠ c

def barColumn (number : Int) : Nat := Gutter.columns number + 1

/-- The rows of a block of one line. Only the row of its code has something before the bar. -/
structure Panel (number : Int) (e : Excerpt) (rows : List (List Char)) : Prop where
  aligned : Aligned e rows
  bars : ∀ row ∈ rows, row[barColumn number]? = some '|'
  numbered : ∃ l above below, e.lines = [l] ∧
    rows = above ++ (toString number ++ " | " ++ l.text).toList :: below ∧
    ∀ row ∈ above ++ below, row.take (barColumn number) = List.replicate (barColumn number) ' '

inductive HelpRows (number : Int) : Help → List (List Char) → Prop
  | bare (message : String) : HelpRows number ⟨message, none⟩ [("help: " ++ message).toList]
  | block (message : String) {e : Excerpt} {rows : List (List Char)} (panel : Panel number e rows) :
      HelpRows number ⟨message, some e⟩ (("help: " ++ message).toList :: rows)

inductive NoteText (number : Int) : Level → String → List Char → Prop
  | error (code message : String) :
      NoteText number (.error code) message ("note: " ++ message).toList
  | warning (message : String) {row : List Char}
      (text : row = (Gutter.spaces (Gutter.columns number) ++ " = note: " ++ message).toList)
      (sign : row[barColumn number]? = some '=') : NoteText number .warning message row

structure Sheet (number : Int) (d : Diagnostic) (rows : List (List Char)) : Prop where
  parts : ∃ primary helps notes,
    rows = (" --> " ++ d.location.spelling).toList :: (primary ++ helps.flatten ++ notes) ∧
    Panel number d.excerpt primary ∧ List.Forall₂ (HelpRows number) d.helps helps ∧
    List.Forall₂ (NoteText number d.level) d.notes notes
  unbroken : ∀ row ∈ rows, '\n' ∉ row
  joined : ∀ row ∈ rows, row ≠ dots

def Single (number : Int) (e : Excerpt) : Prop := ∃ l : Line, e = ⟨[l]⟩ ∧ (l.number : Int) = number

section
variable {path : String} {line : Int} {style : MarkerStyle} {s : Sentence} {d : Diagnostic}

theorem primary_single (built : ((s.draft path line).build style).value = .ok d) :
    Single line d.excerpt := by
  obtain ⟨_, _, l, excerpt, _, number, _⟩ := draft_build_parts built
  exact ⟨l, excerpt, number⟩

theorem suggestions_single (built : ((s.draft path line).build style).value = .ok d) :
    ∀ h ∈ d.helps, ∀ e, h.suggestion = some e → Single line e := by
  intro h member e suggested
  obtain ⟨helps, _⟩ := draft_build_tail built
  obtain ⟨draft, _, made⟩ := helps_build_member helps h member
  obtain ⟨_, l, _, single, _, number, _⟩ := (help_build_parts made).2 e suggested
  exact ⟨l, single, number⟩

theorem phrase_note_word {p : Phrase} {message : String} (shown : p.note? = some message) :
    message ∈ p.words := by
  cases p with
  | note text =>
    cases shown
    simp [Phrase.words]
  | help text => cases shown
  | fix text code span tip => cases shown

theorem phrase_help_words {p : Phrase} {h : HelpDraft} (shown : p.help? = some h) :
    h.message ∈ p.words ∧ ∀ suggestion, h.suggestion = some suggestion →
      suggestion.code ∈ p.words ∧ ∀ tip, suggestion.tip = some tip → tip ∈ p.words := by
  cases p with
  | note text => cases shown
  | help text =>
    cases shown
    refine ⟨by simp [Phrase.words], ?_⟩
    intro suggestion given
    cases given
  | fix text code span tip =>
    cases shown
    cases tip with
    | none =>
      refine ⟨by simp [Phrase.words], ?_⟩
      intro suggestion given
      cases given
      refine ⟨by simp [Phrase.words], ?_⟩
      intro tip shown
      cases shown
    | some tip =>
      refine ⟨by simp [Phrase.words], ?_⟩
      intro suggestion given
      cases given
      refine ⟨by simp [Phrase.words], ?_⟩
      intro own shown
      cases shown
      simp [Phrase.words]

theorem sentence_spoken (s : Sentence) : spoken s.isError s.words =
    s.message :: s.code.text :: s.span.text :: s.phrases.flatMap Phrase.words := by
  obtain ⟨⟨level, message, code, span⟩, phrases⟩ := s
  cases level <;> rfl

section
variable {c : Char} (withheld : Withheld c s.isError path style s.words)
include withheld

theorem phrase_lacks {p : Phrase} (member : p ∈ s.phrases) : ∀ w ∈ p.words, Lacks c w := by
  intro w word
  have said := withheld.words
  rw [sentence_spoken] at said
  have inside : w ∈ s.phrases.flatMap Phrase.words := List.mem_flatMap.mpr ⟨p, member, word⟩
  exact said w (List.mem_cons_of_mem _ (List.mem_cons_of_mem _ (List.mem_cons_of_mem _ inside)))

theorem opening_lacks : Lacks c s.message ∧ Lacks c s.code.text := by
  have said := withheld.words
  rw [sentence_spoken] at said
  exact ⟨said _ List.mem_cons_self, said _ (List.mem_cons_of_mem _ List.mem_cons_self)⟩

theorem primary_lacks (built : ((s.draft path line).build style).value = .ok d) :
    d.excerpt.Lacks c := by
  obtain ⟨_, _, l, excerpt, text, _, marked⟩ := draft_build_parts built
  rw [excerpt]
  intro x member
  obtain rfl := List.mem_singleton.mp member
  constructor
  · rw [text]
    exact (opening_lacks withheld).2
  · intro m given
    obtain rfl := Option.some.inj (marked.symm.trans given)
    exact ⟨withheld.symbol, nofun⟩

theorem helps_lack (built : ((s.draft path line).build style).value = .ok d) :
    ∀ h ∈ d.helps, h.Lacks c := by
  intro h member
  obtain ⟨helps, _⟩ := draft_build_tail built
  obtain ⟨draft, listed, made⟩ := helps_build_member helps h member
  obtain ⟨p, phrase, shown⟩ := List.mem_filterMap.mp listed
  obtain ⟨said, suggestions⟩ := phrase_help_words shown
  obtain ⟨message, parts⟩ := help_build_parts made
  have lacks := phrase_lacks withheld phrase
  constructor
  · rw [message]
    exact lacks _ said
  · intro e suggested
    obtain ⟨suggestion, l, given, rfl, text, _, marked⟩ := parts e suggested
    obtain ⟨code, tips⟩ := suggestions suggestion given
    intro x only
    obtain rfl := List.mem_singleton.mp only
    constructor
    · rw [text]
      exact lacks _ code
    · intro m drawn
      rw [marked] at drawn
      obtain ⟨span, _, rfl⟩ := Option.map_eq_some_iff.mp drawn
      exact ⟨withheld.suggestion, fun tip shown => lacks _ (tips tip shown)⟩

theorem notes_lack (built : ((s.draft path line).build style).value = .ok d) :
    ∀ n ∈ d.notes, Lacks c n := by
  intro n member
  rw [(draft_build_tail built).2] at member
  obtain ⟨p, phrase, shown⟩ := List.mem_filterMap.mp member
  exact phrase_lacks withheld phrase n (phrase_note_word shown)

theorem later_rows_withheld (built : ((s.draft path line).build style).value = .ok d) :
    ∀ r ∈ (diagnosticRows d).tail, r.Lacks c := by
  have place : d.location.path = path := by
    rw [(draft_build_parts built).2.1]
    rfl
  refine later_rows_lack ?_ (primary_lacks withheld built) (helps_lack withheld built)
    (notes_lack withheld built)
  rw [place]
  exact withheld.path

end
end

section
variable {number : Int} {e : Excerpt}

theorem single_width (l : Line) : (⟨[l]⟩ : Excerpt).width = Gutter.columns l.number :=
  Nat.max_eq_left (Gutter.columns_pos l.number)

theorem single_rows (extend : Bool) (l : Line) : ∃ below,
    excerptRows extend ⟨[l]⟩ = .blank (Gutter.columns l.number) ::
      .code (Gutter.columns l.number) l :: below ∧
    ∀ r ∈ below, r = .blank (Gutter.columns l.number) ∨
      ∃ m, r = .underline (Gutter.columns l.number) m := by
  refine ⟨(l.marker.map (Row.underline (Gutter.columns l.number))).toList ++
    if closes extend ⟨[l]⟩ then [.blank (Gutter.columns l.number)] else [], ?_, ?_⟩
  · simp [excerptRows, neighbours, lineRows, apart, single_width]
  · intro r member
    rcases List.mem_append.mp member with under | closing
    · obtain ⟨m, _, rfl⟩ := Option.map_eq_some_iff.mp (Option.mem_toList.mp under)
      exact .inr ⟨m, rfl⟩
    · split at closing
      · exact .inl (List.mem_singleton.mp closing)
      · cases closing

theorem code_shown (l : Line) : (Row.code (Gutter.columns l.number) l).shown =
    (toString (l.number : Int) ++ " | " ++ l.text).toList := by
  have width : Gutter.columns l.number = (toString l.number).length := rfl
  have text : toString (l.number : Int) = toString l.number := rfl
  simp [Row.shown, numberText, Gutter.padRight, Gutter.spaces, width, text]

theorem margin_blank (width : Nat) (behind : List Char) :
    (List.replicate width ' ' ++ ' ' :: behind).take (width + 1) =
      List.replicate (width + 1) ' ' := by
  rw [List.replicate_succ', List.append_cons]
  exact List.take_left' (by simp)

theorem single_panel (extend : Bool) (single : Single number e) :
    Panel number e ((excerptRows extend e).map Row.shown) := by
  obtain ⟨l, rfl, rfl⟩ := single
  obtain ⟨below, rows, others⟩ := single_rows extend l
  have code : CodeRow (Gutter.columns l.number) l (Row.code (Gutter.columns l.number) l).shown :=
    code_aligned (Nat.le_of_eq rfl)
  refine ⟨excerpt_aligned extend _, ?_, l, [(Row.blank (Gutter.columns l.number)).shown],
    below.map Row.shown, rfl, ?_, ?_⟩
  · intro row member
    rw [rows] at member
    obtain ⟨r, listed, rfl⟩ := List.mem_map.mp member
    rcases List.mem_cons.mp listed with rfl | later
    · exact (blank_ruled _).bar
    rcases List.mem_cons.mp later with rfl | last
    · exact code.gutter.bar
    rcases others r last with rfl | ⟨m, rfl⟩
    · exact (blank_ruled _).bar
    · exact (underline_aligned _ m).gutter.bar
  · rw [rows, ← code_shown]
    rfl
  · have blank : (Row.blank (Gutter.columns l.number)).shown.take (barColumn l.number) =
        List.replicate (barColumn l.number) ' ' := by
      simp only [Row.shown, String.toList_append, spaces_text]
      exact margin_blank _ ['|']
    intro row member
    rcases List.mem_append.mp member with above | later
    · rw [List.mem_singleton.mp above]
      exact blank
    · obtain ⟨r, listed, rfl⟩ := List.mem_map.mp later
      rcases others r listed with rfl | ⟨m, rfl⟩
      · exact blank
      · simp only [Row.shown, String.toList_append, spaces_text, List.append_assoc]
        exact margin_blank _ _

theorem signed_joined {row : List Char} {column : Nat} {sign : Char}
    (signed : row[column]? = some sign) (other : sign ∉ dots) : row ≠ dots := by
  rintro rfl
  exact other (List.mem_of_getElem? signed)

theorem panel_joined {rows : List (List Char)} (panel : Panel number e rows) :
    ∀ row ∈ rows, row ≠ dots := by
  intro row member
  exact signed_joined (panel.bars row member) (by decide)

theorem begun_joined {c : Char} {s : String} (begun : s.toList.head? = some c) (other : c ≠ '.')
    (t : String) : (s ++ t).toList ≠ dots := by
  intro same
  have first := congrArg List.head? same
  rw [String.toList_append, List.head?_append, begun] at first
  exact other (Option.some.inj first)

theorem help_joined {h : Help} {rows : List (List Char)} (help : HelpRows number h rows) :
    ∀ row ∈ rows, row ≠ dots := by
  have label (message : String) : ("help: " ++ message).toList ≠ dots :=
    begun_joined (c := 'h') rfl (by decide) message
  intro row member
  cases help with
  | bare message =>
    rw [List.mem_singleton.mp member]
    exact label message
  | block message panel =>
    rcases List.mem_cons.mp member with rfl | later
    · exact label message
    · exact panel_joined panel row later

theorem note_joined {level : Level} {message : String} {row : List Char}
    (note : NoteText number level message row) : row ≠ dots := by
  cases note with
  | error code message => exact begun_joined (c := 'n') rfl (by decide) message
  | warning message text sign => exact signed_joined sign (by decide)

end

section
variable {number : Int} {d : Diagnostic}

theorem help_sheet (h : Help)
    (single : ∀ e, h.suggestion = some e → Single number e) :
    HelpRows number h ((helpRows h).map Row.shown) := by
  obtain ⟨message, suggestion⟩ := h
  cases suggestion with
  | none => exact .bare message
  | some e => exact .block message (single_panel false (single e rfl))

theorem note_sheet (level : Level) (width : Option Nat) (message : String)
    (indent : ∀ code, level = .error code → width = none)
    (gutter : level = .warning → width = some (Gutter.columns number)) :
    NoteText number level message (Row.note width message).shown := by
  cases level with
  | error code =>
    rw [indent code rfl]
    exact .error code message
  | warning =>
    rw [gutter rfl]
    have text : (Row.note (some (Gutter.columns number)) message).shown =
        (Gutter.spaces (Gutter.columns number) ++ " = note: " ++ message).toList := by
      simp [Row.shown]
    refine .warning message text ?_
    simp [text, spaces_text, barColumn]

theorem rows_sheet (primary : Single number d.excerpt)
    (suggestions : ∀ h ∈ d.helps, ∀ e, h.suggestion = some e → Single number e)
    (unbroken : ∀ r ∈ (diagnosticRows d).tail, r.Lacks '\n') :
    Sheet number d ((diagnosticRows d).tail.map Row.shown) := by
  have panel := single_panel (d.helps.isEmpty && d.notes.isEmpty) primary
  have helps : List.Forall₂ (HelpRows number) d.helps
      (d.helps.map fun h => (helpRows h).map Row.shown) := by
    rw [List.forall₂_map_right_iff, List.forall₂_same]
    exact fun h member => help_sheet h (suggestions h member)
  have width : d.excerpt.width = Gutter.columns number := by
    obtain ⟨l, single, rfl⟩ := primary
    rw [single, single_width]
  have note (n : String) : NoteText number d.level n (Row.note (noteWidth d) n).shown := by
    apply note_sheet
    · intro code error
      rw [noteWidth, error]
    · intro warning
      rw [noteWidth, warning, ← width]
  have notes : List.Forall₂ (NoteText number d.level) d.notes
      (d.notes.map fun n => (Row.note (noteWidth d) n).shown) := by
    rw [List.forall₂_map_right_iff, List.forall₂_same]
    exact fun n _ => note n
  have rows : (diagnosticRows d).tail.map Row.shown =
      (" --> " ++ d.location.spelling).toList ::
        ((excerptRows (d.helps.isEmpty && d.notes.isEmpty) d.excerpt).map Row.shown ++
          (d.helps.map fun h => (helpRows h).map Row.shown).flatten ++
          d.notes.map fun n => (Row.note (noteWidth d) n).shown) := by
    simp only [diagnosticRows, List.tail_cons, List.map_cons, List.map_append, List.map_flatMap,
      List.map_map]
    rfl
  refine ⟨⟨_, _, _, rows, panel, helps, notes⟩, ?_, ?_⟩
  · intro row member
    obtain ⟨r, listed, rfl⟩ := List.mem_map.mp member
    exact shown_lacks (by decide) (unbroken r listed)
  · intro row member
    rw [rows] at member
    rcases List.mem_cons.mp member with rfl | block
    · exact begun_joined (c := ' ') rfl (by decide) _
    rcases List.mem_append.mp block with above | last
    · rcases List.mem_append.mp above with own | help
      · exact panel_joined panel row own
      · obtain ⟨part, listed, inside⟩ := List.mem_flatten.mp help
        obtain ⟨h, given, rfl⟩ := List.mem_map.mp listed
        exact help_joined (help_sheet h (suggestions h given)) row inside
    · obtain ⟨n, _, rfl⟩ := List.mem_map.mp last
      exact note_joined (note n)

theorem header_joined (p : Palette) (level : Level) (message : String) :
    Style.stripFrom 0 ((Row.header level message).chars p) ≠ dots := by
  obtain ⟨c, rest, label, visible, other⟩ : ∃ c rest, level.label.toList = c :: rest ∧
      c ≠ Style.esc ∧ c ≠ '.' := by
    cases level with
    | error code => exact ⟨'e', _, by simp [Level.label]; rfl, by decide, by decide⟩
    | warning => exact ⟨'w', _, rfl, by decide, by decide⟩
  intro same
  have first := congrArg List.head? same
  simp only [Row.chars, Row.cells, flat_cons, Cell.chars, List.append_assoc, Style.strip_escape,
    String.toList_empty, List.nil_append, label, List.cons_append, Style.strip_plain visible,
    List.head?_cons] at first
  exact other (Option.some.inj first)

theorem header_unbroken (p : Palette) {level : Level} {message : String}
    (plain : (Row.header level message).Lacks '\n') :
    '\n' ∉ Style.stripFrom 0 ((Row.header level message).chars p) := by
  intro feed
  exact chars_unfed p plain (Style.strip_subset 0 _ feed)

/-- Without the escape sequences: the header, whatever an error code may hold, and the rows behind
it. All bars are in the column behind the number, and so are the signs of the notes of a warning. -/
theorem output_aligned {isError : Bool} {path : String} {line : Int} {style : MarkerStyle}
    {words : Words} (accepted : (parse isError path line style words).value = .ok d)
    (visible : Withheld Style.esc isError path style words)
    (unbroken : Withheld '\n' isError path style words) (p : Palette) :
    ∃ header rows, (Style.strip (d.render p).value).toList =
        header ++ '\n' :: rows.flatMap (· ++ ['\n']) ∧
      Sheet line d rows ∧ header ≠ dots ∧
      ((∀ code, d.level = .error code → Lacks '\n' code) → '\n' ∉ header) := by
  obtain ⟨s, rfl, rfl, built⟩ := accepted_built path line style accepted
  have rows : diagnosticRows d = .header d.level d.message :: (diagnosticRows d).tail := rfl
  have clean := later_rows_withheld visible built
  have sheet := rows_sheet (primary_single built) (suggestions_single built)
    (later_rows_withheld unbroken built)
  refine ⟨_, _, ?_, sheet, header_joined p d.level d.message, ?_⟩
  · rw [Style.strip, String.toList_ofList, render_rows, rows, stacked_cons,
      Style.strip_ended (Nat.zero_le _), List.tail_cons, strip_stacked p clean, List.flatMap_map]
  · intro code
    have message : Lacks '\n' d.message := by
      rw [draft_build_message built]
      exact (opening_lacks unbroken).1
    exact header_unbroken p ⟨code, message⟩

/-- An error code that would fill rows of its own, and a suggestion whose span ends behind it. -/
def rowsInCode : Words :=
  ["]\n...\n", "m", "let x", "0-0", "fix", "h", "let", "1-7", "span", "t", "note", "n"]

theorem output_aligned_rows_in_code :
    ∃ d, (parse true "p" 10 {} rowsInCode).value = .ok d ∧ ∃ header rows,
      (Style.strip (d.render {}).value).toList = header ++ '\n' :: rows.flatMap (· ++ ['\n']) ∧
        Sheet 10 d rows := by
  obtain ⟨d, accepted⟩ : ∃ d, (parse true "p" 10 {} rowsInCode).value = .ok d := ⟨_, rfl⟩
  have visible : Withheld Style.esc true "p" {} rowsInCode :=
    ⟨by decide, by decide, by decide, by decide⟩
  have unbroken : Withheld '\n' true "p" {} rowsInCode :=
    ⟨by decide, by decide, by decide, by decide⟩
  obtain ⟨header, rows, text, sheet, _⟩ := output_aligned accepted visible unbroken {}
  exact ⟨d, accepted, header, rows, text, sheet⟩

end

end Caret.Usage
