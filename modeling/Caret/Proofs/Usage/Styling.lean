import Caret.Proofs.Unchecked
import Caret.Proofs.Usage.Acceptance

namespace Caret

def Marker.unstyled (m : Marker) : Marker := { m with symbol := ' ', color := .red }

def Line.unstyled (l : Line) : Line := { l with marker := l.marker.map Marker.unstyled }

def Excerpt.unstyled (e : Excerpt) : Excerpt := ⟨e.lines.map Line.unstyled⟩

def Help.unstyled (h : Help) : Help := ⟨h.message, h.suggestion.map Excerpt.unstyled⟩

def Diagnostic.unstyled (d : Diagnostic) : Diagnostic :=
  { d with excerpt := d.excerpt.unstyled, helps := d.helps.map Help.unstyled }

def MarkerStyle.colorOf (style : MarkerStyle) : Level → Color
  | .error _ => style.error
  | .warning => style.warning

/-- The markers of a diagnostic look as the style says: there is one for the code that the diagnostic
is about, and all others belong to suggestions. -/
structure MarkerStyle.Shows (style : MarkerStyle) (d : Diagnostic) : Prop where
  primary : ∃ l m, d.excerpt.lines = [l] ∧ l.marker = some m ∧ m.symbol = style.symbol ∧
    m.color = style.colorOf d.level
  suggestions : ∀ h ∈ d.helps, ∀ e, h.suggestion = some e → ∀ l ∈ e.lines, ∀ m,
    l.marker = some m → m.symbol = style.suggestionSymbol ∧ m.color = style.suggestion

section
variable {ε α β : Type} {x y : Except ε α} {f : α → β}

theorem mapped_error (same : x.map f = y.map f) {e : ε} (failed : x = .error e) :
    y = .error e := by
  subst failed
  cases y with
  | error e' =>
    cases same
    rfl
  | ok b => cases same

theorem mapped_ok (same : x.map f = y.map f) {a : α} (given : x = .ok a) :
    ∃ b, y = .ok b ∧ f a = f b := by
  subst given
  cases y with
  | error e => cases same
  | ok b => exact ⟨b, rfl, Except.ok.inj same⟩

end

def MarkerStyle.plain : MarkerStyle := ⟨' ', ' ', .red, .red, .red⟩

section
variable (style : MarkerStyle) (number : Int)

theorem single_unstyled (text : String) (marker : Option Marker) :
    (Excerpt.single text number marker).map Excerpt.unstyled =
      Excerpt.single text number (marker.map Marker.unstyled) := by
  unfold Excerpt.single Line.make
  split
  · rfl
  · split
    · rfl
    · rfl

theorem suggestion_unstyled (s : SuggestionDraft) :
    (s.build style number).map Excerpt.unstyled = s.build .plain number := by
  have marker : (s.marker style).map Marker.unstyled = s.marker .plain := by
    unfold SuggestionDraft.marker
    cases s.diff with
    | none => rfl
    | some span => rfl
  unfold SuggestionDraft.build
  rw [single_unstyled, marker]

theorem help_unstyled (d : HelpDraft) :
    (d.build style number).map Help.unstyled = d.build .plain number := by
  obtain ⟨message, suggestion⟩ := d
  cases suggestion with
  | none => rfl
  | some s =>
    simp only [HelpDraft.build, ← suggestion_unstyled style]
    cases s.build style number with
    | error e => rfl
    | ok e => rfl

theorem helps_unstyled (ds : List HelpDraft) :
    (HelpDraft.buildAll style number ds).map (List.map Help.unstyled) =
      HelpDraft.buildAll .plain number ds := by
  induction ds with
  | nil => rfl
  | cons d ds ih =>
    simp only [HelpDraft.buildAll, ← help_unstyled style, ← ih]
    cases d.build style number with
    | error e => rfl
    | ok h =>
      cases HelpDraft.buildAll style number ds with
      | error e => rfl
      | ok hs => rfl

theorem assemble_unstyled (d : Draft) :
    (d.assemble style).map Diagnostic.unstyled = d.assemble .plain := by
  have marker : (d.marker style).unstyled = d.marker .plain := by
    unfold Draft.marker
    cases d.level with
    | error code => rfl
    | warning => rfl
  have primary := single_unstyled d.location.line d.code (some (d.marker style))
  rw [Option.map_some, marker] at primary
  simp only [Draft.assemble, ← primary, ← helps_unstyled style]
  cases Excerpt.single d.code d.location.line (some (d.marker style)) with
  | error e => rfl
  | ok excerpt =>
    cases HelpDraft.buildAll style d.location.line d.helps with
    | error e => rfl
    | ok helps => rfl

theorem helps_shows {ds : List HelpDraft} {hs : List Help}
    (built : HelpDraft.buildAll style number ds = .ok hs) :
    ∀ h ∈ hs, ∀ e, h.suggestion = some e → ∀ l ∈ e.lines, ∀ m,
      l.marker = some m → m.symbol = style.suggestionSymbol ∧ m.color = style.suggestion := by
  intro h member e suggested l inside m marked
  obtain ⟨draft, _, made⟩ := helps_build_member built h member
  obtain ⟨s, own, _, rfl, _, _, given⟩ := (help_build_parts made).2 e suggested
  obtain rfl := List.mem_singleton.mp inside
  rw [given] at marked
  obtain ⟨span, _, rfl⟩ := Option.map_eq_some_iff.mp marked
  exact ⟨rfl, rfl⟩

theorem assemble_shows {d : Draft} {diagnostic : Diagnostic}
    (built : d.assemble style = .ok diagnostic) : style.Shows diagnostic := by
  have traced : (d.build style).value = .ok diagnostic := built
  obtain ⟨level, _, l, excerpt, _, _, marked⟩ := draft_build_parts traced
  constructor
  · refine ⟨l, _, by rw [excerpt], marked, rfl, ?_⟩
    rw [level]
    unfold Draft.marker MarkerStyle.colorOf
    cases d.level with
    | error code => rfl
    | warning => rfl
  · obtain ⟨helps, _⟩ := draft_build_tail traced
    exact helps_shows style _ helps

end

namespace Usage
section
variable (isError : Bool) (path : String) (line : Int) (style : MarkerStyle) (words : Words)

theorem parse_unstyled : (parse isError path line style words).value.map Diagnostic.unstyled =
    (parse isError path line .plain words).value := by
  unfold parse
  cases Request.read isError words with
  | error mistake => rfl
  | ok r =>
    have erased := assemble_unstyled style (r.draft path line)
    simp only [Traced.bind_value, Draft.build, ← erased]
    cases (r.draft path line).assemble style with
    | error e => rfl
    | ok d => rfl

theorem parse_records : (parse isError path line style words).records =
    (parse isError path line .plain words).records := by
  unfold parse
  cases Request.read isError words with
  | error mistake => rfl
  | ok r =>
    have erased := assemble_unstyled style (r.draft path line)
    simp only [Traced.bind_records, Draft.build, ← erased]
    cases (r.draft path line).assemble style with
    | error e => rfl
    | ok d => rfl

theorem parse_shows {d : Diagnostic}
    (accepted : (parse isError path line style words).value = .ok d) : style.Shows d := by
  obtain ⟨s, _, _, built⟩ := accepted_built path line style accepted
  exact assemble_shows style built

theorem refusal_reported (numbered : 1 ≤ line) (failure : Failure)
    (refused : (parse isError path line style words).value = .error failure) :
    ∃ report, failure = .usage report := by
  cases run : Request.read isError words with
  | error mistake =>
    obtain ⟨report, reported, _⟩ := parse_mistake path line style run
    rw [reported] at refused
    cases refused
    exact ⟨report, rfl⟩
  | ok r =>
    obtain ⟨sentence, rfl, rfl, _⟩ := read_ok run
    obtain ⟨d, _, accepted⟩ := parse_sentence path line style sentence numbered
    rw [accepted] at refused
    cases refused

end

/-- Two styles make a difference to the markers of what is accepted, and to nothing else. -/
theorem styles_mark_only (isError : Bool) (path : String) (line : Int) (a b : MarkerStyle)
    (words : Words) :
    (∀ failure, (parse isError path line a words).value = .error failure ↔
      (parse isError path line b words).value = .error failure) ∧
    (1 ≤ line → ∀ failure, (parse isError path line a words).value = .error failure →
      ∃ report, failure = .usage report) ∧
    (∀ d, (parse isError path line a words).value = .ok d →
      a.Shows d ∧ ∃ e, (parse isError path line b words).value = .ok e ∧ b.Shows e ∧
        d.unstyled = e.unstyled) ∧
    (parse isError path line a words).records = (parse isError path line b words).records := by
  have same : (parse isError path line a words).value.map Diagnostic.unstyled =
      (parse isError path line b words).value.map Diagnostic.unstyled :=
    (parse_unstyled isError path line a words).trans (parse_unstyled isError path line b words).symm
  refine ⟨?_, ?_, ?_, ?_⟩
  · intro failure
    constructor
    · exact mapped_error same
    · exact mapped_error same.symm
  · exact refusal_reported isError path line a words
  · intro d accepted
    obtain ⟨e, other, erased⟩ := mapped_ok same accepted
    exact ⟨parse_shows isError path line a words accepted, e, other,
      parse_shows isError path line b words other, erased⟩
  · exact (parse_records isError path line a words).trans
      (parse_records isError path line b words).symm

theorem styles_mark_only_suggestion :
    ∃ a b : MarkerStyle, a ≠ b ∧ (1 : Int) ≤ 7 ∧
      (∃ d e, (parse true "m.rs" 7 a ["E1", "m", "let x", "4-4", "fix", "h", "let y", "4-9"]).value =
          .ok d ∧
        (parse true "m.rs" 7 b ["E1", "m", "let x", "4-4", "fix", "h", "let y", "4-9"]).value =
          .ok e ∧
        a.Shows d ∧ b.Shows e ∧ d ≠ e ∧ d.unstyled = e.unstyled) ∧
      ∃ report, (parse false "m.rs" 7 a ["m", "let x", "4-3"]).value = .error (.usage report) ∧
        (parse false "m.rs" 7 b ["m", "let x", "4-3"]).value = .error (.usage report) := by
  let a : MarkerStyle := {}
  let b : MarkerStyle := ⟨'!', '+', 1, 2, 255⟩
  obtain ⟨d, accepted⟩ : ∃ d, (parse true "m.rs" 7 a
      ["E1", "m", "let x", "4-4", "fix", "h", "let y", "4-9"]).value = .ok d := ⟨_, rfl⟩
  obtain ⟨failure, refused⟩ : ∃ failure, (parse false "m.rs" 7 a ["m", "let x", "4-3"]).value =
      .error failure := ⟨_, rfl⟩
  obtain ⟨_, _, alike, _⟩ := styles_mark_only true "m.rs" 7 a b
    ["E1", "m", "let x", "4-4", "fix", "h", "let y", "4-9"]
  obtain ⟨failures, reported, _, _⟩ := styles_mark_only false "m.rs" 7 a b ["m", "let x", "4-3"]
  obtain ⟨shows, e, other, shows', erased⟩ := alike d accepted
  obtain ⟨report, rfl⟩ := reported (by decide) failure refused
  refine ⟨a, b, by decide, by decide, ⟨d, e, accepted, other, shows, shows', ?_, erased⟩, report,
    refused, (failures _).mp refused⟩
  rintro rfl
  obtain ⟨l, m, lines, marked, symbol, _⟩ := shows.primary
  obtain ⟨l', m', lines', marked', symbol', _⟩ := shows'.primary
  rw [lines] at lines'
  cases lines'
  rw [marked] at marked'
  cases marked'
  have same : '^' = '!' := symbol.symm.trans symbol'
  exact absurd same (by decide)

end Usage
end Caret
