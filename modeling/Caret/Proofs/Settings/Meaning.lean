import Caret.Proofs.Settings.Section

namespace Caret.Settings
open Document

def IsColor (v : Value) : Prop := ∃ n : Int, v = .integer n ∧ 0 ≤ n ∧ n ≤ 255

def IsSymbol (v : Value) : Prop := ∃ s : String, v = .text s ∧ s.length = 1

def entriesOf (t : Table) (name : String) : Table :=
  match t.get? name with
  | some (.table entries) => entries
  | _ => []

structure Valid (t : Table) : Prop where
  sections : ∀ name ∈ ["palette", "markers"], ∀ v, t.get? name = some v →
    ∃ entries, v = .table entries
  colors : ∀ key ∈ ["error", "warning", "location", "help"], ∀ v,
    (entriesOf t "palette").get? key = some v → IsColor v
  symbols : ∀ key ∈ ["symbol", "suggestion_symbol"], ∀ v,
    (entriesOf t "markers").get? key = some v → IsSymbol v
  markerColors : ∀ key ∈ ["error_marker", "warning_marker", "suggestion"], ∀ v,
    (entriesOf t "markers").get? key = some v → IsColor v

def colorValue (c : Color) : Value := .integer c.val

def symbolValue (c : Char) : Value := .text (String.singleton c)

def said (entries : Table) (key : String) (builtIn : Value) : Value :=
  (entries.get? key).getD builtIn

structure PaletteMeant (entries : Table) (p : Palette) : Prop where
  error : said entries "error" (colorValue .red) = colorValue p.error
  warning : said entries "warning" (colorValue .yellow) = colorValue p.warning
  location : said entries "location" (colorValue .blue) = colorValue p.location
  help : said entries "help" (colorValue .cyan) = colorValue p.help

structure MarkersMeant (entries : Table) (m : MarkerStyle) : Prop where
  symbol : said entries "symbol" (symbolValue '^') = symbolValue m.symbol
  suggestionSymbol :
    said entries "suggestion_symbol" (symbolValue '~') = symbolValue m.suggestionSymbol
  error : said entries "error_marker" (colorValue .red) = colorValue m.error
  warning : said entries "warning_marker" (colorValue .yellow) = colorValue m.warning
  suggestion : said entries "suggestion" (colorValue .green) = colorValue m.suggestion

/-- All fields of the settings that a table means. -/
structure Means (t : Table) (s : Settings) : Prop where
  palette : PaletteMeant (entriesOf t "palette") s.palette
  markers : MarkersMeant (entriesOf t "markers") s.markers

theorem palette_meant {entries : Table} {p : Palette} :
    (∀ key, paletteLook p.draft key = overlay paletteLook {} entries key) ↔
      PaletteMeant entries p := by
  constructor
  · intro same
    exact ⟨(Option.some.inj (same "error")).symm, (Option.some.inj (same "warning")).symm,
      (Option.some.inj (same "location")).symm, (Option.some.inj (same "help")).symm⟩
  · intro meant key
    unfold overlay paletteLook
    split
    · exact congrArg some meant.error.symm
    · exact congrArg some meant.warning.symm
    · exact congrArg some meant.location.symm
    · exact congrArg some meant.help.symm
    · rfl

theorem markers_meant {entries : Table} {m : MarkerStyle} :
    (∀ key, markerLook m.draft key = overlay markerLook {} entries key) ↔
      MarkersMeant entries m := by
  constructor
  · intro same
    exact ⟨(Option.some.inj (same "symbol")).symm,
      (Option.some.inj (same "suggestion_symbol")).symm,
      (Option.some.inj (same "error_marker")).symm,
      (Option.some.inj (same "warning_marker")).symm,
      (Option.some.inj (same "suggestion")).symm⟩
  · intro meant key
    unfold overlay markerLook
    split
    · exact congrArg some meant.symbol.symm
    · exact congrArg some meant.suggestionSymbol.symm
    · exact congrArg some meant.error.symm
    · exact congrArg some meant.warning.symm
    · exact congrArg some meant.suggestion.symm
    · rfl

def Sectioned (t : Table) (name : String) : Prop :=
  ∀ v, t.get? name = some v → ∃ entries, v = .table entries

theorem section_entries (t : Table) (name : String) (entries : Table) :
    sectionOf t name = .ok entries ↔ Sectioned t name ∧ entries = entriesOf t name := by
  unfold sectionOf Sectioned entriesOf
  cases t.get? name with
  | none => simp [eq_comm]
  | some v => cases v <;> simp [eq_comm]

theorem entries_distinct {t : Table} (keyed : Keyed t) (name : String) :
    (entriesOf t name).keys.Nodup := by
  unfold entriesOf
  split
  · rename_i entries found
    exact keyed.inner name entries found
  · exact List.nodup_nil

theorem table_means {t : Table} (keyed : Keyed t) (source : Option Files.Path) (s : Settings) :
    (ofTable t source).value = .ok s ↔
      (Sectioned t "palette" ∧ Sectioned t "markers") ∧ Means t s ∧ s.source = source := by
  rw [table_accepted]
  simp only [section_entries, and_assoc, exists_and_left, exists_eq_left]
  rw [section_gives _ _ palette_pictures (entries_distinct keyed _), palette_meant,
    section_gives _ _ marker_pictures (entries_distinct keyed _), markers_meant]
  constructor
  · rintro ⟨colors, palette, styles, markers, from_⟩
    exact ⟨colors, styles, ⟨palette, markers⟩, from_⟩
  · rintro ⟨colors, styles, ⟨palette, markers⟩, from_⟩
    exact ⟨colors, palette, styles, markers, from_⟩

theorem color_said (entries : Table) (key : String) (builtIn : Color) :
    (∃ c, said entries key (colorValue builtIn) = colorValue c) ↔
      ∀ v, entries.get? key = some v → IsColor v := by
  unfold said
  constructor
  · rintro ⟨c, same⟩ v found
    rw [found] at same
    have bound := c.isLt
    exact ⟨c.val, same, by omega, by omega⟩
  · intro fit
    cases found : entries.get? key with
    | none => exact ⟨builtIn, rfl⟩
    | some v =>
      obtain ⟨n, rfl, low, high⟩ := fit v found
      refine ⟨⟨n.toNat, by omega⟩, ?_⟩
      simp only [Option.getD_some, colorValue, Value.integer.injEq]
      omega

theorem symbol_said (entries : Table) (key : String) (builtIn : Char) :
    (∃ c, said entries key (symbolValue builtIn) = symbolValue c) ↔
      ∀ v, entries.get? key = some v → IsSymbol v := by
  unfold said
  constructor
  · rintro ⟨c, same⟩ v found
    rw [found] at same
    exact ⟨String.singleton c, same, by simp⟩
  · intro fit
    cases found : entries.get? key with
    | none => exact ⟨builtIn, rfl⟩
    | some v =>
      obtain ⟨s, rfl, single⟩ := fit v found
      obtain ⟨c, shown⟩ := List.length_eq_one_iff.mp single
      refine ⟨c, congrArg Value.text ?_⟩
      rw [← String.toList_inj, shown, String.toList_singleton]

theorem meaning_exists (t : Table) :
    (Sectioned t "palette" ∧ Sectioned t "markers") ∧ (∃ s, Means t s) ↔ Valid t := by
  constructor
  · rintro ⟨⟨palette, markers⟩, s, colors, styles⟩
    constructor
    · intro name listed
      simp only [List.mem_cons, List.not_mem_nil, or_false] at listed
      rcases listed with rfl | rfl
      · exact palette
      · exact markers
    · intro key listed
      simp only [List.mem_cons, List.not_mem_nil, or_false] at listed
      rcases listed with rfl | rfl | rfl | rfl
      · exact (color_said _ _ _).mp ⟨_, colors.error⟩
      · exact (color_said _ _ _).mp ⟨_, colors.warning⟩
      · exact (color_said _ _ _).mp ⟨_, colors.location⟩
      · exact (color_said _ _ _).mp ⟨_, colors.help⟩
    · intro key listed
      simp only [List.mem_cons, List.not_mem_nil, or_false] at listed
      rcases listed with rfl | rfl
      · exact (symbol_said _ _ _).mp ⟨_, styles.symbol⟩
      · exact (symbol_said _ _ _).mp ⟨_, styles.suggestionSymbol⟩
    · intro key listed
      simp only [List.mem_cons, List.not_mem_nil, or_false] at listed
      rcases listed with rfl | rfl | rfl
      · exact (color_said _ _ _).mp ⟨_, styles.error⟩
      · exact (color_said _ _ _).mp ⟨_, styles.warning⟩
      · exact (color_said _ _ _).mp ⟨_, styles.suggestion⟩
  · intro valid
    have color : ∀ key ∈ ["error", "warning", "location", "help"], ∀ builtIn, ∃ c,
        said (entriesOf t "palette") key (colorValue builtIn) = colorValue c := by
      intro key listed builtIn
      exact (color_said _ key builtIn).mpr (valid.colors key listed)
    have markerColor : ∀ key ∈ ["error_marker", "warning_marker", "suggestion"], ∀ builtIn, ∃ c,
        said (entriesOf t "markers") key (colorValue builtIn) = colorValue c := by
      intro key listed builtIn
      exact (color_said _ key builtIn).mpr (valid.markerColors key listed)
    have symbol : ∀ key ∈ ["symbol", "suggestion_symbol"], ∀ builtIn, ∃ c,
        said (entriesOf t "markers") key (symbolValue builtIn) = symbolValue c := by
      intro key listed builtIn
      exact (symbol_said _ key builtIn).mpr (valid.symbols key listed)
    obtain ⟨error, error_said⟩ := color "error" (by simp) .red
    obtain ⟨warning, warning_said⟩ := color "warning" (by simp) .yellow
    obtain ⟨location, location_said⟩ := color "location" (by simp) .blue
    obtain ⟨help, help_said⟩ := color "help" (by simp) .cyan
    obtain ⟨primary, primary_said⟩ := symbol "symbol" (by simp) '^'
    obtain ⟨other, other_said⟩ := symbol "suggestion_symbol" (by simp) '~'
    obtain ⟨first, first_said⟩ := markerColor "error_marker" (by simp) .red
    obtain ⟨second, second_said⟩ := markerColor "warning_marker" (by simp) .yellow
    obtain ⟨third, third_said⟩ := markerColor "suggestion" (by simp) .green
    refine ⟨⟨valid.sections "palette" (by simp), valid.sections "markers" (by simp)⟩,
      ⟨⟨error, warning, location, help⟩, ⟨primary, other, first, second, third⟩, none⟩, ?_, ?_⟩
    · exact ⟨error_said, warning_said, location_said, help_said⟩
    · exact ⟨primary_said, other_said, first_said, second_said, third_said⟩

theorem said_reordered {a b : Table} {key : String}
    (related : Option.Rel Reordered (a.get? key) (b.get? key)) {builtIn v : Value}
    (table : ∀ t, v ≠ .table t) (list : ∀ vs, v ≠ .list vs) (held : said a key builtIn = v) :
    said b key builtIn = v := by
  unfold said at held ⊢
  generalize a.get? key = before at related held
  generalize b.get? key = after at related
  cases related with
  | none => exact held
  | some inside =>
    cases held
    exact reordered_single inside table list

theorem color_reordered {a b : Table} {key : String}
    (related : Option.Rel Reordered (a.get? key) (b.get? key)) {builtIn c : Color}
    (held : said a key (colorValue builtIn) = colorValue c) :
    said b key (colorValue builtIn) = colorValue c :=
  said_reordered related nofun nofun held

theorem symbol_reordered {a b : Table} {key : String}
    (related : Option.Rel Reordered (a.get? key) (b.get? key)) {builtIn c : Char}
    (held : said a key (symbolValue builtIn) = symbolValue c) :
    said b key (symbolValue builtIn) = symbolValue c :=
  said_reordered related nofun nofun held

theorem section_reordered {a b : Table} (keyed : Keyed a) {name : String}
    (related : Option.Rel Reordered (a.get? name) (b.get? name)) (sectioned : Sectioned a name) :
    Sectioned b name ∧
      ∀ key, Option.Rel Reordered ((entriesOf a name).get? key) ((entriesOf b name).get? key) := by
  unfold Sectioned entriesOf
  cases before : a.get? name with
  | none =>
    rw [before] at related
    cases after : b.get? name with
    | some w =>
      rw [after] at related
      cases related
    | none => exact ⟨nofun, fun key => rel_refl _⟩
  | some v =>
    obtain ⟨entries, rfl⟩ := sectioned v before
    cases after : b.get? name with
    | none =>
      rw [before, after] at related
      cases related
    | some w =>
      rw [before, after] at related
      cases related with
      | some inside =>
        obtain ⟨entries', rfl, _, near⟩ :=
          reordered_table inside rfl (keyed.inner name entries before)
        refine ⟨?_, near⟩
        intro v same
        cases same
        exact ⟨entries', rfl⟩

theorem accepted_reordered {t : Table} (keyed : Keyed t) {v : Value}
    (order : Reordered (.table t) v) {source : Option Files.Path} {s : Settings}
    (accepted : (ofTable t source).value = .ok s) : (ofValue v source).value = .ok s := by
  obtain ⟨t', rfl, keyed', related⟩ := keyed_reordered keyed order
  obtain ⟨⟨palette, markers⟩, ⟨colors, styles⟩, from_⟩ := (table_means keyed source s).mp accepted
  obtain ⟨palette', near⟩ := section_reordered keyed (related "palette") palette
  obtain ⟨markers', near'⟩ := section_reordered keyed (related "markers") markers
  refine (table_means keyed' source s).mpr ⟨⟨palette', markers'⟩, ⟨?_, ?_⟩, from_⟩
  · exact ⟨color_reordered (near _) colors.error, color_reordered (near _) colors.warning,
      color_reordered (near _) colors.location, color_reordered (near _) colors.help⟩
  · exact ⟨symbol_reordered (near' _) styles.symbol,
      symbol_reordered (near' _) styles.suggestionSymbol,
      color_reordered (near' _) styles.error, color_reordered (near' _) styles.warning,
      color_reordered (near' _) styles.suggestion⟩

theorem table_accepted_iff_valid {t : Table} (keyed : Keyed t) (source : Option Files.Path) :
    (∃ s, (ofTable t source).value = .ok s) ↔ Valid t := by
  rw [← meaning_exists]
  constructor
  · rintro ⟨s, accepted⟩
    obtain ⟨sections, meant, _⟩ := (table_means keyed source s).mp accepted
    exact ⟨sections, s, meant⟩
  · rintro ⟨sections, s, meant⟩
    exact ⟨{ s with source := source },
      (table_means keyed source _).mpr ⟨sections, ⟨meant.palette, meant.markers⟩, rfl⟩⟩

theorem of_value_accepted {data : Value} {source : Option Files.Path} {s : Settings} :
    (ofValue data source).value = .ok s ↔
      ∃ t, data = .table t ∧ (ofTable t source).value = .ok s := by
  cases data <;> simp [ofValue]

/-- A document is accepted exactly if it is a valid table. Its settings are then what it means and
record where it comes from, and they are the same for every order of its keys. Any other document
is turned down with an error. -/
theorem document_meaning (data : Value) (source : Option Files.Path)
    (keyed : ∀ t, data = .table t → Keyed t) :
    ((∃ s, (ofValue data source).value = .ok s) ↔ ∃ t, data = .table t ∧ Valid t) ∧
    (∀ s, (ofValue data source).value = .ok s →
      (∃ t, data = .table t ∧ Means t s) ∧ s.source = source) ∧
    (∀ data', Reordered data data' → ∀ s, (ofValue data' source).value = .ok s ↔
      (ofValue data source).value = .ok s) ∧
    ((¬ ∃ t, data = .table t ∧ Valid t) →
      ∃ e : Settings.Error, (ofValue data source).value = .error e) := by
  have valid : (∃ s, (ofValue data source).value = .ok s) ↔ ∃ t, data = .table t ∧ Valid t := by
    simp only [of_value_accepted]
    constructor
    · rintro ⟨s, t, rfl, accepted⟩
      exact ⟨t, rfl, (table_accepted_iff_valid (keyed t rfl) source).mp ⟨s, accepted⟩⟩
    · rintro ⟨t, rfl, valid⟩
      obtain ⟨s, accepted⟩ := (table_accepted_iff_valid (keyed t rfl) source).mpr valid
      exact ⟨s, t, rfl, accepted⟩
  refine ⟨valid, ?_, ?_, ?_⟩
  · intro s accepted
    obtain ⟨t, rfl, accepted⟩ := of_value_accepted.mp accepted
    obtain ⟨_, meant, from_⟩ := (table_means (keyed t rfl) source s).mp accepted
    exact ⟨⟨t, rfl, meant⟩, from_⟩
  · intro data' order s
    constructor
    · intro accepted
      obtain ⟨t', rfl, accepted⟩ := of_value_accepted.mp accepted
      obtain ⟨t, rfl⟩ := reordered_is_table (reordered_symm order) rfl
      obtain ⟨_, same, keyed', _⟩ := keyed_reordered (keyed t rfl) order
      cases same
      exact accepted_reordered keyed' (reordered_symm order) accepted
    · intro accepted
      obtain ⟨t, rfl, accepted⟩ := of_value_accepted.mp accepted
      exact accepted_reordered (keyed t rfl) order accepted
  · intro invalid
    cases run : (ofValue data source).value with
    | ok s => exact absurd (valid.mp ⟨s, run⟩) invalid
    | error e => exact ⟨e, rfl⟩

theorem document_meaning_swapped :
    ∃ (t t' : Table) (s : Settings), Keyed t ∧ Reordered (.table t) (.table t') ∧
      (ofValue (.table t) none).value = .ok s ∧ (ofValue (.table t') none).value = .ok s ∧
      Means t s ∧ s.source = none ∧ s.markers.suggestionSymbol = 'é' ∧ s.palette.help = 255 := by
  let palette : Table := [("help", .integer 255)]
  let markers : Table := [("suggestion_symbol", .text "é"), ("error_marker", .integer 0)]
  let t : Table := [("x", .boolean true), ("markers", .table markers), ("palette", .table palette)]
  let t' : Table := [("palette", .table palette), ("x", .boolean true),
    ("markers", .table markers.reverse)]
  let s : Settings := ⟨{ help := 255 }, { suggestionSymbol := 'é', error := 0 }, none⟩
  have keyed : Keyed t := by
    refine ⟨by decide, ?_⟩
    intro key entries found
    have member := member_of_get found
    simp only [t, List.mem_cons, Prod.mk.injEq, List.not_mem_nil, or_false] at member
    rcases member with ⟨_, other⟩ | ⟨_, same⟩ | ⟨_, same⟩
    · cases other
    · cases same
      decide
    · cases same
      decide
  have order : Reordered (.table t) (.table t') := by
    refine .trans (.entry [("x", .boolean true)] [("palette", .table palette)] "markers"
      (.keys markers.reverse_perm.symm)) (.keys ?_)
    exact @List.perm_append_comm _ [_, _] [_]
  have only : ∀ u, Value.table t = .table u → Keyed u := by
    intro u same
    cases same
    exact keyed
  obtain ⟨_, meant, ordered, _⟩ := document_meaning (.table t) none only
  have accepted : (ofValue (.table t) none).value = .ok s := rfl
  obtain ⟨⟨u, same, means⟩, from_⟩ := meant s accepted
  cases same
  exact ⟨t, t', s, keyed, order, accepted, (ordered (.table t') order s).mpr accepted, means,
    from_, rfl, rfl⟩

-- A truth value is no colour.
example : (ofValue (.table [("palette", .table [("error", .boolean true)])]) none).value =
    .error (.wrongType "palette" "error" "int" "bool") := rfl

end Caret.Settings
