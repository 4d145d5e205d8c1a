import Caret.Proofs.Settings.Meaning

namespace Caret.Settings
open Document

def sectionNames : List String := ["palette", "markers"]

def paletteKeys : List String := ["error", "warning", "location", "help"]

def markerKeys : List String :=
  ["symbol", "suggestion_symbol", "error_marker", "warning_marker", "suggestion"]

def keysOf (name : String) : List String :=
  if name = "palette" then paletteKeys else if name = "markers" then markerKeys else []

def kept (keys : List String) (t : Table) : Table := t.filter fun e => e.1 ∈ keys

def strangers (keys : List String) (t : Table) : List String := t.keys.filter fun k => k ∉ keys

/-- A section without the keys that it does not know. What is no table stays as it is. -/
def prunedSection (name : String) : Value → Value
  | .table entries => .table (kept (keysOf name) entries)
  | v => v

def prunedTable (t : Table) : Table :=
  (kept sectionNames t).map fun e => (e.1, prunedSection e.1 e.2)

def pruned : Value → Value
  | .table t => .table (prunedTable t)
  | v => v

/-- The file that a document comes from, if it comes from one. -/
def whereabouts (source : Option Files.Path) : String :=
  (source.map Files.Path.toText).getD "<mapping>"

/-- One warning for each stranger, in the order of the document and then of each section. -/
def reports (t : Table) (source : Option Files.Path) : List Log.Record :=
  (strangers sectionNames t).map (fun name =>
    ⟨30, "Ignoring unknown section [" ++ name ++ "] in " ++ whereabouts source⟩) ++
  (strangers paletteKeys (entriesOf t "palette")).map (fun key =>
    ⟨30, "Ignoring unknown key [palette]." ++ key ++ " in " ++ whereabouts source⟩) ++
  (strangers markerKeys (entriesOf t "markers")).map (fun key =>
    ⟨30, "Ignoring unknown key [markers]." ++ key ++ " in " ++ whereabouts source⟩)

theorem reports_given (t : Table) (source : Option Files.Path) : reports t source =
    (strangers sectionNames t).map (fun name => unknownSection name source) ++
    (strangers paletteKeys (entriesOf t "palette")).map
      (fun key => unknownKey "palette" key source) ++
    (strangers markerKeys (entriesOf t "markers")).map
      (fun key => unknownKey "markers" key source) := by
  have named : whereabouts source = place source := by cases source <;> rfl
  have palette : "Ignoring unknown key [" ++ "palette" ++ "]." = "Ignoring unknown key [palette]." :=
    by decide
  have markers : "Ignoring unknown key [" ++ "markers" ++ "]." = "Ignoring unknown key [markers]." :=
    by decide
  have warned : Log.warning = 30 := rfl
  simp only [reports, unknownSection, unknownKey, named, palette, markers, warned]

theorem get_kept {keys : List String} {key : String} (known : key ∈ keys) (t : Table) :
    (kept keys t).get? key = t.get? key := by
  induction t with
  | nil => rfl
  | cons e t ih =>
    obtain ⟨k, v⟩ := e
    unfold kept at ih ⊢
    rw [List.filter_cons, get_cons]
    by_cases same : k = key
    · subst same
      simp [known, get_cons]
    · by_cases other : k ∈ keys
      · simp [other, get_cons, same, ih]
      · simp [other, same, ih]

theorem get_mapped (f : String → Value → Value) (t : Table) (key : String) :
    Table.get? (t.map fun e => (e.1, f e.1 e.2)) key = (t.get? key).map (f key) := by
  induction t with
  | nil => rfl
  | cons e t ih =>
    obtain ⟨k, v⟩ := e
    rw [List.map_cons, get_cons, get_cons]
    by_cases same : k = key
    · subst same
      simp
    · simp only [same, if_false, ih]

theorem strangers_kept (keys : List String) (t : Table) : strangers keys (kept keys t) = [] := by
  unfold strangers kept Table.keys
  rw [List.filter_eq_nil_iff]
  intro k member
  obtain ⟨e, inside, rfl⟩ := List.mem_map.mp member
  have known := (List.mem_filter.mp inside).2
  simpa using known

theorem strangers_cons (keys : List String) (key : String) (v : Value) (t : Table) :
    strangers keys ((key, v) :: t) =
      if key ∈ keys then strangers keys t else key :: strangers keys t := by
  unfold strangers
  rw [Table.keys, List.map_cons, List.filter_cons]
  by_cases known : key ∈ keys <;> simp [known, Table.keys]

def Knows {δ : Type} (field : String → Option (Field δ)) (keys : List String) : Prop :=
  ∀ key, (∃ f, field key = some f) ↔ key ∈ keys

theorem palette_knows : Knows paletteField paletteKeys := by
  intro key
  unfold paletteField paletteKeys
  split <;> simp_all

theorem marker_knows : Knows markerField markerKeys := by
  intro key
  unfold markerField markerKeys
  split <;> simp_all

section
variable {δ : Type} {field : String → Option (Field δ)} {keys : List String} (name : String)
  (source : Option Files.Path)

theorem unknown_field (knows : Knows field keys) {key : String} (stranger : key ∉ keys) :
    field key = none := by
  cases known : field key with
  | none => rfl
  | some f => exact absurd ((knows key).mp ⟨f, known⟩) stranger

theorem section_kept (knows : Knows field keys) (entries : Table) (d : δ) :
    (readSection field name source d (kept keys entries)).value =
      (readSection field name source d entries).value := by
  induction entries generalizing d with
  | nil => rfl
  | cons e rest ih =>
    obtain ⟨key, v⟩ := e
    unfold kept at ih ⊢
    by_cases known : key ∈ keys
    · obtain ⟨f, given⟩ := (knows key).mpr known
      simp only [List.filter_cons, known, decide_true, if_true, readSection, given]
      cases f.set? v with
      | none => rfl
      | some set => exact ih (set d)
    · simp only [List.filter_cons, known, decide_false, Bool.false_eq_true, if_false, readSection,
        unknown_field knows known]
      exact ih d

/-- Where a section is read to its end every stranger in it has been reported, and before that those
up to the error. -/
theorem section_reports (knows : Knows field keys) (entries : Table) (d : δ) :
    (readSection field name source d entries).records <+:
        (strangers keys entries).map (fun key => unknownKey name key source) ∧
      ∀ d', (readSection field name source d entries).value = .ok d' →
        (readSection field name source d entries).records =
          (strangers keys entries).map (fun key => unknownKey name key source) := by
  induction entries generalizing d with
  | nil => exact ⟨List.prefix_rfl, fun _ _ => rfl⟩
  | cons e rest ih =>
    obtain ⟨key, v⟩ := e
    rw [strangers_cons]
    by_cases known : key ∈ keys
    · obtain ⟨f, given⟩ := (knows key).mpr known
      simp only [known, if_true, readSection, given]
      cases f.set? v with
      | none =>
        refine ⟨List.nil_prefix, ?_⟩
        intro d' read
        cases read
      | some set => exact ih (set d)
    · obtain ⟨before, all⟩ := ih d
      simp only [known, if_false, readSection, unknown_field knows known, List.map_cons]
      refine ⟨(List.prefix_cons_inj _).mpr before, ?_⟩
      intro d' read
      rw [all d' read]

end

theorem section_of_pruned {name : String} (known : name ∈ sectionNames) (t : Table) :
    sectionOf (prunedTable t) name = (sectionOf t name).map (kept (keysOf name)) := by
  unfold sectionOf prunedTable
  rw [get_mapped, get_kept known]
  cases t.get? name with
  | none => rfl
  | some v => cases v <;> rfl

theorem table_pruned (t : Table) (source : Option Files.Path) :
    (ofTable (prunedTable t) source).value = (ofTable t source).value := by
  have keys : keysOf paletteName = paletteKeys ∧ keysOf markersName = markerKeys := ⟨rfl, rfl⟩
  unfold ofTable
  rw [section_of_pruned (by decide), section_of_pruned (by decide), keys.1, keys.2]
  cases sectionOf t paletteName with
  | error e => rfl
  | ok paletteTable =>
    cases sectionOf t markersName with
    | error e => rfl
    | ok markersTable =>
      have colors := section_kept paletteName source palette_knows paletteTable {}
      have styles := section_kept markersName source marker_knows markersTable {}
      simp only [Except.map, colors, styles]
      cases (readSection paletteField paletteName source {} paletteTable).value.bind
        checkPalette with
      | error e => rfl
      | ok palette =>
        dsimp only
        cases (readSection markerField markersName source {} markersTable).value.bind
          checkMarkers with
        | error e => rfl
        | ok markers => rfl

theorem unsectioned_silent {t : Table} (source : Option Files.Path)
    (unread : ¬ (Sectioned t "palette" ∧ Sectioned t "markers")) :
    (ofTable t source).records = [] := by
  unfold ofTable
  cases colors : sectionOf t paletteName with
  | error e => rfl
  | ok paletteTable =>
    cases styles : sectionOf t markersName with
    | error e => rfl
    | ok markersTable =>
      have palette := (section_entries t _ _).mp colors
      have markers := (section_entries t _ _).mp styles
      exact absurd ⟨palette.1, markers.1⟩ unread

theorem strange_sections (t : Table) :
    (t.keys.filter fun k => !isSection k) = strangers sectionNames t := by
  unfold strangers
  congr 1
  funext name
  simp [isSection, paletteName, markersName, sectionNames, beq_eq_decide]

theorem table_reports (t : Table) (source : Option Files.Path) :
    (ofTable t source).records <+: reports t source ∧
      ∀ s, (ofTable t source).value = .ok s → (ofTable t source).records = reports t source := by
  unfold ofTable
  cases colors : sectionOf t paletteName with
  | error e => exact ⟨List.nil_prefix, nofun⟩
  | ok paletteTable =>
    cases styles : sectionOf t markersName with
    | error e => exact ⟨List.nil_prefix, nofun⟩
    | ok markersTable =>
      obtain ⟨_, rfl⟩ := (section_entries t _ _).mp colors
      obtain ⟨_, rfl⟩ := (section_entries t _ _).mp styles
      obtain ⟨before, all⟩ := section_reports paletteName source palette_knows
        (entriesOf t paletteName) {}
      obtain ⟨before', all'⟩ := section_reports markersName source marker_knows
        (entriesOf t markersName) {}
      rw [reports_given, strange_sections]
      dsimp only
      split
      · refine ⟨?_, nofun⟩
        rw [List.append_assoc]
        exact (List.prefix_append_right_inj _).mpr (before.trans (List.prefix_append _ _))
      · rename_i palette colored
        obtain ⟨numbers, read, _⟩ := bind_ok.mp colored
        rw [all numbers read]
        split
        · exact ⟨(List.prefix_append_right_inj _).mpr before', nofun⟩
        · rename_i markers styled
          obtain ⟨texts, read', _⟩ := bind_ok.mp styled
          rw [all' texts read']
          exact ⟨List.prefix_rfl, fun _ _ => rfl⟩

theorem entries_pruned {name : String} (known : name ∈ sectionNames) (t : Table) :
    entriesOf (prunedTable t) name = kept (keysOf name) (entriesOf t name) := by
  unfold entriesOf prunedTable
  rw [get_mapped, get_kept known]
  cases t.get? name with
  | none => rfl
  | some v => cases v <;> rfl

theorem pruned_unreported (t : Table) (source : Option Files.Path) :
    reports (prunedTable t) source = [] := by
  have keys : (prunedTable t).keys = (kept sectionNames t).keys := by
    simp [prunedTable, Table.keys]
  have sections : strangers sectionNames (prunedTable t) = [] := by
    unfold strangers
    rw [keys]
    exact strangers_kept sectionNames t
  have palette := strangers_kept paletteKeys (entriesOf t "palette")
  have markers := strangers_kept markerKeys (entriesOf t "markers")
  have own : keysOf "palette" = paletteKeys ∧ keysOf "markers" = markerKeys := ⟨rfl, rfl⟩
  rw [reports, sections, entries_pruned (by decide), entries_pruned (by decide), own.1, own.2, palette,
    markers]
  rfl

/-- A document says the same without its strangers, and each of them is reported once: all of them
if the document is accepted, and the first few if it is not. -/
theorem strangers_reported (data : Value) (source : Option Files.Path) :
    (ofValue (pruned data) source).value = (ofValue data source).value ∧
    (ofValue (pruned data) source).records = [] ∧
    (∀ t, data = .table t → (ofValue data source).records <+: reports t source ∧
      ∀ s, (ofValue data source).value = .ok s →
        (ofValue data source).records = reports t source) ∧
    ((¬ ∃ t, data = .table t ∧ Sectioned t "palette" ∧ Sectioned t "markers") →
      (ofValue data source).records = []) := by
  cases data with
  | table t =>
    refine ⟨table_pruned t source, ?_, ?_, ?_⟩
    · have before := (table_reports (prunedTable t) source).1
      rw [pruned_unreported] at before
      exact List.prefix_nil.mp before
    · rintro _ ⟨⟩
      exact table_reports t source
    · intro unread
      apply unsectioned_silent source
      intro both
      exact unread ⟨t, rfl, both⟩
  | text | integer | boolean | float | date | time | dateTime | nothing | list =>
    exact ⟨rfl, rfl, nofun, fun _ => rfl⟩

theorem strangers_reported_in_order :
    (∃ (t : Table) (s : Settings), s.palette.help = 255 ∧ s.markers.symbol = 'é' ∧
      (ofValue (.table t) none).value = .ok s ∧ (ofValue (pruned (.table t)) none).value = .ok s ∧
      (ofValue (.table t) none).records =
        [⟨30, "Ignoring unknown section [help] in <mapping>"⟩,
          ⟨30, "Ignoring unknown key [palette].symbol in <mapping>"⟩,
          ⟨30, "Ignoring unknown key [markers].error in <mapping>"⟩]) ∧
    ∃ t : Table, ¬ Sectioned t "markers" ∧ strangers sectionNames t = ["help"] ∧
      (ofValue (.table t) none).records = [] := by
  constructor
  · let palette : Table := [("symbol", .boolean true), ("help", .integer 255)]
    let markers : Table := [("symbol", .text "é"), ("error", .nothing)]
    let t : Table :=
      [("markers", .table markers), ("help", .integer 256), ("palette", .table palette)]
    let s : Settings := ⟨{ help := 255 }, { symbol := 'é' }, none⟩
    have accepted : (ofValue (.table t) none).value = .ok s := rfl
    obtain ⟨same, -, reported, -⟩ := strangers_reported (.table t) none
    exact ⟨t, s, rfl, rfl, accepted, same.trans accepted, (reported t rfl).2 s accepted⟩
  · let t : Table := [("help", .integer 256), ("markers", .list [])]
    have unread : ¬ Sectioned t "markers" := by
      intro sectioned
      obtain ⟨entries, same⟩ := sectioned (.list []) rfl
      cases same
    obtain ⟨-, -, -, silent⟩ := strangers_reported (.table t) none
    refine ⟨t, unread, rfl, silent ?_⟩
    rintro ⟨_, ⟨⟩, _, markers⟩
    exact unread markers

end Caret.Settings
