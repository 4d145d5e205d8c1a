import Caret.Document.Loose.Outline
import Caret.Proofs.Document.Order
import Caret.Proofs.Settings.Loading
import Mathlib.Data.List.Forall2

namespace Caret.Settings
open Document Files

inductive Holds (reader : TableReader) (files : System) (path : Path) (t : Table) : Prop
  | intro {bytes : ByteArray} {cs : List Char} (found : files.find path = .ok (.file bytes))
      (text : decode? bytes = some cs) (read : reader cs = .ok t)

/-- The settings in the document of a project: a table or, where there is none, the empty one. -/
inductive Inside (d : Table) : Table → Prop
  | given {tool t : Table} (outer : d.get? "tool" = some (.table tool))
      (inner : tool.get? "frack" = some (.table t)) : Inside d t
  | unnamed {tool : Table} (outer : d.get? "tool" = some (.table tool))
      (absent : tool.get? "frack" = none) : Inside d []
  | toolless (absent : d.get? "tool" = none) : Inside d []

/-- Something on the way to the settings is no table. -/
inductive Blocked (d : Table) : String → Prop
  | tool {v : Value} (outer : d.get? "tool" = some v) (other : ∀ t, v ≠ .table t) :
      Blocked d "tool"
  | own {tool : Table} {v : Value} (outer : d.get? "tool" = some (.table tool))
      (inner : tool.get? "frack" = some v) (other : ∀ t, v ≠ .table t) : Blocked d "tool.frack"

structure SaidOf (p q : Path) (r r' : Log.Record) : Prop where
  level : r.level = r'.level
  message : ∃ said, r.message = said ++ p.toText ∧ r'.message = said ++ q.toText

/-- The same settings but for their source, or the same fault of the configuration. -/
inductive Agree (p q : Path) :
    Except LoadError Settings → Except LoadError Settings → Prop
  | loaded (palette : Palette) (markers : MarkerStyle) :
      Agree p q (.ok ⟨palette, markers, some p⟩) (.ok ⟨palette, markers, some q⟩)
  | failed {e : LoadError} (reported : e.Reported) : Agree p q (.error e) (.error e)

/-- Two files that say the same. -/
structure SaySame (p q : Path) (a b : Traced (Except LoadError Settings)) : Prop where
  value : Agree p q a.value b.value
  records : List.Forall₂ (SaidOf p q) a.records b.records

section
variable {reader : TableReader} {p q : Path} {d t : Table}

theorem section_said {δ : Type} (field : String → Option (Field δ)) (name : String)
    (entries : Table) (x : δ) :
    (readSection field name (some p) x entries).value =
        (readSection field name (some q) x entries).value ∧
      List.Forall₂ (SaidOf p q) (readSection field name (some p) x entries).records
        (readSection field name (some q) x entries).records := by
  induction entries generalizing x with
  | nil => exact ⟨rfl, .nil⟩
  | cons e rest ih =>
    obtain ⟨key, v⟩ := e
    unfold readSection
    cases field key with
    | none =>
      obtain ⟨value, records⟩ := ih x
      exact ⟨value, .cons ⟨rfl, _, rfl, rfl⟩ records⟩
    | some f =>
      dsimp only
      cases f.set? v with
      | none => exact ⟨rfl, .nil⟩
      | some set => exact ih (set x)

theorem table_said (t : Table) (p q : Path) :
    Agree p q ((ofTable t (some p)).value.mapError .settings)
        ((ofTable t (some q)).value.mapError .settings) ∧
      List.Forall₂ (SaidOf p q) (ofTable t (some p)).records (ofTable t (some q)).records := by
  have strangers : List.Forall₂ (SaidOf p q)
      ((t.keys.filter fun k => !isSection k).map fun k => unknownSection k (some p))
      ((t.keys.filter fun k => !isSection k).map fun k => unknownSection k (some q)) := by
    rw [List.forall₂_map_left_iff, List.forall₂_map_right_iff, List.forall₂_same]
    intro name _
    exact ⟨rfl, _, rfl, rfl⟩
  unfold ofTable
  cases sectionOf t paletteName with
  | error e => exact ⟨.failed trivial, .nil⟩
  | ok paletteTable =>
    cases sectionOf t markersName with
    | error e => exact ⟨.failed trivial, .nil⟩
    | ok markersTable =>
      obtain ⟨colors, first⟩ := section_said (p := p) (q := q) paletteField paletteName
        paletteTable {}
      obtain ⟨styles, second⟩ := section_said (p := p) (q := q) markerField markersName
        markersTable {}
      dsimp only
      rw [colors]
      cases (readSection paletteField paletteName (some q) {} paletteTable).value.bind
        checkPalette with
      | error e => exact ⟨.failed trivial, List.rel_append strangers first⟩
      | ok palette =>
        dsimp only
        rw [styles]
        have all := List.rel_append (List.rel_append strangers first) second
        cases (readSection markerField markersName (some q) {} markersTable).value.bind
          checkMarkers with
        | error e => exact ⟨.failed trivial, all⟩
        | ok markers => exact ⟨.loaded palette markers, all⟩

theorem read_held {files : System} (holds : Holds reader files p d) :
    readTable reader files p = ownTable p d := by
  obtain ⟨found, text, read⟩ := holds
  simp only [readTable, read_bytes_file.mpr found, text, read]

theorem own_whole (own : p.name ≠ projectFile) (t : Table) : ownTable p t = .ok t := by
  have other : (p.name == projectFile) = false := beq_eq_false_iff_ne.mpr own
  simp only [ownTable, other, Bool.false_eq_true, if_false]

theorem own_inside (project : q.name = projectFile) (inside : Inside d t) :
    ownTable q d = .ok t := by
  have same : (q.name == projectFile) = true := beq_iff_eq.mpr project
  unfold ownTable
  rw [if_pos same]
  cases inside with
  | given outer inner => simp only [subtable, outer, inner]
  | unnamed outer absent => simp only [subtable, outer, absent]
  | toolless absent => simp only [subtable, absent, get_nil]

theorem subtable_blocked {key name : String} {v : Value} (found : d.get? key = some v)
    (other : ∀ t, v ≠ .table t) : subtable d key name q = .error (.toolNotTable name q) := by
  unfold subtable
  rw [found]
  cases v with
  | table t => exact absurd rfl (other t)
  | text | integer | boolean | float | date | time | dateTime | nothing | list => rfl

theorem own_blocked (project : q.name = projectFile) {name : String} (blocked : Blocked d name) :
    ownTable q d = .error (.toolNotTable name q) := by
  have same : (q.name == projectFile) = true := beq_iff_eq.mpr project
  unfold ownTable
  rw [if_pos same]
  cases blocked with
  | tool outer other => rw [subtable_blocked outer other]
  | @own tool v outer inner other =>
    have opened : subtable d "tool" "tool" q = .ok tool := by rw [subtable, outer]
    rw [opened]
    exact subtable_blocked inner other

theorem table_or_other (v : Value) : (∃ t : Table, v = .table t) ∨ ∀ t, v ≠ .table t := by
  cases v with
  | table t => exact .inl ⟨t, rfl⟩
  | text | integer | boolean | float | date | time | dateTime | nothing | list => exact .inr nofun

theorem inside_or_blocked (d : Table) : (∃ t, Inside d t) ∨ ∃ name, Blocked d name := by
  cases outer : d.get? "tool" with
  | none => exact .inl ⟨[], .toolless outer⟩
  | some v =>
    rcases table_or_other v with ⟨tool, rfl⟩ | other
    · cases inner : tool.get? "frack" with
      | none => exact .inl ⟨[], .unnamed outer inner⟩
      | some w =>
        rcases table_or_other w with ⟨t, rfl⟩ | other
        · exact .inl ⟨t, .given outer inner⟩
        · exact .inr ⟨_, .own outer inner other⟩
    · exact .inr ⟨_, .tool outer other⟩

theorem load_held {files : System} (holds : Holds reader files p d) (own : ownTable p d = .ok t) :
    load reader files p = ⟨⟨Log.debug, "Loaded configuration from " ++ p.toText⟩ ::
      (ofTable t (some p)).records, (ofTable t (some p)).value.mapError .settings⟩ := by
  rw [load, read_held holds, own]

end

theorem empty_held {reader : TableReader} {files : System} {path : Path}
    (blank : reader [] = .ok []) (empty : files.find path = .ok (.file .empty)) :
    Holds reader files path [] := by
  have text : decode? .empty = some [] := rfl
  exact ⟨empty, text, blank⟩

/-- The settings in the document of a project say the same as a document of its own that holds them,
whatever else the project has to say, and where there are none, the same as an empty file. Anything
else in their place is an error of its own. One of these is always the case. -/
theorem project_settings_agree {reader : TableReader} {files files' : System} {p q : Path}
    {d : Table} (own : p.name ≠ projectFile) (project : q.name = projectFile)
    (document : Holds reader files' q d) :
    (∀ t, Inside d t →
      (Holds reader files p t → SaySame p q (load reader files p) (load reader files' q)) ∧
      ∀ others e, Holds reader others q e → Inside e t →
        load reader others q = load reader files' q) ∧
    (reader [] = .ok [] → files.find p = .ok (.file .empty) → Inside d [] →
      SaySame p q (load reader files p) (load reader files' q)) ∧
    (∀ name, Blocked d name → (LoadError.toolNotTable name q).Reported ∧
      load reader files' q = ⟨[], .error (.toolNotTable name q)⟩) ∧
    ((∃ t, Inside d t) ∨ ∃ name, Blocked d name) := by
  have same : ∀ t, Inside d t → Holds reader files p t →
      SaySame p q (load reader files p) (load reader files' q) := by
    intro t inside holds
    obtain ⟨value, records⟩ := table_said t p q
    rw [load_held holds (own_whole own t), load_held document (own_inside project inside)]
    exact ⟨value, .cons ⟨rfl, _, rfl, rfl⟩ records⟩
  refine ⟨?_, ?_, ?_, inside_or_blocked d⟩
  · intro t inside
    refine ⟨same t inside, ?_⟩
    intro others e holds inside'
    rw [load_held holds (own_inside project inside'),
      load_held document (own_inside project inside)]
  · intro blank empty inside
    exact same [] inside (empty_held blank empty)
  · intro name blocked
    refine ⟨trivial, ?_⟩
    rw [load, read_held document, own_blocked project blocked]

def ownText : String := "palette.help = 1\nx = 2\n"

def projectText : String := "y = 3\n[tool.frack]\npalette.help = 1\nx = 2\n"

def sampleTable : Table := [("palette", .table [("help", .integer 1)]), ("x", .integer 2)]

def sampleProject : Table := [("y", .integer 3), ("tool", .table [("frack", .table sampleTable)])]

def terse : TableReader := Loose.reader fun _ => ""

def readsOwn : Except Rejection Table → Bool
  | .ok [("palette", .table [("help", .integer 1)]), ("x", .integer 2)] => true
  | _ => false

def readsProject : Except Rejection Table → Bool
  | .ok [("y", .integer 3), ("tool", .table [("frack", .table
      [("palette", .table [("help", .integer 1)]), ("x", .integer 2)])])] => true
  | _ => false

-- Tables cannot be compared by deciding, so the kernel only decides whether they match a pattern.

theorem own_text_read : terse (Text.unifyBreaks ownText.toList) = .ok sampleTable := by
  have read : readsOwn (terse (Text.unifyBreaks ownText.toList)) = true := by decide +kernel
  generalize terse (Text.unifyBreaks ownText.toList) = parsed at read ⊢
  unfold readsOwn at read
  split at read
  · rfl
  · cases read

theorem project_text_read : terse (Text.unifyBreaks projectText.toList) = .ok sampleProject := by
  have read : readsProject (terse (Text.unifyBreaks projectText.toList)) = true := by
    decide +kernel
  generalize terse (Text.unifyBreaks projectText.toList) = parsed at read ⊢
  unfold readsProject at read
  split at read
  · rfl
  · cases read

theorem project_settings_agree_beside :
    ∃ (files : System) (p q : Path), p.name ≠ projectFile ∧ q.name = projectFile ∧
      Holds terse files q sampleProject ∧ Inside sampleProject sampleTable ∧
      Holds terse files p sampleTable ∧ terse [] = .ok [] ∧
      SaySame p q (load terse files p) (load terse files q) ∧
      ∃ s, (load terse files q).value = .ok s ∧ s.palette.help = 1 := by
  let p : Path := ⟨"", ["settings"]⟩
  let q : Path := ⟨"", ["a", projectFile]⟩
  let files : System := ⟨.ok {}, fun path =>
    if path = p then .ok (.file ownText.toUTF8) else .ok (.file projectText.toUTF8)⟩
  have own : p.name ≠ projectFile := by decide
  have other : q ≠ p := by decide
  have found : files.find q = .ok (.file projectText.toUTF8) := by simp only [files, if_neg other]
  have document : Holds terse files q sampleProject :=
    ⟨found, decode_text projectText, project_text_read⟩
  have found' : files.find p = .ok (.file ownText.toUTF8) := by simp only [files, if_true]
  have holds : Holds terse files p sampleTable := ⟨found', decode_text ownText, own_text_read⟩
  have inside : Inside sampleProject sampleTable := .given rfl rfl
  obtain ⟨agree, -, -, -⟩ :=
    @project_settings_agree terse files files p q _ own rfl document
  refine ⟨files, p, q, own, rfl, document, inside, holds, rfl, (agree _ inside).1 holds, ?_⟩
  rw [load_held document (own_inside rfl inside)]
  exact ⟨_, rfl, rfl⟩

end Caret.Settings
