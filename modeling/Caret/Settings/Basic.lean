import Caret.Document.Value
import Caret.Files.Path
import Caret.Log.Record
import Caret.Palette

namespace Caret

structure Settings where
  palette : Palette := {}
  markers : MarkerStyle := {}
  source : Option Files.Path := none
  deriving DecidableEq, Repr

namespace Settings
open Document

inductive Error where
  | notTable (place : String)
  | sectionNotTable (name : String)
  | wrongType (name key expected got : String)
  | badStyle (cause : StyleError)
  deriving DecidableEq, Repr

def Error.message : Error → String
  | .notTable place => "Configuration in " ++ place ++ " must be a table"
  | .sectionNotTable name => "[" ++ name ++ "] must be a table"
  | .wrongType name key expected got =>
    "[" ++ name ++ "]." ++ key ++ " must be of type " ++ expected ++ ", got " ++ got
  | .badStyle cause => cause.message

def place (source : Option Files.Path) : String :=
  match source with
  | some p => p.toText
  | none => "<mapping>"

inductive Field (δ : Type) where
  | text (set : String → δ → δ)
  | integer (set : Int → δ → δ)

def Field.typeName : Field δ → String
  | .text _ => "str"
  | .integer _ => "int"

/-- A truth value is no integer, whatever it may be elsewhere. -/
def Field.set? : Field δ → Value → Option (δ → δ)
  | .text set, .text s => some (set s)
  | .integer set, .integer n => some (set n)
  | _, _ => none

def paletteField : String → Option (Field PaletteDraft)
  | "error" => some (.integer fun n d => { d with error := n })
  | "warning" => some (.integer fun n d => { d with warning := n })
  | "location" => some (.integer fun n d => { d with location := n })
  | "help" => some (.integer fun n d => { d with help := n })
  | _ => none

def markerField : String → Option (Field MarkerStyleDraft)
  | "symbol" => some (.text fun s d => { d with symbol := s })
  | "suggestion_symbol" => some (.text fun s d => { d with suggestionSymbol := s })
  | "error_marker" => some (.integer fun n d => { d with error := n })
  | "warning_marker" => some (.integer fun n d => { d with warning := n })
  | "suggestion" => some (.integer fun n d => { d with suggestion := n })
  | _ => none

def unknownKey (name key : String) (source : Option Files.Path) : Log.Record :=
  ⟨Log.warning, "Ignoring unknown key [" ++ name ++ "]." ++ key ++ " in " ++ place source⟩

def unknownSection (name : String) (source : Option Files.Path) : Log.Record :=
  ⟨Log.warning, "Ignoring unknown section [" ++ name ++ "] in " ++ place source⟩

/-- Read the keys of a section in order into a draft; the first of a wrong type ends it. -/
def readSection (field : String → Option (Field δ)) (name : String) (source : Option Files.Path) :
    δ → Table → Traced (Except Error δ)
  | d, [] => ⟨[], .ok d⟩
  | d, (key, value) :: rest =>
    match field key with
    | none =>
      let t := readSection field name source d rest
      ⟨unknownKey name key source :: t.records, t.value⟩
    | some f =>
      match f.set? value with
      | none => ⟨[], .error (.wrongType name key f.typeName value.typeName)⟩
      | some set => readSection field name source (set d) rest

def sectionOf (t : Table) (name : String) : Except Error Table :=
  match t.get? name with
  | none => .ok []
  | some (.table entries) => .ok entries
  | some _ => .error (.sectionNotTable name)

def paletteName : String := "palette"
def markersName : String := "markers"

def isSection (name : String) : Bool := name == paletteName || name == markersName

def checkPalette (d : PaletteDraft) : Except Error Palette :=
  match d.check with
  | .ok p => .ok p
  | .error e => .error (.badStyle e)

def checkMarkers (d : MarkerStyleDraft) : Except Error MarkerStyle :=
  match d.check with
  | .ok m => .ok m
  | .error e => .error (.badStyle e)

/-- Both sections must be tables before anything is reported; then come the unknown sections, the
palette and the markers. -/
def ofTable (t : Table) (source : Option Files.Path) : Traced (Except Error Settings) :=
  match sectionOf t paletteName with
  | .error e => ⟨[], .error e⟩
  | .ok paletteTable =>
    match sectionOf t markersName with
    | .error e => ⟨[], .error e⟩
    | .ok markersTable =>
      let strangers := (t.keys.filter fun k => !isSection k).map fun k => unknownSection k source
      let p := readSection paletteField paletteName source {} paletteTable
      match p.value.bind checkPalette with
      | .error e => ⟨strangers ++ p.records, .error e⟩
      | .ok palette =>
        let m := readSection markerField markersName source {} markersTable
        match m.value.bind checkMarkers with
        | .error e => ⟨strangers ++ p.records ++ m.records, .error e⟩
        | .ok markers => ⟨strangers ++ p.records ++ m.records, .ok ⟨palette, markers, source⟩⟩

def ofValue (v : Value) (source : Option Files.Path) : Traced (Except Error Settings) :=
  match v with
  | .table t => ofTable t source
  | _ => ⟨[], .error (.notTable (place source))⟩

end Settings
end Caret
