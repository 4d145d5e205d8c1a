import Caret.Document.Rejection
import Caret.Files.System
import Caret.Settings.Basic

/-!
Settings from files. A file of settings is a document whose whole table counts, except that of a
project file only the table `tool.frack` does. Discovery looks for the one and then for the other,
and the first that is a regular file decides, whatever it holds.
-/
namespace Caret.Settings
open Document Files

def ownFile : String := "frack.toml"
def projectFile : String := "pyproject.toml"

/-- Why no settings come from a file. The first four are faults of the configuration. The others are
not taken for such: a reader may fail in a way of its own, a text may be no text, there may be no
asking for a file at all, and no place to look for one. -/
inductive LoadError where
  | unreadable (path : Path) (cause : Problem)
  | malformed (path : Path) (detail : String)
  | toolNotTable (name : String) (path : Path)
  | settings (cause : Error)
  | rejected (kind message : String)
  | nulCharacter
  | notUtf8
  | undiscoverable (path : Path) (cause : Problem)
  | nowhere (cause : Problem)
  deriving DecidableEq, Repr

def LoadError.message : LoadError → String
  | .unreadable path cause =>
    "Cannot read config file " ++ path.toText ++ ": " ++ cause.message path
  | .malformed path detail => "Invalid TOML in " ++ path.toText ++ ": " ++ detail
  | .toolNotTable name path => "[" ++ name ++ "] must be a table in " ++ path.toText
  | .settings cause => cause.message
  | .rejected _ message => message
  | .nulCharacter => Problem.nulCharacter.report
  | .notUtf8 => "the file is not valid UTF-8"
  | .undiscoverable path cause => cause.message path
  | .nowhere cause => cause.report

def subtable (t : Table) (key name : String) (path : Path) : Except LoadError Table :=
  match t.get? key with
  | none => .ok []
  | some (.table entries) => .ok entries
  | some _ => .error (.toolNotTable name path)

def ownTable (path : Path) (t : Table) : Except LoadError Table :=
  if path.name == projectFile then
    match subtable t "tool" "tool" path with
    | .error e => .error e
    | .ok tool => subtable tool "frack" "tool.frack" path
  else .ok t

section
variable (reader : TableReader) (files : System)

def readTable (path : Path) : Except LoadError Table :=
  match files.readBytes path with
  | .error .nulCharacter => .error .nulCharacter
  | .error e => .error (.unreadable path e)
  | .ok bytes =>
    match decode? bytes with
    | none => .error .notUtf8
    | some cs =>
      match reader cs with
      | .error (.malformed detail) => .error (.malformed path detail)
      | .error (.other kind message) => .error (.rejected kind message)
      | .ok t => ownTable path t

def load (path : Path) : Traced (Except LoadError Settings) :=
  match readTable reader files path with
  | .error e => ⟨[], .error e⟩
  | .ok t =>
    let s := ofTable t (some path)
    ⟨⟨Log.debug, "Loaded configuration from " ++ path.toText⟩ :: s.records,
      s.value.mapError .settings⟩

/-- The candidates in order; the built-in settings if none of them is a file. -/
def discoverAmong (base : Path) : List String → Traced (Except LoadError Settings)
  | [] =>
    ⟨[⟨Log.debug, "No configuration file in " ++ base.toText ++ "; using defaults"⟩], .ok {}⟩
  | name :: rest =>
    match files.isFile (base.child name) with
    | .error e => ⟨[], .error (.undiscoverable (base.child name) e)⟩
    | .ok true => load reader files (base.child name)
    | .ok false => discoverAmong base rest

/-- Without a directory the search is in the working directory, which there may not be any more. -/
def discover (directory : Option Path) : Traced (Except LoadError Settings) :=
  match directory.elim files.workingDirectory .ok with
  | .error e => ⟨[], .error (.nowhere e)⟩
  | .ok base => discoverAmong reader files base [ownFile, projectFile]

end
end Caret.Settings
