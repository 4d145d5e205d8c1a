import Caret.Document.Toml
import Caret.Files.System
import Caret.Text.Numeral

namespace Caret.Automation
open Document

structure Version where
  major : Nat
  minor : Nat
  deriving DecidableEq, Repr

namespace Version

def toText (v : Version) : String := toString v.major ++ "." ++ toString v.minor

instance : ToString Version := ⟨toText⟩

def before (v w : Version) : Bool := v.major < w.major || (v.major == w.major && v.minor < w.minor)

def insert (v : Version) : List Version → List Version
  | [] => [v]
  | w :: rest =>
    if v = w then w :: rest else if v.before w then v :: w :: rest else w :: insert v rest

def sorted (vs : List Version) : List Version := vs.foldr insert []

end Version

def classifierStart : String := "Programming Language :: Python :: "

inductive VersionError where
  | numeral (cause : Text.NumeralError)
  | notList (typeName : String)
  | notText (typeName : String)
  deriving DecidableEq, Repr

def VersionError.message : VersionError → String
  | .numeral cause => cause.message
  | .notList typeName => "'" ++ typeName ++ "' object is not iterable"
  | .notText typeName => "'" ++ typeName ++ "' object has no attribute 'startswith'"

def versionOf (classifier : String) : Except Text.NumeralError (Option Version) :=
  if classifierStart.toList.isPrefixOf classifier.toList then
    match (Text.strip (classifier.toList.drop classifierStart.length)).splitOn '.' with
    | [major, minor] =>
      if Text.allDigits major && Text.allDigits minor then
        match Text.readNumeral major with
        | .error e => .error e
        | .ok a =>
          match Text.readNumeral minor with
          | .error e => .error e
          | .ok b => .ok (some ⟨a, b⟩)
      else .ok none
    | _ => .ok none
  else .ok none

def fullTypeName (v : Value) : String :=
  match v with
  | .date => "datetime.date"
  | .time => "datetime.time"
  | .dateTime => "datetime.datetime"
  | v => v.typeName

/-- Empty and zero values say that there are no classifiers. -/
def isVoid : Value → Bool
  | .text s => s.isEmpty
  | .integer n => n == 0
  | .boolean b => !b
  | .float written => Scalar.isNearZero written.toList
  | .list items => items.isEmpty
  | .table entries => entries.isEmpty
  | .nothing => true
  | _ => false

def itemsOf (v : Value) : Except VersionError (List Value) :=
  if isVoid v then .ok []
  else
    match v with
    | .list items => .ok items
    | .text s => .ok (s.toList.map fun c => .text (String.singleton c))
    | .table entries => .ok (entries.map fun e => .text e.1)
    | v => .error (.notList (fullTypeName v))

/-- The versions of classifiers in order; the first that cannot be read decides. -/
def versionsOf : List Value → Except VersionError (List Version)
  | [] => .ok []
  | .text s :: rest =>
    match versionOf s with
    | .error e => .error (.numeral e)
    | .ok none => versionsOf rest
    | .ok (some v) => (versionsOf rest).map (v :: ·)
  | v :: _ => .error (.notText (fullTypeName v))

inductive Notice where
  | noProject
  | noVersions
  deriving DecidableEq, Repr

def Notice.message (running : Version) (n : Notice) : String :=
  (match n with
    | .noProject => "Could not find 'project' table in pyproject.toml. "
    | .noVersions => "No Python versions found in classifiers. ") ++
  "Falling back to Python " ++ running.toText ++ "."

structure Supported where
  versions : List Version
  notice : Option Notice := none
  deriving DecidableEq, Repr

def supported (running : Version) (document : Table) : Except VersionError Supported :=
  match document.get? "project" with
  | some (.table project) =>
    match itemsOf ((Table.get? project "classifiers").getD (.list [])) with
    | .error e => .error e
    | .ok items =>
      match versionsOf items with
      | .error e => .error e
      | .ok [] => .ok ⟨[running], some .noVersions⟩
      | .ok vs => .ok ⟨Version.sorted vs, none⟩
  | _ => .ok ⟨[running], some .noProject⟩

/-- The document beside the file of the chores, in `home`. One that is absent, unreadable or
malformed is empty. -/
def projectDocument (home : Files.Path) (files : Files.System) : Table :=
  match files.readBytes (home.child "pyproject.toml") with
  | .error _ => []
  | .ok bytes => ((Files.decode? bytes).bind Toml.parse).getD []

def resolve (running : Version) (home : Files.Path) (files : Files.System) :
    Except VersionError Supported :=
  supported running (projectDocument home files)

end Caret.Automation
