import Caret.Automation.Versions

namespace Caret.Automation

inductive Interpreter where
  | none
  | flag (b : Bool)
  | number (n : Int)
  | name (s : String)
  | list (items : List Interpreter)
  deriving Repr

mutual

def Interpreter.literal : Interpreter → String
  | .none => "None"
  | .flag b => if b then "True" else "False"
  | .number n => toString n
  | .name s => Text.quote s
  | .list items => "[" ++ String.intercalate ", " (literals items) ++ "]"

def literals : List Interpreter → List String
  | [] => []
  | i :: rest => i.literal :: literals rest

end

inductive Call where
  | log (message : String)
  | install (args : List String)
  | run (args : List String)
  deriving DecidableEq, Repr

inductive ChoreError where
  | noInterpreter (literal : String)
  deriving DecidableEq, Repr

def ChoreError.message : ChoreError → String
  | .noInterpreter literal => "Unexpected session.python value: " ++ literal

inductive Chore where
  | qa
  | lint
  | formatCheck
  | format
  | propertyTest
  | packageCheck
  deriving DecidableEq, Repr

namespace Chore

def all : List Chore := [.qa, .lint, .formatCheck, .format, .propertyTest, .packageCheck]

def name : Chore → String
  | .qa => "qa"
  | .lint => "lint"
  | .formatCheck => "format_check"
  | .format => "format"
  | .propertyTest => "property_test"
  | .packageCheck => "package_check"

def ofName? (s : String) : Option Chore := all.find? fun c => c.name == s

def usual : List Chore := [.lint, .formatCheck]

def versionTexts (s : Supported) : List String := s.versions.map Version.toText

def interpreter (running : Version) (s : Supported) : Chore → Interpreter
  | .qa => .list ((versionTexts s).map .name)
  | .lint => .none
  | .formatCheck => .none
  | .format => .none
  | .propertyTest => .name running.toText
  | .packageCheck => .name running.toText

/-- The calls of a chore in order, and the error that ends it if there is one. -/
def calls (s : Supported) (given : Interpreter) (extra : List String) :
    Chore → List Call × Option ChoreError
  | .qa =>
    let first : List Call :=
      [.log ("Supported Python versions: " ++ String.intercalate ", " (versionTexts s)),
        .install ["-e", ".[test,dev]"],
        .run (["pytest", "-q", "tests", "-m", "not hypothesis_slow"] ++ extra)]
    match given with
    | .name v =>
      if v.isEmpty then (first, some (.noInterpreter given.literal))
      else (first ++ [.run ["pyright", "--pythonversion", v]], none)
    | _ => (first, some (.noInterpreter given.literal))
  | .lint => ([.install ["-e", ".[dev]"], .run ["ruff", "check", "."]], none)
  | .formatCheck => ([.install ["-e", ".[dev]"], .run ["ruff", "format", "--check", "."]], none)
  | .format => ([.install ["-e", ".[dev]"], .run ["ruff", "format", "."]], none)
  | .propertyTest =>
    ([.install ["-e", ".[test]"],
      .run (["pytest", "-vv", "tests", "-m", "hypothesis_slow"] ++ extra)], none)
  | .packageCheck =>
    ([.install ["build", "twine"],
      .run ["python", "-c", "import shutil; shutil.rmtree('dist', ignore_errors=True)"],
      .run ["python", "-m", "build", "--sdist", "--wheel"],
      .run ["twine", "check", "dist/*"]], none)

end Chore
end Caret.Automation
