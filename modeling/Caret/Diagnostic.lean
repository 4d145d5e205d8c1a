import Caret.Excerpt

namespace Caret

structure Location where
  path : String
  line : Int
  col : Int
  deriving DecidableEq, Repr

namespace Location

def toText (l : Location) : Option String := do
  let line ← Text.writeInteger? l.line
  let col ← Text.writeInteger? l.col
  return l.path ++ ":" ++ line ++ ":" ++ col

def spelling (l : Location) : String :=
  l.path ++ ":" ++ toString l.line ++ ":" ++ toString l.col

end Location

/-- A suggestion without lines is not the same as no suggestion. -/
structure Help where
  message : String
  suggestion : Option Excerpt := none
  deriving DecidableEq, Repr

inductive Level where
  | error (code : String)
  | warning
  deriving DecidableEq, Repr

namespace Level

def name : Level → String
  | .error _ => "error"
  | .warning => "warning"

def label : Level → String
  | .error code => "error[" ++ code ++ "]"
  | .warning => "warning"

end Level

structure Diagnostic where
  level : Level
  message : String
  location : Location
  excerpt : Excerpt
  helps : List Help := []
  notes : List String := []
  deriving DecidableEq, Repr

end Caret
