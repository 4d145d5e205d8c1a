import Caret.Gutter
import Caret.Marker
import Caret.Text.Break

namespace Caret

structure Line where
  text : String
  number : Nat
  marker : Option Marker := none
  unbroken : Text.hasBreak text = false
  positive : 0 < number
  deriving DecidableEq, Repr

namespace Line

inductive Error where
  | lineBreak
  | number (value : Int)
  deriving DecidableEq, Repr

def Error.message : Error → String
  | .lineBreak => "a code line must not contain a line break"
  | .number value => "line numbers start at 1, got " ++ toString value

/-- A line break is reported before a number that is not positive. -/
def make (text : String) (number : Int) (marker : Option Marker) : Except Error Line :=
  if broken : Text.hasBreak text = true then .error .lineBreak
  else if positive : 0 < number then
    .ok ⟨text, number.toNat, marker, by simpa using broken, by omega⟩
  else .error (.number number)

end Line

structure Excerpt where
  lines : List Line := []
  deriving DecidableEq, Repr

namespace Excerpt

def numbers (e : Excerpt) : List Int := e.lines.map fun l => (l.number : Int)

def width (e : Excerpt) : Nat := Gutter.blockColumns e.numbers

def endsMarked (e : Excerpt) : Bool :=
  match e.lines.getLast? with
  | some l => l.marker.isSome
  | none => false

end Excerpt
end Caret
