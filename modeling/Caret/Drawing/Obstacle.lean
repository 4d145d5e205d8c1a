import Caret.Text.Numeral

namespace Caret.Drawing

inductive Obstacle where
  | tooWide
  | tooLong
  deriving DecidableEq, Repr

def Obstacle.message : Obstacle → String
  | .tooWide => "cannot fit 'int' into an index-sized integer"
  | .tooLong => Text.unwritten

def wordLimit : Nat := 9223372036854775808

/-- A negative count gives the empty text, but it has to be a machine word as well. -/
def repeated? (s : String) (count : Int) : Option String :=
  if -wordLimit ≤ count ∧ count < wordLimit then
    some (String.join (List.replicate count.toNat s))
  else none

end Caret.Drawing
