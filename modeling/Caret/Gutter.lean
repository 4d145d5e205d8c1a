import Caret.Text.Numeral

namespace Caret.Gutter

def columns (n : Int) : Nat := (toString n.natAbs).length

def blockColumns (numbers : List Int) : Nat := (numbers.map columns).foldr max 1

/-- The digits are counted as they are written, so a number that cannot be written has no width. -/
def width (n : Int) : Option Nat := (Text.writeInteger? n.natAbs).map String.length

def blockWidth (numbers : List Int) : Option Nat :=
  (numbers.mapM width).map fun widths => widths.foldr max 1

def spaces (n : Nat) : String := String.ofList (List.replicate n ' ')

def padRight (columns : Nat) (s : String) : String := s ++ spaces (columns - s.length)

end Caret.Gutter
