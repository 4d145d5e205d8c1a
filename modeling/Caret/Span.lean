import Caret.Text.Numeral

namespace Caret

structure Span where
  first : Nat
  last : Nat
  ordered : first ≤ last
  deriving DecidableEq, Repr

namespace Span

inductive RangeError where
  | negative (first : Int)
  | inverted (first last : Int)
  deriving DecidableEq, Repr

def RangeError.message : RangeError → String
  | .negative first => "span start must not be negative, got " ++ toString first
  | .inverted first last =>
    "span end " ++ toString last ++ " comes before its start " ++ toString first

def ofInts (first last : Int) : Except RangeError Span :=
  if negative : first < 0 then .error (.negative first)
  else if inverted : last < first then .error (.inverted first last)
  else .ok ⟨first.toNat, last.toNat, by omega⟩

/-- The span of a word that starts at an offset; an empty word still has one column. -/
def ofWord (first length : Nat) : Span := ⟨first, first + (length - 1), by omega⟩

def width (s : Span) : Nat := s.last - s.first + 1

def fits (s : Span) (length : Int) : Bool := (s.last : Int) < length

def toText (s : Span) : String := toString s.first ++ "-" ++ toString s.last

instance : ToString Span := ⟨toText⟩

inductive ReadError where
  | malformed (text : String)
  | numeral (cause : Text.NumeralError)
  | range (cause : RangeError)
  deriving DecidableEq, Repr

def ReadError.message : ReadError → String
  | .malformed text => "invalid span " ++ Text.quote text ++ "; expected <start>-<end>"
  | .numeral cause => cause.message
  | .range cause => cause.message

def cutAtDash (cs : List Char) : Option (List Char × List Char) :=
  match cs.dropWhile (· != '-') with
  | [] => none
  | _ :: rest => some (cs.takeWhile (· != '-'), rest)

/-- The first number is read before the second, and the order of the two is checked last. -/
def readEnds (first last : List Char) : Except ReadError Span :=
  match Text.readNumeral first with
  | .error e => .error (.numeral e)
  | .ok a =>
    match Text.readNumeral last with
    | .error e => .error (.numeral e)
    | .ok b =>
      match ofInts a b with
      | .error e => .error (.range e)
      | .ok s => .ok s

def parse (text : String) : Except ReadError Span :=
  match cutAtDash text.toList with
  | none => .error (.malformed text)
  | some (first, last) =>
    if Text.allDigits first && Text.allDigits last then readEnds first last
    else .error (.malformed text)

end Span
end Caret
