import Caret.Text.Blank
import Caret.Text.Digit
import Caret.Text.Quoted

/-!
Whole numbers in positional notation. A number may be written with the decimal digits of any
script and with leading zeros, and has at most `maxDigits` of them. A run that is too long is
reported as such even when something that is no decimal digit follows it.
-/
namespace Caret.Text

def maxDigits : Nat := 4300

inductive NumeralError where
  | notDecimal (text : String)
  | tooLong (digits : Nat)
  deriving DecidableEq, Repr

/-- The text in question is quoted, and the quotation is cut after two hundred characters. -/
def NumeralError.message : NumeralError → String
  | .notDecimal text =>
    "invalid literal for int() with base 10: " ++ String.ofList ((quote text).toList.take 200)
  | .tooLong digits =>
    "Exceeds the limit (" ++ toString maxDigits ++ " digits) for integer string conversion: " ++
      "value has " ++ toString digits ++ " digits; " ++
      "use sys.set_int_max_str_digits() to increase the limit"

def decimalFold (cs : List Char) : Nat :=
  cs.foldl (fun n c => 10 * n + (decimalValue? c).getD 0) 0

def readNumeral (cs : List Char) : Except NumeralError Nat :=
  let run := (cs.takeWhile isDecimal).length
  if maxDigits < run then .error (.tooLong run)
  else if cs.all isDecimal && !cs.isEmpty then .ok (decimalFold cs)
  else .error (.notDecimal (String.ofList cs))

/-- The text of an integer, which has a bound on its digits in this direction as well. -/
def writeInteger? (n : Int) : Option String :=
  if maxDigits < (toString n.natAbs).length then none else some (toString n)

def unwritten : String :=
  "Exceeds the limit (" ++ toString maxDigits ++ " digits) for integer string conversion; " ++
    "use sys.set_int_max_str_digits() to increase the limit"

def dropSeparators (digit : Char → Bool) : List Char → Option (List Char)
  | [] => some []
  | [c] => if digit c then some [c] else none
  | c :: '_' :: d :: rest =>
    if digit c && digit d then (dropSeparators digit (d :: rest)).map (c :: ·) else none
  | c :: rest => if digit c then (dropSeparators digit rest).map (c :: ·) else none

/-- Blank for a number: the information separators are not. -/
def isNumberBlank (c : Char) : Bool := isBlank c && !(28 ≤ c.toNat && c.toNat ≤ 31)

def trimNumber (cs : List Char) : List Char :=
  ((cs.dropWhile isNumberBlank).reverse.dropWhile isNumberBlank).reverse

def splitSign : List Char → Bool × List Char
  | '-' :: rest => (true, rest)
  | '+' :: rest => (false, rest)
  | rest => (false, rest)

def signed (negative : Bool) (n : Nat) : Int := if negative then -(n : Int) else n

def readInteger? (cs : List Char) : Option Int :=
  let (negative, digits) := splitSign (trimNumber cs)
  match dropSeparators isDecimal digits with
  | none => none
  | some ds =>
    match readNumeral ds with
    | .error _ => none
    | .ok n => some (signed negative n)

def digitValue? (c : Char) : Option Nat :=
  if c.isAlpha then some (c.toLower.toNat - 87) else decimalValue? c

def isDigitOf (base : Nat) (c : Char) : Bool := (digitValue? c).any (· < base)

def dropMark (mark : Char) : List Char → List Char
  | '0' :: m :: '_' :: rest => if m.toLower = mark then rest else '0' :: m :: '_' :: rest
  | '0' :: m :: rest => if m.toLower = mark then rest else '0' :: m :: rest
  | cs => cs

/-- A number in a base that is a power of two: such numbers have any length. -/
def readBased? (base : Nat) (mark : Char) (cs : List Char) : Option Int :=
  let (negative, body) := splitSign (trimNumber cs)
  match dropSeparators (isDigitOf base) (dropMark mark body) with
  | none => none
  | some [] => none
  | some ds =>
    some (signed negative (ds.foldl (fun n c => base * n + (digitValue? c).getD 0) 0))

example : readInteger? " +1_000 ".toList = some 1000 ∧ readInteger? "-\uff11".toList = some (-1) ∧
    readInteger? "1__0".toList = none ∧ readInteger? "".toList = none := by decide

example : readBased? 16 'x' " -0X_fF ".toList = some (-255) ∧ readBased? 2 'b' "0b2".toList = none ∧
    readBased? 16 'x' "0b1".toList = some 177 ∧ readBased? 16 'x' "0x".toList = none := by decide

end Caret.Text
