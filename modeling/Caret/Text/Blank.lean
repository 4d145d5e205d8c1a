namespace Caret.Text

def isBlank (c : Char) : Bool :=
  let n := c.toNat
  (9 ≤ n && n ≤ 13) || (28 ≤ n && n ≤ 32) || n == 0x85 || n == 0xA0 || n == 0x1680 ||
    (0x2000 ≤ n && n ≤ 0x200A) || n == 0x2028 || n == 0x2029 || n == 0x202F || n == 0x205F ||
    n == 0x3000

def stripStart (cs : List Char) : List Char := cs.dropWhile isBlank

def stripEnd (cs : List Char) : List Char := (cs.reverse.dropWhile isBlank).reverse

def strip (cs : List Char) : List Char := stripEnd (stripStart cs)

example : strip " \u3000a b\u0085\t".toList = "a b".toList := by decide

/-- A zero-width space and a byte order mark are not blank. -/
example : isBlank '\u200b' = false ∧ isBlank '\ufeff' = false := by decide

end Caret.Text
