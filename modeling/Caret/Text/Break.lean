namespace Caret.Text

def isBreak (c : Char) : Bool := c == '\n' || c == '\r'

def hasBreak (s : String) : Bool := s.toList.any isBreak

def escapeBreak (c : Char) : List Char :=
  if c = '\r' then ['\\', 'r'] else if c = '\n' then ['\\', 'n'] else [c]

def escapeBreaks (s : String) : String := String.ofList (s.toList.flatMap escapeBreak)

def unifyBreaks : List Char → List Char
  | [] => []
  | '\r' :: '\n' :: rest => '\n' :: unifyBreaks rest
  | c :: rest => (if c = '\r' then '\n' else c) :: unifyBreaks rest

theorem escapeBreak_unbroken (c : Char) : (escapeBreak c).any isBreak = false := by
  unfold escapeBreak
  split
  · decide
  · split
    · decide
    · simp_all [isBreak]

theorem hasBreak_escapeBreaks (s : String) : hasBreak (escapeBreaks s) = false := by
  simp [hasBreak, escapeBreaks, List.any_flatMap, escapeBreak_unbroken]

end Caret.Text
