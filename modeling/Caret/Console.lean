namespace Caret

structure Console where
  out : String := ""
  err : String := ""
  deriving DecidableEq, Repr

namespace Console

def ended (text : String) (newline : Bool) : String := if newline then text ++ "\n" else text

def print (c : Console) (text : String) (newline : Bool) : Console :=
  { c with out := c.out ++ ended text newline }

def error (c : Console) (text : String) (newline : Bool) : Console :=
  { c with err := c.err ++ ended text newline }

end Console
end Caret
