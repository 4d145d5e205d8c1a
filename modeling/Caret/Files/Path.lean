namespace Caret.Files

structure Path where
  root : String := ""
  parts : List String := []
  deriving DecidableEq, Repr

namespace Path

/-- Three and more leading slashes count as one. -/
def rootOf : List Char → String
  | '/' :: '/' :: '/' :: _ => "/"
  | '/' :: '/' :: _ => "//"
  | '/' :: _ => "/"
  | _ => ""

def ofText (s : String) : Path :=
  { root := rootOf s.toList
    parts := ((s.toList.splitOn '/').map String.ofList).filter fun c => c != "" && c != "." }

def toText (p : Path) : String :=
  if p.root == "" && p.parts.isEmpty then "." else p.root ++ String.intercalate "/" p.parts

instance : ToString Path := ⟨toText⟩

def child (p : Path) (name : String) : Path := { p with parts := p.parts ++ [name] }

def name (p : Path) : String := p.parts.getLast?.getD ""

example : (ofText "./a//b/.").toText = "a/b" ∧ (ofText "").toText = "." ∧
    (ofText "//a/..").toText = "//a/.." ∧ (ofText "///").toText = "/" := by decide +kernel

end Path
end Caret.Files
