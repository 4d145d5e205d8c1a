import Caret.Log.Record
import Caret.Style

namespace Caret.Drawing

inductive Ink where
  | escape (e : Style.Escape)
  | text (s : String)
  deriving DecidableEq, Repr

def Ink.toText : Ink → String
  | .escape e => e.text
  | .text s => s

abbrev Write := List Ink

def Write.toText (w : Write) : String := String.join (w.map Ink.toText)

inductive Step where
  | write (w : Write)
  | log (r : Log.Record)
  deriving DecidableEq, Repr

def writes : List Step → List String
  | [] => []
  | .write w :: rest => Write.toText w :: writes rest
  | .log _ :: rest => writes rest

def records : List Step → List Log.Record
  | [] => []
  | .write _ :: rest => records rest
  | .log r :: rest => r :: records rest

def text (steps : List Step) : String := String.join (writes steps)

end Caret.Drawing
