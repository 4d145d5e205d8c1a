import Caret.Document.Value

namespace Caret.Document

inductive Rejection where
  | malformed (detail : String)
  | other (kind message : String)
  deriving DecidableEq, Repr

abbrev TableReader := List Char → Except Rejection Table

end Caret.Document
