namespace Caret.Document

inductive Value where
  | text (s : String)
  | integer (n : Int)
  | boolean (b : Bool)
  | float (written : String)
  | date
  | time
  | dateTime
  | nothing
  | list (items : List Value)
  | table (entries : List (String × Value))
  deriving Inhabited, Repr

abbrev Table := List (String × Value)

def Value.typeName : Value → String
  | .text _ => "str"
  | .integer _ => "int"
  | .boolean _ => "bool"
  | .float _ => "float"
  | .date => "date"
  | .time => "time"
  | .dateTime => "datetime"
  | .nothing => "NoneType"
  | .list _ => "list"
  | .table _ => "dict"

def Table.get? (t : Table) (key : String) : Option Value := (t.find? fun e => e.1 == key).map (·.2)

def Table.keys (t : Table) : List String := t.map (·.1)

end Caret.Document
