import Caret.Log.Record
import Caret.Text.Numeral
import Caret.Text.Upper

namespace Caret.Log

def namedLevels : List (String × Int) :=
  [("TRACE", trace), ("DEBUG", debug), ("INFO", info), ("WARNING", warning), ("WARN", warning),
    ("ERROR", error), ("CRITICAL", critical), ("FATAL", critical), ("NOTSET", unset)]

def parseLevel (text : String) : Except Text.NumeralError (Option Int) :=
  let cs := Text.upper (Text.strip text.toList)
  if Text.allDigits cs then
    match Text.readNumeral cs with
    | .ok n => .ok (some n)
    | .error e => .error e
  else .ok ((namedLevels.find? fun l => l.1.toList == cs).map (·.2))

/-- The level that the environment asks for; an empty variable asks for none. -/
def environmentLevel (setting : Option String) : Except Text.NumeralError (Option Int) :=
  match setting with
  | none => .ok none
  | some text => if text.isEmpty then .ok none else parseLevel text

def requestedLevel (count : Int) (setting : Option String) :
    Except Text.NumeralError (Option Int) :=
  if 3 ≤ count then .ok (some trace)
  else if count = 2 then .ok (some debug)
  else if count = 1 then .ok (some info)
  else environmentLevel setting

def levelNames : List (Int × String) :=
  [(trace, "TRACE"), (debug, "DEBUG"), (info, "INFO"), (warning, "WARNING"), (error, "ERROR"),
    (critical, "CRITICAL"), (unset, "NOTSET")]

def levelName (level : Int) : String :=
  match levelNames.find? fun l => l.1 == level with
  | some l => l.2
  | none => "Level " ++ toString level

end Caret.Log
