import Caret.Draft
import Caret.Drawing.Subject

namespace Caret.Usage

def program : String := "frack"

def hint : String := "try `" ++ program ++ " help` for usage"

inductive Verdict where
  | missing
  | invalid
  deriving DecidableEq, Repr

def Verdict.code : Verdict → String
  | .missing => "MISSING"
  | .invalid => "INVALID"

/-- `position` counts arguments within their group; the word that opens the group is the first. -/
structure Complaint where
  verdict : Verdict
  message : String
  position : Int
  echo : String
  span : Span
  remark : String
  hints : List String := []
  deriving DecidableEq, Repr

namespace Complaint

/-- Something is missing after the echo: four columns, one beyond its end, stand for it. -/
def missing (message what : String) (position : Int) (echo : String) (hints : List String) :
    Complaint :=
  let shown := Text.escapeBreaks echo
  { verdict := .missing, message, position, echo := shown,
    span := Span.ofWord (shown.length + 1) 4, remark := "no " ++ what ++ " provided", hints }

def invalid (message : String) (position : Int) (echo : String) (span : Span) (remark : String)
    (hints : List String) : Complaint :=
  { verdict := .invalid, message, position, echo := Text.escapeBreaks echo, span, remark, hints }

def draft (c : Complaint) (group : Int) : Draft :=
  { level := .error c.verdict.code, message := c.message, location := ⟨"arg", group, c.position⟩,
    code := c.echo, span := c.span, spanMessage := some c.remark,
    helps := (c.hints ++ [hint]).map fun h => ⟨h, none⟩ }

/-- Groups are counted from one; there is no report for any other number. -/
def report (c : Complaint) (group : Int) : Traced (Except Line.Error Diagnostic) :=
  (c.draft group).build {}

end Complaint

/-- How a failed request ends: with a report for the user, or with a line that is none. -/
inductive Failure where
  | usage (report : Diagnostic)
  | line (cause : Line.Error)
  deriving DecidableEq, Repr

def Complaint.fail (c : Complaint) (group : Int) : Traced Failure := do
  match ← c.report group with
  | .ok d => return .usage d
  | .error e => return .line e

def commands : List String := ["help", "example", "error", "warning"]

def subcommands : List String := ["note", "help", "fix"]

def listed (names : List String) : String :=
  String.intercalate ", " (names.map fun n => "`" ++ n ++ "`")

def missingCommand : Complaint := .missing "must provide command" "command" 1 program []

def invalidCommand (name : String) : Complaint :=
  let shown := Text.escapeBreaks name
  .invalid "invalid command" 1 shown (Span.ofWord 0 shown.length) "unrecognized command"
    ["valid commands are " ++ listed commands]

/-- The whole command line is echoed when its options cannot be told apart. -/
def invalidInvocation (reason : String) (words : List String) : Complaint :=
  let shown := Text.escapeBreaks (String.intercalate " " words)
  .invalid "invalid invocation" 1 shown (Span.ofWord 0 shown.length) reason []

def invalidSubcommand (word : String) : Complaint :=
  let shown := Text.escapeBreaks word
  .invalid "invalid subcommand" 1 shown (Span.ofWord 0 shown.length) "unrecognized subcommand"
    ["valid subcommands are " ++ listed subcommands]

end Caret.Usage
