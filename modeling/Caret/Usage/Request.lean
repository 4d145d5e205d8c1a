import Caret.Usage.Reading

/-!
The arguments of the commands `error` and `warning`.

    error   <code> <message> <code-line> <start>-<end> [GROUP]...
    warning <message> <code-line> <start>-<end> [GROUP]...

    GROUP := note <message>
           | help <message>
           | fix <message> <code-line> <start>-<end> [span <message>]

`Request` is what a list of arguments says. Groups are numbered from one for the report of a
mistake: the command with its own arguments is the first.
-/
namespace Caret.Usage

inductive Group where
  | note (message : String)
  | help (draft : HelpDraft)
  deriving DecidableEq, Repr

def Group.help? : Group → Option HelpDraft
  | .note _ => none
  | .help d => some d

def Group.note? : Group → Option String
  | .note m => some m
  | .help _ => none

structure Request where
  level : Level
  message : String
  code : String
  span : Span
  groups : List Group
  deriving DecidableEq, Repr

namespace Request

def readGroup (keyword : String) (words : Words) : Except Complaint Group × Words :=
  match keyword with
  | "note" =>
    match Reading.message "note message" 2 "note" words with
    | (.ok m, rest) => (.ok (.note m), rest)
    | (.error e, rest) => (.error e, rest)
  | "help" =>
    match Reading.message "help message" 2 "help" words with
    | (.ok m, rest) => (.ok (.help ⟨m, none⟩), rest)
    | (.error e, rest) => (.error e, rest)
  | "fix" =>
    match Reading.fix words with
    | (.ok d, rest) => (.ok (.help d), rest)
    | (.error e, rest) => (.error e, rest)
  | other => (.error (invalidSubcommand other), words)

/-- A complaint and the number of complete groups before the one that it is about. -/
abbrev Mistake := Nat × Complaint

/-- `fuel` bounds the number of groups that are read; every group takes a word of its own. -/
def groupsWithin : Nat → Nat → Words → Except Mistake (List Group)
  | _, _, [] => .ok []
  | 0, _, _ :: _ => .ok []
  | fuel + 1, before, keyword :: words =>
    match readGroup keyword words with
    | (.error c, _) => .error (before, c)
    | (.ok g, rest) => (groupsWithin fuel (before + 1) rest).map (g :: ·)

def readGroups (words : Words) : Except Mistake (List Group) := groupsWithin words.length 1 words

def readFrom (level : Level) (command : String) (position : Int) (words : Words) :
    Except Mistake Request :=
  match Reading.message "message" position command words with
  | (.error c, _) => .error (0, c)
  | (.ok message, rest) =>
    let echo := command ++ " " ++ Reading.inQuotes message
    match Reading.codeLine "code" (position + 1) echo rest with
    | (.error c, _) => .error (0, c)
    | (.ok code, rest) =>
      match Reading.span (position + 2) (echo ++ " " ++ Reading.inQuotes code) rest with
      | (.error c, _) => .error (0, c)
      | (.ok span, rest) => (readGroups rest).map fun gs => ⟨level, message, code, span, gs⟩

def read (isError : Bool) (words : Words) : Except Mistake Request :=
  if isError then
    match Reading.message "error code" 2 "error" words with
    | (.error c, _) => .error (0, c)
    | (.ok code, rest) =>
      readFrom (.error code) ("error " ++ Reading.inQuotes code) 3 rest
  else readFrom .warning "warning" 2 words

def helps (r : Request) : List HelpDraft := r.groups.filterMap Group.help?

def notes (r : Request) : List String := r.groups.filterMap Group.note?

/-- The column of the location counts from one. -/
def draft (r : Request) (path : String) (line : Int) : Draft :=
  { level := r.level, message := r.message, location := ⟨path, line, r.span.first + 1⟩,
    code := r.code, span := r.span, helps := r.helps, notes := r.notes }

def announcement (r : Request) : Log.Record :=
  ⟨Log.debug, "Parsed " ++ r.level.name ++ " with " ++ toString r.helps.length ++
    " help(s) and " ++ toString r.notes.length ++ " note(s)"⟩

end Request

def parse (isError : Bool) (path : String) (line : Int) (style : MarkerStyle) (words : Words) :
    Traced (Except Failure Diagnostic) :=
  match Request.read isError words with
  | .error (before, c) => do return .error (← c.fail (before + 1))
  | .ok r => do
    Traced.emit r.announcement.level r.announcement.message
    match ← (r.draft path line).build style with
    | .ok d => return .ok d
    | .error e => return .error (.line e)

end Caret.Usage
