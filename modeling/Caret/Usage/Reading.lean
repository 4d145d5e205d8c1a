import Caret.Usage.Complaint

namespace Caret.Usage

abbrev Words := List String

abbrev Reading (α : Type) := Words → Except Complaint α × Words

namespace Reading

def next : Words → Option String × Words
  | [] => (none, [])
  | w :: rest => (some w, rest)

def peek (words : Words) : Option String := words.head?

def inQuotes (s : String) : String := "'" ++ s ++ "'"

def message (what : String) (position : Int) (echo : String) : Reading String
  | [] => (.error (.missing ("must provide " ++ what) what position echo []), [])
  | w :: rest => (.ok w, rest)

def brokenLine (what : String) (position : Int) (echo word : String) : Complaint :=
  let shown := Text.escapeBreaks word
  .invalid ("invalid " ++ what) position (echo ++ " " ++ inQuotes shown)
    (Span.ofWord ((Text.escapeBreaks echo).length + 2) shown.length) "contains a line break"
    ["the " ++ what ++ " must be a single line"]

def codeLine (what : String) (position : Int) (echo : String) : Reading String
  | [] => (.error (.missing ("must provide " ++ what) what position echo []), [])
  | w :: rest =>
    (if Text.hasBreak w then .error (brokenLine what position echo w) else .ok w, rest)

def spanHint : Span.ReadError → String
  | .range _ => "the end of a span must not come before its start"
  | .malformed _ | .numeral _ => "span must be in the format `start-end`, e.g. `3-15`"

def badSpan (position : Int) (echo word : String) (cause : Span.ReadError) : Complaint :=
  let shown := Text.escapeBreaks word
  .invalid "invalid span" position (echo ++ " " ++ shown)
    (Span.ofWord ((Text.escapeBreaks echo).length + 1) shown.length) "invalid span"
    [spanHint cause]

def span (position : Int) (echo : String) : Reading Span
  | [] => (.error (.missing "must provide span" "span" position echo []), [])
  | w :: rest =>
    match Span.parse w with
    | .ok s => (.ok s, rest)
    | .error cause => (.error (badSpan position echo w cause), rest)

def missingTip (echo : String) : Complaint :=
  .missing "must provide span message" "span message" 6 echo
    ["if you don't want a span message, omit `span`"]

def tip (echo : String) : Reading (Option String)
  | "span" :: [] => (.error (missingTip (echo ++ " span")), [])
  | "span" :: w :: rest => (.ok (some w), rest)
  | words => (.ok none, words)

def fix (words : Words) : Except Complaint HelpDraft × Words :=
  match message "help message" 2 "fix" words with
  | (.error e, rest) => (.error e, rest)
  | (.ok m, rest) =>
    let echo := "fix " ++ inQuotes m
    match codeLine "help code" 3 echo rest with
    | (.error e, rest) => (.error e, rest)
    | (.ok code, rest) =>
      let echo := echo ++ " " ++ inQuotes code
      match span 4 echo rest with
      | (.error e, rest) => (.error e, rest)
      | (.ok s, rest) =>
        match tip (echo ++ " " ++ s.toText) rest with
        | (.error e, rest) => (.error e, rest)
        | (.ok t, rest) => (.ok ⟨m, some ⟨code, some s, t⟩⟩, rest)

end Reading
end Caret.Usage
