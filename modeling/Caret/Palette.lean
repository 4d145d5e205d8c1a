import Caret.Marker

namespace Caret

inductive StyleError where
  | color (owner field : String) (value : Int)
  | symbol (field : String)
  deriving DecidableEq, Repr

def StyleError.message : StyleError → String
  | .color owner field value =>
    match Text.writeInteger? value with
    | some written => owner ++ "." ++ field ++ " must be an 8-bit color (0..255), got " ++ written
    | none => Text.unwritten
  | .symbol field => "BuilderDefaults." ++ field ++ " must be a single character"

def checkColor (owner field : String) (value : Int) : Except StyleError Color :=
  match Color.ofInt? value with
  | some c => .ok c
  | none => .error (.color owner field value)

def checkSymbol (field text : String) : Except StyleError Char :=
  match Marker.symbol? text with
  | some c => .ok c
  | none => .error (.symbol field)

/-- Labels of errors and warnings; arrow, rules, line numbers and ellipses; label of helps. -/
structure Palette where
  error : Color := .red
  warning : Color := .yellow
  location : Color := .blue
  help : Color := .cyan
  deriving DecidableEq, Repr

structure PaletteDraft where
  error : Int := 9
  warning : Int := 3
  location : Int := 12
  help : Int := 14
  deriving DecidableEq, Repr

def PaletteDraft.check (d : PaletteDraft) : Except StyleError Palette := do
  let error ← checkColor "Palette" "error" d.error
  let warning ← checkColor "Palette" "warning" d.warning
  let location ← checkColor "Palette" "location" d.location
  let help ← checkColor "Palette" "help" d.help
  return { error, warning, location, help }

/-- The primary marker has `symbol` and the colour of its level; suggestions have their own. -/
structure MarkerStyle where
  symbol : Char := '^'
  suggestionSymbol : Char := '~'
  error : Color := .red
  warning : Color := .yellow
  suggestion : Color := .green
  deriving DecidableEq, Repr

structure MarkerStyleDraft where
  symbol : String := "^"
  suggestionSymbol : String := "~"
  error : Int := 9
  warning : Int := 3
  suggestion : Int := 10
  deriving DecidableEq, Repr

def MarkerStyleDraft.check (d : MarkerStyleDraft) : Except StyleError MarkerStyle := do
  let symbol ← checkSymbol "symbol" d.symbol
  let suggestionSymbol ← checkSymbol "suggestion_symbol" d.suggestionSymbol
  let error ← checkColor "BuilderDefaults" "error_marker" d.error
  let warning ← checkColor "BuilderDefaults" "warning_marker" d.warning
  let suggestion ← checkColor "BuilderDefaults" "suggestion" d.suggestion
  return { symbol, suggestionSymbol, error, warning, suggestion }

example : ({} : PaletteDraft).check.toOption = some {} := by decide

example : ({} : MarkerStyleDraft).check.toOption = some {} := by decide +kernel

end Caret
