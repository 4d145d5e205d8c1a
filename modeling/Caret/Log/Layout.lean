import Caret.Log.Level

namespace Caret.Log

inductive Layout where
  | short
  | detailed
  deriving DecidableEq, Repr

structure Place where
  file : String
  line : Nat
  function : String
  deriving DecidableEq, Repr

inductive Tint where
  | brightRed
  | red
  | yellow
  | green
  | gray
  | blue
  | dimRed
  deriving DecidableEq, Repr

def tintOf (level : Int) : Tint :=
  if critical ≤ level then .brightRed
  else if error ≤ level then .red
  else if warning ≤ level then .yellow
  else if info ≤ level then .green
  else if debug ≤ level then .gray
  else if trace ≤ level then .blue
  else .dimRed

structure Look where
  paint : Tint → String → String
  place : Record → Place

def plainText (layout : Layout) (place : Place) (r : Record) : String :=
  match layout with
  | .short => "[" ++ levelName r.level ++ "] " ++ r.message
  | .detailed =>
    "[" ++ levelName r.level ++ "] [" ++ place.file ++ ":" ++ toString place.line ++ "] [" ++
      place.function ++ "] " ++ r.message

def format (paint : Tint → String → String) (layout : Layout) (place : Place) (r : Record) :
    String :=
  paint (tintOf r.level) (plainText layout place r)

end Caret.Log
