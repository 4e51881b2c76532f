import GuardedDivision.Settings.Basic
import GuardedDivision.Toml.Document

namespace GuardedDivision.Settings

open Toml (Item Entries)

def int32? : Item → Option Int32
  | .integer n =>
    if Int32.minValue.toInt ≤ n ∧ n ≤ Int32.maxValue.toInt then some (Int32.ofInt n) else none
  | _ => none

def bool? : Item → Option Bool
  | .boolean b => some b
  | _ => none

def seed? : Item → Option (Option UInt64)
  | .integer n => if 0 ≤ n ∧ n < UInt64.size then some (some (UInt64.ofNat n.toNat)) else none
  | _ => none

def field? {α : Type} (entries : Entries) (key : String) (default : α)
    (ofItem? : Item → Option α) : Option α :=
  match entries.find? key.toList with
  | none => some default
  | some item => ofItem? item

def ofEntries? (entries : Entries) : Option Settings := do
  let defaults : Settings := {}
  let numerator ← field? entries "numerator" defaults.numerator int32?
  let fixedDenominator ← field? entries "fixed_denominator" defaults.fixedDenominator int32?
  let catchFaults ← field? entries "catch_faults" defaults.catchFaults bool?
  let seed ← field? entries "seed" defaults.seed seed?
  return { numerator, fixedDenominator, catchFaults, seed }

def ofText (text : List Char) : Except Toml.Defect Settings := do
  Toml.required (ofEntries? (← Toml.Document.ofText text))

def ofEntry (entry : Except FileFailure Entry) : Except LoadFailure Settings :=
  match entry.bind Entry.text with
  | .error cause => .error (.unreadable cause)
  | .ok text => match ofText text with
    | .error defect => .error (.unusable defect)
    | .ok settings => .ok settings

def ofPath (tree : FileTree) (working : Location) (path : String) : Except LoadFailure Settings :=
  ofEntry (tree.find working path)

end GuardedDivision.Settings
