import GuardedDivision.Log.Event
import GuardedDivision.Text.Alphanumeric
import GuardedDivision.Text.Blank
import GuardedDivision.Text.Cut

namespace GuardedDivision.Log

/-- The least important level that is let through, or none at all. -/
abbrev Limit := Option Level

namespace Limit

def admits (limit : Limit) (level : Level) : Bool :=
  match limit with
  | none => false
  | some least => level.rank ≤ least.rank

def ofNat? : Nat → Option Limit
  | 0 => some none
  | 1 => some (some .error)
  | 2 => some (some .warn)
  | 3 => some (some .info)
  | 4 => some (some .debug)
  | 5 => some (some .trace)
  | _ => none

def ofName? (name : List Char) : Option Limit :=
  if name = "off".toList then some none
  else if name = "error".toList then some (some .error)
  else if name = "warn".toList then some (some .warn)
  else if name = "info".toList then some (some .info)
  else if name = "debug".toList then some (some .debug)
  else if name = "trace".toList then some (some .trace)
  else none

def ofText? (text : List Char) : Option Limit :=
  let digits := match text with
    | '+' :: digits => digits
    | _ => text
  match Numeral.nat? digits with
  | some n => ofNat? n
  | none => ofName? (text.map Char.toLower)

end Limit

inductive Unreadable where
  | malformed
  | broken (cut : BrokenCut)
deriving DecidableEq, Repr

structure Directive where
  target : List Char
  field : Option (List Char) := none
  limit : Limit
deriving DecidableEq, Repr

namespace Directive

def isStart (c : Char) : Bool :=
  c = '-' || c = ':' || c = '_' || Alphanumeric.isAlphanumeric c

/-- Reads a level or a target. A target lets everything through, and blanks count as part of it. -/
def ofWhole (text : List Char) : Directive :=
  match Limit.ofText? text with
  | some limit => { target := [], limit }
  | none => { target := text, limit := some .trace }

def limitAfter (text : List Char) : Except Unreadable Limit :=
  if text = [] then .ok (some .trace)
  else match Limit.ofText? text with
    | some limit => .ok limit
    | none => .error .malformed

/-- The limit that a text ends with from a place on, where `rest` is left to read: everything is let
through if that is nothing, and else it starts with an equals sign. -/
def limitAt (text : List Char) (place : Nat) : List Char → Except Unreadable Limit
  | [] => .ok (some .trace)
  | '=' :: _ => do limitAfter (← (Cut.after text (place + 1)).mapError .broken)
  | _ => .error .malformed

/-- The directive with a field in braces. One that asks for the value of the field, after an equals
sign, is for spans alone, and so is one that names a span. -/
def ofField (target span field : List Char) (limit : Limit) : Option Directive :=
  if span = [] ∧ '=' ∉ field then some { target, field := some field, limit } else none

def ofBraces (text target span : List Char) (place : Nat) (rest : List Char) :
    Except Unreadable (Option Directive) :=
  let stop := place + Cut.size (rest.takeWhile (· != '\x7d'))
  match rest.dropWhile (· != '\x7d') with
  | [] => .error .malformed
  | _ :: later => do
    let field ← (Cut.between text place stop).mapError .broken
    match later with
    | ']' :: rest =>
      if field = [] then .error .malformed
      else return ofField target span field (← limitAt text (stop + 2) rest)
    | _ => .error .malformed

def ofBrackets (text target : List Char) (place : Nat) (rest : List Char) :
    Except Unreadable (Option Directive) :=
  let stop := place + Cut.size (rest.takeWhile fun c => c != ']' && c != '\x7b')
  match rest.dropWhile fun c => c != ']' && c != '\x7b' with
  | [] => .error .malformed
  | c :: later => do
    let span ← (Cut.between text place stop).mapError .broken
    if c = ']' then
      let _ ← limitAt text (stop + 1) later
      return none
    else ofBraces text target span (stop + 1) later

/-- Reads a directive, or nothing if it is one for spans, which no event is in. Places are counted
without the blanks at the start, but the text is cut with them. -/
def ofText (text : List Char) : Except Unreadable (Option Directive) :=
  match Blank.trim text with
  | [] => .error .malformed
  | '[' :: rest => ofBrackets text [] 1 rest
  | c :: later =>
    let place := Cut.size ((c :: later).takeWhile fun c => c != '=' && c != '[')
    if !isStart c then .error .malformed
    else match (c :: later).dropWhile fun c => c != '=' && c != '[' with
      | [] => .ok (some (ofWhole text))
      | d :: rest => do
        let target ← (Cut.before text place).mapError .broken
        if d = '=' then
          return some { target, limit := ← limitAt text place (d :: rest) }
        else ofBrackets text target (place + 1) rest

def isFor (d : Directive) (target : List Char) (fields : List (List Char)) : Bool :=
  d.target.isPrefixOf target && d.field.all fields.contains

/-- Whether a directive gives way to another: to one with a longer target, and of equally long ones
to one with a field, and with a field that comes later in the order of code points. -/
def yieldsTo (d e : Directive) : Bool :=
  d.target.length.blt e.target.length ||
    d.target.length == e.target.length &&
      match d.field, e.field with
      | none, some _ => true
      | some f, some g => f.lex g fun a b => a.toNat.blt b.toNat
      | _, none => false

end Directive

end GuardedDivision.Log
