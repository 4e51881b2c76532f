import GuardedDivision.Decimal.Literal
import GuardedDivision.Decimal.Shortest
import GuardedDivision.Binary64.Arithmetic
import GuardedDivision.Text.Blank
import GuardedDivision.Text.Quoted
import GuardedDivision.Text.Utf8
import GuardedDivision.Words

namespace GuardedDivision

inductive Source where
  | zero
  | fixed (value : Int32)
  | random
  | console
deriving DecidableEq, Repr

namespace Source

def text : Source → List Char
  | .zero => "zero".toList
  | .fixed value => "fixed(".toList ++ Numeral.ofInt value.toInt ++ [')']
  | .random => "random".toList
  | .console => "console".toList

end Source

inductive Denominator where
  | int (value : Int32)
  | float (value : Binary64)
deriving DecidableEq, Repr

namespace Denominator

def text : Denominator → List Char
  | .int value => Numeral.ofInt value.toInt
  | .float value => value.text

end Denominator

inductive ReadFailure where
  | endOfInput
  | notNumber (input : List Char)
  | notUtf8
deriving DecidableEq, Repr

namespace ReadFailure

def message : ReadFailure → List Char
  | .endOfInput => "no input available".toList
  | .notNumber input => "not a number: ".toList ++ Quoted.encode input
  | .notUtf8 => "IO error: stream did not contain valid UTF-8".toList

end ReadFailure

structure Input (γ : Type) where
  unread : Bytes
  words : γ
deriving DecidableEq, Repr

namespace Console

def cutLine : Bytes → Bytes × Bytes
  | [] => ([], [])
  | b :: rest =>
    if b = 0x0A then ([b], rest)
    else
      let (line, later) := cutLine rest
      (b :: line, later)

/-- Reads a number from a line. The line counts without white space at its ends. -/
def readLine {α : Type} (ofText? : List Char → Option α) (line : Bytes) : Except ReadFailure α :=
  if line = [] then .error .endOfInput
  else match Utf8.decode? line with
    | none => .error .notUtf8
    | some text =>
      let input := Blank.trim text
      match ofText? input with
      | none => .error (.notNumber input)
      | some value => .ok value

end Console

namespace Source

variable {γ : Type} [WordSource γ]

def read {α : Type} (ofInt32 : Int32 → α) (ofText? : List Char → Option α) (source : Source)
    (input : Input γ) : Except ReadFailure α × Input γ :=
  match source with
  | .zero => (.ok (ofInt32 0), input)
  | .fixed value => (.ok (ofInt32 value), input)
  | .random =>
    let (word, words) := WordSource.next input.words
    (.ok (ofInt32 word.toInt32), { input with words })
  | .console =>
    let (line, unread) := Console.cutLine input.unread
    (Console.readLine ofText? line, { input with unread })

def readInt (source : Source) (input : Input γ) : Except ReadFailure Int32 × Input γ :=
  source.read id Numeral.int32? input

def readFloat (source : Source) (input : Input γ) : Except ReadFailure Binary64 × Input γ :=
  source.read Binary64.ofInt32 Binary64.ofText? input

end Source

end GuardedDivision
