import GuardedDivision.Proofs.Toml.Document
import GuardedDivision.Proofs.Toml.Text

namespace GuardedDivision.Toml

inductive Datum where
  | boolean (value : Bool)
  | integer (value : Int)
  | text (value : List Char)
deriving DecidableEq, Repr

namespace Datum

/-- How a datum is held. Integers of more than 128 bits are not. -/
def item : Datum → Item
  | .boolean value => .boolean value
  | .integer value => Scalar.ofInt value
  | .text value => .text value

inductive Spells : Datum → List Char → Prop
  | true : Spells (.boolean .true) "true".toList
  | false : Spells (.boolean .false) "false".toList
  | integer {text : List Char} {n : Int} : Scalar.SpellsInteger text n → Spells (.integer n) text
  | basic {body content : List Char} : Text.Basic body content →
    Spells (.text content) ('"' :: (body ++ ['"']))
  | verbatim {body : List Char} : Text.Verbatim body →
    Spells (.text body) ('\'' :: (body ++ ['\'']))

def Between (low high : Int) (datum : Datum) : Prop :=
  ∃ n, datum = .integer n ∧ low ≤ n ∧ n ≤ high

theorem between_integer {low high n : Int} :
    (Datum.integer n).Between low high ↔ low ≤ n ∧ n ≤ high := by simp [Between]

end Datum

theorem Scalar.SpellsInteger.isUnquoted {text : List Char} {n : Int}
    (h : Scalar.SpellsInteger text n) : IsUnquoted text where
  ne_nil := by
    obtain ⟨c, rest, rfl, -⟩ := h.exists_cons
    exact List.cons_ne_nil c rest
  unmarked c hc := by
    obtain hdigit | hmark := h.mem_cases c hc
    · apply Scalar.forall_isHexDigit (P := fun c => isSeparator c = false ∧ isQuote c = false) _
        hdigit
      decide
    · simp only [List.mem_cons, List.not_mem_nil, or_false] at hmark
      obtain rfl | rfl | rfl | rfl | rfl := hmark
      all_goals decide

theorem Datum.Spells.exists_word (datum : Datum) (text : List Char) (h : datum.Spells text) :
    ∃ w : Word, w.Written text ∧ w.item? = some datum.item := by
  cases h with
  | true => exact ⟨_, .bare (IsBare.of_all (by decide) (by decide)).isUnquoted, rfl⟩
  | false => exact ⟨_, .bare (IsBare.of_all (by decide) (by decide)).isUnquoted, rfl⟩
  | integer h => exact ⟨_, .bare h.isUnquoted, h.item?_eq⟩
  | basic h => exact ⟨_, .basic h, Word.item?_basic h⟩
  | verbatim h => exact ⟨_, .verbatim h, Word.item?_verbatim h⟩

end GuardedDivision.Toml
