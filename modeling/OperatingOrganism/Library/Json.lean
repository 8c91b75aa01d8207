import Mathlib.Data.Rat.Defs

/-!
# Json values

What a decoder of JSON makes of a text. A string is the list of its code points, lone surrogates included; a number
with a fraction or an exponent is kept as the exact value of its literal, and there are the three numbers that are
none; of the fields of an object, one is left for each key.
-/

set_option autoImplicit false

namespace OperatingOrganism

/-- A string of code points. -/
abbrev CodePoints := List Nat

/-- The code points of a literal. -/
def codePoints (s : String) : CodePoints := s.toList.map Char.toNat

inductive JsonValue where
  | null
  | bool (b : Bool)
  | int (n : Int)
  | float (q : Rat)
  | nan
  | infinity (negative : Bool)
  | string (s : CodePoints)
  | array (items : List JsonValue)
  | object (fields : List (CodePoints × JsonValue))

namespace JsonValue

/-- The field of an object. -/
def field? (key : CodePoints) : JsonValue → Option JsonValue
  | object fields => (fields.find? fun kv => kv.1 = key).map Prod.snd
  | _ => none

/-- `bool(value)` -/
def truthy : JsonValue → Bool
  | null => false
  | bool b => b
  | int n => n ≠ 0
  | float q => q ≠ 0
  | nan => true
  | infinity _ => true
  | string s => s ≠ []
  | array items => !items.isEmpty
  | object fields => !fields.isEmpty

/-- The number that a value is in a comparison. -/
def rational? : JsonValue → Option Rat
  | bool b => some (if b then 1 else 0)
  | int n => some n
  | float q => some q
  | _ => none

end JsonValue

end OperatingOrganism
