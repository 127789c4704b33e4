import Mathlib.Data.Nat.Log
import Mathlib.Tactic

/-!
# JSON values as Python reads them

`json.loads` gives strings whose code points may be lone surrogates, integers of any
size, and floats that may be infinite or NaN. A dict is a list of its items, without two
of one key.
-/

namespace Python

/-- A code point of a `str`: a scalar value, or the surrogate `0xD800 + u`. -/
inductive CodePoint where
  | scalar (c : Char)
  | surrogate (u : Fin 0x800)
deriving DecidableEq, Repr

abbrev Str := List CodePoint

/-- A `str` without surrogates. -/
def Str.of (s : String) : Str := s.toList.map .scalar

theorem Str.of_inj {s t : String} : Str.of s = Str.of t ↔ s = t := by
  unfold Str.of
  rw [List.map_inj_right fun _ _ h => CodePoint.scalar.inj h, String.toList_inj]

/-- A `float`: the bits of an IEEE 754 double. -/
abbrev Double := BitVec 64

/-- Neither infinite nor NaN: the exponent bits are not all set. -/
def Double.isFinite (x : Double) : Bool := x.toNat / 2 ^ 52 % 2 ^ 11 ≠ 2047

/-- `float(n)`, rounded half to even; `none` is an `OverflowError`. -/
def Double.ofInt (n : ℤ) : Option Double :=
  let a := n.natAbs
  let k := Nat.log2 a
  -- 53 significant bits, the first of which adds 1 to the exponent below
  let m :=
    if k ≤ 52 then a * 2 ^ (52 - k)
    else
      let u := 2 ^ (k - 52)
      if u < 2 * (a % u) ∨ (u = 2 * (a % u) ∧ a / u % 2 = 1) then a / u + 1 else a / u
  let bits := (k + 1022) * 2 ^ 52 + m
  if a = 0 then some 0
  else if 2047 * 2 ^ 52 ≤ bits then none
  else some (BitVec.ofNat 64 (bits + if n < 0 then 2 ^ 63 else 0))

inductive Json where
  | null
  | bool (b : Bool)
  | int (n : ℤ)
  | float (x : Double)
  | str (s : Str)
  | arr (items : List Json)
  | obj (items : List (Str × Json))

namespace Json

/-- `d.get(key)` of a dict's items. -/
def get (items : List (Str × Json)) (key : String) : Option Json :=
  (items.find? (·.1 = Str.of key)).map (·.2)

/-- `bool(x)` -/
def truthy : Json → Bool
  | null => false
  | bool b => b
  | int n => n ≠ 0
  | float x => x ≠ 0 && x ≠ BitVec.ofNat 64 (2 ^ 63)
  | str s => s ≠ []
  | arr items => !items.isEmpty
  | obj items => !items.isEmpty

/-- A string value without surrogates. -/
def text (s : String) : Json := str (Str.of s)

/-- `v == s` for a string `s`. -/
def isText (v : Json) (s : String) : Bool :=
  match v with
  | str t => t = Str.of s
  | _ => false

end Json

example : Double.ofInt 1 = some 0x3FF0000000000000 ∧ Double.ofInt (-3) = some 0xC008000000000000 ∧
    Double.ofInt (2 ^ 53 + 1) = some 0x4340000000000000 ∧
    Double.ofInt (2 ^ 1024 - 2 ^ 970) = none := by
  decide +kernel

end Python
