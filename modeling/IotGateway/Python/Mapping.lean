import Mathlib.Data.Rat.Defs
import IotGateway.Python.Json

/-!
# Dicts with JSON values as keys

A dict finds a key by its hash and `==`. Lists and dicts have no hash; numbers are equal
across their types (`1`, `1.0` and `True` are one key); NaN is not equal to itself, so that
an entry under it is never found again.
-/

namespace Python

/-- The number that a finite `float` is. -/
def Double.value (x : Double) : ℚ :=
  let e : ℕ := x.toNat / 2 ^ 52 % 2 ^ 11
  let m : ℕ := x.toNat % 2 ^ 52
  let a : ℚ := if e = 0 then m / 2 ^ 1074
    else if 1075 ≤ e then (2 ^ 52 + m) * 2 ^ (e - 1075)
    else (2 ^ 52 + m) / 2 ^ (1075 - e)
  if x.toNat / 2 ^ 63 = 0 then a else -a

/-- A hashable value up to `==`. -/
inductive DictKey where
  | none
  | num (q : ℚ)
  | infinity (negative : Bool)
  | str (s : Str)
deriving DecidableEq

/-- What a lookup or an assignment does with a key. -/
inductive Hashed where
  | key (k : DictKey)
  /-- NaN, equal to no key -/
  | unequal
  /-- a `TypeError` -/
  | unhashable
deriving DecidableEq

def Json.hashed : Json → Hashed
  | .null => .key .none
  | .bool b => .key (.num (if b then 1 else 0))
  | .int n => .key (.num n)
  | .float x =>
    if x.isFinite then .key (.num x.value)
    else if x.toNat % 2 ^ 52 = 0 then .key (.infinity (x.toNat / 2 ^ 63 ≠ 0))
    else .unequal
  | .str s => .key (.str s)
  | .arr _ | .obj _ => .unhashable

/-- A dict, as the values of its keys. -/
abbrev Mapping (α : Type) := DictKey → Option α

namespace Mapping

variable {α : Type}

def empty : Mapping α := fun _ => none

/-- `d[k] = v`; `none` is an exception. -/
def set (d : Mapping α) (k : Json) (v : α) : Option (Mapping α) :=
  match k.hashed with
  | .key key => some (Function.update d key (some v))
  | .unequal => some d
  | .unhashable => none

/-- `d.get(k)`; the outer `none` is an exception. -/
def get (d : Mapping α) (k : Json) : Option (Option α) :=
  match k.hashed with
  | .key key => some (d key)
  | .unequal => some none
  | .unhashable => none

end Mapping

end Python
