import IotGateway.Go.Except
import IotGateway.Text.Schema

/-!
# `json.Unmarshal` into structs

What `encoding/json` makes of the members of an object for the fields of a struct, by the
type of the field. A field takes the member of its name, the case of letters ignored; a
missing member and a `null` leave it at its zero value. An `int` takes integer literals only;
a `float64` takes every number that does not overflow, here without rounding.

The lemmas say which of the values a schema accepts are read, and as what.
-/

namespace Go

/-- A name under the case folding of `encoding/json`, as far as it can be one in ASCII. -/
def foldName (s : String) : String :=
  String.ofList (s.toList.map fun c =>
    -- long s and the Kelvin sign fold to ASCII letters
    if c = Char.ofNat 0x17F then 's' else if c = Char.ofNat 0x212A then 'k' else c.toLower)

/-- The member that a field takes. -/
def field (members : List (String × Document)) (name : String) : Option Document :=
  (members.find? (foldName ·.1 = name)).map (·.2)

/-- The text of an `UnmarshalTypeError`, less a number's digits and the struct's name. -/
def unmarshalTypeError (v : Document) (name type : String) : String :=
  let value := match v with
    | .null => "null"
    | .bool _ => "bool"
    | .num _ => "number"
    | .str _ => "string"
    | .arr _ => "array"
    | .obj _ => "object"
  "json: cannot unmarshal " ++ value ++ " into Go struct field " ++ name ++ " of type " ++ type

/-- From here on a number rounds to an infinite `float64`. -/
def float64Overflow : ℚ := 2 ^ 1024 - 2 ^ 970

def decodeString (name : String) : Option Document → Except String String
  | none | some .null => .ok ""
  | some (.str s) => .ok s
  | some v => .error (unmarshalTypeError v name "string")

/-- An `int` of 64 bits. -/
def decodeInt (name : String) : Option Document → Except String ℤ
  | none | some .null => .ok 0
  | some (.num (.integer n)) =>
    if -2 ^ 63 ≤ n ∧ n < 2 ^ 63 then .ok n
    else .error (unmarshalTypeError (.num (.integer n)) name "int")
  | some v => .error (unmarshalTypeError v name "int")

/-- A `*float64`. -/
def decodeFloat (name : String) : Option Document → Except String (Option ℚ)
  | none | some .null => .ok none
  | some (.num x) =>
    if |x.value| < float64Overflow then .ok (some x.value)
    else .error (unmarshalTypeError (.num x) name "float64")
  | some v => .error (unmarshalTypeError v name "float64")

-- every number in a document
mutual

def inFloat64 : Document → Bool
  | .num x => decide (|x.value| < float64Overflow)
  | .arr items => itemsInFloat64 items
  | .obj members => membersInFloat64 members
  | _ => true

def itemsInFloat64 : List Document → Bool
  | [] => true
  | d :: ds => inFloat64 d && itemsInFloat64 ds

def membersInFloat64 : List (String × Document) → Bool
  | [] => true
  | (_, d) :: ms => inFloat64 d && membersInFloat64 ms

end

/-- A `map[string]interface{}`, whose content is not looked at. -/
def decodeMap (name : String) : Option Document → Except String Unit
  | none | some .null => .ok ()
  | some (.obj members) =>
    if membersInFloat64 members then .ok () else .error (unmarshalTypeError (.num (.integer 0)) name "float64")
  | some v => .error (unmarshalTypeError v name "map[string]interface \x7b\x7d")

/-- The limit on nested arrays and objects. -/
def maxNestingDepth : ℕ := 10000

def unmarshal {α : Type} (decode : Document → Except String α) (d : Document) : Except String α :=
  if maxNestingDepth < d.depth then .error "exceeded max depth" else decode d

/-- Not a number written with a fraction or an exponent. -/
def integerLiteral : Option Document → Bool
  | some (.num (.fractional _)) => false
  | _ => true

/-- Nothing that a `float64` cannot hold. -/
def Fits (v : Option Document) : Bool := v.all inFloat64

def textOf (v : Option Document) : String := (v.bind Document.text?).getD ""

def numberOf (v : Option Document) : Option ℚ := v.bind Document.number?

def integerOf (v : Option Document) : ℤ := ((numberOf v).getD 0).num

/-- Names that folding leaves alone are found as they are written. -/
theorem field_eq_get {members : List (String × Document)} (hm : ∀ m ∈ members, foldName m.1 = m.1)
    (name : String) : field members name = (Document.obj members).get name := by
  unfold field Document.get
  congr 1
  refine List.find?_congr fun m hmem => ?_
  rw [hm m hmem]

section Accepted

variable {name : String} {v : Option Document}

theorem decodeString_eq {allowed : String → Bool} (h : ∀ d ∈ v, Schema.string allowed d = true) :
    decodeString name v = .ok (textOf v) := by
  cases v with
  | none => rfl
  | some d =>
    obtain ⟨s, rfl, -⟩ := Schema.text_of_string (h d rfl)
    rfl

theorem decodeInt_eq_ok_iff {allowed : ℤ → Bool} (h : ∀ d ∈ v, Schema.integer allowed d = true)
    (hbound : ∀ n, allowed n = true → -2 ^ 63 ≤ n ∧ n < 2 ^ 63) {n : ℤ} :
    decodeInt name v = .ok n ↔ integerLiteral v = true ∧ n = integerOf v := by
  cases v with
  | none => simp [decodeInt, integerLiteral, integerOf, numberOf, eq_comm]
  | some d =>
    obtain ⟨x, k, rfl, hx, hk⟩ := Schema.numeral_of_integer (h d rfl)
    have hint : integerOf (some (.num x)) = k := by
      simp [integerOf, numberOf, Document.number?, hx]
    rw [hint]
    cases x with
    | integer m =>
      have hm : m = k := Rat.intCast_inj.1 hx
      have hread : decodeInt name (some (.num (.integer m))) = .ok k := by
        rw [← hm] at hk ⊢
        exact if_pos (hbound m hk)
      rw [hread, Except.ok.injEq, eq_comm]
      exact ⟨fun h => ⟨rfl, h⟩, fun h => h.2⟩
    | fractional q =>
      constructor
      · exact fun h => by cases h
      · exact fun h => by cases h.1

theorem decodeFloat_eq_ok_iff (h : ∀ d ∈ v, Schema.number d = true) {o : Option ℚ} :
    decodeFloat name v = .ok o ↔ Fits v = true ∧ o = numberOf v := by
  cases v with
  | none => simp [decodeFloat, Fits, numberOf, eq_comm]
  | some d =>
    obtain ⟨x, rfl⟩ := Schema.numeral_of_number (h d rfl)
    simp only [decodeFloat, Fits, numberOf, Option.all_some, inFloat64, Option.bind_some,
      Document.number?, decide_eq_true_eq]
    split_ifs with hx <;> simp [hx, eq_comm]

theorem decodeMap_eq_ok_iff (name : String)
    (h : ∀ d ∈ v, Schema.object [] [] true d = true) :
    decodeMap name v = .ok () ↔ Fits v = true := by
  cases v with
  | none => simp [decodeMap, Fits]
  | some d =>
    obtain ⟨members, rfl, -⟩ := Schema.members_of_object (h d rfl)
    simp only [decodeMap, Fits, Option.all_some, inFloat64]
    split_ifs with hx <;> simp [hx]

end Accepted

end Go
