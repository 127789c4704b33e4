import Mathlib.Data.Rat.Defs
import Mathlib.Tactic

/-!
# JSON documents and schemas

A document as a value: an object is the list of its members, without two of one name, and
a number is exact, but remembers whether it was written as an integer.

A schema is the set of documents it accepts. The functions are the keywords of draft 07
for one type each; a `pattern` or an `enum` is the set of values it allows. What an object
schema says of the members is read off with `object_get` and `object_required`.
-/

inductive Numeral where
  /-- written without fraction and exponent -/
  | integer (n : ℤ)
  | fractional (q : ℚ)
deriving DecidableEq, Repr

def Numeral.value : Numeral → ℚ
  | .integer n => n
  | .fractional q => q

inductive Document where
  | null
  | bool (b : Bool)
  | num (x : Numeral)
  | str (s : String)
  | arr (items : List Document)
  | obj (members : List (String × Document))

namespace Document

/-- The member of a name. -/
def get (d : Document) (name : String) : Option Document :=
  match d with
  | .obj members => (members.find? (·.1 = name)).map (·.2)
  | _ => none

def number? : Document → Option ℚ
  | .num x => some x.value
  | _ => none

def text? : Document → Option String
  | .str s => some s
  | _ => none

def items : Document → List Document
  | .arr items => items
  | _ => []

-- arrays and objects inside each other
mutual

def depth : Document → ℕ
  | .arr items => depthItems items + 1
  | .obj members => depthMembers members + 1
  | _ => 0

def depthItems : List Document → ℕ
  | [] => 0
  | d :: ds => max d.depth (depthItems ds)

def depthMembers : List (String × Document) → ℕ
  | [] => 0
  | (_, d) :: ms => max d.depth (depthMembers ms)

end

end Document

abbrev Schema := Document → Bool

namespace Schema

def string (allowed : String → Bool) : Schema
  | .str s => allowed s
  | _ => false

/-- A number without a fraction, however it is written. -/
def integer (allowed : ℤ → Bool) : Schema
  | .num x => decide (x.value.den = 1) && allowed x.value.num
  | _ => false

def number : Schema
  | .num _ => true
  | _ => false

def array (minItems : ℕ) (items : Schema) : Schema
  | .arr ds => decide (minItems ≤ ds.length) && ds.all items
  | _ => false

def object (required : List String) (properties : List (String × Schema))
    (additionalProperties : Bool) : Schema
  | .obj members =>
    required.all (fun name => members.any (·.1 = name)) &&
      members.all fun m =>
        match properties.lookup m.1 with
        | some schema => schema m.2
        | none => additionalProperties
  | _ => false

variable {required : List String} {properties : List (String × Schema)}
  {additionalProperties : Bool} {d v : Document} {name : String} {schema : Schema}

theorem text_of_string {allowed : String → Bool} (h : string allowed d = true) :
    ∃ s, d = .str s ∧ allowed s = true := by
  cases d with
  | str s => exact ⟨s, rfl, h⟩
  | _ => cases h

theorem numeral_of_number (h : number d = true) : ∃ x, d = .num x := by
  cases d with
  | num x => exact ⟨x, rfl⟩
  | _ => cases h

theorem numeral_of_integer {allowed : ℤ → Bool} (h : integer allowed d = true) :
    ∃ x n, d = .num x ∧ x.value = (n : ℤ) ∧ allowed n = true := by
  cases d with
  | num x =>
    obtain ⟨hint, hallowed⟩ := Bool.and_eq_true_iff.1 h
    exact ⟨x, x.value.num, rfl, (Rat.den_eq_one_iff _).1 (of_decide_eq_true hint) |>.symm, hallowed⟩
  | _ => cases h

theorem items_of_array {minItems : ℕ} {items : Schema} (h : array minItems items d = true) :
    ∃ ds, d = .arr ds ∧ minItems ≤ ds.length ∧ ∀ x ∈ ds, items x = true := by
  cases d with
  | arr ds =>
    obtain ⟨hlen, hall⟩ := Bool.and_eq_true_iff.1 h
    exact ⟨ds, rfl, of_decide_eq_true hlen, List.all_eq_true.1 hall⟩
  | _ => cases h

theorem members_of_object (h : object required properties additionalProperties d = true) :
    ∃ members, d = .obj members ∧ (∀ name ∈ required, ∃ m ∈ members, m.1 = name) ∧
      ∀ m ∈ members, (properties.lookup m.1).elim additionalProperties (· m.2) = true := by
  cases d with
  | obj members =>
    obtain ⟨hreq, hall⟩ := Bool.and_eq_true_iff.1 h
    refine ⟨members, rfl, fun name hname => ?_, fun m hm => ?_⟩
    · obtain ⟨m, hm, heq⟩ := List.any_eq_true.1 (List.all_eq_true.1 hreq name hname)
      exact ⟨m, hm, of_decide_eq_true heq⟩
    · have hmember := List.all_eq_true.1 hall m hm
      cases hlook : properties.lookup m.1 with
      | none => simpa only [hlook, Option.elim_none] using hmember
      | some schema => simpa only [hlook, Option.elim_some] using hmember
  | _ => cases h

/-- A member that an accepted object has is accepted by its property's schema. -/
theorem object_get (h : object required properties additionalProperties d = true)
    (hs : properties.lookup name = some schema) (hv : d.get name = some v) : schema v = true := by
  obtain ⟨members, rfl, -, hall⟩ := members_of_object h
  obtain ⟨m, hm, hmv⟩ := Option.map_eq_some_iff.1 hv
  subst hmv
  have hfound := List.find?_some hm
  have hname : m.1 = name := of_decide_eq_true hfound
  have hmember := hall m (List.mem_of_find?_eq_some hm)
  rwa [hname, hs, Option.elim_some] at hmember

/-- A required member is there. -/
theorem object_required (h : object required properties additionalProperties d = true)
    (hname : name ∈ required) (hs : properties.lookup name = some schema) :
    ∃ v, d.get name = some v ∧ schema v = true := by
  obtain ⟨members, hd, hreq, -⟩ := members_of_object h
  obtain ⟨m, hm, heq⟩ := hreq name hname
  have hfound : (members.find? (·.1 = name)).isSome = true :=
    List.find?_isSome.2 ⟨m, hm, decide_eq_true heq⟩
  obtain ⟨m', hm'⟩ := Option.isSome_iff_exists.1 hfound
  have hget : d.get name = some m'.2 := by
    rw [hd, Document.get, hm', Option.map_some]
  exact ⟨m'.2, hget, object_get h hs hget⟩

/-- Without additional properties, every member is one of the schema's. -/
theorem object_names {members : List (String × Document)}
    (h : object required properties false (.obj members) = true) {m : String × Document}
    (hm : m ∈ members) : m.1 ∈ properties.map Prod.fst := by
  obtain ⟨_, hd, -, hall⟩ := members_of_object h
  cases hd
  have hmember := hall m hm
  cases hlook : properties.lookup m.1 with
  | none =>
    rw [hlook] at hmember
    cases hmember
  | some schema =>
    obtain ⟨l₁, l₂, hl, -⟩ := List.lookup_eq_some_iff.1 hlook
    rw [hl, List.map_append]
    exact List.mem_append_right _ List.mem_cons_self

end Schema
