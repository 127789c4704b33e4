import IotGateway.Python.Json

/-!
# Binding Python values to PostgreSQL columns

What the driver and the server accept for a column of each type, and what is stored;
`none` is an exception of the statement. Resource limits are left out.
-/

namespace Db

open Python

/-- A code point of a `TEXT` value: no surrogate can be encoded, and no NUL stored. -/
def textChar : CodePoint → Option Char
  | .scalar c => if c = Char.ofNat 0 then none else some c
  | .surrogate _ => none

/-- `TEXT` -/
def text (s : Str) : Option String := (s.mapM textChar).map String.ofList

/-- `VARCHAR(n)`: only spaces may be cut off. -/
def varchar (n : ℕ) (s : Str) : Option String := do
  let cs ← s.mapM textChar
  if (cs.drop n).all (· = ' ') then some (String.ofList (cs.take n)) else none

theorem length_of_varchar {n : ℕ} {s : Str} {t : String} (h : varchar n s = some t) : t.length ≤ n := by
  unfold varchar at h
  rw [Option.bind_eq_bind, Option.bind_eq_some_iff] at h
  obtain ⟨cs, -, h⟩ := h
  split_ifs at h
  cases h
  rw [String.length_ofList]
  exact List.length_take_le n cs

/-- A text without NUL and surrogates is stored as it is. -/
theorem mapM_textChar_of (cs : List Char) : (cs.map CodePoint.scalar).mapM textChar =
    if Char.ofNat 0 ∈ cs then none else some cs := by
  induction cs with
  | nil => rfl
  | cons c cs ih =>
    rw [List.map_cons, List.mapM_cons, ih]
    by_cases hc : c = Char.ofNat 0
    · simp [textChar, hc]
    · have hne : ¬ Char.ofNat 0 = c := fun h => hc h.symm
      simp only [textChar, if_neg hc, List.mem_cons, hne, false_or]
      split_ifs <;> rfl

theorem text_of (s : String) : text (Str.of s) = if Char.ofNat 0 ∈ s.toList then none else some s := by
  unfold text Str.of
  rw [mapM_textChar_of]
  split_ifs
  · rfl
  · rw [Option.map_some, String.ofList_toList]

/-- What fits a `VARCHAR` is a `TEXT`. -/
theorem text_isSome_of_varchar {n : ℕ} {s : Str} (h : (varchar n s).isSome = true) :
    (text s).isSome = true := by
  unfold varchar at h
  unfold text
  cases hm : s.mapM textChar with
  | none => simp [hm] at h
  | some cs => rfl

/-- What a `VARCHAR(n)` column holds of a text that fits it. -/
def cut (n : ℕ) (s : String) : String := String.ofList (s.toList.take n)

theorem varchar_eq_cut {n : ℕ} {s : Str} {t u : String} (h : varchar n s = some t) (hu : text s = some u) :
    t = cut n u := by
  unfold varchar at h
  obtain ⟨cs, hcs, rfl⟩ := Option.map_eq_some_iff.1 hu
  simp only [hcs, Option.bind_eq_bind, Option.bind_some] at h
  split_ifs at h
  simpa [cut] using (Option.some.inj h).symm

/-- A nullable string column, with the check of its type: of the other values only
`None` is bound. -/
def nullable (column : Str → Option String) : Json → Option (Option String)
  | .null => some none
  | .str s => (column s).map some
  | _ => none

/-- A `NOT NULL` string column. -/
def notNull (column : Str → Option String) : Json → Option String
  | .str s => column s
  | _ => none

theorem nullable_text_isSome {n : ℕ} {v : Json} (h : (nullable (varchar n) v).isSome = true) :
    (nullable text v).isSome = true := by
  cases v with
  | str s =>
    simp only [nullable, Option.isSome_map] at h ⊢
    exact text_isSome_of_varchar h
  | null => rfl
  | _ => cases h

theorem notNull_text_isSome {n : ℕ} {v : Json} (h : (notNull (varchar n) v).isSome = true) :
    (notNull text v).isSome = true := by
  cases v with
  | str s => exact text_isSome_of_varchar h
  | _ => cases h

theorem nullable_eq_cut {n : ℕ} {v : Json} {t u : Option String} (h : nullable (varchar n) v = some t)
    (hu : nullable text v = some u) : t = u.map (cut n) := by
  cases v with
  | str s =>
    obtain ⟨t', ht', rfl⟩ := Option.map_eq_some_iff.1 h
    obtain ⟨u', hu', rfl⟩ := Option.map_eq_some_iff.1 hu
    rw [varchar_eq_cut ht' hu']
    rfl
  | null =>
    cases h
    cases hu
    rfl
  | _ => cases h

theorem notNull_eq_cut {n : ℕ} {v : Json} {t u : String} (h : notNull (varchar n) v = some t)
    (hu : notNull text v = some u) : t = cut n u := by
  cases v with
  | str s => exact varchar_eq_cut h hu
  | _ => cases h

/-- `TIMESTAMPTZ`, in microseconds: an aware `datetime` that is one in UTC, too. -/
def timestamptz (t : ℤ) : Option ℤ :=
  if -62135596800000000 ≤ t ∧ t < 253402300800000000 then some t else none

theorem timestamptz_eq {t t' : ℤ} (h : timestamptz t = some t') : t' = t := by
  unfold timestamptz at h
  split_ifs at h
  cases h
  rfl

/-- `INTEGER` -/
def integer (n : ℤ) : Option ℤ := if -2 ^ 31 ≤ n ∧ n < 2 ^ 31 then some n else none

/-- A JSON text is written in escapes: NUL is refused, and so is a surrogate that is not
a high one followed by a low one. -/
def jsonbString : Str → Bool
  | [] => true
  | .scalar c :: s => c ≠ Char.ofNat 0 && jsonbString s
  | .surrogate u :: .surrogate v :: s => u < 0x400 && 0x400 ≤ v && jsonbString s
  | .surrogate _ :: _ => false

mutual

/-- `JSONB`: neither `NaN` nor `Infinity`, and no refused string. -/
def jsonb : Json → Bool
  | .null => true
  | .bool _ => true
  | .int _ => true
  | .float x => x.isFinite
  | .str s => jsonbString s
  | .arr items => jsonbItems items
  | .obj items => jsonbFields items

def jsonbItems : List Json → Bool
  | [] => true
  | v :: items => jsonb v && jsonbItems items

def jsonbFields : List (Str × Json) → Bool
  | [] => true
  | (key, v) :: items => jsonbString key && jsonb v && jsonbFields items

end

/-- A `JSONB` column. -/
def json (v : Json) : Option Json := if jsonb v then some v else none

end Db
