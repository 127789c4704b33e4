import Mathlib.Data.Nat.Digits.Lemmas
import Mathlib.Tactic

/-!
# Integers in several machine words

A list of words, most or least significant first, as one unsigned or one signed integer.

`signed_eq_toInt_iff` and `unsigned_eq_toInt_iff`: **the first word, sign-extended, is the
whole integer exactly when every other word is its sign word** (and, if the first word is the
most significant of several, it is one itself).
-/

namespace Words

inductive Order where
  | big
  | little
deriving DecidableEq, Repr

variable {w : ℕ}

def lowFirst : Order → List (BitVec w) → List (BitVec w)
  | .big, ws => ws.reverse
  | .little, ws => ws

/-- The words as the digits of a number, least significant first. -/
def value (ws : List (BitVec w)) : ℕ := Nat.ofDigits (2 ^ w) (ws.map BitVec.toNat)

def unsigned (order : Order) (ws : List (BitVec w)) : ℕ := value (lowFirst order ws)

/-- Two's complement. -/
def signed (order : Order) (ws : List (BitVec w)) : ℤ :=
  Int.bmod (unsigned order ws) (2 ^ (w * ws.length))

/-- The words above `x` when it is sign-extended. -/
def signWord (x : BitVec w) : BitVec w := if x.msb then BitVec.allOnes w else 0

@[simp] theorem length_lowFirst (order : Order) (ws : List (BitVec w)) :
    (lowFirst order ws).length = ws.length := by
  cases order
  · exact List.length_reverse
  · rfl

theorem digits_lt (ws : List (BitVec w)) : ∀ d ∈ ws.map BitVec.toNat, d < 2 ^ w := by
  intro d hd
  obtain ⟨x, -, rfl⟩ := List.mem_map.1 hd
  exact x.isLt

theorem value_lt (hw : 0 < w) (ws : List (BitVec w)) : value ws < 2 ^ (w * ws.length) := by
  have h := Nat.ofDigits_lt_base_pow_length (Nat.one_lt_two_pow hw.ne') (digits_lt ws)
  rwa [List.length_map, ← pow_mul] at h

/-- The number tells the words. -/
theorem value_injective (hw : 0 < w) {ws vs : List (BitVec w)} (hlen : ws.length = vs.length)
    (h : value ws = value vs) : ws = vs := by
  have hdigits := Nat.ofDigits_inj_of_len_eq (Nat.one_lt_two_pow hw.ne')
    (by rw [List.length_map, List.length_map, hlen]) (digits_lt ws) (digits_lt vs) h
  exact (List.map_inj_right fun _ _ hx => BitVec.eq_of_toNat_eq hx).1 hdigits

theorem value_cons (x : BitVec w) (ws : List (BitVec w)) :
    value (x :: ws) = x.toNat + 2 ^ w * value ws := by
  unfold value
  rw [List.map_cons, Nat.ofDigits_cons]

theorem value_zeros (n : ℕ) : value (List.replicate n (0 : BitVec w)) = 0 := by
  unfold value
  rw [List.map_replicate]
  exact Nat.ofDigits_replicate_zero

theorem value_ones (n : ℕ) :
    value (List.replicate n (BitVec.allOnes w)) + 1 = 2 ^ (w * n) := by
  induction n with
  | zero => rfl
  | succ n ih =>
    have hpos : 0 < 2 ^ w := Nat.two_pow_pos w
    rw [List.replicate_succ, value_cons, BitVec.toNat_allOnes, Nat.mul_succ, pow_add, ← ih]
    calc 2 ^ w - 1 + 2 ^ w * value (List.replicate n (BitVec.allOnes w)) + 1
        = 2 ^ w * value (List.replicate n (BitVec.allOnes w)) + 2 ^ w := by omega
      _ = (value (List.replicate n (BitVec.allOnes w)) + 1) * 2 ^ w := by ring

/-- **Sign extension** adds the modulus to a negative number. -/
theorem value_extend (x : BitVec w) (n : ℕ) :
    (value (x :: List.replicate n (signWord x)) : ℤ) =
      x.toInt + if x.msb then 2 ^ (w * (n + 1)) else 0 := by
  rw [value_cons, BitVec.toInt_eq_msb_cond, signWord]
  by_cases hx : x.msb
  · have hones := value_ones (w := w) n
    have hpow : (2 : ℤ) ^ (w * (n + 1)) = 2 ^ w * 2 ^ (w * n) := by
      rw [Nat.mul_succ, pow_add, mul_comm]
    rw [if_pos hx, if_pos hx, if_pos hx, hpow]
    have hcast : (2 : ℤ) ^ (w * n) = value (List.replicate n (BitVec.allOnes w)) + 1 := by
      exact_mod_cast hones.symm
    rw [hcast]
    push_cast
    ring
  · rw [if_neg hx, if_neg hx, if_neg hx, value_zeros]
    simp

/-- The words are those of the first, sign-extended. -/
theorem lowFirst_eq_extend_iff (order : Order) (x : BitVec w) (ws : List (BitVec w)) :
    lowFirst order (x :: ws) = x :: List.replicate ws.length (signWord x) ↔
      (∀ y ∈ ws, y = signWord x) ∧ (order = .big → ws ≠ [] → x = signWord x) := by
  cases order with
  | little =>
    rw [lowFirst, List.cons_inj_right, List.eq_replicate_iff]
    simp
  | big =>
    rw [lowFirst, List.reverse_eq_iff, List.reverse_cons, List.reverse_replicate]
    cases ws with
    | nil => simp
    | cons y ws =>
      rw [List.length_cons, List.replicate_succ, List.cons_append, List.cons_eq_cons]
      constructor
      · rintro ⟨hx, hws⟩
        refine ⟨fun z hz => ?_, fun _ _ => hx⟩
        rw [hws, ← hx, ← List.replicate_succ', List.mem_replicate] at hz
        rw [hz.2, ← hx]
      · rintro ⟨hws, hx⟩
        have hfirst := hx rfl (List.cons_ne_nil y ws)
        refine ⟨hfirst, ?_⟩
        rw [← hfirst, ← List.replicate_succ', List.eq_replicate_iff]
        exact ⟨rfl, fun z hz => (hws z hz).trans hfirst.symm⟩

section First

variable (hw : 0 < w) (order : Order) (x : BitVec w) (ws : List (BitVec w))
include hw

theorem value_eq_extend_iff :
    unsigned order (x :: ws) = value (x :: List.replicate ws.length (signWord x)) ↔
      (∀ y ∈ ws, y = signWord x) ∧ (order = .big → ws ≠ [] → x = signWord x) := by
  rw [← lowFirst_eq_extend_iff]
  constructor
  · exact value_injective hw (by simp)
  · exact fun h => congrArg value h

/-- **A signed integer is its first word** exactly when the others are its sign words. -/
theorem signed_eq_toInt_iff :
    signed order (x :: ws) = x.toInt ↔
      (∀ y ∈ ws, y = signWord x) ∧ (order = .big → ws ≠ [] → x = signWord x) := by
  rw [← value_eq_extend_iff hw, signed, Int.bmod_eq_iff (Nat.two_pow_pos _), List.length_cons]
  have hext := value_extend x ws.length
  have hlt : unsigned order (x :: ws) < 2 ^ (w * (ws.length + 1)) := by
    have h := value_lt hw (lowFirst order (x :: ws))
    rwa [length_lowFirst, List.length_cons] at h
  have hlt' : value (x :: List.replicate ws.length (signWord x)) < 2 ^ (w * (ws.length + 1)) := by
    have h := value_lt hw (x :: List.replicate ws.length (signWord x))
    rwa [List.length_cons, List.length_replicate] at h
  -- the first word is in the range of the whole integer
  have hle : (2 : ℤ) ^ w ≤ 2 ^ (w * (ws.length + 1)) :=
    pow_le_pow_right₀ (by norm_num) (Nat.le_mul_of_pos_right w (Nat.succ_pos _))
  have hlow : (-(2 : ℤ) ^ w) ≤ 2 * x.toInt := BitVec.le_two_mul_toInt
  have hhigh : 2 * x.toInt < (2 : ℤ) ^ w := BitVec.two_mul_toInt_lt
  have hcast : (2 : ℤ) ^ (w * (ws.length + 1)) = ((2 ^ (w * (ws.length + 1)) : ℕ) : ℤ) := by
    push_cast
    rfl
  rw [hcast] at hext hle
  generalize 2 ^ (w * (ws.length + 1)) = M at hext hlt hlt' hle ⊢
  generalize value (x :: List.replicate ws.length (signWord x)) = v at hext hlt' ⊢
  -- `v` and the first word differ by the modulus or not at all
  have hdvd : (M : ℤ) ∣ v - x.toInt := by
    rw [hext, add_sub_cancel_left]
    split_ifs
    · exact dvd_rfl
    · exact dvd_zero _
  constructor
  · rintro ⟨-, -, h⟩
    have hdiff : (M : ℤ) ∣ v - unsigned order (x :: ws) := by
      simpa using dvd_add hdvd h
    have hzero := Int.eq_zero_of_abs_lt_dvd hdiff (by rw [abs_lt]; omega)
    omega
  · intro h
    rw [h]
    exact ⟨by omega, by omega, dvd_sub_comm.1 hdvd⟩

/-- **An unsigned integer is its first word, read as signed,** exactly when that word is not
negative and the others are 0. -/
theorem unsigned_eq_toInt_iff :
    (unsigned order (x :: ws) : ℤ) = x.toInt ↔ x.msb = false ∧
      (∀ y ∈ ws, y = signWord x) ∧ (order = .big → ws ≠ [] → x = signWord x) := by
  rw [← value_eq_extend_iff hw]
  have hext := value_extend x ws.length
  cases hx : x.msb with
  | false =>
    rw [hx, if_neg Bool.false_ne_true, add_zero] at hext
    rw [← hext, Nat.cast_inj]
    simp
  | true =>
    have hneg : x.toInt < 0 := BitVec.toInt_neg_of_msb_true hx
    constructor
    · intro h
      omega
    · intro h
      cases h.1

end First

end Words
