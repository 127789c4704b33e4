import Mathlib.Algebra.BigOperators.Group.Finset.Basic
import Mathlib.Algebra.Field.ZMod
import Mathlib.Data.List.GetD
import Mathlib.Logic.Function.Iterate
import Mathlib.Tactic.Ring

/-!
# Cyclic redundancy checks, least significant bit first

A register of `w` bits, a polynomial `p` (reflected, its top coefficient left out), and a
message fed in bit by bit. The register is linear in what it starts from and in the message
(`feed_xor`), so that what an error pattern does to the check is what the register makes of
the pattern alone, from zero (`feed_eq_zero_of_xor`).

* `feed_burst_ne_zero`: a burst of at most `w` bits never vanishes.
* `feed_odd_ne_zero`: nor does an odd number of flips, if `x + 1` divides the polynomial.
* `feed_double_ne_zero`: nor do two flips closer than the order of the polynomial.
-/

namespace Crc

variable {w : ℕ}

/-- One round of the register. -/
def shift (p c : BitVec w) : BitVec w := if c.getLsbD 0 then c >>> 1 ^^^ p else c >>> 1

/-- A bit at the register's low end. -/
def bit (b : Bool) : BitVec w := if b then 1#w else 0#w

/-- The register after the message `bits`. -/
def feed (p c : BitVec w) (bits : List Bool) : BitVec w :=
  bits.foldl (fun c b => shift p (c ^^^ bit b)) c

@[simp] theorem feed_nil (p c : BitVec w) : feed p c [] = c := rfl

@[simp] theorem feed_cons (p c : BitVec w) (b : Bool) (bits : List Bool) :
    feed p c (b :: bits) = feed p (shift p (c ^^^ bit b)) bits := rfl

theorem feed_append (p c : BitVec w) (bits more : List Bool) :
    feed p c (bits ++ more) = feed p (feed p c bits) more := List.foldl_append

/-! ### Linearity -/

@[simp] theorem bit_false : (bit false : BitVec w) = 0#w := rfl

theorem bit_xor (a b : Bool) : (bit (a ^^ b) : BitVec w) = bit a ^^^ bit b := by
  cases a <;> cases b <;> simp [bit]

@[simp] theorem shift_zero (p : BitVec w) : shift p 0#w = 0#w := by simp [shift]

/-- **A round is linear.** -/
theorem shift_xor (p a b : BitVec w) : shift p (a ^^^ b) = shift p a ^^^ shift p b := by
  have hcancel : a >>> 1 ^^^ p ^^^ (b >>> 1 ^^^ p) = a >>> 1 ^^^ b >>> 1 := by
    rw [BitVec.xor_assoc, BitVec.xor_comm (b >>> 1) p, ← BitVec.xor_assoc p p, BitVec.xor_self,
      BitVec.zero_xor]
  simp only [shift, BitVec.getLsbD_xor, BitVec.ushiftRight_xor_distrib]
  cases a.getLsbD 0 <;> cases b.getLsbD 0
  · rfl
  · exact BitVec.xor_assoc _ _ _
  · show a >>> 1 ^^^ b >>> 1 ^^^ p = a >>> 1 ^^^ p ^^^ b >>> 1
    rw [BitVec.xor_assoc, BitVec.xor_assoc, BitVec.xor_comm p]
  · exact hcancel.symm

/-- **The register is linear** in its start and in the message. -/
theorem feed_xor (p : BitVec w) {bits more : List Bool} (hlen : bits.length = more.length)
    (a b : BitVec w) :
    feed p (a ^^^ b) (List.zipWith xor bits more) = feed p a bits ^^^ feed p b more := by
  induction bits generalizing more a b with
  | nil =>
    cases more with
    | nil => rfl
    | cons y ys => cases hlen
  | cons x xs ih =>
    cases more with
    | nil => cases hlen
    | cons y ys =>
      have hin : a ^^^ b ^^^ bit (x ^^ y) = a ^^^ bit x ^^^ (b ^^^ bit y) := by
        rw [bit_xor]
        ac_rfl
      rw [List.zipWith_cons_cons, feed_cons, feed_cons, feed_cons, hin, shift_xor,
        ih (Nat.succ.inj hlen)]

/-- If a message and its corruption leave the same in the register, then the error pattern
leaves nothing. -/
theorem feed_eq_zero_of_xor {p c : BitVec w} {bits e : List Bool} (hlen : bits.length = e.length)
    (h : feed p c (List.zipWith xor bits e) = feed p c bits) : feed p 0#w e = 0#w := by
  have hlin := feed_xor p hlen c 0#w
  rw [BitVec.xor_zero, h] at hlin
  have hself : feed p c bits ^^^ feed p c bits ^^^ feed p 0#w e = 0#w := by
    rw [BitVec.xor_assoc, ← hlin, BitVec.xor_self]
  rwa [BitVec.xor_self, BitVec.zero_xor] at hself

theorem feed_replicate_false (p c : BitVec w) (n : ℕ) :
    feed p c (List.replicate n false) = (shift p)^[n] c := by
  induction n generalizing c with
  | zero => rfl
  | succ n ih =>
    rw [List.replicate_succ, feed_cons, bit_false, BitVec.xor_zero, ih,
      Function.iterate_succ_apply]

theorem feed_zeros (p : BitVec w) (n : ℕ) : feed p 0#w (List.replicate n false) = 0#w := by
  rw [feed_replicate_false]
  exact Function.iterate_fixed (shift_zero p) n

/-! ### A round loses nothing -/

/-- With the constant coefficient in place, only zero is sent to zero. -/
theorem eq_zero_of_shift {p c : BitVec w} (hp : p.msb = true) (h : shift p c = 0#w) : c = 0#w := by
  have hw : 0 < w := by
    rcases Nat.eq_zero_or_pos w with rfl | hw
    · rw [BitVec.eq_nil p] at hp
      cases hp
    · exact hw
  unfold shift at h
  split at h
  next hlow =>
    -- the top bit comes from `p` alone
    have htop := congrArg BitVec.msb h
    rw [BitVec.msb_xor, hp, BitVec.msb_ushiftRight] at htop
    simp at htop
  next hlow =>
    apply BitVec.eq_of_getLsbD_eq
    intro i hi
    cases i with
    | zero => simpa using hlow
    | succ i =>
      have hbit := congrArg (fun x => x.getLsbD i) h
      simpa [BitVec.getLsbD_ushiftRight, Nat.add_comm] using hbit

theorem eq_zero_of_iterate_shift {p c : BitVec w} (hp : p.msb = true) (n : ℕ)
    (h : (shift p)^[n] c = 0#w) : c = 0#w := by
  induction n generalizing c with
  | zero => exact h
  | succ n ih => exact eq_zero_of_shift hp (ih (by rwa [Function.iterate_succ_apply] at h))

/-! ### Short messages -/

/-- A message of at most `w` bits, as a register. -/
def pack : List Bool → BitVec w
  | [] => 0#w
  | b :: bits => bit b ^^^ pack bits <<< 1

theorem getLsbD_bit (b : Bool) (i : ℕ) :
    (bit b : BitVec w).getLsbD i = (decide (i < w) && decide (i = 0) && b) := by
  cases b with
  | false => simp [bit]
  | true =>
    rw [bit, if_pos rfl, BitVec.getLsbD_one, Bool.and_true, ← Bool.decide_and, ← Bool.decide_and]
    exact decide_eq_decide.mpr ⟨fun h => by omega, fun h => by omega⟩

theorem getLsbD_pack (bits : List Bool) (i : ℕ) :
    (pack bits : BitVec w).getLsbD i = (decide (i < w) && bits.getD i false) := by
  induction bits generalizing i with
  | nil => simp [pack]
  | cons b bits ih =>
    rw [pack, BitVec.getLsbD_xor, getLsbD_bit, BitVec.getLsbD_shiftLeft]
    cases i with
    | zero => simp
    | succ i =>
      rw [Nat.add_sub_cancel, ih]
      by_cases hi : i + 1 < w
      · have : i < w := by omega
        simp [hi, this]
      · simp [hi]

/-- A round undoes a shift to the left that loses no bit. -/
theorem shift_shiftLeft {p x : BitVec w} (hx : ∀ i, w ≤ i + 1 → x.getLsbD i = false) :
    shift p (x <<< 1) = x := by
  have hlow : (x <<< 1).getLsbD 0 = false := by simp
  rw [shift, hlow, if_neg Bool.false_ne_true]
  apply BitVec.eq_of_getLsbD_eq
  intro i hi
  rw [BitVec.getLsbD_ushiftRight, BitVec.getLsbD_shiftLeft]
  by_cases htop : 1 + i < w
  · have : 1 + i - 1 = i := by omega
    simp [htop, this]
  · rw [hx i (by omega)]
    simp [htop]

/-- **A short message enters at once**: the register takes it in and then only shifts. -/
theorem feed_eq_iterate (p c : BitVec w) {bits : List Bool} (hlen : bits.length ≤ w) :
    feed p c bits = (shift p)^[bits.length] (c ^^^ pack bits) := by
  induction bits generalizing c with
  | nil => simp [pack]
  | cons b bits ih =>
    have hfit : shift p (pack bits <<< 1) = (pack bits : BitVec w) := by
      apply shift_shiftLeft
      intro i hi
      rw [getLsbD_pack, List.getD_eq_default _ _ (by rw [List.length_cons] at hlen; omega),
        Bool.and_false]
    rw [feed_cons, ih _ (by rw [List.length_cons] at hlen; omega), List.length_cons,
      Function.iterate_succ_apply, pack, ← BitVec.xor_assoc, shift_xor p (c ^^^ bit b), hfit]

/-! ### Error patterns -/

/-- The flipped bits lie within `n` consecutive ones. -/
def Burst (n : ℕ) (e : List Bool) : Prop :=
  ∃ start, ∀ i, e.getD i false = true → start ≤ i ∧ i < start + n

theorem eq_replicate_of_clear {e : List Bool} (h : ∀ i, e.getD i false = false) :
    e = List.replicate e.length false := by
  apply List.ext_getElem (by simp)
  intro i hi _
  have hbit := h i
  rw [List.getD_eq_getElem _ _ hi] at hbit
  rw [hbit, List.getElem_replicate]

/-- A burst is a short message between zeros. -/
theorem Burst.split {n : ℕ} {e : List Bool} (h : Burst n e) :
    ∃ a b c, e = List.replicate a false ++ b ++ List.replicate c false ∧ b.length ≤ n := by
  obtain ⟨start, hin⟩ := h
  have hout : ∀ i, ¬ (start ≤ i ∧ i < start + n) → e.getD i false = false := fun i hi =>
    Bool.eq_false_iff.mpr fun hset => hi (hin i hset)
  have hbefore : e.take start = List.replicate (e.take start).length false := by
    apply eq_replicate_of_clear
    intro i
    rw [List.getD_eq_getElem?_getD, List.getElem?_take]
    split
    · rw [← List.getD_eq_getElem?_getD, hout i (by omega)]
    · rfl
  have hafter : (e.drop start).drop n = List.replicate ((e.drop start).drop n).length false := by
    apply eq_replicate_of_clear
    intro i
    rw [List.getD_eq_getElem?_getD, List.getElem?_drop, List.getElem?_drop,
      ← List.getD_eq_getElem?_getD, hout _ (by omega)]
  refine ⟨(e.take start).length, (e.drop start).take n, ((e.drop start).drop n).length, ?_,
    List.length_take_le n _⟩
  rw [← hbefore, ← hafter, List.append_assoc, List.take_append_drop, List.take_append_drop]

/-- The first flipped bit. -/
theorem exists_first {e : List Bool} (h : e.count true ≠ 0) :
    ∃ a rest, e = List.replicate a false ++ true :: rest ∧ e.count true = rest.count true + 1 := by
  induction e with
  | nil => exact absurd rfl h
  | cons b e ih =>
    cases b with
    | true => exact ⟨0, e, rfl, List.count_cons_self⟩
    | false =>
      rw [List.count_cons_of_ne (by decide)] at h
      obtain ⟨a, rest, he, hcount⟩ := ih h
      refine ⟨a + 1, rest, ?_, ?_⟩
      · rw [he]
        rfl
      · rw [List.count_cons_of_ne (by decide), hcount]

theorem eq_replicate_of_count {e : List Bool} (h : e.count true = 0) :
    e = List.replicate e.length false := by
  apply List.eq_replicate_of_mem
  intro b hb
  cases b with
  | false => rfl
  | true => exact absurd hb (List.count_eq_zero.mp h)

/-- Two flips, the second `d + 1` places after the first. -/
theorem exists_double {e : List Bool} (h : e.count true = 2) :
    ∃ a d c, e = List.replicate a false ++ true :: (List.replicate d false ++
      true :: List.replicate c false) ∧ d + 2 ≤ e.length := by
  obtain ⟨a, rest, he, hcount⟩ := exists_first (by rw [h]; decide)
  obtain ⟨d, last, hrest, hlast⟩ := exists_first (e := rest) (by omega)
  have hclear := eq_replicate_of_count (e := last) (by omega)
  refine ⟨a, d, last.length, ?_, ?_⟩
  · rw [he, hrest, ← hclear]
  · have hlen := congrArg List.length he
    rw [hrest] at hlen
    simp only [List.length_append, List.length_cons, List.length_replicate] at hlen
    omega

/-! ### What the check detects -/

/-- **Bursts.** A non-zero pattern within `w` consecutive bits leaves something. -/
theorem feed_burst_ne_zero {p : BitVec w} (hp : p.msb = true) {e : List Bool} (hb : Burst w e)
    (he : true ∈ e) : feed p 0#w e ≠ 0#w := by
  obtain ⟨a, b, c, rfl, hlen⟩ := hb.split
  have hset : true ∈ b := by simpa [List.mem_replicate] using he
  intro h
  rw [feed_append, feed_append, feed_zeros, feed_replicate_false, feed_eq_iterate p _ hlen,
    BitVec.zero_xor] at h
  have hpack : (pack b : BitVec w) = 0#w :=
    eq_zero_of_iterate_shift hp _ (eq_zero_of_iterate_shift hp _ h)
  obtain ⟨i, hi, hbit⟩ := List.getElem_of_mem hset
  have hcontra := congrArg (fun x : BitVec w => x.getLsbD i) hpack
  rw [getLsbD_pack, List.getD_eq_getElem _ _ hi, hbit] at hcontra
  have : i < w := by omega
  simp [this] at hcontra

/-- The sum of the bits modulo 2. -/
def parity (c : BitVec w) : ZMod 2 :=
  ∑ i ∈ Finset.range w, if c.getLsbD i then 1 else 0

theorem parity_xor (a b : BitVec w) : parity (a ^^^ b) = parity a + parity b := by
  rw [parity, parity, parity, ← Finset.sum_add_distrib]
  apply Finset.sum_congr rfl
  intro i _
  rw [BitVec.getLsbD_xor]
  cases a.getLsbD i <;> cases b.getLsbD i <;> decide

@[simp] theorem parity_zero : parity 0#w = 0 := by simp [parity]

/-- A shift to the right drops the lowest bit from the sum. -/
theorem parity_shiftRight (c : BitVec w) :
    parity (c >>> 1) + (if c.getLsbD 0 then 1 else 0) = parity c := by
  have hsucc := Finset.sum_range_succ' (fun i => if c.getLsbD i then (1 : ZMod 2) else 0) w
  have hlast := Finset.sum_range_succ (fun i => if c.getLsbD i then (1 : ZMod 2) else 0) w
  have hover : c.getLsbD w = false := BitVec.getLsbD_of_ge c w (Nat.le_refl w)
  rw [hover, if_neg Bool.false_ne_true, add_zero] at hlast
  rw [parity, parity, ← hlast, hsucc]
  congr 1
  apply Finset.sum_congr rfl
  intro i _
  rw [BitVec.getLsbD_ushiftRight, Nat.add_comm]

/-- If `x + 1` divides the polynomial, a round keeps the parity. -/
theorem parity_shift {p : BitVec w} (hp : parity p = 1) (c : BitVec w) :
    parity (shift p c) = parity c := by
  rw [← parity_shiftRight c]
  unfold shift
  split
  · rw [parity_xor, hp]
  · rw [add_zero]

theorem parity_bit (hw : 0 < w) (b : Bool) : parity (bit b : BitVec w) = if b then 1 else 0 := by
  cases b with
  | false => simp
  | true =>
    rw [parity, Finset.sum_eq_single_of_mem 0 (Finset.mem_range.mpr hw)]
    · simp [getLsbD_bit, hw]
    · intro i _ hi
      simp [getLsbD_bit, hi]

theorem parity_feed {p : BitVec w} (hw : 0 < w) (hp : parity p = 1) (c : BitVec w)
    (e : List Bool) : parity (feed p c e) = parity c + (e.count true : ZMod 2) := by
  induction e generalizing c with
  | nil => simp
  | cons b e ih =>
    rw [feed_cons, ih, parity_shift hp, parity_xor, parity_bit hw, List.count_cons]
    cases b with
    | false => simp
    | true =>
      simp only [if_true, beq_self_eq_true, Nat.cast_add, Nat.cast_one]
      ring

/-- **Odd patterns.** An odd number of flips leaves something. -/
theorem feed_odd_ne_zero {p : BitVec w} (hw : 0 < w) (hp : parity p = 1) {e : List Bool}
    (he : e.count true % 2 = 1) : feed p 0#w e ≠ 0#w := by
  intro h
  have hpar := parity_feed hw hp 0#w e
  rw [h, parity_zero, zero_add] at hpar
  have heven := (ZMod.natCast_eq_zero_iff _ _).mp hpar.symm
  omega

/-- **Double flips.** Two flips leave something when their distance is no period of the
register. -/
theorem feed_double_ne_zero {p : BitVec w} (hp : p.msb = true) {e : List Bool}
    (hperiod : ∀ d, 0 < d → d < e.length → (shift p)^[d] 1#w ≠ 1#w)
    (he : e.count true = 2) : feed p 0#w e ≠ 0#w := by
  obtain ⟨a, d, c, hsplit, hlen⟩ := exists_double he
  intro h
  rw [hsplit, feed_append, feed_zeros, feed_cons, feed_append, feed_replicate_false, feed_cons,
    feed_replicate_false, BitVec.zero_xor] at h
  have hmeet := eq_zero_of_shift hp (eq_zero_of_iterate_shift hp _ h)
  rw [← Function.iterate_succ_apply] at hmeet
  exact hperiod (d + 1) (by omega) (by omega) (BitVec.xor_eq_zero_iff.mp hmeet)

/-- No period of the register from `c` up to `n`: it does not come to `x` in `n` rounds. -/
def avoids (p x : BitVec w) : ℕ → BitVec w → Bool
  | 0, _ => true
  | n + 1, c => shift p c != x && avoids p x n (shift p c)

theorem iterate_ne_of_avoids {p x c : BitVec w} {n : ℕ} (h : avoids p x n c = true) :
    ∀ d, 0 < d → d ≤ n → (shift p)^[d] c ≠ x := by
  induction n generalizing c with
  | zero => intro d hd hle; omega
  | succ n ih =>
    rw [avoids, Bool.and_eq_true, bne_iff_ne] at h
    intro d hd hle
    obtain ⟨d, rfl⟩ : ∃ k, d = k + 1 := ⟨d - 1, by omega⟩
    rw [Function.iterate_succ_apply]
    cases d with
    | zero => exact h.1
    | succ d => exact ih h.2 (d + 1) (by omega) (by omega)

end Crc
