import Mathlib.Data.List.DropRight
import Mathlib.Data.List.Lex
import Mathlib.Data.String.Basic
import Mathlib.Tactic

/-!
# Lexicographic order

`Before l m`: at the first place at which they differ, which both lists have, `l` has the
smaller element. What follows that place does not matter (`Before.append`), so that texts made
of several parts are compared part by part.

* `Before.rdropWhile`: lists without their trailing least elements, each ended by a smaller
  terminator, are in the order of the whole lists, however long they are.
* `lt_iff_bytes_lt`: **texts are in the order of their UTF-8 bytes.**
-/

namespace Lexicographic

inductive Before {α : Type*} [LT α] : List α → List α → Prop
  | head {a b : α} {l m : List α} : a < b → Before (a :: l) (b :: m)
  | tail {a : α} {l m : List α} : Before l m → Before (a :: l) (a :: m)

section

variable {α : Type*} [LT α] {l m s s' : List α} {a b : α}

theorem Before.append (h : Before l m) (s s' : List α) : Before (l ++ s) (m ++ s') := by
  induction h with
  | head hab => exact .head hab
  | tail _ ih => exact .tail ih

theorem Before.append_left (h : Before l m) (s : List α) : Before (s ++ l) (s ++ m) := by
  induction s with
  | nil => exact h
  | cons a s ih => exact .tail ih

theorem Before.lt (h : Before l m) : l < m := by
  induction h with
  | head hab => exact List.Lex.rel hab
  | tail _ ih => exact List.Lex.cons ih

/-- Two parts: the first decides, or the second if the first are equal. -/
theorem before_parts (h : Before l m ∨ l = m ∧ Before s s') : Before (l ++ s) (m ++ s') := by
  rcases h with h | ⟨rfl, h⟩
  · exact h.append s s'
  · exact h.append_left l

theorem not_before_nil : ¬ Before l [] := fun h => nomatch h

theorem before_cons_iff : Before (a :: l) (b :: m) ↔ a < b ∨ a = b ∧ Before l m := by
  constructor
  · intro h
    cases h with
    | head hab => exact .inl hab
    | tail h => exact .inr ⟨rfl, h⟩
  · rintro (hab | ⟨rfl, h⟩)
    · exact .head hab
    · exact .tail h

end

section Trailing

variable {α : Type*} [LinearOrder α] {l m : List α} {z e : α}

/-- Nothing is before the least list. -/
theorem not_before_replicate (hl : ∀ a ∈ l, z ≤ a) (k : ℕ) : ¬ Before l (List.replicate k z) := by
  induction l generalizing k with
  | nil => exact fun h => nomatch h
  | cons a l ih =>
    intro h
    cases k with
    | zero => exact not_before_nil h
    | succ k =>
      rw [List.replicate_succ, before_cons_iff] at h
      have hza := hl a List.mem_cons_self
      rcases h with h | ⟨-, h⟩
      · exact absurd h (not_lt.mpr hza)
      · exact ih (fun x hx => hl x (List.mem_cons_of_mem _ hx)) k h

/-- A terminator below all elements takes the place of the least ones. -/
theorem before_terminated (he : e < z) (hl : ∀ a ∈ l, z ≤ a) (hm : ∀ a ∈ m, z ≤ a) {j k : ℕ}
    (h : Before (l ++ List.replicate j z) (m ++ List.replicate k z)) (s s' : List α) :
    Before (l ++ e :: s) (m ++ e :: s') := by
  induction l generalizing m with
  | nil =>
    cases m with
    | nil =>
      have hj : ∀ a ∈ List.replicate j z, z ≤ a := fun a ha => (List.eq_of_mem_replicate ha).ge
      exact absurd h (not_before_replicate hj k)
    | cons b m => exact .head (he.trans_le (hm b List.mem_cons_self))
  | cons a l ih =>
    have hl' : ∀ x ∈ l, z ≤ x := fun x hx => hl x (List.mem_cons_of_mem _ hx)
    cases m with
    | nil =>
      have hall : ∀ x ∈ a :: l ++ List.replicate j z, z ≤ x := by
        intro x hx
        rcases List.mem_append.mp hx with hx | hx
        · exact hl x hx
        · exact (List.eq_of_mem_replicate hx).ge
      exact absurd h (not_before_replicate hall k)
    | cons b m =>
      rw [List.cons_append, List.cons_append, before_cons_iff] at h ⊢
      have hm' : ∀ x ∈ m, z ≤ x := fun x hx => hm x (List.mem_cons_of_mem _ hx)
      exact h.imp_right fun h => ⟨h.1, ih hl' hm' h.2⟩

theorem exists_replicate (l : List α) (z : α) :
    ∃ k, l = l.rdropWhile (· = z) ++ List.replicate k z := by
  have hall : ∀ a ∈ l.rtakeWhile (· = z), a = z := by
    intro a ha
    have hdec := List.mem_rtakeWhile_imp ha
    exact of_decide_eq_true hdec
  refine ⟨(l.rtakeWhile (· = z)).length, ?_⟩
  rw [← List.eq_replicate_of_mem hall, List.rdropWhile_append_rtakeWhile]

/-- **Trailing least elements** may be dropped, if a smaller element ends both lists. -/
theorem Before.rdropWhile (h : Before l m) (he : e < z) (hl : ∀ a ∈ l, z ≤ a) (hm : ∀ a ∈ m, z ≤ a)
    (s s' : List α) :
    Before (l.rdropWhile (· = z) ++ e :: s) (m.rdropWhile (· = z) ++ e :: s') := by
  obtain ⟨j, hj⟩ := exists_replicate l z
  obtain ⟨k, hk⟩ := exists_replicate m z
  rw [hj, hk] at h
  have hl' : ∀ a ∈ l.rdropWhile (· = z), z ≤ a := fun a ha => hl a ((List.rdropWhile_prefix _ l).subset ha)
  have hm' : ∀ a ∈ m.rdropWhile (· = z), z ≤ a := fun a ha => hm a ((List.rdropWhile_prefix _ m).subset ha)
  exact before_terminated he hl' hm' h s s'

/-- A list that is not the least keeps an element. -/
theorem Before.rdropWhile_ne_nil (h : Before l m) (hl : ∀ a ∈ l, z ≤ a) : m.rdropWhile (· = z) ≠ [] := by
  intro hnil
  obtain ⟨k, hk⟩ := exists_replicate m z
  rw [hnil, List.nil_append] at hk
  rw [hk] at h
  exact not_before_replicate hl k h

end Trailing

/-! ## UTF-8 -/

/-- The bytes of a text. -/
def bytes (s : String) : List UInt8 := s.toUTF8.data.toList

theorem bytes_eq (s : String) : bytes s = s.toList.flatMap String.utf8EncodeChar := by
  have hdata : (String.ofList s.toList).toByteArray.data.toList = s.toList.flatMap String.utf8EncodeChar := by
    rw [String.toByteArray_ofList, List.utf8Encode, List.toList_data_toByteArray]
  rwa [String.ofList_toList] at hdata

/-- The bytes of a code point as numbers: a larger one has as many or more. -/
def utf8Code (v : ℕ) : List ℕ :=
  if v ≤ 0x7f then [v]
  else if v ≤ 0x7ff then [v / 64 % 0x20 + 0xc0, v % 0x40 + 0x80]
  else if v ≤ 0xffff then [v / 4096 % 0x10 + 0xe0, v / 64 % 0x40 + 0x80, v % 0x40 + 0x80]
  else [v / 262144 % 0x08 + 0xf0, v / 4096 % 0x40 + 0x80, v / 64 % 0x40 + 0x80, v % 0x40 + 0x80]

theorem utf8EncodeChar_eq (c : Char) : String.utf8EncodeChar c = (utf8Code c.val.toNat).map UInt8.ofNat := by
  unfold String.utf8EncodeChar utf8Code
  dsimp only
  split_ifs <;> rfl

theorem utf8Code_lt {v b : ℕ} (hb : b ∈ utf8Code v) : b < 256 := by
  unfold utf8Code at hb
  split_ifs at hb <;> simp only [List.mem_cons, List.not_mem_nil, or_false] at hb <;> omega

theorem before_utf8Code {v w : ℕ} (h : v < w) (hw : w < 0x110000) : Before (utf8Code v) (utf8Code w) := by
  have hv : v / 262144 % 8 = v / 262144 := by omega
  have hw : w / 262144 % 8 = w / 262144 := by omega
  unfold utf8Code
  split_ifs <;> simp only [before_cons_iff, not_before_nil, and_false, or_false, hv, hw,
    Nat.add_lt_add_iff_right, Nat.add_right_cancel_iff] <;> omega

theorem Before.map_ofNat {l m : List ℕ} (h : Before l m) (hl : ∀ a ∈ l, a < 256) (hm : ∀ a ∈ m, a < 256) :
    Before (l.map UInt8.ofNat) (m.map UInt8.ofNat) := by
  induction h with
  | head hab =>
    refine .head ?_
    have ha := UInt8.toNat_ofNat_of_lt' (hl _ List.mem_cons_self)
    have hb := UInt8.toNat_ofNat_of_lt' (hm _ List.mem_cons_self)
    rwa [UInt8.lt_iff_toNat_lt, ha, hb]
  | tail _ ih =>
    exact .tail (ih (fun a ha => hl a (List.mem_cons_of_mem _ ha)) fun a ha => hm a (List.mem_cons_of_mem _ ha))

theorem before_utf8EncodeChar {c d : Char} (h : c < d) :
    Before (String.utf8EncodeChar c) (String.utf8EncodeChar d) := by
  have hlt : c.val.toNat < d.val.toNat := h
  have hd : d.val.toNat < 0x110000 := by
    have hvalid : d.val.toNat < 0xd800 ∨ 0xdfff < d.val.toNat ∧ d.val.toNat < 0x110000 := d.valid
    omega
  rw [utf8EncodeChar_eq, utf8EncodeChar_eq]
  exact (before_utf8Code hlt hd).map_ofNat (fun _ => utf8Code_lt) fun _ => utf8Code_lt

theorem flatMap_utf8EncodeChar_lt {l m : List Char} (h : l < m) :
    l.flatMap String.utf8EncodeChar < m.flatMap String.utf8EncodeChar := by
  have hlex : List.Lex (· < ·) l m := h
  induction hlex with
  | @nil c m =>
    rw [List.flatMap_nil, List.flatMap_cons]
    cases henc : String.utf8EncodeChar c with
    | nil =>
      have hlen := String.length_utf8EncodeChar c
      have hpos := c.utf8Size_pos
      rw [henc, List.length_nil] at hlen
      omega
    | cons b bs => exact List.Lex.nil
  | @cons c l m _ ih =>
    rw [List.flatMap_cons, List.flatMap_cons]
    exact List.append_left_lt (ih ‹_›)
  | @rel c l d m hcd =>
    rw [List.flatMap_cons, List.flatMap_cons]
    exact ((before_utf8EncodeChar hcd).append _ _).lt

/-- **Texts are in the order of their bytes.** -/
theorem lt_iff_bytes_lt (s t : String) : s < t ↔ bytes s < bytes t := by
  have hmono : ∀ {s t : String}, s < t → bytes s < bytes t := by
    intro s t h
    rw [bytes_eq, bytes_eq]
    exact flatMap_utf8EncodeChar_lt (String.lt_iff_toList_lt.mp h)
  constructor
  · exact hmono
  · intro h
    rcases lt_trichotomy s t with hlt | rfl | hgt
    · exact hlt
    · exact absurd h (List.lt_irrefl _)
    · exact absurd (hmono hgt) (List.lt_asymm h)

end Lexicographic
