import IotGateway.Hal.Serial
import IotGateway.Num.Crc

/-!
# Corrupted replies

`crc16_modbus` is the register of `Num.Crc` with the polynomial `0xA001` over the frame's
bits in the order of transmission (`crc16Modbus_eq_feed`), and the check of a reply asks that
the whole frame leaves zero in it (`crcOk_iff_feed`). What an error pattern can hide behind is
then a property of the pattern alone.

`corrupted_reply_refused`: **a reply hit by a burst of at most 16 bits, by an odd number of
flips or by two flips is refused.**
-/

namespace Hal

/-- `0xA001` -/
def poly : Word := 0xA001

/-- A byte's bits in the order of transmission. -/
def byteBits (b : Byte) : List Bool := (List.range 8).map b.getLsbD

/-- A frame's bits in the order of transmission. -/
def frameBits (frame : List Byte) : List Bool := frame.flatMap byteBits

/-- A frame with the bits of `e` flipped. -/
def xorBytes (frame e : List Byte) : List Byte := List.zipWith (· ^^^ ·) frame e

/-! ### Bits -/

@[simp] theorem byteBits_length (b : Byte) : (byteBits b).length = 8 := by simp [byteBits]

theorem frameBits_cons (b : Byte) (frame : List Byte) :
    frameBits (b :: frame) = byteBits b ++ frameBits frame := rfl

theorem frameBits_append (frame more : List Byte) :
    frameBits (frame ++ more) = frameBits frame ++ frameBits more := List.flatMap_append

@[simp] theorem frameBits_length (frame : List Byte) :
    (frameBits frame).length = 8 * frame.length := by
  induction frame with
  | nil => rfl
  | cons b frame ih =>
    rw [frameBits_cons, List.length_append, byteBits_length, ih, List.length_cons]
    omega

theorem byteBits_xor (b e : Byte) :
    byteBits (b ^^^ e) = List.zipWith xor (byteBits b) (byteBits e) := by
  rw [byteBits, byteBits, byteBits, List.zipWith_map, List.zipWith_self]
  exact List.map_congr_left fun i _ => BitVec.getLsbD_xor

theorem frameBits_xorBytes {frame e : List Byte} (hlen : frame.length = e.length) :
    frameBits (xorBytes frame e) = List.zipWith xor (frameBits frame) (frameBits e) := by
  induction frame generalizing e with
  | nil => rfl
  | cons b frame ih =>
    cases e with
    | nil => cases hlen
    | cons x e =>
      have hhead : (byteBits b).length = (byteBits x).length := by simp
      rw [frameBits_cons, frameBits_cons, List.zipWith_append hhead, ← byteBits_xor,
        ← ih (Nat.succ.inj hlen)]
      rfl

/-- A pattern that flips something. -/
theorem true_mem_frameBits {e : List Byte} (he : ∃ b ∈ e, b ≠ 0) : true ∈ frameBits e := by
  obtain ⟨b, hb, hne⟩ := he
  refine List.mem_flatMap.mpr ⟨b, hb, ?_⟩
  by_contra hclear
  refine hne (BitVec.eq_of_getLsbD_eq fun i hi => ?_)
  have hbit : b.getLsbD i ∈ byteBits b := List.mem_map.mpr ⟨i, List.mem_range.mpr hi, rfl⟩
  cases hset : b.getLsbD i with
  | false => simp
  | true => exact absurd (hset ▸ hbit) hclear

/-! ### The check as a register -/

theorem crcBit_eq_shift : crcBit = Crc.shift poly := by
  funext c
  have hlow : (c &&& 1 ≠ 0) ↔ c.getLsbD 0 = true := by
    rw [show (1 : Word) = 1#16 from rfl, BitVec.and_one_eq_setWidth_ofBool_getLsbD]
    cases c.getLsbD 0 <;> decide
  unfold crcBit Crc.shift
  by_cases h : c.getLsbD 0 = true
  · rw [if_pos (hlow.mpr h), if_pos h]
    rfl
  · rw [if_neg (mt hlow.mp h), if_neg h]

theorem pack_byteBits (b : Byte) : (Crc.pack (byteBits b) : Word) = b.setWidth 16 := by
  apply BitVec.eq_of_getLsbD_eq
  intro i hi
  rw [Crc.getLsbD_pack, BitVec.getLsbD_setWidth]
  by_cases h8 : i < 8
  · simp [byteBits, hi, h8, List.getD_eq_getElem?_getD]
  · rw [List.getD_eq_default _ _ (by rw [byteBits_length]; omega),
      BitVec.getLsbD_of_ge b i (by omega)]

/-- **The checksum is the register** after the message. -/
theorem foldl_eq_feed (c : Word) (buf : List Byte) :
    buf.foldl (fun crc b => crcBit^[8] (crc ^^^ b.setWidth 16)) c =
      Crc.feed poly c (frameBits buf) := by
  induction buf generalizing c with
  | nil => rfl
  | cons b buf ih =>
    have hbyte : Crc.feed poly c (byteBits b) = crcBit^[8] (c ^^^ b.setWidth 16) := by
      rw [Crc.feed_eq_iterate _ _ (by simp), byteBits_length, pack_byteBits, crcBit_eq_shift]
    rw [List.foldl_cons, ih, frameBits_cons, Crc.feed_append, hbyte]

theorem crc16Modbus_eq_feed (buf : List Byte) :
    crc16Modbus buf = Crc.feed poly 0xFFFF (frameBits buf) := foldl_eq_feed _ buf

theorem poly_msb : poly.msb = true := by decide

theorem pack_two (lo hi : Byte) :
    (Crc.pack (byteBits lo ++ byteBits hi) : Word) = word hi lo := by
  apply BitVec.eq_of_getLsbD_eq
  intro i hi16
  rw [Crc.getLsbD_pack]
  by_cases h8 : i < 8
  · rw [List.getD_append _ _ _ _ (by rw [byteBits_length]; omega)]
    simp [byteBits, word, hi16, h8, List.getD_eq_getElem?_getD]
  · rw [List.getD_append_right _ _ _ _ (by rw [byteBits_length]; omega), byteBits_length]
    have hsub : i - 8 < 8 := by omega
    have hlow : lo.getLsbD i = false := BitVec.getLsbD_of_ge lo i (by omega)
    simp [byteBits, word, hi16, h8, hsub, hlow, List.getD_eq_getElem?_getD]

/-- **A frame passes the check** when it leaves zero in the register. -/
theorem crcOk_iff_feed {frame : List Byte} {n : ℕ} (hn : frame.length = n + 2) :
    crcOk frame (n + 2) = true ↔ Crc.feed poly 0xFFFF (frameBits frame) = 0#16 := by
  have hsplit : frame = frame.take n ++ [frame.getD n 0, frame.getD (n + 1) 0] := by
    have h0 := List.drop_eq_getElem_cons (show n < frame.length by omega)
    have h1 := List.drop_eq_getElem_cons (show n + 1 < frame.length by omega)
    have h2 : frame.drop (n + 1 + 1) = [] := List.drop_eq_nil_of_le (by omega)
    rw [List.getD_eq_getElem _ _ (by omega), List.getD_eq_getElem _ _ (by omega), ← h2, ← h1, ← h0,
      List.take_append_drop]
  have hfeed : Crc.feed poly 0xFFFF (frameBits frame) =
      (Crc.shift poly)^[16]
        (crc16Modbus (frame.take n) ^^^ word (frame.getD (n + 1) 0) (frame.getD n 0)) := by
    conv_lhs => rw [hsplit, frameBits_append, Crc.feed_append, ← crc16Modbus_eq_feed]
    rw [show frameBits [frame.getD n 0, frame.getD (n + 1) 0] =
        byteBits (frame.getD n 0) ++ byteBits (frame.getD (n + 1) 0) by simp [frameBits],
      Crc.feed_eq_iterate _ _ (by simp), pack_two]
    simp
  rw [crcOk_iff, hfeed, Nat.add_sub_cancel, show n + 2 - 1 = n + 1 by omega]
  constructor
  · intro h
    rw [h, BitVec.xor_self]
    exact Function.iterate_fixed (Crc.shift_zero poly) 16
  · intro h
    exact (BitVec.xor_eq_zero_iff.mp (Crc.eq_zero_of_iterate_shift poly_msb 16 h)).symm

/-! ### What is refused -/

/-- A burst of at most 16 bits, an odd number of flips, or two flips. -/
def Caught (e : List Bool) : Prop :=
  Crc.Burst 16 e ∨ e.count true % 2 = 1 ∨ e.count true = 2

/-- The register does not come back to 1 within the longest frame: 255 bytes. -/
theorem period {d : ℕ} (hpos : 0 < d) (hd : d < 2040) : (Crc.shift poly)^[d] 1#16 ≠ 1#16 := by
  have havoids : Crc.avoids poly 1#16 2040 1#16 = true := by decide +kernel
  exact Crc.iterate_ne_of_avoids havoids d hpos hd.le

/-- Such a pattern leaves something in the register. -/
theorem feed_ne_zero {e : List Bool} (hset : true ∈ e) (hlen : e.length ≤ 2040) (he : Caught e) :
    Crc.feed poly 0#16 e ≠ 0#16 := by
  rcases he with hburst | hodd | htwo
  · exact Crc.feed_burst_ne_zero poly_msb hburst hset
  · have hpar : Crc.parity poly = 1 := by decide
    exact Crc.feed_odd_ne_zero (by decide) hpar hodd
  · exact Crc.feed_double_ne_zero poly_msb (fun d hpos hd => period hpos (by omega)) htwo

/-- Two frames of one length that both pass the check differ by no such pattern. -/
theorem crcOk_xorBytes {frame e : List Byte} {n : ℕ} (hn : frame.length = n + 2)
    (hlong : n + 2 ≤ 255) (hlen : e.length = frame.length) (he : ∃ b ∈ e, b ≠ 0)
    (hcaught : Caught (frameBits e)) (hok : crcOk frame (n + 2) = true) :
    crcOk (xorBytes frame e) (n + 2) = false := by
  have hxlen : (xorBytes frame e).length = n + 2 := by
    rw [xorBytes, List.length_zipWith, hlen, min_self, hn]
  have hbits : (frameBits frame).length = (frameBits e).length := by
    rw [frameBits_length, frameBits_length, hlen]
  by_contra hcontra
  rw [Bool.not_eq_false, crcOk_iff_feed hxlen, frameBits_xorBytes hlen.symm,
    ← (crcOk_iff_feed hn).mp hok] at hcontra
  have hzero := Crc.feed_eq_zero_of_xor hbits hcontra
  exact feed_ne_zero (true_mem_frameBits he) (by rw [frameBits_length]; omega) hcaught hzero

/-- **A corrupted reply is refused.** If a call accepts a frame, then it does not accept the
frame with a burst of at most 16 bits, an odd number of bits or two bits flipped, however both
come in. -/
theorem corrupted_reply_refused {fd : ℤ} {q : ModbusRequest} {out : List Word}
    (hout : q.length.toNat ≤ out.length) {resp resp' : List Byte} (hresp : resp.length = 256)
    (hresp' : resp'.length = 256) {turns turns' : List Turn} (hpass : ∀ t ∈ turns, t.Passes)
    (hpass' : ∀ t ∈ turns', t.Passes) (hframe : (received turns).length = 5 + 2 * q.length.toNat)
    (hok : (gwRs485ModbusRead fd q (some out) 8 resp turns).map Prod.fst = some gwOk)
    {e : List Byte} (hlen : e.length = (received turns).length) (he : ∃ b ∈ e, b ≠ 0)
    (hcaught : Caught (frameBits e)) (hturns' : received turns' = xorBytes (received turns) e) :
    (gwRs485ModbusRead fd q (some out) 8 resp' turns').map Prod.fst ≠ some gwOk := by
  intro hok'
  obtain ⟨-, hq, hreply⟩ := (returns_ok_iff hout hresp hpass).mp hok
  obtain ⟨-, -, hreply'⟩ := (returns_ok_iff hout hresp' hpass').mp hok'
  have h125 := ModbusRequest.length_le hq
  have hn : (received turns).length = 3 + 2 * q.length.toNat + 2 := by omega
  have hsum : 5 + 2 * q.length.toNat = 3 + 2 * q.length.toNat + 2 := by omega
  have hcrc := (ModbusRequest.isReply_iff.mp hreply).2.2
  have hcrc' := (ModbusRequest.isReply_iff.mp hreply').2.2
  rw [hsum] at hcrc hcrc'
  rw [hturns', crcOk_xorBytes hn (by omega) hlen he hcaught hcrc] at hcrc'
  cases hcrc'

/-- One register; one bit of its value flipped. -/
theorem corrupted_register_refused :
    (gwRs485ModbusRead 3 ⟨1, 3, 0, 1⟩ (some [0]) 8 (List.replicate 256 0)
      [.arrives [1, 3, 2, 0, 43, 0x39, 0x9b]]).map Prod.fst ≠ some gwOk :=
  @corrupted_reply_refused 3 ⟨1, 3, 0, 1⟩ [0] (by decide) (List.replicate 256 0)
    (List.replicate 256 0) List.length_replicate List.length_replicate
    [.arrives [1, 3, 2, 0, 42, 0x39, 0x9b]] [.arrives [1, 3, 2, 0, 43, 0x39, 0x9b]] (by decide)
    (by decide) (by decide)
    ((returns_ok_iff (by decide) List.length_replicate (by decide)).mpr (by decide +kernel))
    [0, 0, 0, 0, 1, 0, 0] (by decide) (by decide) (.inr (.inl (by decide))) (by decide)

end Hal
