import IotGateway.Hal.Serial

/-!
# Writing a register

`gw_rs485_modbus_write` of `rs485.c`, on the same rounds as the read. It waits for the 8 bytes
of an echo before it looks at any of them, so an exception reply, of 5 bytes, is not seen when
nothing follows it: the call times out (`write_exception_timeout`), where
`gw_rs485_modbus_read` reports the exception (`read_exception_io`).

`write_classifies_iff`: **a write classifies a reply as it should unless its descriptor is
beyond an `fd_set`, or the reply is an exception and fewer than 8 bytes come in.**
-/

namespace Hal

/-- The arguments of `gw_rs485_modbus_write` that reach the line. -/
structure ModbusWrite where
  slave : Byte
  register : Word
  value : Word
deriving DecidableEq, Repr

namespace ModbusWrite

/-- The 8 bytes that are written. -/
def frame (q : ModbusWrite) : List Byte :=
  withCrc [q.slave, 0x06, hiByte q.register, loByte q.register, hiByte q.value, loByte q.value]

/-- The slave's exception reply. -/
def exceptionFrame (q : ModbusWrite) (code : Byte) : List Byte :=
  withCrc [q.slave, 0x06 ||| 0x80, code]

end ModbusWrite

/-- The checks of `gw_rs485_modbus_write` on the 8 bytes. -/
def echoChecks (req resp : List Byte) : Option ℤ := do
  let fn ← resp[1]?
  if fn &&& 0x80 ≠ 0 then some gwErrIo
  else if req.take 6 ≠ resp.take 6 then some gwErrCrc  -- `memcmp(req, resp, 6)`
  else do
    let lo ← resp[6]?
    let hi ← resp[7]?
    let crc ← crcOf resp 6
    if word hi lo ≠ crc then some gwErrCrc else some gwOk

/-- `gw_rs485_modbus_write`. Its `write` returns `wrote`, and `resp` is what the stack holds. -/
def gwRs485ModbusWrite (fd : ℤ) (q : ModbusWrite) (wrote : ℤ) (resp : List Byte)
    (turns : List Turn) : Option ℤ :=
  if fd < 0 then some gwErrInvalid
  else if wrote ≠ 8 then some gwErrIo
  else do
    let (rc, resp, _) ← readRounds fd 0 8 0 resp turns
    if rc < 0 then some rc else echoChecks q.frame resp

namespace ModbusWrite

variable {q : ModbusWrite} {stream : List Byte}

theorem frame_length (q : ModbusWrite) : q.frame.length = 8 := rfl

/-- The 8 bytes of the echo are the body and its checksum. -/
theorem frame_eq (q : ModbusWrite) : q.frame = withCrc (q.frame.take 6) := rfl

/-- Eight bytes are their body and the last two. -/
theorem eq_withCrc_iff {resp : List Byte} (hlen : resp.length = 8) :
    resp = withCrc (resp.take 6) ↔ crcOk resp 8 = true := by
  have h6 : (resp.take 6).length = 6 := by
    rw [List.length_take]
    omega
  constructor
  · intro h
    have hok := crcOk_withCrc (resp.take 6)
    rwa [h6, ← h] at hok
  · intro h
    obtain ⟨hlo, hhi⟩ := word_eq_iff.mp (crcOk_iff.mp h)
    have h0 := List.drop_eq_getElem_cons (show 6 < resp.length by omega)
    have h1 := List.drop_eq_getElem_cons (show 7 < resp.length by omega)
    have h2 : resp.drop 8 = [] := List.drop_eq_nil_of_le (by omega)
    rw [List.getD_eq_getElem _ _ (by omega)] at hlo hhi
    rw [withCrc, ← show resp[6] = loByte (crc16Modbus (resp.take 6)) from hlo,
      ← show resp[7] = hiByte (crc16Modbus (resp.take 6)) from hhi, ← h2, ← h1, ← h0,
      List.take_append_drop]

/-- What the call makes of the stream. -/
def readEcho (q : ModbusWrite) (stream : List Byte) : ℤ :=
  if stream.length < 8 then gwErrTimeout
  else if stream.getD 1 0 &&& 0x80 ≠ 0 then gwErrIo
  else if stream.take 8 = q.frame then gwOk
  else gwErrCrc

theorem echoChecks_eq {resp : List Byte} (hlen : resp.length = 8) :
    echoChecks q.frame resp = some (if resp.getD 1 0 &&& 0x80 ≠ 0 then gwErrIo
      else if resp = q.frame then gwOk else gwErrCrc) := by
  have hcells := @cell_append resp []
  rw [List.append_nil] at hcells
  have hcrcOf := @crcOf_append resp [] 6 (by omega)
  rw [List.append_nil] at hcrcOf
  unfold echoChecks
  rw [hcells (by omega), Option.bind_eq_bind, Option.bind_some]
  by_cases hexc : resp.getD 1 0 &&& 0x80 ≠ 0
  · rw [if_pos hexc, if_pos hexc]
  rw [if_neg hexc, if_neg hexc]
  by_cases hbody : q.frame.take 6 = resp.take 6
  · rw [if_neg (not_not.mpr hbody), hcells (by omega), hcells (by omega), hcrcOf]
    simp only [Option.bind_eq_bind, Option.bind_some]
    by_cases hcrc : crcOk resp 8 = true
    · have hecho : resp = q.frame := by
        rw [frame_eq, hbody]
        exact (eq_withCrc_iff hlen).mpr hcrc
      rw [if_neg (not_not.mpr (crcOk_iff.mp hcrc)), if_pos hecho]
    · have hother : resp ≠ q.frame := fun h => hcrc ((eq_withCrc_iff hlen).mp (by
        conv_lhs => rw [h, frame_eq, hbody]))
      rw [if_pos (mt crcOk_iff.mpr hcrc), if_neg hother]
  · have hother : resp ≠ q.frame := fun h => hbody (by rw [h])
    rw [if_pos hbody, if_neg hother]

/-- **A write reads the echo** on the rounds as on the stream. -/
theorem gwRs485ModbusWrite_eq {fd : ℤ} (hfd : 0 ≤ fd) (hset : fd < fdSetSize) {resp : List Byte}
    (hresp : resp.length = 8) {turns : List Turn} (hpass : ∀ t ∈ turns, t.Passes) :
    gwRs485ModbusWrite fd q 8 resp turns = some (q.readEcho (received turns)) := by
  have hin : 0 + 8 ≤ resp.length := by omega
  unfold gwRs485ModbusWrite readEcho
  rw [if_neg (by omega), if_neg (by decide)]
  rcases readRounds_cases hset hpass hin with ⟨htime, resp', hrun⟩ | ⟨echo, rest, hecho, hrun, hlen, -⟩
  · have hshort : (received turns).length < 8 := by
      by_contra hlong
      rw [readWithTimeout, if_neg hlong] at htime
      cases htime
    rw [hrun, if_pos hshort]
    rfl
  · have hlong : ¬ (received turns).length < 8 := by
      intro hshort
      rw [readWithTimeout, if_pos hshort] at hecho
      cases hecho
    have htake : echo = (received turns).take 8 := by
      rw [readWithTimeout, if_neg hlong] at hecho
      exact (congrArg Prod.fst (Except.ok.inj hecho)).symm
    have hfull : resp.take 0 ++ echo ++ resp.drop (0 + 8) = echo := by
      rw [List.take_zero, List.nil_append, List.drop_eq_nil_of_le (by omega), List.append_nil]
    rw [hfull] at hrun
    rw [hrun, if_neg hlong, Option.bind_eq_bind, Option.bind_some]
    simp only
    rw [if_neg (by decide), echoChecks_eq hlen, htake, ModbusRequest.getD_take (by decide)]

/-- Without room for the descriptor there is no result. -/
theorem gwRs485ModbusWrite_overflow {fd : ℤ} (hset : fdSetSize ≤ fd) (resp : List Byte) (turns : List Turn) :
    gwRs485ModbusWrite fd q 8 resp turns = none := by
  unfold fdSetSize at hset
  unfold gwRs485ModbusWrite
  rw [if_neg (by omega), if_neg (by decide), readRounds_overflow hset (by decide)]
  rfl

/-- The stream starts with an exception reply. -/
def StartsWithException (q : ModbusWrite) (stream : List Byte) : Prop :=
  ∃ code, stream.take 5 = q.exceptionFrame code

/-- What is asked of the code that a write returns for a stream: `GW_OK` for the echo only,
`GW_ERR_IO` for an exception. -/
def Classifies (q : ModbusWrite) (stream : List Byte) (rc : ℤ) : Prop :=
  (rc = gwOk ↔ stream.take 8 = q.frame) ∧ (q.StartsWithException stream → rc = gwErrIo)

theorem StartsWithException.bit (h : q.StartsWithException stream) :
    stream.getD 1 0 &&& 0x80 ≠ 0 := by
  obtain ⟨code, hcode⟩ := h
  rw [← @ModbusRequest.getD_take stream 1 5 (by decide), hcode]
  show (0x06 ||| 0x80 : Byte) &&& 0x80 ≠ 0
  decide

/-- The echo is reported, and nothing else. -/
theorem readEcho_eq_ok_iff : q.readEcho stream = gwOk ↔ stream.take 8 = q.frame := by
  unfold readEcho
  constructor
  · intro h
    split at h
    · exact absurd h (by decide)
    split at h
    · exact absurd h (by decide)
    split at h
    next hecho => exact hecho
    · exact absurd h (by decide)
  · intro h
    have hlen := congrArg List.length h
    rw [List.length_take, frame_length] at hlen
    have hbit : ¬ stream.getD 1 0 &&& 0x80 ≠ 0 := by
      rw [← @ModbusRequest.getD_take stream 1 8 (by decide), h]
      show ¬ (0x06 : Byte) &&& 0x80 ≠ 0
      decide
    rw [if_neg (by omega), if_neg hbit, if_pos h]

end ModbusWrite

/-- **An exception reply with silence after it times out.** -/
theorem write_exception_timeout {fd : ℤ} (hfd : 0 ≤ fd) (hset : fd < fdSetSize) (q : ModbusWrite) {resp : List Byte}
    (hresp : resp.length = 8) {turns : List Turn} (hpass : ∀ t ∈ turns, t.Passes) {code : Byte}
    (hexc : received turns = q.exceptionFrame code) :
    gwRs485ModbusWrite fd q 8 resp turns = some gwErrTimeout := by
  rw [ModbusWrite.gwRs485ModbusWrite_eq hfd hset hresp hpass, hexc]
  rfl

/-- A read reports the exception replies to its requests. -/
theorem read_exception_io {fd : ℤ} (hfd : 0 ≤ fd) (hset : fd < fdSetSize) {q : ModbusRequest} (hq : q.valid = true)
    {out : List Word} (hout : q.length.toNat ≤ out.length) {resp : List Byte}
    (hresp : resp.length = 256) {turns : List Turn} (hpass : ∀ t ∈ turns, t.Passes) {code : Byte}
    {rest : List Byte} (hexc : received turns = q.replyFrame (.exception code) ++ rest) :
    gwRs485ModbusRead fd q (some out) 8 resp turns = some (gwErrIo, some out) := by
  rw [gwRs485ModbusRead_eq_report hfd hset hq hresp hout hpass, hexc,
    ModbusRequest.readReply_exception hq]
  rfl

/-- **A write classifies a reply as a read would, exactly when** `FD_SET` has room for its
descriptor, and the reply is not an exception reply or 8 bytes come in. -/
theorem write_classifies_iff {fd : ℤ} (hfd : 0 ≤ fd) (q : ModbusWrite) {resp : List Byte}
    (hresp : resp.length = 8) {turns : List Turn} (hpass : ∀ t ∈ turns, t.Passes) :
    (∃ rc, gwRs485ModbusWrite fd q 8 resp turns = some rc ∧ q.Classifies (received turns) rc) ↔
      fd < fdSetSize ∧ ¬ (q.StartsWithException (received turns) ∧ (received turns).length < 8) := by
  constructor
  · rintro ⟨rc, hrun, -, hio⟩
    rcases lt_or_ge fd fdSetSize with hset | hset
    · refine ⟨hset, fun ⟨hexc, hshort⟩ => ?_⟩
      rw [ModbusWrite.gwRs485ModbusWrite_eq hfd hset hresp hpass] at hrun
      have htime : q.readEcho (received turns) = gwErrTimeout := if_pos hshort
      have hcodes := (Option.some.inj hrun).trans (hio hexc)
      rw [htime] at hcodes
      exact absurd hcodes (by decide)
    · rw [ModbusWrite.gwRs485ModbusWrite_overflow hset] at hrun
      cases hrun
  · rintro ⟨hset, hseen⟩
    refine ⟨_, ModbusWrite.gwRs485ModbusWrite_eq hfd hset hresp hpass, ModbusWrite.readEcho_eq_ok_iff,
      fun hexc => ?_⟩
    have hlong : ¬ (received turns).length < 8 := fun hshort => hseen ⟨hexc, hshort⟩
    rw [ModbusWrite.readEcho, if_neg hlong, if_pos hexc.bit]

/-- An exception with code 2, and silence. -/
theorem write_exception_not_classified :
    ¬ ∃ rc, gwRs485ModbusWrite 3 ⟨1, 0, 5⟩ 8 (List.replicate 8 0)
        [.arrives [1, 0x86], .arrives [2, 0xc3, 0xa1]] = some rc ∧
      (⟨1, 0, 5⟩ : ModbusWrite).Classifies (received [.arrives [1, 0x86], .arrives [2, 0xc3, 0xa1]]) rc := by
  rintro ⟨rc, hrun, -, hio⟩
  have htime : gwRs485ModbusWrite 3 ⟨1, 0, 5⟩ 8 (List.replicate 8 0)
      [.arrives [1, 0x86], .arrives [2, 0xc3, 0xa1]] = some gwErrTimeout := by
    decide +kernel
  have hcodes := (Option.some.inj (htime.symm.trans hrun)).trans (hio ⟨2, by decide +kernel⟩)
  exact absurd hcodes (by decide)

/-- The echo is classified. -/
theorem write_echo_classified : ∃ rc,
    gwRs485ModbusWrite 3 ⟨1, 0, 5⟩ 8 (List.replicate 8 0)
        [.arrives [1, 6, 0, 0, 0, 5, 0x49, 0xc9]] = some rc ∧
      (⟨1, 0, 5⟩ : ModbusWrite).Classifies (received [.arrives [1, 6, 0, 0, 0, 5, 0x49, 0xc9]]) rc :=
  (write_classifies_iff (by decide) ⟨1, 0, 5⟩ List.length_replicate (by decide)).mpr
    ⟨by decide, fun h => absurd h.2 (by decide)⟩

end Hal
