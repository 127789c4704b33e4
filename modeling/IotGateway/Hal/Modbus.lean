import IotGateway.Hal.Err

/-!
# Modbus RTU over RS-485

`gw_rs485_modbus_read` of `rs485.c`: the request it writes and what it makes of the bytes
that come in after its flush. `ModbusRequest.replyFrame` is the slave's side: the frame of
a correct answer.

* `readReply_replyFrame`: a correct answer is read as what the slave answered, whatever
  follows it on the line.
* `frame_injective`: the slave can tell from the request's bytes what is asked.

A reply carries no register address: `replyFrame` depends on the request only through the
slave and the function code (`replyFrame_congr`).
-/

namespace Hal

abbrev Byte := BitVec 8

abbrev Word := BitVec 16

def hiByte (w : Word) : Byte := (w >>> 8).setWidth 8

def loByte (w : Word) : Byte := w.setWidth 8

/-- `hi << 8 | lo` -/
def word (hi lo : Byte) : Word := hi.setWidth 16 <<< 8 ||| lo.setWidth 16

@[simp] theorem word_bytes (w : Word) : word (hiByte w) (loByte w) = w := by
  apply BitVec.eq_of_getLsbD_eq
  intro i hi
  by_cases h8 : i < 8
  · simp [word, hiByte, loByte, hi, h8]
  · have hsub : i - 8 < 8 := by omega
    have hadd : 8 + (i - 8) = i := by omega
    simp [word, hiByte, loByte, hi, h8, hsub, hadd]

/-- The inner loop of `crc16_modbus`, one round. -/
def crcBit (crc : Word) : Word :=
  if crc &&& 1 ≠ 0 then crc >>> 1 ^^^ 0xA001 else crc >>> 1

/-- `crc16_modbus` -/
def crc16Modbus (buf : List Byte) : Word :=
  buf.foldl (fun crc b => crcBit^[8] (crc ^^^ b.setWidth 16)) 0xFFFF

/-- A frame: its body and the body's checksum, low byte first. -/
def withCrc (body : List Byte) : List Byte :=
  body ++ [loByte (crc16Modbus body), hiByte (crc16Modbus body)]

/-- The last two of the first `n` bytes are the checksum of the others. -/
def crcOk (resp : List Byte) (n : ℕ) : Bool :=
  word (resp.getD (n - 1) 0) (resp.getD (n - 2) 0) = crc16Modbus (resp.take (n - 2))

theorem crcOk_withCrc (body : List Byte) : crcOk (withCrc body) (body.length + 2) = true := by
  have hlo : (withCrc body).getD body.length 0 = loByte (crc16Modbus body) := by simp [withCrc]
  have hhi : (withCrc body).getD (body.length + 1) 0 = hiByte (crc16Modbus body) := by simp [withCrc]
  have htake : (withCrc body).take body.length = body := List.take_left
  unfold crcOk
  rw [show body.length + 2 - 1 = body.length + 1 by omega,
    show body.length + 2 - 2 = body.length by omega, hlo, hhi, htake, word_bytes]
  exact decide_eq_true rfl

/-- The arguments of `gw_rs485_modbus_read` that reach the line. -/
structure ModbusRequest where
  slave : Byte
  functionCode : Byte
  register : Word
  length : Word
deriving DecidableEq, Repr

/-- What the slave answers: the registers asked for, or an exception. -/
inductive Content where
  | registers (regs : List Word)
  | exception (code : Byte)
deriving DecidableEq, Repr

/-- `read_with_timeout`, on the bytes that come in before the line falls silent. -/
def readWithTimeout (want : ℕ) (input : List Byte) : Except ℤ (List Byte × List Byte) :=
  if input.length < want then .error gwErrTimeout
  else .ok (input.take want, input.drop want)

theorem readWithTimeout_append (resp rest : List Byte) :
    readWithTimeout resp.length (resp ++ rest) = .ok (resp, rest) := by
  unfold readWithTimeout
  rw [if_neg (by rw [List.length_append]; omega), List.take_left, List.drop_left]

/-- The data bytes as registers, high byte first. -/
def toWords : List Byte → List Word
  | hi :: lo :: rest => word hi lo :: toWords rest
  | _ => []

/-- The registers as data bytes. -/
def toBytes (regs : List Word) : List Byte := regs.flatMap fun w => [hiByte w, loByte w]

@[simp] theorem toBytes_length (regs : List Word) : (toBytes regs).length = 2 * regs.length := by
  induction regs with
  | nil => rfl
  | cons w ws ih =>
    have : toBytes (w :: ws) = hiByte w :: loByte w :: toBytes ws := rfl
    rw [this, List.length_cons, List.length_cons, List.length_cons, ih]
    omega

theorem toWords_toBytes (regs : List Word) : toWords (toBytes regs) = regs := by
  induction regs with
  | nil => rfl
  | cons w ws ih =>
    have : toBytes (w :: ws) = hiByte w :: loByte w :: toBytes ws := rfl
    rw [this, toWords, word_bytes, ih]

namespace ModbusRequest

/-- The argument checks: `fd` is open and `out` is not null. -/
def valid (q : ModbusRequest) : Bool :=
  (q.length ≠ 0 && q.length.toNat ≤ 125) && (q.functionCode = 0x03 || q.functionCode = 0x04)

/-- The 8 bytes that are written. -/
def frame (q : ModbusRequest) : List Byte :=
  withCrc [q.slave, q.functionCode, hiByte q.register, loByte q.register, hiByte q.length,
    loByte q.length]

/-- The branch of an exception answer, of 5 bytes. -/
def readException (header rest : List Byte) : Except ℤ (List Word) := do
  let (more, _) ← readWithTimeout 3 rest
  if crcOk (header ++ more) 5 then .error gwErrIo else .error gwErrCrc

/-- The branch of a normal answer, of `expected` bytes. -/
def readRegisters (q : ModbusRequest) (expected : ℕ) (header rest : List Byte) :
    Except ℤ (List Word) := do
  let (more, _) ← readWithTimeout (expected - 2) rest
  let resp := header ++ more
  if resp.getD 0 0 ≠ q.slave ∨ resp.getD 1 0 ≠ q.functionCode ∨
      (resp.getD 2 0).toNat ≠ 2 * q.length.toNat then .error gwErrCrc
  else if crcOk resp expected then .ok (toWords ((resp.drop 3).take (2 * q.length.toNat)))
  else .error gwErrCrc

/-- `gw_rs485_modbus_read` after its write: the header's 2 bytes, then the branch that
bit 7 of the function code selects. -/
def readReply (q : ModbusRequest) (input : List Byte) : Except ℤ (List Word) := do
  let (header, rest) ← readWithTimeout 2 input
  if header.getD 1 0 &&& 0x80 ≠ 0 then readException header rest
  else if 256 < 5 + 2 * q.length.toNat then .error gwErrInvalid
  else q.readRegisters (5 + 2 * q.length.toNat) header rest

/-- The frame of an answer. -/
def replyFrame (q : ModbusRequest) : Content → List Byte
  | .registers regs =>
    withCrc (q.slave :: q.functionCode :: BitVec.ofNat 8 (2 * regs.length) :: toBytes regs)
  | .exception code => withCrc [q.slave, q.functionCode ||| 0x80, code]

/-- An answer of the length asked for. -/
def Answers (q : ModbusRequest) : Content → Prop
  | .registers regs => regs.length = q.length.toNat
  | .exception _ => True

instance (q : ModbusRequest) (c : Content) : Decidable (q.Answers c) :=
  match c with
  | .registers regs => inferInstanceAs (Decidable (regs.length = q.length.toNat))
  | .exception _ => isTrue trivial

/-- What `gw_rs485_modbus_read` returns for an answer. -/
def outcome : Content → Except ℤ (List Word)
  | .registers regs => .ok regs
  | .exception _ => .error gwErrIo

variable {q q' : ModbusRequest}

/-- **An answer does not say which register it is about.** -/
theorem replyFrame_congr (hs : q.slave = q'.slave) (hf : q.functionCode = q'.functionCode)
    (c : Content) : q.replyFrame c = q'.replyFrame c := by
  cases c <;> simp [replyFrame, hs, hf]

/-- The frame tells the request. -/
theorem frame_injective : Function.Injective frame := by
  intro q q' h
  have hbytes := (List.append_inj' (show withCrc _ = withCrc _ from h) (by simp)).1
  simp only [List.cons.injEq] at hbytes
  obtain ⟨hslave, hfn, hrh, hrl, hlh, hll, -⟩ := hbytes
  have hreg : q.register = q'.register := by
    rw [← word_bytes q.register, hrh, hrl, word_bytes]
  have hlen : q.length = q'.length := by
    rw [← word_bytes q.length, hlh, hll, word_bytes]
  cases q
  cases q'
  simp_all

/-- On a silent line the call times out. -/
@[simp] theorem readReply_nil (q : ModbusRequest) : q.readReply [] = .error gwErrTimeout := rfl

/-- The header takes the first two bytes. -/
theorem readReply_cons (q : ModbusRequest) (b₀ b₁ : Byte) (rest : List Byte) :
    q.readReply (b₀ :: b₁ :: rest) =
      if b₁ &&& 0x80 ≠ 0 then readException [b₀, b₁] rest
      else if 256 < 5 + 2 * q.length.toNat then .error gwErrInvalid
      else q.readRegisters (5 + 2 * q.length.toNat) [b₀, b₁] rest := by
  have h := readWithTimeout_append [b₀, b₁] rest
  unfold readReply
  simp only [List.cons_append, List.nil_append, List.length_cons, List.length_nil] at h
  rw [h]
  rfl

/-- `gw_rs485_modbus_read` after its header. -/
def readRest (q : ModbusRequest) (header rest : List Byte) : Except ℤ (List Word) :=
  if header.getD 1 0 &&& 0x80 ≠ 0 then readException header rest
  else if 256 < 5 + 2 * q.length.toNat then .error gwErrInvalid
  else q.readRegisters (5 + 2 * q.length.toNat) header rest

/-- The bytes it takes then. -/
def restLength (q : ModbusRequest) (header : List Byte) : ℕ :=
  if header.getD 1 0 &&& 0x80 ≠ 0 then 3
  else if 256 < 5 + 2 * q.length.toNat then 0
  else 5 + 2 * q.length.toNat - 2

/-- A call is its header and its rest. -/
theorem readReply_eq_readRest (q : ModbusRequest) {input header rest : List Byte}
    (h : readWithTimeout 2 input = .ok (header, rest)) : q.readReply input = q.readRest header rest := by
  unfold readReply
  rw [h]
  rfl

theorem readException_append {header more : List Byte} (hmore : more.length = 3) (rest : List Byte) :
    readException header (more ++ rest) =
      if crcOk (header ++ more) 5 then .error gwErrIo else .error gwErrCrc := by
  unfold readException
  rw [← hmore, readWithTimeout_append]
  rfl

theorem readRegisters_append (q : ModbusRequest) {expected : ℕ} {header more : List Byte}
    (hmore : more.length = expected - 2) (rest : List Byte) :
    q.readRegisters expected header (more ++ rest) =
      let resp := header ++ more
      if resp.getD 0 0 ≠ q.slave ∨ resp.getD 1 0 ≠ q.functionCode ∨
          (resp.getD 2 0).toNat ≠ 2 * q.length.toNat then .error gwErrCrc
      else if crcOk resp expected then .ok (toWords ((resp.drop 3).take (2 * q.length.toNat)))
      else .error gwErrCrc := by
  unfold readRegisters
  rw [← hmore, readWithTimeout_append]
  rfl

theorem readReply_exception (hv : q.valid = true) (code : Byte) (rest : List Byte) :
    q.readReply (q.replyFrame (.exception code) ++ rest) = .error gwErrIo := by
  have hbit : (q.functionCode ||| 0x80) &&& 0x80 ≠ 0 := by
    simp only [valid, Bool.and_eq_true, Bool.or_eq_true, decide_eq_true_eq] at hv
    rcases hv.2 with hf | hf <;> rw [hf] <;> decide
  set body : List Byte := [q.slave, q.functionCode ||| 0x80, code] with hbody
  have hcrc : crcOk (withCrc body) 5 = true := crcOk_withCrc body
  have hframe : q.replyFrame (.exception code) ++ rest =
      q.slave :: (q.functionCode ||| 0x80) ::
        ([code, loByte (crc16Modbus body), hiByte (crc16Modbus body)] ++ rest) := rfl
  rw [hframe, readReply_cons, if_pos hbit, readException_append rfl]
  exact if_pos hcrc

theorem readReply_registers (hv : q.valid = true) {regs : List Word}
    (hlen : regs.length = q.length.toNat) (rest : List Byte) :
    q.readReply (q.replyFrame (.registers regs) ++ rest) = .ok regs := by
  simp only [valid, Bool.and_eq_true, Bool.or_eq_true, decide_eq_true_eq] at hv
  obtain ⟨⟨-, h125⟩, hfn⟩ := hv
  have hbit : ¬ q.functionCode &&& 0x80 ≠ 0 := by
    rcases hfn with hf | hf <;> rw [hf] <;> decide
  set count : Byte := BitVec.ofNat 8 (2 * regs.length) with hcount
  set body : List Byte := q.slave :: q.functionCode :: count :: toBytes regs with hbody
  -- at most 250, so the byte count is exact
  have hcountNat : count.toNat = 2 * q.length.toNat := by
    rw [hcount, BitVec.toNat_ofNat, hlen]
    omega
  set more : List Byte :=
    count :: toBytes regs ++ [loByte (crc16Modbus body), hiByte (crc16Modbus body)] with hmore
  have hmoreLen : more.length = 5 + 2 * q.length.toNat - 2 := by
    rw [hmore, List.length_append, List.length_cons, toBytes_length, hlen]
    simp only [List.length_cons, List.length_nil]
    omega
  have hresp : [q.slave, q.functionCode] ++ more = withCrc body := rfl
  have hbodyLen : body.length + 2 = 5 + 2 * q.length.toNat := by
    rw [hbody, List.length_cons, List.length_cons, List.length_cons, toBytes_length, hlen]
    omega
  have hcrc : crcOk (withCrc body) (5 + 2 * q.length.toNat) = true := by
    rw [← hbodyLen]
    exact crcOk_withCrc body
  have hdata : ((withCrc body).drop 3).take (2 * q.length.toNat) = toBytes regs := by
    have hdrop : (withCrc body).drop 3 =
        toBytes regs ++ [loByte (crc16Modbus body), hiByte (crc16Modbus body)] := rfl
    rw [hdrop, ← hlen, ← toBytes_length, List.take_left]
  -- the header's two bytes, then the rest of the frame
  have hframe : q.replyFrame (.registers regs) ++ rest =
      q.slave :: q.functionCode :: (more ++ rest) := rfl
  rw [hframe, readReply_cons, if_neg hbit, if_neg (by omega), readRegisters_append q hmoreLen, hresp]
  have hhead : ¬ ((withCrc body).getD 0 0 ≠ q.slave ∨ (withCrc body).getD 1 0 ≠ q.functionCode ∨
      ((withCrc body).getD 2 0).toNat ≠ 2 * q.length.toNat) := by
    have h2 : (withCrc body).getD 2 0 = count := rfl
    rw [h2, hcountNat]
    simp [withCrc, hbody]
  dsimp only
  rw [if_neg hhead, if_pos hcrc, hdata, toWords_toBytes]

/-- **Reading a correct answer** gives what the slave answered, whatever follows. -/
theorem readReply_replyFrame (hv : q.valid = true) {c : Content} (hc : q.Answers c)
    (rest : List Byte) : q.readReply (q.replyFrame c ++ rest) = outcome c := by
  cases c with
  | registers regs => exact readReply_registers hv hc rest
  | exception code => exact readReply_exception hv code rest

end ModbusRequest

/-- The rates `baud_to_speed` knows. -/
def bauds : List ℤ := [9600, 19200, 38400, 57600, 115200]

/-- `RS485Open`, with `gw_rs485_open`: the checks of its arguments, then the system opens the
tty and sets it up. -/
def rs485Open (openTty : String → Except Err ℕ) (dev : String) (baud : ℤ) (parity : UInt8)
    (dataBits stopBits : ℤ) : Except Err ℕ :=
  if cInt baud ∉ bauds then .error ⟨gwErrInvalid⟩
  else if parity ∉ [78, 69, 79] then .error ⟨gwErrInvalid⟩  -- N, E, O
  else if cInt dataBits ∉ [7, 8] then .error ⟨gwErrInvalid⟩
  else if cInt stopBits ∉ [1, 2] then .error ⟨gwErrInvalid⟩
  else openTty dev

/-- `ModbusRead` -/
def modbusRead (q : ModbusRequest) (input : List Byte) : Except Err (List Word) :=
  if !q.valid then .error ⟨gwErrInvalid⟩
  else match q.readReply input with
    | .error rc => .error ⟨rc⟩
    | .ok regs => .ok regs

end Hal
