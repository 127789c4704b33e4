import IotGateway.Go.Except
import IotGateway.Hal.Modbus
import Mathlib.Data.List.GetD

/-!
# The serial line below the Modbus calls

`read_with_timeout` and `gw_rs485_modbus_read` of `rs485.c`, round by round: what each
`select` and each `read` of the loop meets is a `Turn`, the reply is assembled in the
256-byte buffer on the stack, and an access outside of it, or of the `fd_set`, leaves no
result (`none`).

* `readRounds_enough`, `readRounds_short`: the loop takes the first bytes of the stream,
  however they come in.
* `gwRs485ModbusRead_eq_report`: so the call is `readReply` of the stream.
* `modbusRead_acceptsReply_iff`: **it accepts exactly the valid reply, on every descriptor that
  `FD_SET` has room for.**
-/

namespace Hal

/-- The `errno` values that the loop tells apart. -/
inductive Errno where
  | eintr
  | eagain
  | other
deriving DecidableEq, Repr

/-- What a round of `read_with_timeout` meets. After the last one the line is silent. -/
inductive Turn where
  | selectFails (errno : Errno)
  | readFails (errno : Errno)
  /-- the bytes that are there; without any it is the end of the file -/
  | arrives (chunk : List Byte)
deriving DecidableEq, Repr

namespace Turn

def bytes : Turn → List Byte
  | .arrives chunk => chunk
  | _ => []

/-- The round goes on: an interruption, or a read that is not empty. -/
def Passes : Turn → Prop
  | .selectFails errno => errno = .eintr
  | .readFails errno => errno = .eintr ∨ errno = .eagain
  | .arrives chunk => chunk ≠ []

instance (t : Turn) : Decidable t.Passes :=
  match t with
  | .selectFails errno => inferInstanceAs (Decidable (errno = .eintr))
  | .readFails errno => inferInstanceAs (Decidable (errno = .eintr ∨ errno = .eagain))
  | .arrives chunk => inferInstanceAs (Decidable (chunk ≠ []))

/-- Only a read brings bytes. -/
theorem exists_arrives {t : Turn} (h : t.bytes ≠ []) : ∃ chunk ≠ [], t = .arrives chunk := by
  cases t with
  | selectFails errno => exact absurd rfl h
  | readFails errno => exact absurd rfl h
  | arrives chunk => exact ⟨chunk, h, rfl⟩

end Turn

/-- The bytes of the line, in order. -/
def received (turns : List Turn) : List Byte := turns.flatMap Turn.bytes

@[simp] theorem received_nil : received [] = [] := rfl

@[simp] theorem received_cons (t : Turn) (turns : List Turn) :
    received (t :: turns) = t.bytes ++ received turns := rfl

/-- `read(fd, resp + i, count)`, when it gets `bytes`. -/
def store (resp : List Byte) (i count : ℕ) (bytes : List Byte) : Option (List Byte) :=
  if i + count ≤ resp.length then some (resp.take i ++ bytes ++ resp.drop (i + bytes.length))
  else none

/-- `FD_SETSIZE`: the descriptors that an `fd_set` has room for. -/
def fdSetSize : ℤ := 1024

/-- `read_with_timeout(fd, resp + off, want, timeout_ms)`, from the round with `got` bytes:
its result, the buffer and what is left of the line. `FD_SET` does not look at its bound. -/
def readRounds (fd : ℤ) (off want got : ℕ) (resp : List Byte) :
    List Turn → Option (ℤ × List Byte × List Turn)
  | [] =>
    if got < want then
      if fd < fdSetSize then some (gwErrTimeout, resp, []) else none
    else some (got, resp, [])
  | turn :: turns =>
    if got < want then
      if fd < fdSetSize then
        match turn with
        | .selectFails errno =>
          if errno = .eintr then readRounds fd off want got resp turns
          else some (gwErrIo, resp, turns)
        | .readFails errno =>
          if errno = .eintr ∨ errno = .eagain then readRounds fd off want got resp turns
          else some (gwErrIo, resp, turns)
        | .arrives chunk => do
          let resp ← store resp (off + got) (want - got) (chunk.take (want - got))
          if chunk = [] then some (gwErrIo, resp, turns)
          else if chunk.length ≤ want - got then
            readRounds fd off want (got + chunk.length) resp turns
          -- more than was asked for: the rest stays for the next `read`, and the loop ends
          else some (want, resp, .arrives (chunk.drop (want - got)) :: turns)
      -- a write past the end of the `fd_set`
      else none
    else some (got, resp, turn :: turns)

/-- `crc16_modbus(resp, n)` -/
def crcOf (resp : List Byte) (n : ℕ) : Option Word :=
  if n ≤ resp.length then some (crc16Modbus (resp.take n)) else none

/-- `out[i] = resp[3 + 2 * i] << 8 | resp[4 + 2 * i]` -/
def copyRegister (resp : List Byte) (out : List Word) (i : ℕ) : Option (List Word) := do
  let hi ← resp[3 + 2 * i]?
  let lo ← resp[4 + 2 * i]?
  if i < out.length then some (out.set i (word hi lo)) else none

/-- The loop that fills `out`. -/
def copyRegisters (resp : List Byte) (length : ℕ) (out : List Word) : Option (List Word) :=
  (List.range length).foldlM (copyRegister resp) out

/-- The branch of an exception reply. -/
def exceptionRounds (fd : ℤ) (out : List Word) (resp : List Byte) (turns : List Turn) :
    Option (ℤ × List Word) := do
  let (rc, resp, _) ← readRounds fd 2 3 0 resp turns
  if rc < 0 then some (rc, out)
  else do
    let lo ← resp[3]?
    let hi ← resp[4]?
    let crc ← crcOf resp 3
    if word hi lo ≠ crc then some (gwErrCrc, out) else some (gwErrIo, out)

/-- The branch of a normal reply, of `expected` bytes. -/
def registerRounds (fd : ℤ) (q : ModbusRequest) (expected : ℕ) (out : List Word) (resp : List Byte)
    (turns : List Turn) : Option (ℤ × List Word) := do
  let (rc, resp, _) ← readRounds fd 2 (expected - 2) 0 resp turns
  if rc < 0 then some (rc, out)
  else do
    let slave ← resp[0]?
    let fn ← resp[1]?
    let count ← resp[2]?
    if slave ≠ q.slave ∨ fn ≠ q.functionCode ∨ count.toNat ≠ 2 * q.length.toNat then
      some (gwErrCrc, out)
    else do
      let lo ← resp[expected - 2]?
      let hi ← resp[expected - 1]?
      let crc ← crcOf resp (expected - 2)
      if word hi lo ≠ crc then some (gwErrCrc, out)
      else do
        let out ← copyRegisters resp q.length.toNat out
        some (gwOk, out)

/-- `gw_rs485_modbus_read` after its `write`. -/
def replyRounds (fd : ℤ) (q : ModbusRequest) (out : List Word) (resp : List Byte) (turns : List Turn) :
    Option (ℤ × List Word) := do
  let (rc, resp, turns) ← readRounds fd 0 2 0 resp turns
  if rc < 0 then some (rc, out)
  else do
    let fn ← resp[1]?
    if fn &&& 0x80 ≠ 0 then exceptionRounds fd out resp turns
    else if 256 < 5 + 2 * q.length.toNat then some (gwErrInvalid, out)
    else registerRounds fd q (5 + 2 * q.length.toNat) out resp turns

/-- `gw_rs485_modbus_read`: its code and what is at `out`. Its `write` returns `wrote`, and
`resp` is what the stack holds. -/
def gwRs485ModbusRead (fd : ℤ) (q : ModbusRequest) (out : Option (List Word)) (wrote : ℤ)
    (resp : List Byte) (turns : List Turn) : Option (ℤ × Option (List Word)) :=
  match out with
  | none => some (gwErrInvalid, none)
  | some regs =>
    if fd < 0 ∨ q.valid = false then some (gwErrInvalid, some regs)
    else if wrote ≠ 8 then some (gwErrIo, some regs)
    else (replyRounds fd q regs resp turns).map fun r => (r.1, some r.2)

/-! ### The loop -/

section Rounds

variable {fd : ℤ} {off want got : ℕ} {resp : List Byte} {turns : List Turn}

theorem store_eq {i count : ℕ} {bytes : List Byte} (hin : i + count ≤ resp.length) :
    store resp i count bytes = some (resp.take i ++ bytes ++ resp.drop (i + bytes.length)) :=
  if_pos hin

theorem readRounds_done (hdone : want ≤ got) :
    readRounds fd off want got resp turns = some ((got : ℤ), resp, turns) := by
  cases turns with
  | nil => rw [readRounds, if_neg (by omega)]
  | cons turn turns => cases turn <;> rw [readRounds, if_neg (by omega)]

/-- **`FD_SET` beyond the set**: the loop has no result. -/
theorem readRounds_overflow (hset : fdSetSize ≤ fd) (hmore : got < want) :
    readRounds fd off want got resp turns = none := by
  cases turns with
  | nil => rw [readRounds, if_pos hmore, if_neg hset.not_gt]
  | cons turn turns => cases turn <;> rw [readRounds, if_pos hmore, if_neg hset.not_gt]

/-- A chunk that is not too long is stored, and the loop goes on. -/
theorem readRounds_arrives {chunk : List Byte} (hset : fd < fdSetSize) (hne : chunk ≠ []) (hmore : got < want)
    (hin : off + want ≤ resp.length) (hfit : chunk.length ≤ want - got) :
    readRounds fd off want got resp (.arrives chunk :: turns) =
      readRounds fd off want (got + chunk.length)
        (resp.take (off + got) ++ chunk ++ resp.drop (off + (got + chunk.length))) turns := by
  rw [readRounds, if_pos hmore, if_pos hset]
  rw [List.take_of_length_le hfit, store_eq (by omega), Option.bind_eq_bind, Option.bind_some,
    if_neg hne, if_pos hfit, Nat.add_assoc]

/-- A longer one ends it. -/
theorem readRounds_arrives_more {chunk : List Byte} (hset : fd < fdSetSize) (hmore : got < want)
    (hin : off + want ≤ resp.length) (hlong : want - got < chunk.length) :
    readRounds fd off want got resp (.arrives chunk :: turns) =
      some ((want : ℤ), resp.take (off + got) ++ chunk.take (want - got) ++ resp.drop (off + want),
        .arrives (chunk.drop (want - got)) :: turns) := by
  have hne : chunk ≠ [] := List.ne_nil_of_length_pos (by omega)
  have hend : off + got + (want - got) = off + want := by omega
  rw [readRounds, if_pos hmore, if_pos hset]
  rw [store_eq (by omega), Option.bind_eq_bind, Option.bind_some, if_neg hne,
    if_neg (Nat.not_le.mpr hlong), List.length_take, min_eq_left hlong.le, hend]

/-- An interrupted round is made again. -/
theorem readRounds_skip {turn : Turn} (hset : fd < fdSetSize) (hpass : turn.Passes) (hbytes : turn.bytes = [])
    (hmore : got < want) :
    readRounds fd off want got resp (turn :: turns) = readRounds fd off want got resp turns := by
  cases turn with
  | selectFails errno =>
    rw [readRounds, if_pos hmore, if_pos hset]
    exact if_pos hpass
  | readFails errno =>
    rw [readRounds, if_pos hmore, if_pos hset]
    exact if_pos hpass
  | arrives chunk => exact absurd hbytes hpass

theorem length_stored (chunk : List Byte) (hin : off + (got + chunk.length) ≤ resp.length) :
    (resp.take (off + got) ++ chunk ++ resp.drop (off + (got + chunk.length))).length =
      resp.length := by
  simp only [List.length_append, List.length_take, List.length_drop]
  omega

theorem length_written (chunk : List Byte) (hin : off + (got + chunk.length) ≤ resp.length) :
    (resp.take (off + got) ++ chunk).length = off + (got + chunk.length) := by
  rw [List.length_append, List.length_take, min_eq_left (by omega), Nat.add_assoc]

/-- The buffer up to the end of a stored chunk. -/
theorem take_stored (chunk : List Byte) (hin : off + (got + chunk.length) ≤ resp.length) :
    (resp.take (off + got) ++ chunk ++ resp.drop (off + (got + chunk.length))).take
      (off + (got + chunk.length)) = resp.take (off + got) ++ chunk :=
  List.take_left' (length_written chunk hin)

/-- After the chunk it is as before. -/
theorem drop_stored (chunk : List Byte) (hin : off + (got + chunk.length) ≤ resp.length)
    (hle : got + chunk.length ≤ want) :
    (resp.take (off + got) ++ chunk ++ resp.drop (off + (got + chunk.length))).drop (off + want) =
      resp.drop (off + want) := by
  have hlen := length_written chunk hin
  rw [List.drop_append, List.drop_of_length_le (by omega), hlen, List.nil_append, List.drop_drop]
  congr 1
  omega

/-- **Too few bytes**: the loop times out. -/
theorem readRounds_short (hset : fd < fdSetSize) (hpass : ∀ t ∈ turns, t.Passes) (hin : off + want ≤ resp.length)
    (hshort : got + (received turns).length < want) :
    ∃ resp', readRounds fd off want got resp turns = some (gwErrTimeout, resp', []) := by
  induction turns generalizing got resp with
  | nil =>
    refine ⟨resp, ?_⟩
    rw [readRounds, if_pos (by simpa using hshort), if_pos hset]
  | cons turn turns ih =>
    have hrest : ∀ t ∈ turns, t.Passes := fun t ht => hpass t (List.mem_cons_of_mem _ ht)
    rw [received_cons, List.length_append] at hshort
    by_cases hbytes : turn.bytes = []
    · rw [readRounds_skip hset (hpass turn List.mem_cons_self) hbytes (by omega)]
      exact ih hrest hin (by omega)
    · obtain ⟨chunk, hne, rfl⟩ := Turn.exists_arrives hbytes
      have hb : (Turn.arrives chunk).bytes = chunk := rfl
      rw [hb] at hshort
      rw [readRounds_arrives hset hne (by omega) hin (by omega)]
      exact ih hrest (by rw [length_stored chunk (by omega)]; exact hin) (by omega)

/-- **Enough bytes**: the loop takes the first ones, whatever the rounds, and leaves the
others to the next. -/
theorem readRounds_enough (hset : fd < fdSetSize) (hpass : ∀ t ∈ turns, t.Passes) (hin : off + want ≤ resp.length)
    (hgot : got ≤ want) (henough : want ≤ got + (received turns).length) :
    ∃ rest, readRounds fd off want got resp turns =
        some ((want : ℤ), resp.take (off + got) ++ (received turns).take (want - got) ++
          resp.drop (off + want), rest) ∧
      received rest = (received turns).drop (want - got) ∧ ∀ t ∈ rest, t.Passes := by
  induction turns generalizing got resp with
  | nil =>
    have hdone : got = want := by simpa using Nat.le_antisymm hgot henough
    refine ⟨[], ?_, ?_, hpass⟩
    · rw [readRounds_done hdone.ge, hdone, Nat.sub_self, List.take_zero, List.append_nil,
        List.take_append_drop]
    · rw [received_nil, List.drop_nil]
  | cons turn turns ih =>
    have hrest : ∀ t ∈ turns, t.Passes := fun t ht => hpass t (List.mem_cons_of_mem _ ht)
    rcases Nat.eq_or_lt_of_le hgot with rfl | hmore
    · refine ⟨turn :: turns, ?_, ?_, hpass⟩
      · rw [readRounds_done le_rfl, Nat.sub_self, List.take_zero, List.append_nil,
          List.take_append_drop]
      · rw [Nat.sub_self, List.drop_zero]
    rw [received_cons, List.length_append] at henough
    by_cases hbytes : turn.bytes = []
    · rw [readRounds_skip hset (hpass turn List.mem_cons_self) hbytes hmore, received_cons, hbytes,
        List.nil_append]
      rw [hbytes, List.length_nil, Nat.zero_add] at henough
      exact ih hrest hin hgot henough
    · obtain ⟨chunk, hne, rfl⟩ := Turn.exists_arrives hbytes
      have hb : (Turn.arrives chunk).bytes = chunk := rfl
      rw [hb] at henough
      rw [received_cons, hb]
      by_cases hfit : chunk.length ≤ want - got
      · -- the whole chunk, then the loop on what is still missing
        obtain ⟨rest, hrun, hleft, hok⟩ := @ih (got + chunk.length)
          (resp.take (off + got) ++ chunk ++ resp.drop (off + (got + chunk.length))) hrest
          (by rw [length_stored chunk (by omega)]; exact hin) (by omega) (by omega)
        refine ⟨rest, ?_, ?_, hok⟩
        · rw [readRounds_arrives hset hne hmore hin hfit, hrun, take_stored chunk (by omega),
            drop_stored chunk (by omega) (by omega), List.take_append,
            List.take_of_length_le hfit, Nat.sub_sub]
          simp only [List.append_assoc]
        · rw [hleft, List.drop_append, List.drop_of_length_le hfit, Nat.sub_sub,
            List.nil_append]
      · have hlong : want - got < chunk.length := Nat.not_le.mp hfit
        refine ⟨.arrives (chunk.drop (want - got)) :: turns, ?_, ?_, ?_⟩
        · rw [readRounds_arrives_more hset hmore hin hlong, List.take_append_of_le_length hlong.le]
        · rw [received_cons, List.drop_append_of_le_length hlong.le]
          rfl
        · intro t ht
          rcases List.mem_cons.mp ht with rfl | ht
          · exact List.ne_nil_of_length_pos (by rw [List.length_drop]; omega)
          · exact hrest t ht

/-- The loop does on the rounds what `readWithTimeout` does on the stream. -/
theorem readRounds_cases (hset : fd < fdSetSize) (hpass : ∀ t ∈ turns, t.Passes) (hin : off + want ≤ resp.length) :
    (readWithTimeout want (received turns) = .error gwErrTimeout ∧
      ∃ resp', readRounds fd off want 0 resp turns = some (gwErrTimeout, resp', [])) ∨
    ∃ bytes rest, readWithTimeout want (received turns) = .ok (bytes, received rest) ∧
      readRounds fd off want 0 resp turns =
        some ((want : ℤ), resp.take off ++ bytes ++ resp.drop (off + want), rest) ∧
      bytes.length = want ∧ ∀ t ∈ rest, t.Passes := by
  by_cases hshort : (received turns).length < want
  · refine .inl ⟨if_pos hshort, ?_⟩
    exact readRounds_short hset hpass hin (by omega)
  · obtain ⟨rest, hrun, hleft, hok⟩ :=
      readRounds_enough hset hpass hin (Nat.zero_le want) (by omega)
    rw [Nat.sub_zero] at hrun hleft
    refine .inr ⟨(received turns).take want, rest, ?_, hrun, ?_, hok⟩
    · rw [hleft]
      exact if_neg hshort
    · rw [List.length_take, min_eq_left (Nat.not_lt.mp hshort)]

end Rounds

/-! ### The buffer -/

theorem cell_append {bytes tail : List Byte} {i : ℕ} (hi : i < bytes.length) :
    (bytes ++ tail)[i]? = some (bytes.getD i 0) := by
  rw [List.getElem?_append_left hi, List.getElem?_eq_getElem hi, List.getD_eq_getElem _ _ hi]

theorem crcOf_append {bytes tail : List Byte} {n : ℕ} (hn : n ≤ bytes.length) :
    crcOf (bytes ++ tail) n = some (crc16Modbus (bytes.take n)) := by
  rw [crcOf, if_pos (by rw [List.length_append]; omega), List.take_append_of_le_length hn]

theorem toWords_succ {data : List Byte} {n : ℕ} (hn : 2 * (n + 1) ≤ data.length) :
    toWords (data.take (2 * (n + 1))) =
      toWords (data.take (2 * n)) ++ [word (data.getD (2 * n) 0) (data.getD (2 * n + 1) 0)] := by
  induction n generalizing data with
  | zero =>
    match data, hn with
    | hi :: lo :: rest, _ => rfl
    | [_], hn => simp at hn
  | succ n ih =>
    match data, hn with
    | hi :: lo :: rest, hn =>
      have hstep := @ih rest (by simp only [List.length_cons] at hn; omega)
      have htake : ∀ k, (hi :: lo :: rest).take (2 * (k + 1)) = hi :: lo :: rest.take (2 * k) :=
        fun k => rfl
      rw [htake, htake, toWords, toWords, hstep]
      rfl
    | [_], hn => simp only [List.length_singleton] at hn; omega

theorem toWords_length {data : List Byte} {n : ℕ} (hn : 2 * n ≤ data.length) :
    (toWords (data.take (2 * n))).length = n := by
  induction n with
  | zero => rfl
  | succ n ih => rw [toWords_succ hn, List.length_append, ih (by omega), List.length_singleton]

theorem toWords_getElem? {data : List Byte} {n i : ℕ} (hn : 2 * n ≤ data.length) (hi : i < n) :
    (toWords (data.take (2 * n)))[i]? =
      some (word (data.getD (2 * i) 0) (data.getD (2 * i + 1) 0)) := by
  induction n with
  | zero => omega
  | succ n ih =>
    have hbefore : (toWords (data.take (2 * n))).length = n := toWords_length (by omega)
    rw [toWords_succ hn]
    rcases Nat.eq_or_lt_of_le (Nat.le_of_lt_succ hi) with rfl | hlt
    · rw [List.getElem?_append_right hbefore.le, hbefore, Nat.sub_self, List.getElem?_cons_zero]
    · rw [List.getElem?_append_left (by omega), ih (by omega) hlt]

theorem getD_drop (bytes : List Byte) (n i : ℕ) : (bytes.drop n).getD i 0 = bytes.getD (n + i) 0 := by
  rw [List.getD_eq_getElem?_getD, List.getElem?_drop, List.getD_eq_getElem?_getD]

/-- The loop that fills `out` writes the registers to its first places. -/
theorem copyRegisters_append {bytes tail : List Byte} {n : ℕ} {out : List Word}
    (hbytes : 3 + 2 * n ≤ bytes.length) (hout : n ≤ out.length) :
    copyRegisters (bytes ++ tail) n out =
      some (toWords ((bytes.drop 3).take (2 * n)) ++ out.drop n) := by
  induction n with
  | zero => rfl
  | succ n ih =>
    have hdata : 2 * (n + 1) ≤ (bytes.drop 3).length := by
      rw [List.length_drop]
      omega
    have hfilled : (toWords ((bytes.drop 3).take (2 * n))).length = n := toWords_length (by omega)
    have hstep : copyRegisters (bytes ++ tail) (n + 1) out =
        (copyRegisters (bytes ++ tail) n out).bind fun regs =>
          copyRegister (bytes ++ tail) regs n := by
      unfold copyRegisters
      rw [List.range_succ, List.foldlM_append]
      simp
    have hlo : 3 + (2 * n + 1) = 4 + 2 * n := by omega
    rw [hstep, ih (by omega) (by omega), Option.bind_some, copyRegister, cell_append (by omega),
      cell_append (by omega), toWords_succ hdata, getD_drop, getD_drop, hlo]
    have hroom : n < (toWords ((bytes.drop 3).take (2 * n)) ++ out.drop n).length := by
      rw [List.length_append, hfilled, List.length_drop]
      omega
    have hcons := List.drop_eq_getElem_cons (show n < out.length by omega)
    simp only [Option.bind_eq_bind, Option.bind_some]
    rw [if_pos hroom, List.set_append_right _ _ hfilled.le, hfilled, Nat.sub_self,
      hcons, List.set_cons_zero, List.append_assoc]
    rfl

theorem crcOk_iff {resp : List Byte} {n : ℕ} : crcOk resp n = true ↔
    word (resp.getD (n - 1) 0) (resp.getD (n - 2) 0) = crc16Modbus (resp.take (n - 2)) :=
  decide_eq_true_iff

/-! ### The call -/

/-- What a call leaves: its code and what is at `out`. -/
def report (out : List Word) : Except ℤ (List Word) → ℤ × List Word
  | .error rc => (rc, out)
  | .ok regs => (gwOk, regs ++ out.drop regs.length)

section Call

variable {fd : ℤ} {q : ModbusRequest} {out : List Word} {turns : List Turn}

theorem readException_of_ok {header input more rest : List Byte}
    (h : readWithTimeout 3 input = .ok (more, rest)) :
    ModbusRequest.readException header input =
      if crcOk (header ++ more) 5 then .error gwErrIo else .error gwErrCrc := by
  unfold ModbusRequest.readException
  rw [h]
  rfl

theorem readRegisters_of_ok {expected : ℕ} {header input more rest : List Byte}
    (h : readWithTimeout (expected - 2) input = .ok (more, rest)) :
    q.readRegisters expected header input =
      if (header ++ more).getD 0 0 ≠ q.slave ∨ (header ++ more).getD 1 0 ≠ q.functionCode ∨
          ((header ++ more).getD 2 0).toNat ≠ 2 * q.length.toNat then .error gwErrCrc
      else if crcOk (header ++ more) expected then
        .ok (toWords (((header ++ more).drop 3).take (2 * q.length.toNat)))
      else .error gwErrCrc := by
  unfold ModbusRequest.readRegisters
  rw [h]
  rfl

theorem exceptionRounds_eq (hset : fd < fdSetSize) {header tail : List Byte} (hheader : header.length = 2)
    (htail : 3 ≤ tail.length) (hpass : ∀ t ∈ turns, t.Passes) :
    exceptionRounds fd out (header ++ tail) turns =
      some (report out (ModbusRequest.readException header (received turns))) := by
  have hin : 2 + 3 ≤ (header ++ tail).length := by
    rw [List.length_append]
    omega
  unfold exceptionRounds
  rcases readRounds_cases hset hpass hin with ⟨htime, resp', hrun⟩ | ⟨more, rest, hmore, hrun, hlen, -⟩
  · rw [hrun, ModbusRequest.readException, htime]
    rfl
  · have hfive : (header ++ more).length = 5 := by
      rw [List.length_append]
      omega
    rw [List.take_left' hheader] at hrun
    rw [hrun, readException_of_ok hmore, Option.bind_eq_bind, Option.bind_some]
    simp only
    rw [if_neg (by decide), cell_append (by omega), cell_append (by omega),
      crcOf_append (by omega)]
    simp only [Option.bind_eq_bind, Option.bind_some]
    by_cases hcrc : crcOk (header ++ more) 5 = true
    · rw [if_neg (not_not.mpr (crcOk_iff.mp hcrc)), if_pos hcrc]
      rfl
    · rw [if_pos (mt crcOk_iff.mpr hcrc), if_neg hcrc]
      rfl

theorem registerRounds_eq (hset : fd < fdSetSize) {expected : ℕ} (hexpected : expected = 5 + 2 * q.length.toNat)
    {header tail : List Byte} (hheader : header.length = 2) (htail : expected - 2 ≤ tail.length)
    (hout : q.length.toNat ≤ out.length) (hpass : ∀ t ∈ turns, t.Passes) :
    registerRounds fd q expected out (header ++ tail) turns =
      some (report out (q.readRegisters expected header (received turns))) := by
  have hin : 2 + (expected - 2) ≤ (header ++ tail).length := by
    rw [List.length_append]
    omega
  unfold registerRounds
  rcases readRounds_cases hset hpass hin with ⟨htime, resp', hrun⟩ | ⟨more, rest, hmore, hrun, hlen, -⟩
  · rw [hrun, ModbusRequest.readRegisters, htime]
    rfl
  · set resp := header ++ more with hresp
    have hfull : resp.length = expected := by
      rw [hresp, List.length_append]
      omega
    rw [List.take_left' hheader, ← hresp] at hrun
    rw [hrun, readRegisters_of_ok hmore, ← hresp, Option.bind_eq_bind, Option.bind_some]
    simp only
    rw [if_neg (by omega), cell_append (by omega), cell_append (by omega),
      cell_append (by omega)]
    simp only [Option.bind_eq_bind, Option.bind_some]
    by_cases hhead : resp.getD 0 0 ≠ q.slave ∨ resp.getD 1 0 ≠ q.functionCode ∨
        (resp.getD 2 0).toNat ≠ 2 * q.length.toNat
    · rw [if_pos hhead, if_pos hhead]
      rfl
    rw [if_neg hhead, if_neg hhead, cell_append (by omega), cell_append (by omega),
      crcOf_append (by omega)]
    simp only [Option.bind_some]
    by_cases hcrc : crcOk resp expected = true
    · have hregs : (toWords ((resp.drop 3).take (2 * q.length.toNat))).length = q.length.toNat :=
        toWords_length (by rw [List.length_drop]; omega)
      rw [if_neg (not_not.mpr (crcOk_iff.mp hcrc)), if_pos hcrc,
        copyRegisters_append (by omega) hout, Option.bind_some, report, hregs]
    · rw [if_pos (mt crcOk_iff.mpr hcrc), if_neg hcrc]
      rfl

theorem replyRounds_eq (hset : fd < fdSetSize) {resp : List Byte} (hresp : resp.length = 256)
    (hout : q.length.toNat ≤ out.length) (hpass : ∀ t ∈ turns, t.Passes) :
    replyRounds fd q out resp turns = some (report out (q.readReply (received turns))) := by
  have hin : 0 + 2 ≤ resp.length := by omega
  unfold replyRounds
  rcases readRounds_cases hset hpass hin with
    ⟨htime, resp', hrun⟩ | ⟨header, rest, hheader, hrun, hlen, hrest⟩
  · rw [hrun, ModbusRequest.readReply, htime]
    rfl
  · have htail : (resp.drop (0 + 2)).length = 254 := by
      rw [List.length_drop]
      omega
    rw [List.take_zero, List.nil_append] at hrun
    rw [hrun, q.readReply_eq_readRest hheader, Option.bind_eq_bind, Option.bind_some]
    simp only
    rw [if_neg (by decide), cell_append (by omega), ModbusRequest.readRest]
    simp only [Option.bind_eq_bind, Option.bind_some]
    by_cases hexc : header.getD 1 0 &&& 0x80 ≠ 0
    · rw [if_pos hexc, if_pos hexc]
      exact exceptionRounds_eq hset hlen (by omega) hrest
    rw [if_neg hexc, if_neg hexc]
    by_cases hbig : 256 < 5 + 2 * q.length.toNat
    · rw [if_pos hbig, if_pos hbig]
      rfl
    · rw [if_neg hbig, if_neg hbig]
      exact registerRounds_eq hset rfl hlen (by omega) hout hrest

theorem gwRs485ModbusRead_eq_report (hfd : 0 ≤ fd) (hset : fd < fdSetSize) (hq : q.valid = true)
    {resp : List Byte} (hresp : resp.length = 256) (hout : q.length.toNat ≤ out.length)
    (hpass : ∀ t ∈ turns, t.Passes) :
    gwRs485ModbusRead fd q (some out) 8 resp turns =
      some (Prod.map id some (report out (q.readReply (received turns)))) := by
  have hargs : ¬ (fd < 0 ∨ q.valid = false) := by
    rw [hq]
    simpa using hfd
  unfold gwRs485ModbusRead
  simp only
  rw [if_neg hargs, if_neg (by decide), replyRounds_eq hset hresp hout hpass]
  rfl

/-- Without room for the descriptor no valid request has a result. -/
theorem gwRs485ModbusRead_overflow (hset : fdSetSize ≤ fd) (hq : q.valid = true) (resp : List Byte) :
    gwRs485ModbusRead fd q (some out) 8 resp turns = none := by
  have hargs : ¬ (fd < 0 ∨ q.valid = false) := by
    rw [hq]
    unfold fdSetSize at hset
    simp only [Bool.true_eq_false, or_false]
    omega
  unfold gwRs485ModbusRead replyRounds
  simp only
  rw [if_neg hargs, if_neg (by decide), readRounds_overflow hset (by decide)]
  rfl

end Call

/-! ### The valid reply -/

theorem hiByte_word (hi lo : Byte) : hiByte (word hi lo) = hi := by
  apply BitVec.eq_of_getLsbD_eq
  intro i hi8
  have hwide : 8 + i < 16 := by omega
  simp [word, hiByte, hi8, hwide]

theorem loByte_word (hi lo : Byte) : loByte (word hi lo) = lo := by
  apply BitVec.eq_of_getLsbD_eq
  intro i hi8
  simp [word, loByte, hi8]

theorem word_eq_iff {hi lo : Byte} {w : Word} :
    word hi lo = w ↔ lo = loByte w ∧ hi = hiByte w := by
  constructor
  · rintro rfl
    exact ⟨(loByte_word hi lo).symm, (hiByte_word hi lo).symm⟩
  · rintro ⟨rfl, rfl⟩
    exact word_bytes w

namespace ModbusRequest

/-- `stream` starts with the valid reply to `q`. -/
def IsReply (q : ModbusRequest) (stream : List Byte) : Prop :=
  let n := 2 * q.length.toNat
  5 + n ≤ stream.length ∧ stream.getD 0 0 = q.slave ∧ stream.getD 1 0 = q.functionCode ∧
    (stream.getD 2 0).toNat = n ∧
    stream.getD (3 + n) 0 = loByte (crc16Modbus (stream.take (3 + n))) ∧
    stream.getD (4 + n) 0 = hiByte (crc16Modbus (stream.take (3 + n)))

instance (q : ModbusRequest) (stream : List Byte) : Decidable (q.IsReply stream) :=
  inferInstanceAs (Decidable (_ ∧ _ ∧ _ ∧ _ ∧ _ ∧ _))

variable {q : ModbusRequest} {stream : List Byte}

theorem isReply_iff : q.IsReply stream ↔
    5 + 2 * q.length.toNat ≤ stream.length ∧ (stream.getD 0 0 = q.slave ∧
      stream.getD 1 0 = q.functionCode ∧ (stream.getD 2 0).toNat = 2 * q.length.toNat) ∧
      crcOk stream (5 + 2 * q.length.toNat) = true := by
  have hlast : 5 + 2 * q.length.toNat - 1 = 4 + 2 * q.length.toNat := by omega
  have hprev : 5 + 2 * q.length.toNat - 2 = 3 + 2 * q.length.toNat := by omega
  rw [crcOk_iff, hlast, hprev, word_eq_iff]
  simp only [IsReply, and_assoc]

theorem getD_take {i n : ℕ} (hi : i < n) : (stream.take n).getD i 0 = stream.getD i 0 := by
  rw [List.getD_eq_getElem?_getD, List.getElem?_take_of_lt hi, List.getD_eq_getElem?_getD]

theorem crcOk_take {n : ℕ} (hn : 2 ≤ n) : crcOk (stream.take n) n = crcOk stream n := by
  unfold crcOk
  rw [getD_take (by omega), getD_take (by omega), List.take_take, min_eq_left (by omega)]

/-- A function code that is asked for has bit 7 clear. -/
theorem functionCode_and (hq : q.valid = true) : ¬ q.functionCode &&& 0x80 ≠ 0 := by
  simp only [valid, Bool.and_eq_true, Bool.or_eq_true, decide_eq_true_eq] at hq
  rcases hq.2 with hf | hf <;> rw [hf] <;> decide

theorem length_le (hq : q.valid = true) : q.length.toNat ≤ 125 := by
  simp only [valid, Bool.and_eq_true, decide_eq_true_eq] at hq
  exact hq.1.2

theorem readWithTimeout_error {want : ℕ} {input : List Byte} {rc : ℤ}
    (h : readWithTimeout want input = .error rc) : rc < 0 := by
  unfold readWithTimeout at h
  split at h
  · rw [← Except.error.inj h]
    decide
  · cases h

theorem readException_ne_ok {header input : List Byte} (regs : List Word) :
    readException header input ≠ .ok regs := by
  intro h
  obtain ⟨⟨more, rest⟩, -, hmore⟩ := Except.bind_eq_ok_iff.mp h
  simp only at hmore
  split at hmore
  · cases hmore
  · cases hmore

theorem readException_error {header input : List Byte} {rc : ℤ}
    (h : readException header input = .error rc) : rc < 0 := by
  rcases Except.bind_eq_error_iff.mp h with htime | ⟨⟨more, rest⟩, -, hmore⟩
  · exact readWithTimeout_error htime
  · simp only at hmore
    split at hmore <;> rw [← Except.error.inj hmore] <;> decide

theorem readRegisters_error {expected : ℕ} {header input : List Byte} {rc : ℤ}
    (h : q.readRegisters expected header input = .error rc) : rc < 0 := by
  rcases Except.bind_eq_error_iff.mp h with htime | ⟨⟨more, rest⟩, -, hmore⟩
  · exact readWithTimeout_error htime
  · simp only at hmore
    split at hmore
    · rw [← Except.error.inj hmore]
      decide
    · split at hmore
      · cases hmore
      · rw [← Except.error.inj hmore]
        decide

/-- **What is read** is the valid reply's data. -/
theorem readReply_eq_ok_iff (hq : q.valid = true) {regs : List Word} :
    q.readReply stream = .ok regs ↔
      q.IsReply stream ∧ regs = toWords ((stream.drop 3).take (2 * q.length.toNat)) := by
  rw [isReply_iff]
  match stream with
  | [] => simp
  | [b] =>
    rw [show q.readReply [b] = .error gwErrTimeout from rfl]
    simp only [List.length_singleton, reduceCtorEq, false_iff]
    omega
  | b₀ :: b₁ :: rest =>
    have h125 := length_le hq
    rw [readReply_cons]
    by_cases hexc : b₁ &&& 0x80 ≠ 0
    · -- an exception reply is never accepted
      rw [if_pos hexc]
      constructor
      · exact fun h => absurd h (readException_ne_ok regs)
      · rintro ⟨⟨-, ⟨-, hfn, -⟩, -⟩, -⟩
        exact absurd (show b₁ = q.functionCode from hfn) fun hb =>
          functionCode_and hq (hb ▸ hexc)
    rw [if_neg hexc, if_neg (by omega)]
    by_cases hshort : rest.length < 5 + 2 * q.length.toNat - 2
    · have htime : readWithTimeout (5 + 2 * q.length.toNat - 2) rest = .error gwErrTimeout :=
        if_pos hshort
      rw [readRegisters, htime]
      constructor
      · intro h
        cases h
      · rintro ⟨⟨hlen, -⟩, -⟩
        simp only [List.length_cons] at hlen
        omega
    set n := 5 + 2 * q.length.toNat with hn
    have hmore : readWithTimeout (n - 2) rest = .ok (rest.take (n - 2), rest.drop (n - 2)) :=
      if_neg hshort
    have hresp : [b₀, b₁] ++ rest.take (n - 2) = (b₀ :: b₁ :: rest).take n := by
      rw [show n = n - 2 + 1 + 1 by omega, List.take_succ_cons, List.take_succ_cons]
      rfl
    have hdata : (((b₀ :: b₁ :: rest).take n).drop 3).take (2 * q.length.toNat) =
        ((b₀ :: b₁ :: rest).drop 3).take (2 * q.length.toNat) := by
      rw [List.drop_take, List.take_take, min_eq_left (by omega)]
    have hlen : n ≤ (b₀ :: b₁ :: rest).length := by
      simp only [List.length_cons]
      omega
    rw [readRegisters_of_ok hmore, hresp, getD_take (by omega), getD_take (by omega),
      getD_take (by omega), crcOk_take (by omega), hdata]
    by_cases hhead : (b₀ :: b₁ :: rest).getD 0 0 = q.slave ∧
        (b₀ :: b₁ :: rest).getD 1 0 = q.functionCode ∧
        ((b₀ :: b₁ :: rest).getD 2 0).toNat = 2 * q.length.toNat
    · rw [if_neg (by simp only [not_or, not_not]; exact hhead)]
      by_cases hcrc : crcOk (b₀ :: b₁ :: rest) n = true
      · rw [if_pos hcrc]
        exact ⟨fun h => ⟨⟨hlen, hhead, hcrc⟩, (Except.ok.inj h).symm⟩, fun h => by rw [h.2]⟩
      · rw [if_neg hcrc]
        exact ⟨fun h => (nomatch h), fun h => absurd h.1.2.2 hcrc⟩
    · rw [if_pos (by rwa [ne_eq, ne_eq, ne_eq, ← not_and_or, ← not_and_or])]
      exact ⟨fun h => (nomatch h), fun h => absurd h.1.2.1 hhead⟩

/-- The codes of a call that fails are negative. -/
theorem readReply_error_neg {rc : ℤ} (h : q.readReply stream = .error rc) : rc < 0 := by
  rcases Except.bind_eq_error_iff.mp h with htime | ⟨⟨header, rest⟩, -, hrest⟩
  · exact readWithTimeout_error htime
  · simp only at hrest
    split at hrest
    · exact readException_error hrest
    · split at hrest
      · rw [← Except.error.inj hrest]
        decide
      · exact readRegisters_error hrest

end ModbusRequest

/-! ### What a call accepts -/

/-- A call returns `GW_OK` for a valid request and its valid reply only. -/
theorem returns_ok_iff {fd : ℤ} {q : ModbusRequest} {out : List Word}
    (hout : q.length.toNat ≤ out.length) {resp : List Byte} (hresp : resp.length = 256)
    {turns : List Turn} (hpass : ∀ t ∈ turns, t.Passes) :
    (gwRs485ModbusRead fd q (some out) 8 resp turns).map Prod.fst = some gwOk ↔
      (0 ≤ fd ∧ fd < fdSetSize) ∧ q.valid = true ∧ q.IsReply (received turns) := by
  by_cases hargs : 0 ≤ fd ∧ q.valid = true
  · obtain ⟨hfd, hq⟩ := hargs
    rcases lt_or_ge fd fdSetSize with hset | hset
    · rw [gwRs485ModbusRead_eq_report hfd hset hq hresp hout hpass]
      cases hread : q.readReply (received turns) with
      | error rc =>
        have hneg := ModbusRequest.readReply_error_neg hread
        constructor
        · intro h
          have hrc : rc = gwOk := Option.some.inj h
          rw [hrc] at hneg
          exact absurd hneg (by decide)
        · rintro ⟨-, -, hreply⟩
          rw [(ModbusRequest.readReply_eq_ok_iff hq).mpr ⟨hreply, rfl⟩] at hread
          cases hread
      | ok regs =>
        have hreply := ((ModbusRequest.readReply_eq_ok_iff hq).mp hread).1
        exact ⟨fun _ => ⟨⟨hfd, hset⟩, hq, hreply⟩, fun _ => rfl⟩
    · rw [gwRs485ModbusRead_overflow hset hq]
      exact ⟨fun h => (nomatch h), fun h => absurd h.1.2 hset.not_gt⟩
  · have hinvalid : fd < 0 ∨ q.valid = false := by
      rcases not_and_or.mp hargs with hfd | hq
      · exact .inl (not_le.mp hfd)
      · exact .inr (Bool.not_eq_true _ ▸ hq)
    unfold gwRs485ModbusRead
    simp only
    rw [if_pos hinvalid]
    have hcode : gwErrInvalid ≠ gwOk := by decide
    exact ⟨fun h => absurd (Option.some.inj h) hcode, fun h => absurd ⟨h.1.1, h.2.1⟩ hargs⟩

/-- What is asked of a read: it accepts exactly the valid reply, however it comes in; nothing else
decides the outcome, no access leaves the buffer, and `out` is written with the reply's registers or
not at all. -/
def AcceptsReply (fd : ℤ) (q : ModbusRequest) (out : List Word) (resp : List Byte) (turns : List Turn) : Prop :=
  ∃ rc out', gwRs485ModbusRead fd q (some out) 8 resp turns = some (rc, some out') ∧
    (∀ resp' turns', resp'.length = 256 → (∀ t ∈ turns', t.Passes) →
      received turns' = received turns →
      gwRs485ModbusRead fd q (some out) 8 resp' turns' = some (rc, some out')) ∧
    (rc = gwOk ↔ q.IsReply (received turns)) ∧
    (rc = gwOk → out'.drop q.length.toNat = out.drop q.length.toNat ∧
      ∀ i < q.length.toNat, out'[i]? =
        some (word ((received turns).getD (3 + 2 * i) 0) ((received turns).getD (4 + 2 * i) 0))) ∧
    (rc ≠ gwOk → rc < 0 ∧ out' = out)

/-- The registers of an accepted reply are at `out`. -/
theorem report_registers {q : ModbusRequest} {out regs : List Word} {stream : List Byte}
    (hq : q.valid = true) (hread : q.readReply stream = .ok regs) :
    (report out (.ok regs)).2.drop q.length.toNat = out.drop q.length.toNat ∧
      ∀ i < q.length.toNat, (report out (.ok regs)).2[i]? =
        some (word (stream.getD (3 + 2 * i) 0) (stream.getD (4 + 2 * i) 0)) := by
  obtain ⟨hreply, hregs⟩ := (ModbusRequest.readReply_eq_ok_iff hq).mp hread
  have hlen := hreply.1
  have hdata : 2 * q.length.toNat ≤ (stream.drop 3).length := by
    rw [List.length_drop]
    omega
  have hcount : regs.length = q.length.toNat := by
    rw [hregs]
    exact toWords_length hdata
  constructor
  · show (regs ++ out.drop regs.length).drop q.length.toNat = _
    rw [hcount, List.drop_left' hcount]
  · intro i hi
    have hlo : 3 + (2 * i + 1) = 4 + 2 * i := by omega
    show (regs ++ out.drop regs.length)[i]? = _
    rw [List.getElem?_append_left (by omega), hregs, toWords_getElem? hdata hi, getD_drop,
      getD_drop, hlo]

theorem acceptsReply_of_lt {fd : ℤ} (hfd : 0 ≤ fd) (hset : fd < fdSetSize) {q : ModbusRequest}
    (hq : q.valid = true) {out : List Word} (hout : q.length.toNat ≤ out.length)
    {resp : List Byte} (hresp : resp.length = 256) {turns : List Turn}
    (hpass : ∀ t ∈ turns, t.Passes) : AcceptsReply fd q out resp turns := by
  have hrun := gwRs485ModbusRead_eq_report hfd hset hq hresp hout hpass
  have hiff := @returns_ok_iff fd q out hout resp hresp turns hpass
  rw [hrun] at hiff
  refine ⟨_, _, hrun, ?_, ?_, ?_⟩
  · intro resp' turns' hresp' hpass' hsame
    rw [gwRs485ModbusRead_eq_report hfd hset hq hresp' hout hpass', hsame]
    rfl
  · exact ⟨fun h => (hiff.mp (congrArg some h)).2.2,
      fun h => Option.some.inj (hiff.mpr ⟨⟨hfd, hset⟩, hq, h⟩)⟩
  · cases hread : q.readReply (received turns) with
    | error rc =>
      have hneg := ModbusRequest.readReply_error_neg hread
      refine ⟨fun h => ?_, fun _ => ⟨hneg, rfl⟩⟩
      rw [show rc = gwOk from h] at hneg
      exact absurd hneg (by decide)
    | ok regs => exact ⟨fun _ => report_registers hq hread, fun h => absurd rfl h⟩

/-- **A read accepts exactly the valid reply, exactly when** its descriptor has room in an
`fd_set`. -/
theorem modbusRead_acceptsReply_iff {fd : ℤ} (hfd : 0 ≤ fd) {q : ModbusRequest}
    (hq : q.valid = true) {out : List Word} (hout : q.length.toNat ≤ out.length)
    {resp : List Byte} (hresp : resp.length = 256) {turns : List Turn}
    (hpass : ∀ t ∈ turns, t.Passes) :
    AcceptsReply fd q out resp turns ↔ fd < fdSetSize := by
  refine ⟨?_, fun hset => acceptsReply_of_lt hfd hset hq hout hresp hpass⟩
  rintro ⟨rc, out', hrun, -⟩
  by_contra hset
  rw [gwRs485ModbusRead_overflow (not_lt.mp hset) hq] at hrun
  cases hrun

/-- One register, in three pieces with interruptions between them. -/
def splitReply : List Turn :=
  [.selectFails .eintr, .arrives [1], .readFails .eagain, .arrives [3, 2, 0], .arrives [42, 0x39, 0x9b]]

theorem splitReply_accepted : AcceptsReply 3 ⟨1, 3, 0, 1⟩ [0] (List.replicate 256 0) splitReply :=
  (modbusRead_acceptsReply_iff (by decide) (by decide) (by decide) List.length_replicate (by decide)).mpr
    (by decide)

/-- The same on the descriptor 1024. -/
theorem splitReply_overflows : ¬ AcceptsReply 1024 ⟨1, 3, 0, 1⟩ [0] (List.replicate 256 0) splitReply := by
  rintro ⟨rc, out', hrun, -⟩
  have hnone : gwRs485ModbusRead 1024 ⟨1, 3, 0, 1⟩ (some [0]) 8 (List.replicate 256 0) splitReply = none := by
    decide +kernel
  rw [hnone] at hrun
  cases hrun

end Hal
