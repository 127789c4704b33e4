import IotGateway.Num.Words
import IotGateway.Gateway.Profile

/-!
# What the registers of a sensor are published as

`Poll.Publishes`: some run publishes a value as the reading of a measurement, from the
registers that the slave answers its own request with. There is one such value
(`Poll.publishes_iff`): the first register as a signed number, scaled.

`meant` is what the schema says of the same registers: all of them, in the byte order and
with the sign of the profile. `published_as_meant_iff`: **the two agree exactly on a profile
that loads and a content whose first register, sign-extended, is the whole of it.** An
unsigned register from `0x8000` on is published as a negative number (`co2_negative`).
-/

namespace Gateway

open Lts Hal

namespace Poll

variable {c : ChannelRunner}

/-- Some run publishes `v` for measurement `index`, from the answer `regs` to the request `q`
that the same poll sent for it. -/
def Publishes (c : ChannelRunner) (index : ℕ) (q : ModbusRequest) (regs : List Word)
    (v : SensorValue) : Prop :=
  ∃ es s, run (step c) init es = some s ∧ ∃ rd ∈ s.published, rd.value = v ∧ rd.index = index ∧
    rd.reply = some ⟨⟨q, rd.poll, index⟩, .registers regs⟩

/-- A reading from an answer to its own request is that measurement's value. -/
def OwnValues (c : ChannelRunner) (s : Poll) : Prop :=
  ∀ rd ∈ s.published ++ s.values, ∀ q regs,
    rd.reply = some ⟨⟨q, rd.poll, rd.index⟩, .registers regs⟩ →
      ∃ meas, c.measurements[rd.index]? = some meas ∧ q = meas.request c.cfg ∧
        rd.value = meas.sensorValue c.cfg regs

/-- The same readings, and nothing answered in between. -/
def Keeps (s s' : Poll) : Prop :=
  s'.published = s.published ∧ s'.values = s.values ∧ s'.poll = s.poll ∧ s'.answered = s.answered

theorem Keeps.trans {s s' s'' : Poll} (h : Keeps s s') (h' : Keeps s' s'') : Keeps s s'' := by
  obtain ⟨h1, h2, h3, h4⟩ := h
  obtain ⟨h1', h2', h3', h4'⟩ := h'
  exact ⟨h1'.trans h1, h2'.trans h2, h3'.trans h3, h4'.trans h4⟩

/-- **What a call reads** when the first reply in the queue answers its own request. -/
theorem modbusRead_own {q : ModbusRequest} (hv : q.valid = true) {regs : List Word}
    (ha : q.Answers (.registers regs)) (poll index : ℕ) (rest : List Byte) :
    modbusRead q (Reply.frame ⟨⟨q, poll, index⟩, .registers regs⟩ ++ rest) = .ok regs := by
  unfold modbusRead
  rw [hv, Reply.frame, ModbusRequest.readReply_replyFrame hv ha]
  rfl

theorem ownValues_failed {s : Poll} (hs : OwnValues c s) (index attempt : ℕ) (err : Err) :
    OwnValues c (s.failed index attempt err) := by
  obtain ⟨-, -, hpub, hval, -⟩ := failed_keeps s index attempt err
  unfold OwnValues
  rw [hpub, hval]
  exact hs

theorem ownValues_step {s s' : Poll} (hi : Inv c s) (hs : OwnValues c s) {e : PollEvent}
    (h : step c s e = some s') : OwnValues c s' := by
  by_cases he : e = .ret
  · subst he
    obtain ⟨index, attempt, since, meas, hp, hmeas, rfl⟩ := step_cases h
    obtain ⟨meas', hmeas', hv⟩ := hi.waiting index attempt since hp
    rw [hmeas] at hmeas'
    cases hmeas'
    unfold returned
    split
    · rename_i raw hread
      intro rd hrd q regs hreply
      simp only [took, ← List.append_assoc] at hrd
      rcases List.mem_append.1 hrd with hrd | hrd
      · exact hs rd hrd q regs hreply
      · rw [List.mem_singleton] at hrd
        subst hrd
        -- the reply at the front is the one the registers came from
        obtain ⟨rest, hbuf⟩ := List.head?_eq_some_iff.1 hreply
        obtain ⟨hsent, hans⟩ := hi.inbuf ⟨⟨q, s.poll, index⟩, .registers regs⟩
          (by rw [hbuf]; exact List.mem_cons_self)
        obtain ⟨meas', hmeas', hq⟩ := hi.sent ⟨q, s.poll, index⟩ hsent
        change c.measurements[index]? = some meas' at hmeas'
        rw [hmeas] at hmeas'
        cases hmeas'
        change q = meas.request c.cfg at hq
        subst hq
        rw [hbuf, List.flatMap_cons, modbusRead_own hv hans] at hread
        cases hread
        exact ⟨meas, hmeas, rfl, rfl⟩
    · exact ownValues_failed hs _ _ _
  · have hkeep := step_readings he h
    exact fun rd hrd => hs rd (hkeep rd hrd)

/-- The values of every run are their measurements'. -/
theorem ownValues_run {es : List PollEvent} {s : Poll} (h : run (step c) init es = some s) :
    OwnValues c s := by
  have hall : Always (step c) (fun t => Inv c t ∧ OwnValues c t) init es :=
    always_of_inv (fun _ _ _ ht h => ⟨inv_step ht.1 h, ownValues_step ht.1 ht.2 h⟩)
      ⟨⟨by simp [init], by simp [init], by simp [init]⟩, by simp [OwnValues, init]⟩
  exact (hall.last h).2

section Runs

variable {s : Poll} {index attempt readyAt : ℕ} {meas : Measurement}

/-- `pollOnce` at a measurement waits until it may go on, and calls. -/
theorem run_call (hp : s.phase = .next index attempt readyAt)
    (hmeas : c.measurements[index]? = some meas) :
    run (step c) s [.wait (readyAt - s.now), .next] =
      some (({ s with now := s.now + (readyAt - s.now) } : Poll).call c.cfg meas index attempt) := by
  have hready : readyAt ≤ s.now + (readyAt - s.now) := by omega
  simp [run, step, hp, hmeas, hready]

/-- A request that is sent. -/
theorem run_send (hp : s.phase = .next index attempt readyAt)
    (hmeas : c.measurements[index]? = some meas) (hv : (meas.request c.cfg).valid = true) :
    ∃ s', run (step c) s [.wait (readyAt - s.now), .next] = some s' ∧ Keeps s s' ∧
      s'.phase = .waiting index attempt s'.now ∧ s'.inbuf = [] ∧
      s'.sent = s.sent ++ [⟨meas.request c.cfg, s.poll, index⟩] := by
  have hcall := run_call hp hmeas
  rw [call, if_pos hv] at hcall
  exact ⟨_, hcall, ⟨rfl, rfl, rfl, rfl⟩, rfl, rfl, rfl⟩

/-- On a silent line a call times out, and its measurement is given up. -/
theorem run_timeout (hp : s.phase = .waiting index attempt s.now)
    (hbuf : s.inbuf = []) (hmeas : c.measurements[index]? = some meas)
    (hv : (meas.request c.cfg).valid = true) :
    ∃ s' t', run (step c) s [.wait timeoutMs, .ret] = some s' ∧ s'.phase = .next (index + 1) 0 t' ∧
      Keeps s s' := by
  have hread : modbusRead (meas.request c.cfg) [] = .error ⟨gwErrTimeout⟩ := by
    unfold modbusRead
    rw [hv, ModbusRequest.readReply_nil]
    rfl
  have hret : run (step c) s [.wait timeoutMs, .ret] =
      some (({ s with now := s.now + timeoutMs } : Poll).failed index attempt ⟨gwErrTimeout⟩) := by
    simp [run, step, hp, hbuf, hmeas, returned, hread]
  exact ⟨_, _, hret, rfl, rfl, rfl, rfl, rfl⟩

/-- An attempt on a silent line, or with invalid arguments. -/
theorem exists_run_attempt (hp : s.phase = .next index attempt readyAt)
    (hmeas : c.measurements[index]? = some meas) :
    ∃ es s' t', run (step c) s es = some s' ∧ Keeps s s' ∧
      (s'.phase = .next (index + 1) 0 t' ∨ attempt + 1 < 3 ∧ s'.phase = .next index (attempt + 1) t') := by
  by_cases hv : (meas.request c.cfg).valid = true
  · obtain ⟨s₁, hsend, hkeeps₁, hwaiting, hbuf, -⟩ := run_send hp hmeas hv
    obtain ⟨s', t', hrun, hphase, hkeeps⟩ := run_timeout hwaiting hbuf hmeas hv
    exact ⟨_, s', t', run_append_eq_some.2 ⟨s₁, hsend, hrun⟩, hkeeps₁.trans hkeeps, Or.inl hphase⟩
  · have hcall := run_call hp hmeas
    rw [call, if_neg hv, failed] at hcall
    have hcode : gwErrInvalid ≠ gwErrTimeout := by decide
    dsimp only at hcall
    rw [if_neg hcode] at hcall
    split_ifs at hcall with hthird
    · exact ⟨_, _, _, hcall, ⟨rfl, rfl, rfl, rfl⟩, Or.inl rfl⟩
    · have hmore : attempt + 1 < 3 := by
        by_contra hle
        exact hthird (Or.inr (by omega))
      exact ⟨_, _, _, hcall, ⟨rfl, rfl, rfl, rfl⟩, Or.inr ⟨hmore, rfl⟩⟩

/-- The answer to a request that has just been sent is read. -/
theorem run_answer {sent : List Query} {poll : ℕ} {regs : List Word}
    (hp : s.phase = .waiting index attempt s.now)
    (hbuf : s.inbuf = []) (hsent : s.sent = sent ++ [⟨meas.request c.cfg, poll, index⟩])
    (hmeas : c.measurements[index]? = some meas) (hv : (meas.request c.cfg).valid = true)
    (ha : (meas.request c.cfg).Answers (.registers regs)) (hanswered : s.answered ≤ sent.length) :
    ∃ s', run (step c) s [.answer sent.length (.registers regs), .ret] = some s' ∧
      s'.phase = .next (index + 1) 0 s'.now ∧ s'.published = s.published ∧
      s'.values = s.values ++ [⟨meas.sensorValue c.cfg regs, s.poll, index,
        some ⟨⟨meas.request c.cfg, poll, index⟩, .registers regs⟩⟩] := by
  have hread := modbusRead_own hv ha poll index []
  rw [List.append_nil] at hread
  have hrun : run (step c) s [.answer sent.length (.registers regs), .ret] =
      some (({ s with
        answered := sent.length + 1
        inbuf := [⟨⟨meas.request c.cfg, poll, index⟩, .registers regs⟩] } : Poll).took c.cfg meas index
          regs) := by
    simp [run, step, hsent, hanswered, ha, hp, hbuf, hmeas, returned, hread]
  exact ⟨_, hrun, rfl, rfl, rfl⟩

/-- **Every measurement can be left without a reading**: by a timeout, or by the third
refusal of its arguments. -/
theorem exists_run_skip (hmeas : c.measurements[index]? = some meas) (k : ℕ) :
    ∀ {s : Poll} {attempt readyAt : ℕ}, 3 ≤ attempt + 1 + k → s.phase = .next index attempt readyAt →
      ∃ es s' t', run (step c) s es = some s' ∧ Keeps s s' ∧ s'.phase = .next (index + 1) 0 t' := by
  -- on the attempts that are left
  induction k with
  | zero =>
    intro s attempt readyAt hk hp
    obtain ⟨es, s', t', hrun, hkeeps, hphase | ⟨hmore, -⟩⟩ := exists_run_attempt hp hmeas
    · exact ⟨es, s', t', hrun, hkeeps, hphase⟩
    · omega
  | succ k ih =>
    intro s attempt readyAt hk hp
    obtain ⟨es, s', t', hrun, hkeeps, hphase | ⟨-, hphase⟩⟩ := exists_run_attempt hp hmeas
    · exact ⟨es, s', t', hrun, hkeeps, hphase⟩
    · obtain ⟨es', s'', t'', hrun', hkeeps', hphase'⟩ := ih (by omega) hphase
      exact ⟨es ++ es', s'', t'', run_append_eq_some.2 ⟨s', hrun, hrun'⟩, hkeeps.trans hkeeps', hphase'⟩

/-- A poll can come to any later measurement, or to the end, without another reading. -/
theorem exists_run_to (n : ℕ) :
    ∀ {s : Poll} {index readyAt : ℕ}, index + n ≤ c.measurements.length →
      s.phase = .next index 0 readyAt →
      ∃ es s' t', run (step c) s es = some s' ∧ Keeps s s' ∧ s'.phase = .next (index + n) 0 t' := by
  induction n with
  | zero => exact fun _ hp => ⟨[], _, _, rfl, ⟨rfl, rfl, rfl, rfl⟩, hp⟩
  | succ n ih =>
    intro s index readyAt hn hp
    have hmeas := List.getElem?_eq_getElem (show index < c.measurements.length by omega)
    obtain ⟨es, s', t', hrun, hkeeps, hphase⟩ := exists_run_skip hmeas 2 (by omega) hp
    obtain ⟨es', s'', t'', hrun', hkeeps', hphase'⟩ := ih (by omega) hphase
    refine ⟨es ++ es', s'', t'', run_append_eq_some.2 ⟨s', hrun, hrun'⟩, hkeeps.trans hkeeps', ?_⟩
    rw [hphase', show index + 1 + n = index + (n + 1) by omega]

/-- A poll can come to its end, where it publishes what it has taken up. -/
theorem exists_run_finish (hp : s.phase = .next index 0 readyAt) (hindex : index ≤ c.measurements.length) :
    ∃ es s', run (step c) s es = some s' ∧ s'.published = s.published ++ s.values := by
  obtain ⟨es, s', t', hrun, ⟨hpub, hval, -, -⟩, hphase⟩ :=
    exists_run_to (c := c) (c.measurements.length - index) (by omega) hp
  rw [show index + (c.measurements.length - index) = c.measurements.length by omega] at hphase
  have hready : t' ≤ s'.now + (t' - s'.now) := by omega
  have hend : run (step c) s' [.wait (t' - s'.now), .next] =
      some ({ s' with now := s'.now + (t' - s'.now) } : Poll).finish := by
    simp [run, step, hphase, hready]
  refine ⟨_, _, run_append_eq_some.2 ⟨s', hrun, hend⟩, ?_⟩
  rw [← hpub, ← hval]
  rfl

end Runs

/-- **The value of a measurement.** From the registers of an answer to its own request, a
measurement is published as `sensorValue` of these, and as nothing else. -/
theorem publishes_iff {index : ℕ} {meas : Measurement} (hmeas : c.measurements[index]? = some meas)
    (hv : (meas.request c.cfg).valid = true) {q : ModbusRequest} {regs : List Word}
    (ha : (meas.request c.cfg).Answers (.registers regs)) {v : SensorValue} :
    Publishes c index q regs v ↔ q = meas.request c.cfg ∧ v = meas.sensorValue c.cfg regs := by
  constructor
  · rintro ⟨es, s, hrun, rd, hrd, rfl, rfl, hreply⟩
    obtain ⟨meas', hmeas', hq, hvalue⟩ := ownValues_run hrun rd (List.mem_append_left _ hrd) q regs hreply
    rw [hmeas] at hmeas'
    cases hmeas'
    exact ⟨hq, hvalue⟩
  · rintro ⟨rfl, rfl⟩
    have hlt : index < c.measurements.length := (List.getElem?_eq_some_iff.1 hmeas).1
    -- a poll comes to the measurement with nothing read
    obtain ⟨es₁, s₁, t₁, hrun₁, ⟨hpub₁, hval₁, hpoll₁, hans₁⟩, hphase₁⟩ :=
      exists_run_to (c := c) (s := { init with phase := .next 0 0 0, poll := 1 }) index (by omega) rfl
    rw [Nat.zero_add] at hphase₁
    -- its request is answered, and the answer read
    obtain ⟨s₂, hrun₂, ⟨hpub₂, hval₂, hpoll₂, hans₂⟩, hphase₂, hbuf₂, hsent₂⟩ := run_send hphase₁ hmeas hv
    obtain ⟨s₃, hrun₃, hphase₃, hpub₃, hval₃⟩ := run_answer hphase₂ hbuf₂ hsent₂ hmeas hv ha (by
      rw [hans₂, hans₁]
      exact Nat.zero_le _)
    obtain ⟨es₄, s₄, hrun₄, hpub₄⟩ := exists_run_finish hphase₃ hlt
    have htick : run (step c) init [.tick] = some { init with phase := .next 0 0 0, poll := 1 } := rfl
    refine ⟨_, s₄, run_append_eq_some.2 ⟨_, htick, run_append_eq_some.2 ⟨s₁, hrun₁,
      run_append_eq_some.2 ⟨s₂, hrun₂, run_append_eq_some.2 ⟨s₃, hrun₃, hrun₄⟩⟩⟩⟩, ?_⟩
    refine ⟨⟨meas.sensorValue c.cfg regs, s₂.poll, index,
      some ⟨⟨meas.request c.cfg, s₁.poll, index⟩, .registers regs⟩⟩, ?_, rfl, rfl, ?_⟩
    · rw [hpub₄, hval₃]
      simp
    · rw [hpoll₂]

end Poll

/-! What the schema means by a measurement. -/

open Go

/-- The request for a measurement's registers. -/
def meantRequest (m : Document) (cfg : SensorChannel) : ModbusRequest where
  slave := BitVec.ofInt 8 cfg.slaveID
  functionCode := BitVec.ofInt 8 (integerOf (modbusField m "function_code"))
  register := BitVec.ofInt 16 (integerOf (modbusField m "register"))
  length := BitVec.ofInt 16 (integerOf (modbusField m "length"))

def meantScale (m : Document) : ℚ := (numberOf (m.get "scale")).getD 1

def meantOffset (m : Document) : ℚ := (numberOf (m.get "offset")).getD 0

def meantOrder (m : Document) : Words.Order :=
  if textOf (modbusField m "endianness") = "little" then .little else .big

/-- The content of all registers, signed for `int` and unsigned for `uint`. -/
def meantRaw (m : Document) (regs : List Word) : ℤ :=
  if textOf (m.get "data_type") = "int" then Words.signed (meantOrder m) regs
  else Words.unsigned (meantOrder m) regs

def meant (m : Document) (regs : List Word) : ℚ := meantScale m * meantRaw m regs + meantOffset m

/-- The first register, sign-extended, is the whole content; with a scale of 0, it is 0. -/
def ReadsAlike (m : Document) : List Word → Prop
  | [] => True
  | first :: rest =>
    if meantScale m = 0 then first = 0
    else (textOf (m.get "data_type") = "uint" → first.msb = false) ∧
      (∀ y ∈ rest, y = Words.signWord first) ∧
      (meantOrder m = .big → rest ≠ [] → first = Words.signWord first)

variable {m : Document} {cfg : SensorChannel}

@[simp] theorem defaultScale_request (meas : Measurement) (cfg : SensorChannel) :
    meas.defaultScale.request cfg = meas.request cfg := by
  unfold Measurement.defaultScale
  split_ifs <;> rfl

theorem defaultScale_value (meas : Measurement) (cfg : SensorChannel) (raw : List Word) :
    (meas.defaultScale.sensorValue cfg raw).value =
      (raw.getD 0 0).toInt * (if meas.scale = 0 then 1 else meas.scale) + meas.offset := by
  unfold Measurement.defaultScale
  split_ifs <;> rfl

/-- The scale the gateway uses is the schema's, but for 0. -/
theorem scale_eq (m : Document) :
    (if (measurementOf m).scale = 0 then 1 else (measurementOf m).scale) =
      if meantScale m = 0 then 1 else meantScale m := by
  unfold measurementOf meantScale
  cases numberOf (m.get "scale") with
  | none => norm_num
  | some s => rfl

/-- **When the value that the gateway computes is the one that is meant.** -/
theorem value_eq_meant_iff (htype : textOf (m.get "data_type") = "int" ∨ textOf (m.get "data_type") = "uint")
    (first : Word) (rest : List Word) :
    ((measurementOf m).defaultScale.sensorValue cfg (first :: rest)).value = meant m (first :: rest) ↔
      ReadsAlike m (first :: rest) := by
  rw [defaultScale_value, scale_eq, meant, ReadsAlike, List.getD_cons_zero]
  have hoffset : (measurementOf m).offset = meantOffset m := rfl
  rw [hoffset, add_left_inj]
  by_cases hscale : meantScale m = 0
  · rw [if_pos hscale, if_pos hscale, hscale, mul_one, zero_mul, Int.cast_eq_zero,
      ← BitVec.toInt_zero (w := 16), BitVec.toInt_inj]
    exact Iff.rfl
  · rw [if_neg hscale, if_neg hscale, mul_comm, mul_right_inj' hscale, Int.cast_inj, meantRaw]
    rcases htype with hint | huint
    · rw [if_pos hint, eq_comm, Words.signed_eq_toInt_iff (by norm_num)]
      simp [hint]
    · rw [if_neg (by rw [huint]; decide), eq_comm, Words.unsigned_eq_toInt_iff (by norm_num)]
      simp [huint]

/-- The request of a measurement with a `modbus` block can be sent, and asks for the
registers of that block. -/
theorem meantRequest_valid (cfg : SensorChannel) (h : measurementSchema m = true)
    (hmodbus : (m.get "modbus").isSome = true) :
    (meantRequest m cfg).valid = true ∧ 0 < (meantRequest m cfg).length.toNat ∧
      ((meantRequest m cfg).length.toNat : ℤ) = integerOf (modbusField m "length") := by
  obtain ⟨mb, hmb⟩ := Option.isSome_iff_exists.1 hmodbus
  have hspec : modbusSpecSchema mb = true := Schema.object_get h rfl hmb
  have hfield (name : String) : modbusField m name = mb.get name := by
    rw [modbusField, hmb, Option.bind_some]
  have hcode := integerOf_required hspec "function_code" (by simp) rfl
  have hlength := integerOf_required hspec "length" (by simp) rfl
  rw [← hfield] at hcode hlength
  simp only [Bool.or_eq_true, Bool.and_eq_true, decide_eq_true_eq] at hcode hlength
  have hbits : ((meantRequest m cfg).length.toNat : ℤ) = integerOf (modbusField m "length") := by
    rw [meantRequest, BitVec.toNat_ofInt]
    omega
  refine ⟨?_, by omega, hbits⟩
  have hne : (meantRequest m cfg).length ≠ 0 := by
    intro hzero
    rw [hzero] at hbits
    simp at hbits
    omega
  have hfn : (meantRequest m cfg).functionCode = 0x03 ∨ (meantRequest m cfg).functionCode = 0x04 := by
    rcases hcode with h3 | h4
    · left
      rw [meantRequest, h3]
      rfl
    · right
      rw [meantRequest, h4]
      rfl
  unfold ModbusRequest.valid
  simp only [Bool.and_eq_true, Bool.or_eq_true, decide_eq_true_eq]
  exact ⟨⟨hne, by omega⟩, hfn⟩

/-- **Profiles read as the schema means them.** For every document that the schema accepts
(whatever its protocol), every measurement of type `int` or `uint` with a `modbus` block and
every content of its registers: the profile loads, and from an answer with these registers
exactly the meant value is published, read with the meant request, if and only if the
document is written as Go reads it and the first register already says what all of them do. -/
theorem published_as_meant_iff {readFile : String → Except String Document} {path : String}
    {doc : Document} (hfile : readFile path = .ok doc) (h : sensorProfileSchema doc = true)
    (cfg : SensorChannel) {index : ℕ} {m : Document} (hm : (measurementsOf doc)[index]? = some m)
    (hmodbus : (m.get "modbus").isSome = true)
    (htype : textOf (m.get "data_type") = "int" ∨ textOf (m.get "data_type") = "uint")
    {regs : List Word} (hlen : (regs.length : ℤ) = integerOf (modbusField m "length")) :
    (∃ measurements, loadProfile (readProfile readFile) path = .ok measurements ∧
      ∃ v, v.value = meant m regs ∧ ∀ q u, Poll.Publishes ⟨cfg, measurements⟩ index q regs u ↔
        q = meantRequest m cfg ∧ u = v) ↔
    Readable doc = true ∧ ReadsAlike m regs := by
  obtain ⟨-, -, hitems⟩ := measurements_of_accepted h
  obtain ⟨hvalid, hpos, hlength⟩ :=
    meantRequest_valid cfg (hitems m (List.mem_of_getElem? hm)) hmodbus
  have hregs : regs.length = (meantRequest m cfg).length.toNat := by
    exact_mod_cast hlen.trans hlength.symm
  obtain ⟨first, rest, rfl⟩ := List.exists_cons_of_length_pos (hregs ▸ hpos)
  have hpublishes : ∀ q u, Poll.Publishes
      ⟨cfg, ((measurementsOf doc).map measurementOf).map Measurement.defaultScale⟩ index q
        (first :: rest) u ↔
      q = meantRequest m cfg ∧ u = (measurementOf m).defaultScale.sensorValue cfg (first :: rest) := by
    intro q u
    have hrequest : (measurementOf m).defaultScale.request cfg = meantRequest m cfg :=
      defaultScale_request _ cfg
    have hmeas : (((measurementsOf doc).map measurementOf).map Measurement.defaultScale)[index]? =
        some (measurementOf m).defaultScale := by
      rw [List.getElem?_map, List.getElem?_map, hm]
      rfl
    rw [← hrequest] at hvalid hregs ⊢
    exact Poll.publishes_iff hmeas hvalid hregs
  simp only [loadProfile_eq_ok_iff hfile h]
  constructor
  · rintro ⟨_, ⟨hreadable, rfl⟩, v, hv, hall⟩
    obtain ⟨-, hvalue⟩ := (hall _ _).1 ((hpublishes _ _).2 ⟨rfl, rfl⟩)
    rw [← hvalue] at hv
    exact ⟨hreadable, (value_eq_meant_iff htype first rest).1 hv⟩
  · rintro ⟨hreadable, halike⟩
    exact ⟨_, ⟨hreadable, rfl⟩, _, (value_eq_meant_iff htype first rest).2 halike, hpublishes⟩

/-! A CO2 sensor with one unsigned register. -/

def co2Measurement : Document :=
  .obj [("key", .str "co2"), ("unit", .str "ppm"), ("data_type", .str "uint"),
    ("modbus", .obj [("function_code", .num (.integer 3)), ("register", .num (.integer 0)),
      ("length", .num (.integer 1))])]

def co2Profile : Document :=
  .obj [("name", .str "CO2"), ("protocol", .str "modbus_rtu"), ("measurements", .arr [co2Measurement])]

theorem co2_accepted : sensorProfileSchema co2Profile = true := by
  decide +kernel

theorem co2_as_meant :
    ∃ measurements, loadProfile (readProfile fun _ => .ok co2Profile) "co2.json" = .ok measurements ∧
      ∃ v, v.value = meant co2Measurement [800] ∧
        ∀ q u, Poll.Publishes ⟨⟨"co2-1", 1⟩, measurements⟩ 0 q [800] u ↔
          q = meantRequest co2Measurement ⟨"co2-1", 1⟩ ∧ u = v :=
  (published_as_meant_iff rfl co2_accepted ⟨"co2-1", 1⟩ (m := co2Measurement) rfl rfl (Or.inr rfl)
    rfl).2 ⟨by decide +kernel, by
      rw [ReadsAlike, if_neg (by decide +kernel)]
      exact ⟨fun _ => by decide, by simp, by simp⟩⟩

/-- A full scale of 65535 is published as -1. -/
theorem co2_negative :
    sensorProfileSchema co2Profile = true ∧ meant co2Measurement [0xFFFF] = 65535 ∧
      ∃ measurements, loadProfile (readProfile fun _ => .ok co2Profile) "co2.json" = .ok measurements ∧
        ∃ q v, Poll.Publishes ⟨⟨"co2-1", 1⟩, measurements⟩ 0 q [0xFFFF] v ∧ v.value = -1 := by
  have hload : loadProfile (readProfile fun _ => .ok co2Profile) "co2.json" = .ok
      (((measurementsOf co2Profile).map measurementOf).map Measurement.defaultScale) :=
    (loadProfile_eq_ok_iff rfl co2_accepted).2 ⟨by decide +kernel, rfl⟩
  have hmeas : (((measurementsOf co2Profile).map measurementOf).map Measurement.defaultScale)[0]? =
      some (measurementOf co2Measurement).defaultScale := rfl
  have hanswers : ((measurementOf co2Measurement).defaultScale.request ⟨"co2-1", 1⟩).Answers
      (.registers [0xFFFF]) := by
    decide +kernel
  exact ⟨co2_accepted, by decide +kernel, _, hload, _, _,
    (Poll.publishes_iff (c := ⟨⟨"co2-1", 1⟩, _⟩) hmeas (by decide +kernel) hanswers).2 ⟨rfl, rfl⟩,
    by decide +kernel⟩

end Gateway
