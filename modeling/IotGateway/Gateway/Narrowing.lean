import IotGateway.Gateway.Reading

/-!
# The numbers of a request

`pollOnce` hands the integers of the configuration and the profile to `hal.ModbusRead` as
`byte(…)` and `uint16(…)`. Neither `LoadProfile` nor the conversions check a range, and the
checks of the HAL see what is left of the numbers (`request_valid_iff`), so a register 65536
is asked for as register 0 (`register_wraps`).

`sent_exact_iff`: **outside simulation, the requests of a channel carry the integers they stand
for, in every run, exactly when no measurement of its profile wraps into a request that can be
sent.**
-/

namespace Gateway

open Lts Hal

/-- An integer survives a conversion to `w` bits when it fits. -/
theorem toNat_ofInt_eq_iff {w : ℕ} {n : ℤ} :
    ((BitVec.ofInt w n).toNat : ℤ) = n ↔ 0 ≤ n ∧ n < 2 ^ w := by
  have hpos : (0 : ℤ) < 2 ^ w := by positivity
  have hcast : (((2 ^ w : ℕ) : ℤ)) = 2 ^ w := by push_cast; rfl
  rw [BitVec.toNat_ofInt, hcast, Int.toNat_of_nonneg (Int.emod_nonneg n hpos.ne')]
  constructor
  · intro h
    rw [← h]
    exact ⟨Int.emod_nonneg n hpos.ne', Int.emod_lt_of_pos n hpos⟩
  · exact fun h => Int.emod_eq_of_lt h.1 h.2

/-- The request carries the integers of the configuration and the profile. -/
structure Exact (cfg : SensorChannel) (meas : Measurement) (q : ModbusRequest) : Prop where
  slave : (q.slave.toNat : ℤ) = cfg.slaveID
  functionCode : (q.functionCode.toNat : ℤ) = meas.functionCode
  register : (q.register.toNat : ℤ) = meas.register
  length : (q.length.toNat : ℤ) = meas.length

/-- The numbers of a measurement fit their fields. -/
def Measurement.InRange (meas : Measurement) : Prop :=
  (0 ≤ meas.functionCode ∧ meas.functionCode < 256) ∧
    (0 ≤ meas.register ∧ meas.register < 65536) ∧ 0 ≤ meas.length ∧ meas.length < 65536

/-- A measurement that does not fit, though what is left of its function code and length
passes the HAL's checks. -/
def Measurement.Wraps (meas : Measurement) : Prop :=
  (meas.functionCode % 256 = 3 ∨ meas.functionCode % 256 = 4) ∧
    (1 ≤ meas.length % 65536 ∧ meas.length % 65536 ≤ 125) ∧ ¬ meas.InRange

instance (meas : Measurement) : Decidable meas.InRange :=
  inferInstanceAs (Decidable ((0 ≤ meas.functionCode ∧ meas.functionCode < 256) ∧
    (0 ≤ meas.register ∧ meas.register < 65536) ∧ 0 ≤ meas.length ∧ meas.length < 65536))

instance (meas : Measurement) : Decidable meas.Wraps :=
  inferInstanceAs (Decidable ((meas.functionCode % 256 = 3 ∨ meas.functionCode % 256 = 4) ∧
    (1 ≤ meas.length % 65536 ∧ meas.length % 65536 ≤ 125) ∧ ¬ meas.InRange))

variable {cfg : SensorChannel} {meas : Measurement} {c : ChannelRunner}

/-- A slave id that `Validate` accepts fits; the rest is the measurement's. -/
theorem exact_request_iff (hslave : 1 ≤ cfg.slaveID ∧ cfg.slaveID ≤ 247) :
    Exact cfg meas (meas.request cfg) ↔ meas.InRange := by
  have h8 : (2 : ℤ) ^ 8 = 256 := by norm_num
  have h16 : (2 : ℤ) ^ 16 = 65536 := by norm_num
  constructor
  · rintro ⟨-, hcode, hregister, hlength⟩
    have hc := toNat_ofInt_eq_iff.mp hcode
    have hr := toNat_ofInt_eq_iff.mp hregister
    have hl := toNat_ofInt_eq_iff.mp hlength
    rw [h8] at hc
    rw [h16] at hr hl
    exact ⟨hc, hr, hl⟩
  · rintro ⟨hc, hr, hl⟩
    refine ⟨toNat_ofInt_eq_iff.mpr ?_, toNat_ofInt_eq_iff.mpr ?_, toNat_ofInt_eq_iff.mpr ?_,
      toNat_ofInt_eq_iff.mpr ?_⟩
    · rw [h8]
      omega
    · rwa [h8]
    · rwa [h16]
    · rwa [h16]

/-- **The HAL's checks see the wrapped numbers.** -/
theorem request_valid_iff : (meas.request cfg).valid = true ↔
    (meas.functionCode % 256 = 3 ∨ meas.functionCode % 256 = 4) ∧
      1 ≤ meas.length % 65536 ∧ meas.length % 65536 ≤ 125 := by
  have hcode : ((meas.request cfg).functionCode.toNat : ℤ) = meas.functionCode % 256 := by
    rw [Measurement.request, BitVec.toNat_ofInt]
    omega
  have hlength : ((meas.request cfg).length.toNat : ℤ) = meas.length % 65536 := by
    rw [Measurement.request, BitVec.toNat_ofInt]
    omega
  have h3 : (meas.request cfg).functionCode = 0x03 ↔ meas.functionCode % 256 = 3 := by
    rw [← hcode, ← BitVec.toNat_inj]
    exact_mod_cast Iff.rfl
  have h4 : (meas.request cfg).functionCode = 0x04 ↔ meas.functionCode % 256 = 4 := by
    rw [← hcode, ← BitVec.toNat_inj]
    exact_mod_cast Iff.rfl
  have h0 : (meas.request cfg).length ≠ 0 ↔ 1 ≤ meas.length % 65536 := by
    rw [← hlength, Ne, ← BitVec.toNat_inj]
    simp only [BitVec.toNat_zero, BitVec.ofNat_eq_ofNat]
    omega
  unfold ModbusRequest.valid
  simp only [Bool.and_eq_true, Bool.or_eq_true, decide_eq_true_eq, h0, h3, h4]
  omega

namespace Poll

/-- Every request on the line carries the integers of the measurement it was sent for. -/
def SentExact (c : ChannelRunner) (s : Poll) : Prop :=
  ∀ query ∈ s.sent, ∃ meas, c.measurements[query.index]? = some meas ∧
    Exact c.cfg meas query.request

/-- A step sends nothing, or the request of a measurement that passes the HAL's checks. -/
theorem step_sent {s s' : Poll} {e : PollEvent} (h : step c s e = some s') :
    s'.sent = s.sent ∨ ∃ index meas, c.measurements[index]? = some meas ∧
      (meas.request c.cfg).valid = true ∧ s'.sent = s.sent ++ [⟨meas.request c.cfg, s.poll, index⟩] := by
  have hcases := step_cases h
  cases e with
  | tick => exact .inl (by rw [hcases])
  | next =>
    rcases hcases with rfl | ⟨index, attempt, meas, hmeas, rfl⟩
    · exact .inl rfl
    · unfold call
      split_ifs with hv
      · exact .inr ⟨index, meas, hmeas, hv, rfl⟩
      · exact .inl (failed_keeps s index attempt _).1
  | answer n content =>
    obtain ⟨query, -, -, rfl⟩ := hcases
    exact .inl rfl
  | ret =>
    obtain ⟨index, attempt, since, meas, -, -, rfl⟩ := hcases
    unfold returned
    split
    · exact .inl rfl
    · exact .inl (failed_keeps s index attempt _).1
  | wait ms => exact .inl (by rw [hcases])

/-- Without a measurement that wraps, every step keeps the requests exact. -/
theorem sentExact_step (hslave : 1 ≤ c.cfg.slaveID ∧ c.cfg.slaveID ≤ 247)
    (hwraps : ∀ meas ∈ c.measurements, ¬ meas.Wraps) {s s' : Poll} {e : PollEvent}
    (hs : SentExact c s) (h : step c s e = some s') : SentExact c s' := by
  rcases step_sent h with hsame | ⟨index, meas, hmeas, hv, hsent⟩
  · unfold SentExact
    rw [hsame]
    exact hs
  · intro query hquery
    rw [hsent] at hquery
    rcases List.mem_append.mp hquery with hold | hnew
    · exact hs query hold
    · rw [List.mem_singleton.mp hnew]
      obtain ⟨hcode, hlength⟩ := request_valid_iff.mp hv
      have hrange : meas.InRange := by
        by_contra hout
        exact hwraps meas (List.mem_of_getElem? hmeas) ⟨hcode, hlength, hout⟩
      exact ⟨meas, hmeas, (exact_request_iff hslave).mpr hrange⟩

/-- Every request that can be sent is sent in some run. -/
theorem exists_run_sends {index : ℕ} {meas : Measurement}
    (hmeas : c.measurements[index]? = some meas) (hv : (meas.request c.cfg).valid = true) :
    ∃ es s, run (step c) init es = some s ∧
      ∃ query ∈ s.sent, query.index = index ∧ query.request = meas.request c.cfg := by
  have hlt : index < c.measurements.length := (List.getElem?_eq_some_iff.mp hmeas).1
  have htick : run (step c) init [.tick] = some { init with phase := .next 0 0 0, poll := 1 } := rfl
  obtain ⟨es, s, t, hrun, -, hphase⟩ :=
    exists_run_to (c := c) (s := { init with phase := .next 0 0 0, poll := 1 }) index (by omega) rfl
  rw [Nat.zero_add] at hphase
  obtain ⟨s', hsend, -, -, -, hsent⟩ := run_send hphase hmeas hv
  refine ⟨_, s', run_append_eq_some.mpr ⟨_, htick, run_append_eq_some.mpr ⟨s, hrun, hsend⟩⟩,
    ⟨meas.request c.cfg, s.poll, index⟩, ?_, rfl, rfl⟩
  rw [hsent]
  exact List.mem_append_right _ (List.mem_singleton_self _)

end Poll

/-- What `pollOnce` does on the line of a channel: nothing in simulation. -/
def SensorManager.poll (m : SensorManager) (r : Runner) (s : Poll) (e : PollEvent) : Option Poll :=
  if m.sim then none else Poll.step ⟨r.cfg.polled, r.measurements⟩ s e

/-- **The requests of a channel are exact in every run, if and only if** the manager is simulated
or no measurement of the channel's profile wraps. -/
theorem sent_exact_iff {cfg : Config} (hcfg : cfg.validate = .ok ())
    {readProfile : String → Except String (List Measurement)}
    {openTty : String → String → Except Err ℕ} {simCfg : Config.SimulationConfig}
    {m : SensorManager}
    (hm : newSensorManager readProfile openTty cfg.sensors simCfg = .ok m)
    {r : Runner} (hr : r ∈ m.channels) :
    (∀ es, Always (m.poll r) (Poll.SentExact ⟨r.cfg.polled, r.measurements⟩) Poll.init es) ↔
      m.sim = true ∨ ∀ meas ∈ r.measurements, ¬ meas.Wraps := by
  obtain ⟨-, hcfgs, -⟩ := Bus.newSensorManager_eq_ok hm
  have hmem : r.cfg ∈ cfg.sensors := by
    have hfilter : r.cfg ∈ cfg.sensors.filter (·.enabled) := by
      rw [← hcfgs]
      exact List.mem_map_of_mem hr
    exact List.mem_of_mem_filter hfilter
  have hslave := ((Config.validate_eq_ok.mp hcfg).sensors r.cfg hmem).slaveID
  have hinit : Poll.SentExact ⟨r.cfg.polled, r.measurements⟩ Poll.init := fun query hquery => by cases hquery
  by_cases hsim : m.sim = true
  · refine iff_of_true (fun es => always_of_inv (fun s e s' _ h => ?_) hinit) (.inl hsim)
    rw [SensorManager.poll, if_pos hsim] at h
    cases h
  have hpoll : m.poll r = Poll.step ⟨r.cfg.polled, r.measurements⟩ := by
    funext s e
    exact if_neg hsim
  rw [hpoll, or_iff_right hsim]
  constructor
  · intro hall meas hmeas hwraps
    obtain ⟨index, hindex⟩ := List.getElem?_of_mem hmeas
    have hv : (meas.request r.cfg.polled).valid = true :=
      request_valid_iff.mpr ⟨hwraps.1, hwraps.2.1⟩
    obtain ⟨es, s, hrun, query, hquery, hi, hq⟩ :=
      Poll.exists_run_sends (c := ⟨r.cfg.polled, r.measurements⟩) hindex hv
    obtain ⟨meas', hmeas', hexact⟩ := (hall es).last hrun query hquery
    rw [hi, hindex] at hmeas'
    cases hmeas'
    rw [hq] at hexact
    exact hwraps.2.2 ((exact_request_iff hslave).mp hexact)
  · intro hwraps es
    exact always_of_inv (fun _ _ _ hs h => Poll.sentExact_step hslave hwraps hs h) hinit

/-! A profile with a register beyond 65535. -/

def farMeasurement : Document :=
  .obj [("key", .str "level"), ("unit", .str "mm"), ("data_type", .str "int"),
    ("modbus", .obj [("function_code", .num (.integer 3)), ("register", .num (.integer 65536)),
      ("length", .num (.integer 1))])]

def farProfile : Document :=
  .obj [("name", .str "Level"), ("protocol", .str "modbus_rtu"), ("measurements", .arr [farMeasurement])]

def farRunner : Runner := ⟨Bus.th01, [⟨"level", "mm", 3, 65536, 1, 1, 0, none, none⟩], 3⟩

/-- **Register 65536 is asked for as register 0.** -/
theorem register_wraps : Bus.patternB.validate = .ok () ∧
    newSensorManager (readProfile fun _ => .ok farProfile) Bus.sampleTty [Bus.th01]
      Bus.patternB.simulation = .ok ⟨[farRunner], false⟩ ∧
    (∃ s, run (SensorManager.poll ⟨[farRunner], false⟩ farRunner) Poll.init [.tick, .next] = some s ∧
      s.sent.map (·.request) = [⟨1, 3, 0, 1⟩]) ∧
    ¬ ∀ es, Always (SensorManager.poll ⟨[farRunner], false⟩ farRunner)
      (Poll.SentExact ⟨farRunner.cfg.polled, farRunner.measurements⟩) Poll.init es := by
  refine ⟨by decide +kernel, by decide +kernel, ⟨_, rfl, by decide +kernel⟩, fun hall => ?_⟩
  obtain ⟨meas, hmeas, hexact⟩ := (hall [.tick, .next]).last rfl _ (List.mem_singleton_self _)
  cases hmeas
  exact absurd hexact.register (by decide +kernel)

/-- The profile of the climate module fits. -/
theorem climate_exact : Always (Bus.managerB.poll ⟨Bus.th01, Bus.thProfile, 3⟩)
    (Poll.SentExact ⟨Bus.th01.polled, Bus.thProfile⟩) Poll.init [.tick, .next] := by
  have hvalid : Bus.patternB.validate = .ok () := by decide +kernel
  exact (sent_exact_iff hvalid Bus.patternB_manager (r := ⟨Bus.th01, Bus.thProfile, 3⟩)
    List.mem_cons_self).mpr (.inr (by decide +kernel)) [.tick, .next]

end Gateway
