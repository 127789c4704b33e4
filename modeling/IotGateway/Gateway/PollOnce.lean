import Mathlib.Order.WithBot
import IotGateway.Gateway.LocalDb
import IotGateway.Gateway.Poll

/-!
# One poll, on the outcomes of its reads

`pollOnce` as a function: `read i a` is the outcome of attempt `a` at measurement `i`,
`publish` that of `Publish`. Numbers are `float64`s; how the processor computes a value is
the argument `affine`.

`pollOnce_reports_iff`: **the poll reports what it read exactly when no value overflows.**
An infinite value has no JSON, so `json.Marshal` fails, and as its error is dropped an empty
payload is published: one measurement takes the readings of all the others with it
(`overflow_loses_readings`).
-/

namespace Gateway

open Hal

/-- A `float64` that is not a NaN; ⊥ and ⊤ are the infinities. -/
abbrev Float64 := WithBot (WithTop ℚ)

namespace Float64

def ofRat (q : ℚ) : Float64 := ((q : WithTop ℚ) : WithBot (WithTop ℚ))

/-- `json.Marshal` has a text for it. -/
def Finite (v : Float64) : Prop := v ≠ ⊥ ∧ v ≠ ⊤

instance (v : Float64) : Decidable v.Finite := inferInstanceAs (Decidable (v ≠ ⊥ ∧ v ≠ ⊤))

end Float64

/-- The outcome of a `hal.ModbusRead`. -/
abbrev Outcome := Except Err (List Word)

/-- An entry of `values`. -/
structure PollValue where
  sensorChannelID : String
  measurementKey : String
  value : Float64
  unit : String
  quality : String
deriving DecidableEq

/-- The telemetry payload. -/
structure Telemetry where
  messageID : String
  gatewayID : String
  timestamp : String
  values : List PollValue
deriving DecidableEq

section Poll

-- `float64(int16(raw[0]))*Scale + Offset`; Go may fuse the two operations
variable (affine : ℤ → ℚ → ℚ → Float64)

def Measurement.entryQuality (meas : Measurement) (val : Float64) : String :=
  let quality := if meas.min.any fun lo => decide (val < Float64.ofRat lo) then "out_of_range"
    else "good"
  if meas.max.any fun hi => decide (Float64.ofRat hi < val) then "out_of_range" else quality

/-- The entry of a measurement, from its first register. -/
def Measurement.entry (meas : Measurement) (cfg : SensorChannel) (first : Word) : PollValue :=
  let val := affine first.toInt meas.scale meas.offset
  { sensorChannelID := cfg.channelID
    measurementKey := meas.key
    value := val
    unit := meas.unit
    quality := meas.entryQuality val }

/-- The loop over the attempts, `left` of them to go: `raw` and `lastErr` after it, and the
outcomes it met. -/
def attempts (out : ℕ → Outcome) :
    ℕ → ℕ → List Word → Option Err → List Word × Option Err × List Outcome
  | 0, _, raw, lastErr => (raw, lastErr, [])
  | left + 1, attempt, raw, _ =>
    match out attempt with
    | .ok r => (r, none, [.ok r])
    | .error err =>
      if err = ⟨gwErrTimeout⟩ then (raw, some err, [.error err])
      else
        let rest := attempts out left (attempt + 1) raw (some err)
        (rest.1, rest.2.1, .error err :: rest.2.2)

/-- What the loop over the measurements has so far; `attempted` are the outcomes it met. -/
structure PollState where
  values : List PollValue
  allOK : Bool
  attempted : List (Measurement × List Outcome)

/-- The loop's body. Without a register `raw[0]` panics (`none`). -/
def pollMeasurement (cfg : SensorChannel) (out : ℕ → Outcome) (meas : Measurement)
    (s : PollState) : Option PollState :=
  let (raw, lastErr, outcomes) := attempts out 3 0 [] none
  let attempted := s.attempted ++ [(meas, outcomes)]
  match lastErr with
  | some _ => some { s with allOK := false, attempted := attempted }
  | none => do
    let first ← raw[0]?
    some { s with values := s.values ++ [meas.entry affine cfg first], attempted := attempted }

def pollMeasurements (cfg : SensorChannel) (read : ℕ → ℕ → Outcome) :
    ℕ → List Measurement → PollState → Option PollState
  | _, [], s => some s
  | i, meas :: rest, s =>
    (pollMeasurement affine cfg (read i) meas s).bind (pollMeasurements cfg read (i + 1) rest)

/-- What a poll does: the health it records, the payloads it hands to `Publish`, the messages
it hands to `Enqueue`. -/
structure PollResult where
  attempted : List (Measurement × List Outcome)
  values : List PollValue
  health : Bool
  published : List (String × Option (List UInt8))
  enqueued : List QueuedMessage

/-- `json.Marshal`, with its error dropped: no bytes for a value that is not finite. -/
def marshal (text : Telemetry → List UInt8) (payload : Telemetry) : Option (List UInt8) :=
  if ∀ v ∈ payload.values, v.value.Finite then some (text payload) else none

/-- `pollOnce`, outside simulation. `header` is the message without its values, and `text`
the JSON text of a payload. -/
def pollOnce (text : Telemetry → List UInt8) (c : ChannelRunner) (header : Telemetry)
    (read : ℕ → ℕ → Outcome) (publish : Except String Unit) : Option PollResult := do
  let s ← pollMeasurements affine c.cfg read 0 c.measurements ⟨[], true, []⟩
  if s.values = [] then some ⟨s.attempted, s.values, s.allOK, [], []⟩
  else
    let bs := marshal text { header with values := s.values }
    let topic := "gw/" ++ header.gatewayID ++ "/telemetry"
    let queued : QueuedMessage := ⟨topic, bs.getD [], 3, GoTime.zero⟩
    some ⟨s.attempted, s.values, s.allOK, [(topic, bs)],
      match publish with
      | .error _ => [queued]
      | .ok () => []⟩

/-! ### The attempts -/

/-- The loop stopped where it should: after errors that are no timeouts, fewer than three, a
success, a timeout, or a third failure. -/
def Stopped (outcomes : List Outcome) : Prop :=
  ∃ before last, outcomes = before ++ [last] ∧ before.length < 3 ∧
    (∀ o ∈ before, ∃ err, o = .error err ∧ err ≠ ⟨gwErrTimeout⟩) ∧
    ((∃ regs, last = .ok regs) ∨ last = .error ⟨gwErrTimeout⟩ ∨
      before.length = 2 ∧ ∃ err, last = .error err)

/-- The registers of a measurement: those of its first success, if no timeout and no third
failure came before. -/
def ReadsRegs (out : ℕ → Outcome) (regs : List Word) : Prop :=
  ∃ a < 3, out a = .ok regs ∧ ∀ b < a, ∃ err, out b = .error err ∧ err ≠ ⟨gwErrTimeout⟩

variable {out : ℕ → Outcome}

/-- **The retry loop**, from any attempt on: it meets the outcomes in order, stops where it
should, and leaves the registers of a success or its last error. -/
theorem attempts_spec (left attempt : ℕ) (raw : List Word) (lastErr : Option Err) :
    ∃ before last, (attempts out (left + 1) attempt raw lastErr).2.2 = before ++ [last] ∧
      before.length ≤ left ∧
      (∀ k o, (before ++ [last])[k]? = some o → o = out (attempt + k)) ∧
      (∀ o ∈ before, ∃ err, o = .error err ∧ err ≠ ⟨gwErrTimeout⟩) ∧
      ((∃ regs, last = .ok regs ∧
          (attempts out (left + 1) attempt raw lastErr).1 = regs ∧
          (attempts out (left + 1) attempt raw lastErr).2.1 = none) ∨
        ∃ err, last = .error err ∧ (err = ⟨gwErrTimeout⟩ ∨ before.length = left) ∧
          (attempts out (left + 1) attempt raw lastErr).2.1 = some err) := by
  have hone : ∀ {attempt : ℕ} {last : Outcome}, out attempt = last →
      ∀ k o, ([] ++ [last])[k]? = some o → o = out (attempt + k) := by
    intro attempt last hlast k o hk
    cases k with
    | zero => exact (Option.some.inj hk).symm.trans hlast.symm
    | succ k => cases hk
  induction left generalizing attempt raw lastErr with
  | zero =>
    rw [attempts]
    cases hout : out attempt with
    | ok r =>
      exact ⟨[], .ok r, rfl, le_rfl, hone hout, by simp, .inl ⟨r, rfl, rfl, rfl⟩⟩
    | error err =>
      refine ⟨[], .error err, ?_, le_rfl, hone hout, by simp, .inr ⟨err, rfl, .inr rfl, ?_⟩⟩
      · dsimp only
        split <;> rfl
      · dsimp only
        split <;> rfl
  | succ left ih =>
    rw [attempts]
    cases hout : out attempt with
    | ok r =>
      exact ⟨[], .ok r, rfl, by simp, hone hout, by simp, .inl ⟨r, rfl, rfl, rfl⟩⟩
    | error err =>
      dsimp only
      by_cases htime : err = ⟨gwErrTimeout⟩
      · rw [if_pos htime]
        exact ⟨[], .error err, rfl, by simp, hone hout, by simp,
          .inr ⟨err, rfl, .inl htime, rfl⟩⟩
      · rw [if_neg htime]
        obtain ⟨before, last, hos, hlen, hout', hbefore, hend⟩ := ih (attempt + 1) raw (some err)
        refine ⟨.error err :: before, last, by rw [hos]; rfl, Nat.succ_le_succ hlen, ?_, ?_, ?_⟩
        · intro k o hk
          cases k with
          | zero => exact (Option.some.inj hk).symm.trans hout.symm
          | succ k =>
            rw [← Nat.add_assoc, Nat.add_right_comm]
            exact hout' k o hk
        · intro o ho
          rcases List.mem_cons.mp ho with rfl | ho
          · exact ⟨err, rfl, htime⟩
          · exact hbefore o ho
        · rcases hend with hok | ⟨err', hlast, hwhy, herr⟩
          · exact .inl hok
          · exact .inr ⟨err', hlast, hwhy.imp_right fun h => congrArg Nat.succ h, herr⟩

/-- The outcomes are those of the attempts, in order. -/
def Follows (out : ℕ → Outcome) (outcomes : List Outcome) : Prop :=
  ∀ a o, outcomes[a]? = some o → o = out a

/-- **A measurement's attempts**: they are made until the first success, the first timeout or
the third failure, and leave the last one's registers or error. -/
theorem attempts_three (out : ℕ → Outcome) :
    Stopped (attempts out 3 0 [] none).2.2 ∧ Follows out (attempts out 3 0 [] none).2.2 ∧
      ((∃ regs, (attempts out 3 0 [] none).2.2.getLast? = some (.ok regs) ∧
          (attempts out 3 0 [] none).1 = regs ∧ (attempts out 3 0 [] none).2.1 = none) ∨
        ∃ err, (attempts out 3 0 [] none).2.2.getLast? = some (.error err) ∧
          (attempts out 3 0 [] none).2.1 = some err) := by
  obtain ⟨before, last, hos, hlen, hout, hbefore, hend⟩ := @attempts_spec out 2 0 [] none
  rw [hos, List.getLast?_concat]
  refine ⟨⟨before, last, rfl, by omega, hbefore, ?_⟩, fun a o ha => by simpa using hout a o ha, ?_⟩
  · rcases hend with ⟨regs, hlast, -⟩ | ⟨err, hlast, htime | htwo, -⟩
    · exact .inl ⟨regs, hlast⟩
    · exact .inr (.inl (by rw [hlast, htime]))
    · exact .inr (.inr ⟨htwo, err, hlast⟩)
  · rcases hend with ⟨regs, hlast, hregs, hnone⟩ | ⟨err, hlast, -, hsome⟩
    · exact .inl ⟨regs, congrArg some hlast, hregs, hnone⟩
    · exact .inr ⟨err, congrArg some hlast, hsome⟩

/-- A loop that stopped where it should ends with the registers the measurement reads. -/
theorem getLast?_eq_ok_iff {outcomes : List Outcome} (hstop : Stopped outcomes)
    (hfollow : Follows out outcomes) {regs : List Word} :
    outcomes.getLast? = some (.ok regs) ↔ ReadsRegs out regs := by
  obtain ⟨before, last, rfl, hlen, hbefore, hend⟩ := hstop
  rw [List.getLast?_concat, Option.some_inj]
  have hlast : last = out before.length := hfollow _ _ (by simp)
  have hget : ∀ b < before.length, ∃ err, out b = .error err ∧ err ≠ ⟨gwErrTimeout⟩ := by
    intro b hb
    obtain ⟨err, herr, hne⟩ := hbefore _ (List.getElem_mem hb)
    have hb' := hfollow b before[b] (by
      rw [List.getElem?_append_left hb, List.getElem?_eq_getElem hb])
    exact ⟨err, hb' ▸ herr, hne⟩
  constructor
  · intro h
    exact ⟨before.length, hlen, by rw [← hlast, h], hget⟩
  · rintro ⟨a, ha, hok, herrs⟩
    rcases Nat.lt_trichotomy before.length a with hlt | heq | hgt
    · -- the loop would have stopped at an error that does not stop it
      obtain ⟨err, herr, hne⟩ := herrs before.length hlt
      rw [hlast, herr] at hend
      rcases hend with ⟨regs', h⟩ | h | ⟨htwo, -⟩
      · cases h
      · cases h
        exact absurd rfl hne
      · omega
    · rw [hlast, heq, hok]
    · obtain ⟨err, herr, -⟩ := hget a hgt
      rw [hok] at herr
      cases herr

/-! ### The values -/

/-- The entry of a measurement, from the outcomes of its attempts. -/
def entryOf (cfg : SensorChannel) (p : Measurement × List Outcome) : Option PollValue :=
  match p.2.getLast? with
  | some (.ok (first :: _)) => some (p.1.entry affine cfg first)
  | _ => none

variable {affine}

/-- **The loop's body**, for reads that return registers. -/
theorem pollMeasurement_eq {cfg : SensorChannel} (hregs : ∀ a, out a ≠ .ok []) (meas : Measurement)
    (s : PollState) :
    pollMeasurement affine cfg out meas s =
      some ⟨s.values ++ (entryOf affine cfg (meas, (attempts out 3 0 [] none).2.2)).toList,
        s.allOK && (entryOf affine cfg (meas, (attempts out 3 0 [] none).2.2)).isSome,
        s.attempted ++ [(meas, (attempts out 3 0 [] none).2.2)]⟩ := by
  obtain ⟨hstop, hfollow, hend⟩ := attempts_three out
  unfold pollMeasurement entryOf
  rcases hend with ⟨regs, hlast, hraw, hnone⟩ | ⟨err, hlast, hsome⟩
  · obtain ⟨a, -, hok, -⟩ := (getLast?_eq_ok_iff hstop hfollow).mp hlast
    cases regs with
    | nil => exact absurd hok (hregs a)
    | cons first rest =>
      simp [hlast, hraw, hnone]
  · simp [hlast, hsome]

/-- **The loop over the measurements.** -/
theorem pollMeasurements_eq {cfg : SensorChannel} {read : ℕ → ℕ → Outcome} (rest : List Measurement)
    (i : ℕ) (hregs : ∀ j < rest.length, ∀ a, read (i + j) a ≠ .ok []) (s : PollState) :
    ∃ att, pollMeasurements affine cfg read i rest s =
        some ⟨s.values ++ att.filterMap (entryOf affine cfg),
          s.allOK && att.all fun p => (entryOf affine cfg p).isSome, s.attempted ++ att⟩ ∧
      att.map Prod.fst = rest ∧
      ∀ j p, att[j]? = some p → Stopped p.2 ∧ Follows (read (i + j)) p.2 := by
  induction rest generalizing i s with
  | nil => exact ⟨[], by simp [pollMeasurements], rfl, by simp⟩
  | cons meas rest ih =>
    have hhead : ∀ a, read i a ≠ .ok [] := hregs 0 (by simp)
    have htail : ∀ j < rest.length, ∀ a, read (i + 1 + j) a ≠ .ok [] := by
      intro j hj a
      rw [Nat.add_right_comm, Nat.add_assoc]
      exact hregs (j + 1) (by simpa using hj) a
    obtain ⟨hstop, hfollow, -⟩ := attempts_three (read i)
    set outcomes := (attempts (read i) 3 0 [] none).2.2 with houtcomes
    rw [pollMeasurements, pollMeasurement_eq hhead, Option.bind_some, ← houtcomes]
    obtain ⟨att, hrun, hkeys, hatt⟩ := ih (i + 1) htail
      ⟨s.values ++ (entryOf affine cfg (meas, outcomes)).toList,
        s.allOK && (entryOf affine cfg (meas, outcomes)).isSome, s.attempted ++ [(meas, outcomes)]⟩
    refine ⟨(meas, outcomes) :: att, ?_, by rw [List.map_cons, hkeys], ?_⟩
    · rw [hrun]
      cases hentry : entryOf affine cfg (meas, outcomes) <;> simp [hentry]
    · intro j p hj
      cases j with
      | zero =>
        cases hj
        exact ⟨hstop, hfollow⟩
      | succ j =>
        rw [← Nat.add_assoc, Nat.add_right_comm]
        exact hatt j p hj

/-! ### The poll -/

/-- The value lies within the measurement's limits. -/
def Measurement.Within (meas : Measurement) (v : Float64) : Prop :=
  (∀ lo ∈ meas.min, Float64.ofRat lo ≤ v) ∧ ∀ hi ∈ meas.max, v ≤ Float64.ofRat hi

theorem entryQuality_eq_good_iff {meas : Measurement} {v : Float64} :
    meas.entryQuality v = "good" ↔ meas.Within v := by
  have hbad : ("out_of_range" : String) ≠ "good" := by decide
  unfold Measurement.entryQuality Measurement.Within
  simp only [← not_lt]
  cases hmin : meas.min with
  | none =>
    cases hmax : meas.max with
    | none => simp
    | some hi => by_cases h : Float64.ofRat hi < v <;> simp [-not_lt, h, hbad]
  | some lo =>
    cases hmax : meas.max with
    | none => by_cases h : v < Float64.ofRat lo <;> simp [-not_lt, h, hbad]
    | some hi =>
      by_cases h : v < Float64.ofRat lo <;> by_cases h' : Float64.ofRat hi < v <;>
        simp [-not_lt, h, h', hbad]

/-- What `Enqueue` inserts, its statements succeeding. -/
theorem enqueue_row (db : DB) (now : GoTime) (msg : QueuedMessage) (hp : msg.priority = 3) :
    ∃ row ∈ (db.enqueue now msg).rows,
      row.topic = msg.topic ∧ row.payload = msg.payload ∧ row.priority = 3 := by
  have hprio : (msg.normalize now).priority = 3 := by
    rw [QueuedMessage.normalize, hp]
    rfl
  unfold DB.enqueue
  split_ifs
  · exact ⟨_, List.mem_append_right _ (List.mem_singleton_self _), rfl, rfl, hprio⟩
  · exact ⟨_, List.mem_append_right _ (List.mem_singleton_self _), rfl, rfl, hprio⟩

/-- The HAL's contract: a call without an error returns as many registers as were asked for,
and at least one. -/
def HalContract (c : ChannelRunner) (read : ℕ → ℕ → Outcome) : Prop :=
  ∀ i meas a regs, c.measurements[i]? = some meas → read i a = .ok regs →
    regs.length = (meas.request c.cfg).length.toNat ∧ 1 ≤ regs.length

theorem HalContract.ne_nil {c : ChannelRunner} {read : ℕ → ℕ → Outcome} (h : HalContract c read) :
    ∀ j < c.measurements.length, ∀ a, read (0 + j) a ≠ .ok [] := by
  intro j hj a hok
  rw [Nat.zero_add] at hok
  exact absurd (h j _ a [] (List.getElem?_eq_getElem hj) hok).2 (by simp)

variable (affine)

/-- The poll did what it should, told by what was attempted and what came of it. -/
structure Reports (text : Telemetry → List UInt8) (c : ChannelRunner) (header : Telemetry)
    (read : ℕ → ℕ → Outcome) (publish : Except String Unit) (r : PollResult) : Prop where
  /-- every measurement, in the profile's order, as often as it should -/
  order : r.attempted.map Prod.fst = c.measurements
  attempts : ∀ i p, r.attempted[i]? = some p → Stopped p.2 ∧ Follows (read i) p.2
  /-- an entry for each that succeeded, and no other -/
  values : r.values = r.attempted.filterMap (entryOf affine c.cfg)
  quality : ∀ p ∈ r.attempted, ∀ v, entryOf affine c.cfg p = some v →
    (v.quality = "good" ↔ p.1.Within v.value)
  health : r.health = true ↔ ∀ p ∈ r.attempted, ∃ regs, p.2.getLast? = some (.ok regs)
  /-- one payload with the values, if there are any -/
  published : r.published = if r.values = [] then [] else
    [("gw/" ++ header.gatewayID ++ "/telemetry", some (text { header with values := r.values }))]
  /-- in the queue exactly when `Publish` failed -/
  kept : r.values = [] ∨ publish = .ok () → r.enqueued = []
  queued : ∀ err, publish = .error err → r.values ≠ [] → ∃ msg, r.enqueued = [msg] ∧
    ∀ (db : DB) (now : GoTime), ∃ row ∈ (db.enqueue now msg).rows,
      row.topic = "gw/" ++ header.gatewayID ++ "/telemetry" ∧
      row.payload = text { header with values := r.values } ∧ row.priority = 3

/-- No measurement reads registers whose value is infinite. -/
def NoOverflow (c : ChannelRunner) (read : ℕ → ℕ → Outcome) : Prop :=
  ∀ i meas first rest, c.measurements[i]? = some meas → ReadsRegs (read i) (first :: rest) →
    (affine first.toInt meas.scale meas.offset).Finite

variable {c : ChannelRunner} {read : ℕ → ℕ → Outcome}

/-- What was attempted is a measurement of the channel, and says what was read. -/
theorem attempted_spec {att : List (Measurement × List Outcome)}
    (hkeys : att.map Prod.fst = c.measurements)
    (hatt : ∀ i p, att[i]? = some p → Stopped p.2 ∧ Follows (read i) p.2)
    {p : Measurement × List Outcome} (hp : p ∈ att) : ∃ i, c.measurements[i]? = some p.1 ∧
      ∀ regs, p.2.getLast? = some (.ok regs) ↔ ReadsRegs (read i) regs := by
  obtain ⟨i, hi⟩ := List.getElem?_of_mem hp
  obtain ⟨hstop, hfollow⟩ := hatt i p hi
  refine ⟨i, ?_, fun regs => getLast?_eq_ok_iff hstop hfollow⟩
  rw [← hkeys, List.getElem?_map, hi]
  rfl

/-- The values of a poll are finite exactly when nothing overflows. -/
theorem finite_iff_noOverflow {att : List (Measurement × List Outcome)}
    (hkeys : att.map Prod.fst = c.measurements)
    (hatt : ∀ i p, att[i]? = some p → Stopped p.2 ∧ Follows (read i) p.2) :
    (∀ v ∈ att.filterMap (entryOf affine c.cfg), v.value.Finite) ↔ NoOverflow affine c read := by
  constructor
  · intro hfin i meas first rest hmeas hreads
    rw [← hkeys, List.getElem?_map, Option.map_eq_some_iff] at hmeas
    obtain ⟨p, hp, rfl⟩ := hmeas
    obtain ⟨hstop, hfollow⟩ := hatt i p hp
    have hlast := (getLast?_eq_ok_iff hstop hfollow).mpr hreads
    have hentry : entryOf affine c.cfg p = some (p.1.entry affine c.cfg first) := by
      rw [entryOf, hlast]
    exact hfin _ (List.mem_filterMap.mpr ⟨p, List.mem_of_getElem? hp, hentry⟩)
  · intro hno v hv
    obtain ⟨p, hp, hentry⟩ := List.mem_filterMap.mp hv
    obtain ⟨i, hmeas, hreads⟩ := attempted_spec hkeys hatt hp
    unfold entryOf at hentry
    split at hentry
    · rename_i first rest hlast
      cases hentry
      exact hno i p.1 first rest hmeas ((hreads _).mp hlast)
    · cases hentry

/-- A measurement has an entry when its last attempt succeeded. -/
theorem entryOf_isSome_iff (hregs : HalContract c read) {att : List (Measurement × List Outcome)}
    (hkeys : att.map Prod.fst = c.measurements)
    (hatt : ∀ i p, att[i]? = some p → Stopped p.2 ∧ Follows (read i) p.2)
    {p : Measurement × List Outcome} (hp : p ∈ att) :
    (entryOf affine c.cfg p).isSome = true ↔ ∃ regs, p.2.getLast? = some (.ok regs) := by
  obtain ⟨i, hmeas, hreads⟩ := attempted_spec hkeys hatt hp
  unfold entryOf
  constructor
  · intro h
    split at h
    · rename_i first rest hlast
      exact ⟨_, hlast⟩
    · cases h
  · rintro ⟨regs, hlast⟩
    obtain ⟨a, -, hok, -⟩ := (hreads _).mp hlast
    cases regs with
    | nil => exact absurd (hregs i p.1 a [] hmeas hok).2 (by simp)
    | cons first rest => rw [hlast]; rfl

/-- **A poll reports what it read, exactly when no value overflows**; it never panics. -/
theorem pollOnce_reports_iff (text : Telemetry → List UInt8) (header : Telemetry)
    (publish : Except String Unit) (hregs : HalContract c read) :
    ∃ r, pollOnce affine text c header read publish = some r ∧
      (Reports affine text c header read publish r ↔ NoOverflow affine c read) := by
  obtain ⟨att, hrun, hkeys, hatt⟩ :=
    @pollMeasurements_eq affine c.cfg read c.measurements 0 hregs.ne_nil ⟨[], true, []⟩
  simp only [Nat.zero_add] at hatt
  simp only [List.nil_append, Bool.true_and] at hrun
  have hfin := @finite_iff_noOverflow affine c read att hkeys hatt
  have hhealth : (att.all fun p => (entryOf affine c.cfg p).isSome) = true ↔
      ∀ p ∈ att, ∃ regs, p.2.getLast? = some (.ok regs) := by
    rw [List.all_eq_true]
    exact forall₂_congr fun p hp => entryOf_isSome_iff affine hregs hkeys hatt hp
  have hquality : ∀ p ∈ att, ∀ v, entryOf affine c.cfg p = some v →
      (v.quality = "good" ↔ p.1.Within v.value) := by
    intro p _ v hv
    unfold entryOf at hv
    split at hv
    · cases hv
      exact entryQuality_eq_good_iff
    · cases hv
  unfold pollOnce
  rw [hrun, Option.bind_eq_bind, Option.bind_some]
  set values := att.filterMap (entryOf affine c.cfg) with hvalues
  by_cases hempty : values = []
  · rw [if_pos hempty]
    refine ⟨_, rfl, iff_of_true ?_ (hfin.mp (by rw [hempty]; simp))⟩
    exact ⟨hkeys, hatt, hvalues, hquality, hhealth, by rw [if_pos hempty], fun _ => rfl,
      fun err _ hsome => absurd hempty hsome⟩
  · rw [if_neg hempty]
    refine ⟨_, rfl, ?_⟩
    rw [← hfin]
    constructor
    · -- a payload with a value that has no text is not published
      rintro ⟨-, -, -, -, -, hpublished, -, -⟩
      rw [if_neg hempty] at hpublished
      by_contra hinf
      rw [marshal, if_neg hinf] at hpublished
      cases hpublished
    · intro hall
      refine ⟨hkeys, hatt, hvalues, hquality, hhealth, ?_, ?_, ?_⟩
      · rw [if_neg hempty, marshal, if_pos hall]
      · rintro (hnone | hok)
        · exact absurd hnone hempty
        · rw [hok]
      · intro err herr _
        rw [herr]
        refine ⟨_, rfl, fun db now => ?_⟩
        rw [marshal, if_pos hall]
        exact enqueue_row db now _ rfl

end Poll

/-! A barn with a thermometer and a gas sensor; the gas profile's scale is far too large. -/

/-- The value, without rounding. -/
def affineExact (first : ℤ) (scale offset : ℚ) : Float64 :=
  let q := first * scale + offset
  if 2 ^ 1024 ≤ q then ⊤ else if q ≤ -2 ^ 1024 then ⊥ else Float64.ofRat q

def thermometer : Measurement := ⟨"temperature", "C", 3, 0, 1, 1 / 10, 0, some (-40), some 80⟩

def gasSensor : Measurement := ⟨"ammonia", "ppm", 3, 1, 1, 10 ^ 308, 0, none, none⟩

def barnRead : ℕ → ℕ → Outcome := fun _ _ => .ok [250]

def barnHeader : Telemetry := ⟨"m-1", "GW-1", "2026-05-04T03:00:00Z", []⟩

/-- **The thermometer's reading is lost with the gas sensor's.** -/
theorem overflow_loses_readings :
    HalContract ⟨⟨"barn", 1⟩, [thermometer, gasSensor]⟩ barnRead ∧
    ¬ ∃ r, pollOnce affineExact (fun _ => [123, 125]) ⟨⟨"barn", 1⟩, [thermometer, gasSensor]⟩
        barnHeader barnRead (.ok ()) = some r ∧
      Reports affineExact (fun _ => [123, 125]) ⟨⟨"barn", 1⟩, [thermometer, gasSensor]⟩ barnHeader
        barnRead (.ok ()) r := by
  constructor
  · intro i meas a regs hmeas hok
    cases hok
    match i, hmeas with
    | 0, hmeas => cases hmeas; decide
    | 1, hmeas => cases hmeas; decide
  · rintro ⟨r, hr, hrep⟩
    have hpub : (pollOnce affineExact (fun _ => [123, 125]) ⟨⟨"barn", 1⟩, [thermometer, gasSensor]⟩
        barnHeader barnRead (.ok ())).map (·.published) = some [("gw/GW-1/telemetry", none)] := by
      decide +kernel
    rw [hr, Option.map_some, Option.some_inj, hrep.published] at hpub
    split at hpub
    · cases hpub
    · cases hpub

/-- The thermometer alone. -/
theorem thermometer_reported :
    ∃ r, pollOnce affineExact (fun _ => [123, 125]) ⟨⟨"barn", 1⟩, [thermometer]⟩ barnHeader barnRead
        (.error "offline") = some r ∧
      Reports affineExact (fun _ => [123, 125]) ⟨⟨"barn", 1⟩, [thermometer]⟩ barnHeader barnRead
        (.error "offline") r := by
  have hcontract : HalContract ⟨⟨"barn", 1⟩, [thermometer]⟩ barnRead := by
    intro i meas a regs hmeas hok
    cases hok
    match i, hmeas with
    | 0, hmeas => cases hmeas; decide
  obtain ⟨r, hr, hiff⟩ := pollOnce_reports_iff affineExact (fun _ => [123, 125]) barnHeader
    (.error "offline") hcontract
  refine ⟨r, hr, hiff.mpr ?_⟩
  intro i meas first rest hmeas hreads
  obtain ⟨a, -, hok, -⟩ := hreads
  cases hok
  match i, hmeas with
  | 0, hmeas => cases hmeas; decide +kernel

end Gateway
