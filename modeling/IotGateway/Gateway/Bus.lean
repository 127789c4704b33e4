import IotGateway.Lts.Exclusion
import IotGateway.Gateway.Config
import IotGateway.Gateway.Poll

/-!
# Several sensors on one serial line

`NewManager` gives each enabled channel a goroutine and a descriptor of its own, also when
several name one interface. A call of `gw_rs485_modbus_read` is three steps of its
goroutine: it flushes the tty's input and writes the request, it reads the header, it reads
the rest; the descriptors of one interface share the tty's input queue. Nothing but the
scheduler orders the steps of different goroutines.

`undisturbed_iff`: **no call is disturbed in a run exactly when each request is written while
no other call on its interface is open; and none in any run, exactly when no two channels
that make calls name one interface** (`second_call_takes_reply`).
-/

namespace Gateway

open Lts Hal

/-- What `pollOnce` reads of it. -/
def Config.SensorChannel.polled (ch : Config.SensorChannel) : Gateway.SensorChannel :=
  ⟨ch.channelID, ch.slaveID⟩

/-- `LoadProfile`, from what the file unmarshals to. -/
def loadProfile (readProfile : String → Except String (List Measurement)) (path : String) :
    Except String (List Measurement) := do
  let measurements ← readProfile path
  if measurements.isEmpty then .error "profile has no measurements"
  else .ok (measurements.map fun meas => if meas.scale = 0 then { meas with scale := 1 } else meas)

def parityByte (s : String) : UInt8 := s.toUTF8.data.toList.headD 78

deriving instance DecidableEq for Measurement

/-- A `channelRunner` with its descriptor. -/
structure Runner where
  cfg : Config.SensorChannel
  measurements : List Measurement
  fd : ℤ
deriving DecidableEq

/-- `sensor.Manager` -/
structure SensorManager where
  channels : List Runner
  /-- not real hardware -/
  sim : Bool
deriving DecidableEq

section Startup

-- `openTty` is the system's answer to a channel's `open` of a tty
variable (readProfile : String → Except String (List Measurement))
  (openTty : String → String → Except Err ℕ)

/-- The descriptor of a channel; a simulated one has none. -/
def openChannel (sim : Bool) (ch : Config.SensorChannel) : Except String ℤ :=
  if sim then .ok (-1)
  else
    ((rs485Open (openTty ch.channelID) ch.interface ch.baud (parityByte ch.parity) ch.dataBits
      ch.stopBits).map Int.ofNat).mapError fun err => "channel " ++ ch.channelID ++ " rs485 open: " ++ err.error

/-- The loop body of `NewManager`. -/
def newRunner (sim : Bool) (ch : Config.SensorChannel) : Except String Runner := do
  let measurements ← (loadProfile readProfile ch.profileFile).mapError fun err =>
    "channel " ++ ch.channelID ++ ": " ++ err
  let fd ← openChannel openTty sim ch
  return ⟨ch, measurements, fd⟩

/-- `sensor.NewManager` -/
def newSensorManager (channels : List Config.SensorChannel) (simCfg : Config.SimulationConfig) :
    Except String SensorManager := do
  let runners ← (channels.filter (·.enabled)).mapM (newRunner readProfile openTty simCfg.enabled)
  return ⟨runners, simCfg.enabled⟩

end Startup

/-- Where a channel's goroutine is. -/
inductive RunnerPhase where
  | idle
  /-- goes on with `attempt` at measurement `index` -/
  | next (index attempt : ℕ)
  /-- in a call, its request written -/
  | header (index attempt : ℕ)
  /-- in a call, its header read -/
  | rest (index attempt : ℕ) (header : List Byte)
  | closed
deriving DecidableEq, Repr

/-- A call is open from the write of its request to its end. -/
def RunnerPhase.inCall : RunnerPhase → Bool
  | .header _ _ => true
  | .rest _ _ _ => true
  | _ => false

/-- The goroutines, and the input queue of each tty. -/
structure Bus (n : ℕ) where
  phase : Fin n → RunnerPhase
  input : String → List Byte

inductive BusEvent (n : ℕ) where
  /-- the ticker starts a `pollOnce` -/
  | tick (i : Fin n)
  /-- `pollOnce` goes on: the next call's flush and write, or the end -/
  | next (i : Fin n) (written : Bool)
  | header (i : Fin n)
  | rest (i : Fin n)
  /-- a read of the call fails -/
  | ioError (i : Fin n)
  /-- bytes come in -/
  | arrive (dev : String) (bytes : List Byte)
  /-- the context is cancelled, and the channel closed -/
  | cancel (i : Fin n)
deriving DecidableEq, Repr

namespace Bus

section Step

variable (m : SensorManager)

/-- The interface of a channel. -/
def dev (i : Fin m.channels.length) : String := (m.channels.get i).cfg.interface

/-- The request of a channel's measurement. -/
def request (i : Fin m.channels.length) (index : ℕ) : Option ModbusRequest :=
  ((m.channels.get i).measurements[index]?).map (·.request (m.channels.get i).cfg.polled)

variable {n : ℕ}

def init : Bus n := ⟨fun _ => .idle, fun _ => []⟩

def goto (s : Bus n) (i : Fin n) (phase : RunnerPhase) : Bus n :=
  { s with phase := Function.update s.phase i phase }

def setInput (s : Bus n) (dev : String) (bytes : List Byte) : Bus n :=
  { s with input := Function.update s.input dev bytes }

/-- The loop after a call: a timeout and the third error give the measurement up. -/
def afterCall (index attempt : ℕ) : Except ℤ (List Word) → RunnerPhase
  | .ok _ => .next (index + 1) 0
  | .error rc =>
    if rc = gwErrTimeout ∨ 3 ≤ attempt + 1 then .next (index + 1) 0 else .next index (attempt + 1)

/-- The start of a call. A simulated measurement has none, and invalid arguments send nothing. -/
def call (s : Bus m.channels.length) (i : Fin m.channels.length) (index attempt : ℕ)
    (q : ModbusRequest) (written : Bool) : Bus m.channels.length :=
  if m.sim then s.goto i (.next (index + 1) 0)
  else if q.valid then
    (s.setInput (dev m i) []).goto i
      (if written then .header index attempt else afterCall index attempt (.error gwErrIo))
  else s.goto i (afterCall index attempt (.error gwErrInvalid))

/-- The header of a call, from the bytes that are in. -/
def readHeader (s : Bus m.channels.length) (i : Fin m.channels.length) (index attempt : ℕ) :
    Bus m.channels.length :=
  match readWithTimeout 2 (s.input (dev m i)) with
  | .ok (header, more) => (s.setInput (dev m i) more).goto i (.rest index attempt header)
  | .error rc => (s.setInput (dev m i) []).goto i (afterCall index attempt (.error rc))

/-- The rest of a call. -/
def readRest (s : Bus m.channels.length) (i : Fin m.channels.length) (index attempt : ℕ)
    (header : List Byte) (q : ModbusRequest) : Bus m.channels.length :=
  (s.setInput (dev m i) ((s.input (dev m i)).drop (q.restLength header))).goto i
    (afterCall index attempt (q.readRest header (s.input (dev m i))))

def step (s : Bus m.channels.length) : BusEvent m.channels.length → Option (Bus m.channels.length)
  | .tick i => if s.phase i = .idle then some (s.goto i (.next 0 0)) else none
  | .next i written =>
    match s.phase i with
    | .next index attempt =>
      match request m i index with
      | some q => some (s.call m i index attempt q written)
      | none => some (s.goto i .idle)
    | _ => none
  | .header i =>
    match s.phase i with
    | .header index attempt => some (s.readHeader m i index attempt)
    | _ => none
  | .rest i =>
    match s.phase i with
    | .rest index attempt header =>
      (request m i index).map (s.readRest m i index attempt header)
    | _ => none
  | .ioError i =>
    match s.phase i with
    | .header index attempt => some (s.goto i (afterCall index attempt (.error gwErrIo)))
    | .rest index attempt _ => some (s.goto i (afterCall index attempt (.error gwErrIo)))
    | _ => none
  | .arrive dev bytes => some (s.setInput dev (s.input dev ++ bytes))
  | .cancel i => if s.phase i = .idle then some (s.goto i .closed) else none

/-- Goroutine `i` is about to flush and to write a request. -/
def Calls (s : Bus m.channels.length) (i : Fin m.channels.length) : Prop :=
  match s.phase i with
  | .next index _ => m.sim = false ∧ ∃ q ∈ request m i index, q.valid = true
  | _ => False

instance (s : Bus m.channels.length) (i : Fin m.channels.length) : Decidable (Calls m s i) := by
  unfold Calls
  split <;> infer_instance

/-- The goroutine that flushes, writes to or reads from its tty in a step. -/
def actor (s : Bus m.channels.length) : BusEvent m.channels.length → Option (Fin m.channels.length)
  | .next i _ => if Calls m s i then some i else none
  | .header i | .rest i | .ioError i => some i
  | _ => none

/-- Nobody flushes, writes to or reads from a tty while another goroutine's call is open on it. -/
def Undisturbed (s : Bus m.channels.length) (e : BusEvent m.channels.length)
    (_ : Bus m.channels.length) : Prop :=
  ∀ i, actor m s e = some i → ∀ j, (s.phase j).inCall = true → dev m j = dev m i → j = i

/-- A request is written while no call is open on its tty. -/
def WritesAlone (s : Bus m.channels.length) (e : BusEvent m.channels.length)
    (_ : Bus m.channels.length) : Prop :=
  match e with
  | .next i _ => Calls m s i → ∀ j, (s.phase j).inCall = true → dev m j ≠ dev m i
  | _ => True

instance (s : Bus m.channels.length) (e : BusEvent m.channels.length) (s' : Bus m.channels.length) :
    Decidable (Undisturbed m s e s') := by
  unfold Undisturbed
  infer_instance

instance (s : Bus m.channels.length) (e : BusEvent m.channels.length) (s' : Bus m.channels.length) :
    Decidable (WritesAlone m s e s') := by
  unfold WritesAlone
  split <;> infer_instance

/-- A channel that makes calls: real hardware, and a measurement that can be asked for. -/
def Polls (i : Fin m.channels.length) : Prop :=
  m.sim = false ∧ ∃ index, ∃ q ∈ request m i index, q.valid = true

end Step

section Phases

variable {n : ℕ} {s : Bus n} {i j : Fin n} {phase : RunnerPhase}

@[simp] theorem goto_self : (s.goto i phase).phase i = phase := by
  simp [goto]

theorem goto_of_ne (h : j ≠ i) : (s.goto i phase).phase j = s.phase j := by
  simp [goto, h]

@[simp] theorem setInput_phase (dev : String) (bytes : List Byte) :
    (s.setInput dev bytes).phase = s.phase := rfl

@[simp] theorem afterCall_inCall (index attempt : ℕ) (result : Except ℤ (List Word)) :
    (afterCall index attempt result).inCall = false := by
  unfold afterCall
  split
  · rfl
  · split_ifs <;> rfl

end Phases

variable {m : SensorManager} {s s' : Bus m.channels.length} {e : BusEvent m.channels.length}

/-- **What each step does.** -/
theorem step_cases (h : step m s e = some s') :
    match e with
    | .tick i => s.phase i = .idle ∧ s' = s.goto i (.next 0 0)
    | .next i written => ∃ index attempt, s.phase i = .next index attempt ∧
        ((∃ q, request m i index = some q ∧ s' = s.call m i index attempt q written) ∨
          s' = s.goto i .idle)
    | .header i => ∃ index attempt, s.phase i = .header index attempt ∧
        s' = s.readHeader m i index attempt
    | .rest i => ∃ index attempt header q, s.phase i = .rest index attempt header ∧
        s' = s.readRest m i index attempt header q
    | .ioError i => (s.phase i).inCall = true ∧
        ∃ index attempt, s' = s.goto i (afterCall index attempt (.error gwErrIo))
    | .arrive dev bytes => s' = s.setInput dev (s.input dev ++ bytes)
    | .cancel i => s.phase i = .idle ∧ s' = s.goto i .closed := by
  cases e with
  | tick i =>
    simp only [step] at h
    split_ifs at h with hp
    exact ⟨hp, (Option.some.inj h).symm⟩
  | next i written =>
    simp only [step] at h
    split at h
    · rename_i index attempt hp
      refine ⟨index, attempt, hp, ?_⟩
      split at h
      · rename_i q hq
        exact Or.inl ⟨q, hq, (Option.some.inj h).symm⟩
      · exact Or.inr (Option.some.inj h).symm
    · cases h
  | header i =>
    simp only [step] at h
    split at h
    · rename_i index attempt hp
      exact ⟨index, attempt, hp, (Option.some.inj h).symm⟩
    · cases h
  | rest i =>
    simp only [step] at h
    split at h
    · rename_i index attempt header hp
      obtain ⟨q, -, hq⟩ := Option.map_eq_some_iff.1 h
      exact ⟨index, attempt, header, q, hp, hq.symm⟩
    · cases h
  | ioError i =>
    simp only [step] at h
    split at h
    · rename_i index attempt hp
      exact ⟨by rw [hp]; rfl, index, attempt, (Option.some.inj h).symm⟩
    · rename_i index attempt header hp
      exact ⟨by rw [hp]; rfl, index, attempt, (Option.some.inj h).symm⟩
    · cases h
  | arrive dev bytes => exact (Option.some.inj h).symm
  | cancel i =>
    simp only [step] at h
    split_ifs at h with hp
    exact ⟨hp, (Option.some.inj h).symm⟩

theorem actor_next {i : Fin m.channels.length} (h : Calls m s i) (written : Bool) :
    actor m s (.next i written) = some i := if_pos h

/-- **A call in one piece.** The two reads of a call, with nothing between them, give what
`gw_rs485_modbus_read` makes of the bytes in the queue. -/
theorem run_header_rest {i : Fin m.channels.length} {index attempt : ℕ} {q : ModbusRequest}
    {header more : List Byte} (hp : s.phase i = .header index attempt)
    (hq : request m i index = some q)
    (h : readWithTimeout 2 (s.input (dev m i)) = .ok (header, more)) :
    ∃ t, run (step m) s [.header i, .rest i] = some t ∧
      t.phase i = afterCall index attempt (q.readReply (s.input (dev m i))) := by
  set s₁ := (s.setInput (dev m i) more).goto i (.rest index attempt header) with hs₁
  have h₁ : step m s (.header i) = some s₁ := by
    simp only [step, hp, readHeader, h]
    rw [hs₁]
  have hp₁ : s₁.phase i = .rest index attempt header := goto_self
  have hin₁ : s₁.input (dev m i) = more := Function.update_self ..
  have h₂ : step m s₁ (.rest i) = some (s₁.readRest m i index attempt header q) := by
    simp only [step, hp₁, hq]
    rfl
  refine ⟨_, run_cons_eq_some.2 ⟨s₁, h₁, run_cons_eq_some.2 ⟨_, h₂, rfl⟩⟩, ?_⟩
  rw [ModbusRequest.readReply_eq_readRest q h]
  unfold readRest
  rw [goto_self, hin₁]

/-- A goroutine goes somewhere; it is in a call afterwards only if it touched its tty. -/
theorem goto_inCall {t : Bus m.channels.length} (ht : t.phase = s.phase) {i : Fin m.channels.length}
    {phase : RunnerPhase} (h : phase.inCall = true → actor m s e = some i)
    (j : Fin m.channels.length) (hj : ((t.goto i phase).phase j).inCall = true) :
    (s.phase j).inCall = true ∨ actor m s e = some j := by
  by_cases hji : j = i
  · subst hji
    rw [goto_self] at hj
    exact Or.inr (h hj)
  · rw [goto_of_ne hji, ht] at hj
    exact Or.inl hj

/-- **Who is in a call** after a step was in one, or has touched its tty. -/
theorem inCall_step (h : step m s e = some s') (j : Fin m.channels.length)
    (hj : (s'.phase j).inCall = true) : (s.phase j).inCall = true ∨ actor m s e = some j := by
  cases e with
  | tick i =>
    obtain ⟨-, rfl⟩ := step_cases h
    exact goto_inCall rfl (fun hin => by cases hin) j hj
  | next i written =>
    obtain ⟨index, attempt, hp, ⟨q, hq, rfl⟩ | rfl⟩ := step_cases h
    · unfold call at hj
      split_ifs at hj with hsim hv hw
      · exact goto_inCall rfl (fun hin => by cases hin) j hj
      · -- the request is on the line
        have hcalls : Calls m s i := by
          unfold Calls
          rw [hp]
          exact ⟨Bool.eq_false_iff.2 hsim, q, hq, hv⟩
        exact goto_inCall rfl (fun _ => actor_next hcalls true) j hj
      · exact goto_inCall rfl (fun hin => by simp at hin) j hj
      · exact goto_inCall rfl (fun hin => by simp at hin) j hj
    · exact goto_inCall rfl (fun hin => by cases hin) j hj
  | header i =>
    obtain ⟨index, attempt, -, rfl⟩ := step_cases h
    unfold readHeader at hj
    split at hj
    · exact goto_inCall rfl (fun _ => rfl) j hj
    · exact goto_inCall rfl (fun _ => rfl) j hj
  | rest i =>
    obtain ⟨index, attempt, header, q, -, rfl⟩ := step_cases h
    exact goto_inCall rfl (fun _ => rfl) j hj
  | ioError i =>
    obtain ⟨-, index, attempt, rfl⟩ := step_cases h
    exact goto_inCall rfl (fun _ => rfl) j hj
  | arrive dev bytes =>
    cases step_cases h
    exact Or.inl hj
  | cancel i =>
    obtain ⟨-, rfl⟩ := step_cases h
    exact goto_inCall rfl (fun hin => by cases hin) j hj

/-- The goroutine that touches its tty is in a call, or about to write. -/
theorem calls_or_inCall (h : step m s e = some s') {i : Fin m.channels.length}
    (hi : actor m s e = some i) : (s.phase i).inCall = true ∨ ∃ written, e = .next i written ∧ Calls m s i := by
  cases e with
  | next j written =>
    simp only [actor] at hi
    split_ifs at hi with hcalls
    cases hi
    exact Or.inr ⟨written, rfl, hcalls⟩
  | header j =>
    cases hi
    obtain ⟨index, attempt, hp, -⟩ := step_cases h
    exact Or.inl (by rw [hp]; rfl)
  | rest j =>
    cases hi
    obtain ⟨index, attempt, header, q, hp, -⟩ := step_cases h
    exact Or.inl (by rw [hp]; rfl)
  | ioError j =>
    cases hi
    exact Or.inl (step_cases h).1
  | tick j => cases hi
  | arrive dev bytes => cases hi
  | cancel j => cases hi

theorem Calls.not_inCall {i : Fin m.channels.length} (h : Calls m s i) : (s.phase i).inCall = false := by
  unfold Calls at h
  split at h
  · rename_i index attempt hp
    rw [hp]
    rfl
  · exact h.elim

/-- Requests that are written alone are entries alone. -/
theorem entersAlone_iff (h : step m s e = some s') :
    EntersAlone (actor m) (fun s i => (s.phase i).inCall = true) (dev m) s e s' ↔
      WritesAlone m s e s' := by
  constructor
  · intro ha
    cases e with
    | next i written =>
      intro hcalls
      exact ha i (actor_next hcalls written) (Bool.eq_false_iff.1 hcalls.not_inCall)
    | _ => trivial
  · intro ha i hi hout
    obtain hin | ⟨written, rfl, hcalls⟩ := calls_or_inCall h hi
    · exact absurd hin hout
    · exact ha hcalls

theorem exclusive_init :
    Exclusive (fun (s : Bus m.channels.length) i => (s.phase i).inCall = true) (dev m) init := by
  intro i j hi
  cases hi

/-- **In a run.** -/
theorem undisturbed_iff_writesAlone (es : List (BusEvent m.channels.length)) :
    Along (step m) (Undisturbed m) init es ↔ Along (step m) (WritesAlone m) init es := by
  have hentry (s : Bus m.channels.length) (e : BusEvent m.channels.length)
      (s' : Bus m.channels.length) (h : step m s e = some s') := entersAlone_iff h
  calc Along (step m) (Undisturbed m) init es
      ↔ Along (step m) (EntersAlone (actor m) (fun s i => (s.phase i).inCall = true) (dev m)) init es :=
        apart_iff_entersAlone (fun _ _ _ h => inCall_step h) exclusive_init es
    _ ↔ Along (step m) (WritesAlone m) init es :=
        along_congr hentry

theorem Calls.polls {i : Fin m.channels.length} (h : Calls m s i) : Polls m i := by
  unfold Calls at h
  split at h
  · rename_i index attempt _
    exact ⟨h.1, index, h.2⟩
  · exact h.elim

/-- Who is in a call makes calls. -/
def PollersInCall (m : SensorManager) (s : Bus m.channels.length) : Prop :=
  ∀ i, (s.phase i).inCall = true → Polls m i

theorem actor_polls (hs : PollersInCall m s) (h : step m s e = some s') {i : Fin m.channels.length}
    (hi : actor m s e = some i) : Polls m i := by
  obtain hin | ⟨written, -, hcalls⟩ := calls_or_inCall h hi
  · exact hs i hin
  · exact hcalls.polls

/-- **Lines of their own.** If no two channels that make calls share an interface, no call is
disturbed. -/
theorem undisturbed_of_distinct
    (hd : ∀ i j, Polls m i → Polls m j → dev m i = dev m j → i = j)
    (es : List (BusEvent m.channels.length)) : Along (step m) (Undisturbed m) init es := by
  have hinv (s : Bus m.channels.length) (e : BusEvent m.channels.length)
      (s' : Bus m.channels.length) (hs : PollersInCall m s) (h : step m s e = some s') :
      PollersInCall m s' := by
    intro i hi
    rcases inCall_step h i hi with hi | hi
    · exact hs i hi
    · exact actor_polls hs h hi
  have hstep (s : Bus m.channels.length) (e : BusEvent m.channels.length)
      (s' : Bus m.channels.length) (hs : PollersInCall m s) (h : step m s e = some s') :
      Undisturbed m s e s' := by
    intro i hi j hj hdev
    exact hd j i (hs j hj) (actor_polls hs h hi) hdev
  have hinit : PollersInCall m init := fun i hi => by cases hi
  exact along_of_inv hinv hstep hinit

/-- The write of a request opens a call. -/
theorem step_of_calls {i : Fin m.channels.length} (h : Calls m s i) :
    ∃ s', step m s (.next i true) = some s' ∧ (s'.phase i).inCall = true ∧
      ∀ j, j ≠ i → s'.phase j = s.phase j := by
  unfold Calls at h
  split at h
  · rename_i index attempt hp
    obtain ⟨hsim, q, hq, hv⟩ := h
    refine ⟨s.call m i index attempt q true, ?_, ?_, ?_⟩
    · simp only [step, hp]
      rw [Option.mem_def.1 hq]
    · simp [call, hsim, hv, RunnerPhase.inCall]
    · intro j hj
      simp [call, hsim, hv, goto_of_ne hj]
  · exact h.elim

/-- A measurement that cannot be asked for is given up after three calls. -/
theorem run_invalid (hsim : m.sim = false) {i : Fin m.channels.length} {k : ℕ} {q : ModbusRequest}
    (hp : s.phase i = .next k 0) (hq : request m i k = some q) (hv : q.valid = false) :
    ∃ t, run (step m) s [.next i true, .next i true, .next i true] = some t ∧
      t.phase i = .next (k + 1) 0 ∧ ∀ j, j ≠ i → t.phase j = s.phase j := by
  have hstep {s : Bus m.channels.length} {attempt : ℕ} (hp : s.phase i = .next k attempt) :
      step m s (.next i true) = some (s.goto i (afterCall k attempt (.error gwErrInvalid))) := by
    simp only [step, hp, hq]
    simp [call, hsim, hv]
  have hfail (attempt : ℕ) (ha : attempt < 2) :
      afterCall k attempt (.error gwErrInvalid) = .next k (attempt + 1) := by
    have : ¬ 3 ≤ attempt + 1 := by omega
    simp [afterCall, gwErrInvalid, gwErrTimeout, this]
  have hlast : afterCall k 2 (.error gwErrInvalid) = .next (k + 1) 0 := by simp [afterCall]
  set s₁ := s.goto i (.next k 1) with hs₁
  set s₂ := s₁.goto i (.next k 2) with hs₂
  set s₃ := s₂.goto i (.next (k + 1) 0) with hs₃
  have h₁ : step m s (.next i true) = some s₁ := by rw [hstep hp, hfail 0 (by omega)]
  have h₂ : step m s₁ (.next i true) = some s₂ := by rw [hstep goto_self, hfail 1 (by omega)]
  have h₃ : step m s₂ (.next i true) = some s₃ := by rw [hstep goto_self, hlast]
  refine ⟨s₃, ?_, goto_self, ?_⟩
  · simp [run, h₁, h₂, h₃]
  · intro j hj
    rw [hs₃, goto_of_ne hj, hs₂, goto_of_ne hj, hs₁, goto_of_ne hj]

theorem request_of_le {i : Fin m.channels.length} {k v : ℕ} {q : ModbusRequest} (hkv : k ≤ v)
    (hq : request m i v = some q) : ∃ q', request m i k = some q' := by
  obtain ⟨meas, hmeas, -⟩ := Option.map_eq_some_iff.1 hq
  have hlt : v < (m.channels.get i).measurements.length := (List.getElem?_eq_some_iff.1 hmeas).1
  exact ⟨_, Option.map_eq_some_iff.2 ⟨_, List.getElem?_eq_getElem (by omega), rfl⟩⟩

/-- A `pollOnce` comes to its next measurement that can be asked for. -/
theorem reaches_valid (hsim : m.sim = false) {i : Fin m.channels.length} {v : ℕ} {q : ModbusRequest}
    (hq : request m i v = some q) (hv : q.valid = true) (d : ℕ) :
    ∀ {s : Bus m.channels.length} {k : ℕ}, k + d = v → s.phase i = .next k 0 →
      ∃ es t, run (step m) s es = some t ∧ Calls m t i ∧ ∀ j, j ≠ i → t.phase j = s.phase j := by
  induction d with
  | zero =>
    intro s k hk hp
    refine ⟨[], s, rfl, ?_, fun j _ => rfl⟩
    unfold Calls
    rw [hp]
    exact ⟨hsim, q, by rw [show k = v by omega]; exact hq, hv⟩
  | succ d ih =>
    intro s k hk hp
    obtain ⟨q', hq'⟩ := request_of_le (show k ≤ v by omega) hq
    cases hv' : q'.valid with
    | true =>
      refine ⟨[], s, rfl, ?_, fun j _ => rfl⟩
      unfold Calls
      rw [hp]
      exact ⟨hsim, q', hq', hv'⟩
    | false =>
      obtain ⟨t, hrun, hpt, hframe⟩ := run_invalid hsim hp hq' hv'
      obtain ⟨es, t', hrun', hcalls, hframe'⟩ := ih (show k + 1 + d = v by omega) hpt
      refine ⟨_, t', run_append_eq_some.2 ⟨t, hrun, hrun'⟩, hcalls, fun j hj => ?_⟩
      rw [hframe' j hj, hframe j hj]

/-- A channel that makes calls comes to one, whatever the others do meanwhile. -/
theorem reaches_call {i : Fin m.channels.length} (hi : Polls m i) (hp : s.phase i = .idle) :
    ∃ es t, run (step m) s es = some t ∧ Calls m t i ∧ ∀ j, j ≠ i → t.phase j = s.phase j := by
  obtain ⟨hsim, v, q, hq, hv⟩ := hi
  have htick : step m s (.tick i) = some (s.goto i (.next 0 0)) := if_pos hp
  obtain ⟨es, t, hrun, hcalls, hframe⟩ :=
    reaches_valid hsim hq hv v (s := s.goto i (.next 0 0)) (Nat.zero_add v) goto_self
  refine ⟨.tick i :: es, t, run_cons_eq_some.2 ⟨_, htick, hrun⟩, hcalls, fun j hj => ?_⟩
  rw [hframe j hj, goto_of_ne hj]

/-- **One line for two.** Two channels on one interface: some run disturbs a call. -/
theorem disturbed_of_shared {i j : Fin m.channels.length} (hij : i ≠ j) (hi : Polls m i)
    (hj : Polls m j) (hdev : dev m i = dev m j) :
    ∃ es, ¬ Along (step m) (Undisturbed m) init es := by
  obtain ⟨es, t, hrun, hcalls, hframe⟩ := reaches_call hi (s := init) rfl
  obtain ⟨u, hu, hin, hframe'⟩ := step_of_calls hcalls
  have hidle : u.phase j = .idle := by rw [hframe' j hij.symm, hframe j hij.symm]; rfl
  obtain ⟨es', t', hrun', hcalls', hframe''⟩ := reaches_call hj hidle
  obtain ⟨u', hu', -, -⟩ := step_of_calls hcalls'
  -- channel `i` is still in its call when channel `j` writes
  have hin' : (t'.phase i).inCall = true := by rw [hframe'' i hij, hin]
  have htwo : run (step m) init (es ++ .next i true :: es') = some t' :=
    run_append_eq_some.2 ⟨t, hrun, run_cons_eq_some.2 ⟨u, hu, hrun'⟩⟩
  refine ⟨(es ++ .next i true :: es') ++ [.next j true], fun ha => ?_⟩
  have hlast := (ha.of_append htwo u' hu').1
  exact hij (hlast j (actor_next hcalls' true) i hin' hdev)

/-- **In every run.** -/
theorem undisturbed_iff_distinct : (∀ es, Along (step m) (Undisturbed m) init es) ↔
    ∀ i j, Polls m i → Polls m j → dev m i = dev m j → i = j := by
  constructor
  · intro h i j hi hj hdev
    by_contra hij
    obtain ⟨es, hes⟩ := disturbed_of_shared hij hi hj hdev
    exact hes (h es)
  · exact undisturbed_of_distinct

section Configured

variable {readProfile : String → Except String (List Measurement)}
  {openTty : String → String → Except Err ℕ}

theorem newRunner_eq_ok {sim : Bool} {ch : Config.SensorChannel} {r : Runner}
    (h : newRunner readProfile openTty sim ch = .ok r) :
    r.cfg = ch ∧ loadProfile readProfile ch.profileFile = .ok r.measurements := by
  obtain ⟨measurements, hmeas, h⟩ := Except.bind_eq_ok_iff.1 h
  obtain ⟨fd, -, h⟩ := Except.bind_eq_ok_iff.1 h
  cases h
  exact ⟨rfl, Except.mapError_eq_ok_iff.1 hmeas⟩

theorem newRunners_eq_ok {sim : Bool} {chs : List Config.SensorChannel} {rs : List Runner}
    (h : List.Forall₂ (fun ch r => newRunner readProfile openTty sim ch = .ok r) chs rs) :
    rs.map (·.cfg) = chs ∧
      ∀ r ∈ rs, loadProfile readProfile r.cfg.profileFile = .ok r.measurements := by
  induction h with
  | nil => exact ⟨rfl, fun r hr => absurd hr List.not_mem_nil⟩
  | cons hr _ ih =>
    obtain ⟨hcfg, hprofile⟩ := newRunner_eq_ok hr
    refine ⟨by rw [List.map_cons, hcfg, ih.1], List.forall_mem_cons.2 ⟨?_, ih.2⟩⟩
    rw [hcfg]
    exact hprofile

/-- **What `NewManager` returns**: a goroutine for each enabled channel, with its profile. -/
theorem newSensorManager_eq_ok {channels : List Config.SensorChannel}
    {simCfg : Config.SimulationConfig}
    (h : newSensorManager readProfile openTty channels simCfg = .ok m) :
    m.sim = simCfg.enabled ∧ m.channels.map (·.cfg) = channels.filter (·.enabled) ∧
      ∀ r ∈ m.channels, loadProfile readProfile r.cfg.profileFile = .ok r.measurements := by
  obtain ⟨runners, hrunners, h⟩ := Except.bind_eq_ok_iff.1 h
  cases h
  exact ⟨rfl, newRunners_eq_ok (Except.mapM_eq_ok_iff.1 hrunners)⟩

/-- An enabled channel with a measurement that can be asked for. -/
def Reads (readProfile : String → Except String (List Measurement)) (ch : Config.SensorChannel) : Prop :=
  ch.enabled = true ∧ ∃ measurements, loadProfile readProfile ch.profileFile = .ok measurements ∧
    ∃ meas ∈ measurements, (meas.request ch.polled).valid = true

/-- On real hardware, the channels that make calls are those with a measurement to read. -/
theorem polls_iff (hsim : m.sim = false)
    (hprofiles : ∀ r ∈ m.channels, loadProfile readProfile r.cfg.profileFile = .ok r.measurements)
    (henabled : ∀ r ∈ m.channels, r.cfg.enabled = true) (i : Fin m.channels.length) :
    Polls m i ↔ Reads readProfile (m.channels.get i).cfg := by
  have hmem : m.channels.get i ∈ m.channels := List.get_mem m.channels i
  have hprofile := hprofiles _ hmem
  constructor
  · rintro ⟨-, index, q, hq, hv⟩
    obtain ⟨meas, hmeas, rfl⟩ := Option.map_eq_some_iff.1 hq
    exact ⟨henabled _ hmem, _, hprofile, meas, List.mem_of_getElem? hmeas, hv⟩
  · rintro ⟨-, measurements, hms, meas, hmeas, hv⟩
    rw [hprofile] at hms
    cases hms
    obtain ⟨index, hindex⟩ := List.mem_iff_getElem?.1 hmeas
    exact ⟨hsim, index, _, Option.map_eq_some_iff.2 ⟨meas, hindex, rfl⟩, hv⟩

/-- The channels of a manager, and the interfaces that two of them share, as the configuration
has them. -/
theorem distinct_iff {sensors : List Config.SensorChannel} (hsim : m.sim = false)
    (hcfg : m.channels.map (·.cfg) = sensors.filter (·.enabled))
    (hprofiles : ∀ r ∈ m.channels, loadProfile readProfile r.cfg.profileFile = .ok r.measurements)
    (hids : (sensors.map (·.channelID)).Nodup) :
    (∀ i j, Polls m i → Polls m j → dev m i = dev m j → i = j) ↔
      ∀ ch ∈ sensors, ∀ ch' ∈ sensors, Reads readProfile ch → Reads readProfile ch' →
        ch.interface = ch'.interface → ch.channelID = ch'.channelID := by
  have hmem (i : Fin m.channels.length) : (m.channels.get i).cfg ∈ sensors.filter (·.enabled) := by
    rw [← hcfg]
    exact List.mem_map_of_mem (List.get_mem m.channels i)
  have hindex {ch : Config.SensorChannel} (hch : ch ∈ sensors) (hreads : Reads readProfile ch) :
      ∃ i, (m.channels.get i).cfg = ch := by
    have hfilter : ch ∈ m.channels.map (·.cfg) := by
      rw [hcfg]
      exact List.mem_filter.2 ⟨hch, hreads.1⟩
    obtain ⟨r, hr, rfl⟩ := List.mem_map.1 hfilter
    obtain ⟨i, rfl⟩ := List.mem_iff_get.1 hr
    exact ⟨i, rfl⟩
  have hpolls := polls_iff hsim hprofiles fun r hr => by
    obtain ⟨i, rfl⟩ := List.mem_iff_get.1 hr
    exact (List.mem_filter.1 (hmem i)).2
  constructor
  · intro h ch hch ch' hch' hreads hreads' hinterface
    obtain ⟨i, rfl⟩ := hindex hch hreads
    obtain ⟨j, rfl⟩ := hindex hch' hreads'
    rw [h i j ((hpolls i).2 hreads) ((hpolls j).2 hreads') hinterface]
  · intro h i j hi hj hdev
    have hid := h _ (List.mem_filter.1 (hmem i)).1 _ (List.mem_filter.1 (hmem j)).1
      ((hpolls i).1 hi) ((hpolls j).1 hj) hdev
    have hnodup : (m.channels.map fun r => r.cfg.channelID).Nodup := by
      have heq : (m.channels.map fun r => r.cfg.channelID) =
          (sensors.filter (·.enabled)).map (·.channelID) := by
        rw [← hcfg, List.map_map]
        rfl
      rw [heq]
      exact (List.filter_sublist.map _).nodup hids
    have hget := List.inj_on_of_nodup_map hnodup (List.get_mem m.channels i) (List.get_mem m.channels j) hid
    exact List.nodup_iff_injective_get.1 hnodup.of_map hget

/-- **Transactions on a line.** For every configuration that `Load` accepts and every manager
made of it: a run disturbs no call if and only if each of its requests is written while no
other call on the interface is open. And no run disturbs a call, if and only if the channels
are simulated, or no two of them that have something to read name one interface. -/
theorem undisturbed_iff {raw cfg : Config} (hload : Config.load raw = .ok cfg)
    (hm : newSensorManager readProfile openTty cfg.sensors cfg.simulation = .ok m) :
    (∀ es, Along (step m) (Undisturbed m) init es ↔ Along (step m) (WritesAlone m) init es) ∧
    ((∀ es, Along (step m) (Undisturbed m) init es) ↔ cfg.simulation.enabled = true ∨
      ∀ ch ∈ cfg.sensors, ∀ ch' ∈ cfg.sensors, Reads readProfile ch → Reads readProfile ch' →
        ch.interface = ch'.interface → ch.channelID = ch'.channelID) := by
  obtain ⟨hsim, hcfg, hprofiles⟩ := newSensorManager_eq_ok hm
  refine ⟨undisturbed_iff_writesAlone, ?_⟩
  rw [undisturbed_iff_distinct]
  cases hs : cfg.simulation.enabled with
  | true =>
    refine iff_of_true (fun i j hi _ _ => ?_) (Or.inl rfl)
    have hreal := hi.1
    rw [hsim, hs] at hreal
    cases hreal
  | false =>
    have hids := (List.nodup_append'.1 (Config.valid_of_load hload).channelIDs).1
    rw [distinct_iff (hsim.trans hs) hcfg hprofiles hids]
    simp

end Configured

/-! Two modules of the sample configuration's pattern B: one bus, two slaves. -/

def moduleB (channelID profileFile : String) (slaveID : ℤ) : Config.SensorChannel :=
  ⟨channelID, profileFile, "/dev/ttyUSB0", 9600, "N", 8, 1, slaveID, 10, true⟩

def th01 : Config.SensorChannel :=
  moduleB "th-01" "/opt/iot-gateway/share/profiles/temp_humidity_rs485.json" 1

def pm01 : Config.SensorChannel :=
  moduleB "pm-01" "/opt/iot-gateway/share/profiles/pm_sensor_rs485.json" 2

def patternB : Config where
  gateway := ⟨"GW-DEV01", 30, 30⟩
  mqtt := ⟨"tcp://127.0.0.1:1883", 30, 10, 1⟩
  storage := ⟨"/var/lib/iot-gateway/local.db", 7, 100000, 90⟩
  watchdog := ⟨10, false, 15, 5⟩
  sensors := [th01, pm01]
  actuators := []
  simulation := ⟨false, "", 0⟩

def thProfile : List Measurement :=
  [⟨"temperature", "degC", 3, 0, 1, 1 / 10, 0, some (-40), some 85⟩,
   ⟨"humidity", "%", 3, 1, 1, 1 / 10, 0, some 0, some 100⟩]

def pmProfile : List Measurement :=
  [⟨"pm10", "ug/m3", 3, 0, 1, 1, 0, some 0, some 1000⟩,
   ⟨"pm2_5", "ug/m3", 3, 1, 1, 1, 0, some 0, some 1000⟩]

def sampleProfiles (path : String) : Except String (List Measurement) :=
  if path = th01.profileFile then .ok thProfile
  else if path = pm01.profileFile then .ok pmProfile
  else .error "read profile: no such file or directory"

def sampleTty (channelID _dev : String) : Except Err ℕ := if channelID = "th-01" then .ok 3 else .ok 4

def managerB : SensorManager := ⟨[⟨th01, thProfile, 3⟩, ⟨pm01, pmProfile, 4⟩], false⟩

theorem patternB_load : Config.load patternB = .ok patternB := by decide +kernel

theorem patternB_manager :
    newSensorManager sampleProfiles sampleTty patternB.sensors patternB.simulation = .ok managerB := by
  decide +kernel

def th : Fin managerB.channels.length := ⟨0, by decide⟩

def pm : Fin managerB.channels.length := ⟨1, by decide⟩

/-- The reply of the climate module: 23.5 degrees. -/
def thReply : List Byte := (⟨1, 3, 0, 1⟩ : ModbusRequest).replyFrame (.registers [235])

/-- One call after the other. -/
theorem patternB_undisturbed : Along (step managerB) (Undisturbed managerB) init
    [.tick th, .tick pm, .next th true, .arrive "/dev/ttyUSB0" thReply, .header th, .rest th,
      .next pm true, .header pm, .next th true] :=
  ((undisturbed_iff patternB_load patternB_manager).1 _).2 (by decide +kernel)

/-- The dust module's call begins while the reply of the climate module is in the queue: it
flushes the reply. -/
theorem second_call_takes_reply :
    ¬ Along (step managerB) (Undisturbed managerB) init
        [.tick th, .tick pm, .next th true, .arrive "/dev/ttyUSB0" thReply, .next pm true] ∧
      ∃ s, run (step managerB) init
          [.tick th, .tick pm, .next th true, .arrive "/dev/ttyUSB0" thReply, .next pm true] = some s ∧
        s.phase th = .header 0 0 ∧ s.input "/dev/ttyUSB0" = [] := by
  refine ⟨by decide +kernel, _, rfl, ?_, ?_⟩
  · decide +kernel
  · decide +kernel

end Bus

end Gateway
