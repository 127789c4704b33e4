import IotGateway.Gateway.Reserve

/-!
# What a command does, call by call

`executeWith` is `execute` with its calls to the HAL and to the timers written down, also
those of a command that fails (`executeWith_eq` ties the two together).

* `check_eq_ok_iff`: the guards, as one condition.
* `configured_newManager`: the table holds the enabled configured channels, and commands keep
  that (`configured_execute`).
* `execute_drives`: **a command drives exactly what it reports.**
-/

namespace Gateway

open Hal

/-- A call that `execute` makes. -/
inductive Call where
  | gpioSet (pin value : ℤ)
  | stop (channelID : String)
  | afterFunc (channelID : String) (due : ℤ)
deriving DecidableEq, Repr

/-- The timer calls under the mutex: the old timer is stopped, an ON command arms a new one. -/
def timerCalls (now : ℤ) (st : ChannelState) (value : ℤ) : List Call :=
  (if st.maxOnTimer.isSome then [.stop st.cfg.channelID] else []) ++
    match (st.locked now value).maxOnTimer with
    | some t => [.afterFunc st.cfg.channelID t.due]
    | none => []

theorem locked_keepsCfg (now value : ℤ) (st : ChannelState) : (st.locked now value).cfg = st.cfg :=
  st.locked_cfg now value

/-- `execute`: the response, the manager after it, and the calls in their order. -/
def executeWith (m : Manager) (now : ℤ) (gpioSet : ℤ → ℤ → Except Err Unit)
    (req : CommandRequest) : CommandResponse × Manager × List Call :=
  match check m now req with
  | .error resp => (resp, m, [])
  | .ok (st, value) =>
    let executed := ({ newResponse m now req with
      status := "executed", result := req.actuatorChannelID ++ "-" ++ req.action },
      m.update req.actuatorChannelID (·.locked now value) (locked_keepsCfg now value))
    if m.simulation then (executed.1, executed.2, timerCalls now st value)
    else match gpioSet st.cfg.gpioPin value with
      | .error err =>
        ({ newResponse m now req with status := "failed", reason := "hal: " ++ err.error }, m,
          [.gpioSet st.cfg.gpioPin value])
      | .ok () =>
        (executed.1, executed.2, .gpioSet st.cfg.gpioPin value :: timerCalls now st value)

section Execute

variable {channels : List ActuatorChannel} {m : Manager} {now : ℤ}
  {gpioSet : ℤ → ℤ → Except Err Unit} {req : CommandRequest} {st : ChannelState} {value : ℤ}

/-- It is `execute`. -/
theorem executeWith_eq (m : Manager) (now : ℤ) (gpioSet : ℤ → ℤ → Except Err Unit)
    (req : CommandRequest) :
    ((executeWith m now gpioSet req).1, (executeWith m now gpioSet req).2.1) =
      ((execute m now gpioSet req).1, (execute m now gpioSet req).2.1) := by
  unfold executeWith execute
  cases check m now req with
  | error resp => rfl
  | ok sv =>
    dsimp only
    cases m.simulation with
    | true => rfl
    | false => cases gpioSet sv.1.cfg.gpioPin sv.2 <;> rfl

/-- The table of a manager of these channels: the enabled ones. -/
structure Configured (channels : List ActuatorChannel) (m : Manager) : Prop where
  enabled : ∀ st ∈ m.channels, st.cfg ∈ channels ∧ st.cfg.enabled = true
  covers : ∀ ch ∈ channels, ch.enabled = true → ∃ st ∈ m.channels, st.cfg.channelID = ch.channelID

theorem Configured.update (hm : Configured channels m) {id : String}
    {f : ChannelState → ChannelState} (hf : ∀ st, (f st).cfg = st.cfg) :
    Configured channels (m.update id f hf) where
  enabled := by
    intro st hst
    obtain ⟨st', hst', rfl⟩ := List.mem_map.mp hst
    split_ifs
    · rw [hf]
      exact hm.enabled st' hst'
    · exact hm.enabled st' hst'
  covers := by
    intro ch hch hen
    obtain ⟨st, hst, hid⟩ := hm.covers ch hch hen
    refine ⟨_, List.mem_map.mpr ⟨st, hst, rfl⟩, ?_⟩
    split_ifs
    · rw [hf, hid]
    · exact hid

/-- A command keeps the table's channels. -/
theorem configured_execute (hm : Configured channels m) (now : ℤ)
    (gpioSet : ℤ → ℤ → Except Err Unit) (req : CommandRequest) :
    Configured channels (execute m now gpioSet req).2.1 := by
  rcases execute_cases m now gpioSet req with ⟨-, resp, h, -⟩ | ⟨-, st, value, resp, -, h, -⟩
  · rw [h]
    exact hm
  · rw [h]
    exact hm.update (f := (·.locked now value)) fun _ => rfl

/-- The loop of `NewManager`: the channels it had, and the enabled ones of the list. -/
theorem reserve_configured {grants : ℤ → Bool} (chs : List ActuatorChannel) {g g' : Gpio}
    {m' : Manager} (h : Manager.reserve grants m g chs = (.ok m', g')) :
    (∀ st ∈ m'.channels, st ∈ m.channels ∨ st.cfg ∈ chs ∧ st.cfg.enabled = true) ∧
      (∀ st ∈ m.channels, ∃ st' ∈ m'.channels, st'.cfg.channelID = st.cfg.channelID) ∧
      ∀ ch ∈ chs, ch.enabled = true → ∃ st ∈ m'.channels, st.cfg.channelID = ch.channelID := by
  induction chs generalizing m g with
  | nil =>
    cases h
    exact ⟨fun st hst => .inl hst, fun st hst => ⟨st, hst, rfl⟩, fun ch hch => nomatch hch⟩
  | cons ch chs ih =>
    unfold Manager.reserve at h
    by_cases hen : ch.enabled = false
    · rw [if_pos hen] at h
      obtain ⟨hfrom, hkeep, hnew⟩ := ih h
      refine ⟨fun st hst => (hfrom st hst).imp_right fun hc => ⟨List.mem_cons_of_mem _ hc.1, hc.2⟩,
        hkeep, fun c hc hcen => ?_⟩
      rcases List.mem_cons.mp hc with rfl | hc
      · rw [hen] at hcen
        cases hcen
      · exact hnew c hc hcen
    · rw [if_neg hen] at h
      have hput : ∃ g₁, Manager.reserve grants (m.put (newChannelState ch)) g₁ chs = (.ok m', g') := by
        split at h
        · exact ⟨g, h⟩
        · split at h
          · cases h
          next g₁ _ => exact ⟨g₁, h⟩
      obtain ⟨g₁, hput⟩ := hput
      obtain ⟨hfrom, hkeep, hnew⟩ := ih hput
      have hin : newChannelState ch ∈ (m.put (newChannelState ch)).channels :=
        List.mem_append_right _ (List.mem_singleton_self _)
      refine ⟨fun st hst => ?_, fun st hst => ?_, fun c hc hcen => ?_⟩
      · rcases hfrom st hst with hst | hst
        · rcases List.mem_append.mp hst with hold | hone
          · exact .inl (List.mem_filter.mp hold).1
          · rw [List.mem_singleton.mp hone]
            exact .inr ⟨List.mem_cons_self, by simpa [newChannelState] using hen⟩
        · exact .inr ⟨List.mem_cons_of_mem _ hst.1, hst.2⟩
      · -- an entry of the same id is replaced
        by_cases hid : st.cfg.channelID = ch.channelID
        · rw [hid]
          exact hkeep _ hin
        · exact hkeep st (List.mem_append_left _ (List.mem_filter.mpr ⟨hst, decide_eq_true hid⟩))
      · rcases List.mem_cons.mp hc with rfl | hc
        · exact hkeep _ hin
        · exact hnew c hc hcen

/-- **`NewManager`'s table** holds the enabled channels. -/
theorem configured_newManager {grants : ℤ → Bool} {g g' : Gpio} {gatewayID : String}
    {simulation : Bool}
    (h : newManager grants g channels gatewayID simulation = (.ok m, g')) :
    Configured channels m := by
  obtain ⟨hfrom, -, hnew⟩ := reserve_configured channels h
  refine ⟨fun st hst => ?_, hnew⟩
  rcases hfrom st hst with hst | hst
  · cases hst
  · exact hst

/-! ### The guards -/

/-- The words for a level, in the order of `actionToValue`. -/
def onWords : List String := ["ON", "on", "1", "true"]

def offWords : List String := ["OFF", "off", "0", "false"]

theorem actionToValue_eq_ok_iff {action : String} :
    actionToValue action = .ok value ↔
      action ∈ onWords ++ offWords ∧ value = if action ∈ onWords then 1 else 0 := by
  unfold actionToValue
  rw [List.mem_append]
  by_cases hon : action ∈ onWords
  · rw [if_pos (show action ∈ ["ON", "on", "1", "true"] from hon), if_pos hon]
    exact ⟨fun h => ⟨.inl hon, (Except.ok.inj h).symm⟩, fun h => by rw [h.2]⟩
  · rw [if_neg (show action ∉ ["ON", "on", "1", "true"] from hon), if_neg hon]
    by_cases hoff : action ∈ offWords
    · rw [if_pos (show action ∈ ["OFF", "off", "0", "false"] from hoff)]
      exact ⟨fun h => ⟨.inr hoff, (Except.ok.inj h).symm⟩, fun h => by rw [h.2]⟩
    · rw [if_neg (show action ∉ ["OFF", "off", "0", "false"] from hoff)]
      exact ⟨fun h => (nomatch h), fun h => absurd h.1 (not_or.mpr ⟨hon, hoff⟩)⟩

/-- No expiry, or one that is not before now. -/
def NotExpired (now : ℤ) (expiresAt : String) : Prop :=
  expiresAt = "" ∨ ∃ t, parseRFC3339 expiresAt = some t ∧ now ≤ t

theorem checkExpires_eq_none_iff {expiresAt : String} {resp : CommandResponse} :
    checkExpires now expiresAt resp = none ↔ NotExpired now expiresAt := by
  unfold checkExpires NotExpired
  by_cases hempty : expiresAt = ""
  · rw [if_pos hempty]
    exact iff_of_true rfl (.inl hempty)
  · rw [if_neg hempty, or_iff_right hempty]
    cases parseRFC3339 expiresAt with
    | none => exact ⟨fun h => (nomatch h), fun ⟨t, ht, _⟩ => (nomatch ht)⟩
    | some t =>
      dsimp only
      by_cases hlate : t < now
      · rw [if_pos hlate]
        refine ⟨fun h => (nomatch h), fun ⟨t', ht', hle⟩ => ?_⟩
        cases ht'
        omega
      · rw [if_neg hlate]
        exact ⟨fun _ => ⟨t, rfl, by omega⟩, fun _ => rfl⟩

/-- **The guards let a request pass** under these conditions together. -/
theorem check_eq_ok_iff : check m now req = .ok (st, value) ↔
    req.commandID ≠ "" ∧ (req.gatewayID = "" ∨ req.gatewayID = m.gatewayID) ∧
      NotExpired now req.expiresAt ∧ m.channel req.actuatorChannelID = some st ∧
      actionToValue req.action = .ok value := by
  unfold check
  dsimp only
  by_cases hid : req.commandID = ""
  · rw [if_pos hid]
    exact ⟨fun h => (nomatch h), fun h => absurd hid h.1⟩
  rw [if_neg hid]
  by_cases hgw : req.gatewayID ≠ "" ∧ req.gatewayID ≠ m.gatewayID
  · rw [if_pos hgw]
    exact ⟨fun h => (nomatch h), fun h => (h.2.1.elim hgw.1 hgw.2).elim⟩
  rw [if_neg hgw]
  have hgw' : req.gatewayID = "" ∨ req.gatewayID = m.gatewayID := by
    rwa [not_and_or, not_not, not_not] at hgw
  cases hexp : checkExpires now req.expiresAt (newResponse m now req) with
  | some resp =>
    refine ⟨fun h => (nomatch h), fun h => ?_⟩
    rw [checkExpires_eq_none_iff.mpr h.2.2.1] at hexp
    cases hexp
  | none =>
    have hnot := checkExpires_eq_none_iff.mp hexp
    cases m.channel req.actuatorChannelID with
    | none => exact ⟨fun h => (nomatch h), fun h => (nomatch h.2.2.2.1)⟩
    | some st' =>
      cases actionToValue req.action with
      | error e => exact ⟨fun h => (nomatch h), fun h => (nomatch h.2.2.2.2)⟩
      | ok v =>
        constructor
        · intro h
          cases h
          exact ⟨hid, hgw', hnot, rfl, rfl⟩
        · rintro ⟨-, -, -, hst, hv⟩
          cases hst
          cases hv
          rfl

/-- The checks on a request, for a manager of these channels. -/
structure Accepted (channels : List ActuatorChannel) (gatewayID : String) (now : ℤ)
    (req : CommandRequest) : Prop where
  command : req.commandID ≠ ""
  gateway : req.gatewayID = "" ∨ req.gatewayID = gatewayID
  fresh : NotExpired now req.expiresAt
  channel : ∃ ch ∈ channels, ch.enabled = true ∧ ch.channelID = req.actuatorChannelID
  action : req.action ∈ onWords ++ offWords

/-- The level that a request asks for. -/
def CommandRequest.level (req : CommandRequest) : ℤ := if req.action ∈ onWords then 1 else 0

theorem accepted_iff (hm : Configured channels m) : Accepted channels m.gatewayID now req ↔
    ∃ st, check m now req = .ok (st, req.level) := by
  constructor
  · rintro ⟨hid, hgw, hnot, ⟨ch, hch, hen, hchID⟩, hact⟩
    obtain ⟨st, hst, hstID⟩ := hm.covers ch hch hen
    exact ⟨st, check_eq_ok_iff.mpr ⟨hid, hgw, hnot,
      Manager.channel_eq_some_iff.mpr ⟨hst, hstID.trans hchID⟩,
      actionToValue_eq_ok_iff.mpr ⟨hact, rfl⟩⟩⟩
  · rintro ⟨st, h⟩
    obtain ⟨hid, hgw, hnot, hst, hact⟩ := check_eq_ok_iff.mp h
    obtain ⟨hmem, hstID⟩ := Manager.channel_eq_some_iff.mp hst
    exact ⟨hid, hgw, hnot, ⟨st.cfg, (hm.enabled st hmem).1, (hm.enabled st hmem).2, hstID⟩,
      (actionToValue_eq_ok_iff.mp hact).1⟩

/-! ### The command -/

/-- What a command does, told by its response, the manager after it and its calls. -/
structure Drives (channels : List ActuatorChannel) (m : Manager) (now : ℤ)
    (gpioSet : ℤ → ℤ → Except Err Unit) (req : CommandRequest)
    (r : CommandResponse × Manager × List Call) : Prop where
  /-- the three reports, and when each is made -/
  executed : r.1.status = "executed" ↔ Accepted channels m.gatewayID now req ∧
    ∃ st, m.channel req.actuatorChannelID = some st ∧ gpioSet st.cfg.gpioPin req.level = .ok ()
  rejected : r.1.status = "rejected" ↔ ¬ Accepted channels m.gatewayID now req
  failed : r.1.status = "failed" ↔ Accepted channels m.gatewayID now req ∧
    ∃ st err, m.channel req.actuatorChannelID = some st ∧
      gpioSet st.cfg.gpioPin req.level = .error err
  /-- nothing is called for a rejected command, one pin write for a failed one -/
  calls_rejected : ¬ Accepted channels m.gatewayID now req → r.2.2 = []
  calls_failed : r.1.status = "failed" → ∃ st, m.channel req.actuatorChannelID = some st ∧
    r.2.2 = [.gpioSet st.cfg.gpioPin req.level]
  /-- an executed one also stops the old timer, and arms a new one under the condition -/
  calls_executed : r.1.status = "executed" → ∃ st, m.channel req.actuatorChannelID = some st ∧
    r.2.2 = .gpioSet st.cfg.gpioPin req.level ::
      (if st.maxOnTimer.isSome then [.stop st.cfg.channelID] else []) ++
      (if req.level = 1 ∧ 0 < st.cfg.maxOnDurationSec then
        [.afterFunc st.cfg.channelID (afterFunc now (seconds st.cfg.maxOnDurationSec)).due] else [])
  /-- no other report changes the table -/
  unchanged : r.1.status ≠ "executed" → r.2.1 = m
  others : ∀ id ≠ req.actuatorChannelID, r.2.1.channel id = m.channel id
  /-- the channel of an executed command -/
  changed : r.1.status = "executed" → ∃ st st', m.channel req.actuatorChannelID = some st ∧
    r.2.1.channel req.actuatorChannelID = some st' ∧ st'.cfg = st.cfg ∧
    st'.currentValue = req.level ∧ (st'.maxOnTimer = if req.level = 1 ∧ 0 < st.cfg.maxOnDurationSec
      then some (afterFunc now (seconds st.cfg.maxOnDurationSec)) else none)

/-- The timer calls of a level, spelled out. -/
theorem timerCalls_eq : timerCalls now st value =
    (if st.maxOnTimer.isSome then [.stop st.cfg.channelID] else []) ++
      (if value = 1 ∧ 0 < st.cfg.maxOnDurationSec then
        [.afterFunc st.cfg.channelID (afterFunc now (seconds st.cfg.maxOnDurationSec)).due] else []) := by
  unfold timerCalls ChannelState.locked
  by_cases harm : value = 1 ∧ 0 < st.cfg.maxOnDurationSec
  · rw [if_pos harm, if_pos harm]
  · rw [if_neg harm, if_neg harm]

/-- The three ways of a command: rejected, failed at its pin write, executed. -/
theorem executeWith_cases (hm : Configured channels m) (hsim : m.simulation = false) (now : ℤ)
    (gpioSet : ℤ → ℤ → Except Err Unit) (req : CommandRequest) :
    (¬ Accepted channels m.gatewayID now req ∧
      ∃ resp, resp.status = "rejected" ∧ executeWith m now gpioSet req = (resp, m, [])) ∨
    Accepted channels m.gatewayID now req ∧ ∃ st, m.channel req.actuatorChannelID = some st ∧
      ((∃ err resp, gpioSet st.cfg.gpioPin req.level = .error err ∧ resp.status = "failed" ∧
        executeWith m now gpioSet req = (resp, m, [.gpioSet st.cfg.gpioPin req.level])) ∨
      ∃ resp, gpioSet st.cfg.gpioPin req.level = .ok () ∧ resp.status = "executed" ∧
        executeWith m now gpioSet req =
          (resp, m.update req.actuatorChannelID (·.locked now req.level) (fun _ => rfl),
            .gpioSet st.cfg.gpioPin req.level :: timerCalls now st req.level)) := by
  by_cases hacc : Accepted channels m.gatewayID now req
  · obtain ⟨st, hok⟩ := (accepted_iff hm).mp hacc
    refine .inr ⟨hacc, st, (check_eq_ok_iff.mp hok).2.2.2.1, ?_⟩
    unfold executeWith
    rw [hok]
    dsimp only
    rw [hsim]
    cases hgpio : gpioSet st.cfg.gpioPin req.level with
    | error err => exact .inl ⟨err, _, rfl, rfl, rfl⟩
    | ok u => exact .inr ⟨_, rfl, rfl, rfl⟩
  · refine .inl ⟨hacc, ?_⟩
    unfold executeWith
    cases hc : check m now req with
    | error resp => exact ⟨resp, (check_error hc).1, rfl⟩
    | ok sv =>
      obtain ⟨st, v⟩ := sv
      have hlevel := (actionToValue_eq_ok_iff.mp (check_eq_ok_iff.mp hc).2.2.2.2).2
      exact absurd ((accepted_iff hm).mpr ⟨st, by rw [hc, hlevel]; rfl⟩) hacc

/-- **A command drives exactly what it reports**, outside simulation. -/
theorem execute_drives (hm : Configured channels m) (hsim : m.simulation = false) (now : ℤ)
    (gpioSet : ℤ → ℤ → Except Err Unit) (req : CommandRequest) :
    Drives channels m now gpioSet req (executeWith m now gpioSet req) := by
  rcases executeWith_cases hm hsim now gpioSet req with
    ⟨hacc, resp, hstatus, hrun⟩ |
    ⟨hacc, st, hst, ⟨err, resp, hgpio, hstatus, hrun⟩ | ⟨resp, hgpio, hstatus, hrun⟩⟩
  · rw [hrun]
    constructor <;> simp [hstatus, hacc]
  · rw [hrun]
    constructor <;> simp [hstatus, hacc, hst, hgpio]
  · rw [hrun]
    refine ⟨by simp [hstatus, hacc, hst, hgpio], by simp [hstatus, hacc],
      by simp [hstatus, hst, hgpio], fun h => absurd hacc h, by simp [hstatus],
      fun _ => ⟨st, hst, ?_⟩, fun h => absurd hstatus h,
      fun id hid => Manager.channel_update_ne (f := (·.locked now req.level)) (fun _ => rfl) hid,
      fun _ => ⟨st, st.locked now req.level, hst,
        Manager.channel_update_self (f := (·.locked now req.level)) (fun _ => rfl) hst,
        rfl, rfl, rfl⟩⟩
    rw [timerCalls_eq, List.cons_append]

end Execute

/-- A relay switched on, with no timer before. -/
theorem vent_driven : Drives [relayVent] (singleManager (newChannelState relayVent) "gw-1") 0 halOk
    ventOn (executeWith (singleManager (newChannelState relayVent) "gw-1") 0 halOk ventOn) :=
  execute_drives ⟨fun st hst => by rw [List.mem_singleton.mp hst]; decide,
    fun ch hch _ => ⟨_, List.mem_singleton_self _, by rw [List.mem_singleton.mp hch]; rfl⟩⟩ rfl
    0 halOk ventOn

end Gateway
