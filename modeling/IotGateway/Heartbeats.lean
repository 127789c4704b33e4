import IotGateway.Server.LastSeen
import IotGateway.Timestamps

/-!
# Heartbeats over a network that loses, repeats and reorders

The agent sends a heartbeat at each tick, and does not repeat one that fails. A heartbeat
that gets through may be delivered late, again, and after later ones; the worker takes the
time it carries for `last_seen_at`, and the detector compares that with the clock.

`heartbeats_keep_online`: **a gateway that was online stays online in every state, if the
heartbeats that get through are at most `failures` losses apart, none is delivered more
than `delay` after it was sent, and**
`(failures + 1) * interval + lag + 2 * delay ≤ threshold`. The second `delay` is the price
of taking a late heartbeat's time for a new one.
-/

namespace Heartbeats

open Lts Python Server

/-! ## What is sent -/

/-- What a heartbeat tells besides its time; no handler reads it. -/
structure Metrics where
  hostname : String
  uptimeSec : ℤ
  goAllocMb : Double
  goSysMb : Double
  goroutines : ℤ
  diskRootUsedPercent : Double
  cpuTempCelsius : Double
deriving DecidableEq

/-- The heartbeat that `health.Agent.publish` sends at `t`, with its keys in order. -/
def heartbeatBody (gatewayID : String) (m : Metrics) (t : ℤ) : List (Str × Json) :=
  [(Str.of "cpu_temp_celsius", .float m.cpuTempCelsius),
    (Str.of "disk_root_used_percent", .float m.diskRootUsedPercent),
    (Str.of "gateway_id", .text gatewayID), (Str.of "go_alloc_mb", .float m.goAllocMb),
    (Str.of "go_sys_mb", .float m.goSysMb), (Str.of "goroutines", .int m.goroutines),
    (Str.of "hostname", .text m.hostname),
    (Str.of "timestamp", .text (Gateway.formatRFC3339Nano t)), (Str.of "uptime_sec", .int m.uptimeSec)]

/-- A heartbeat that got through, and whether the worker has had it. -/
structure Sent where
  sentAt : ℤ
  metrics : Metrics
  delivered : Bool
deriving DecidableEq

/-- The gateway's ticker, the network and the server. `survivor` is when the last heartbeat
that got through was sent, and `lost` the number of those after it. -/
structure System where
  presence : Presence
  nextTick : ℤ
  survivor : ℤ
  lost : ℕ
  sent : List Sent

inductive Event where
  /-- time passes, another message of the gateway is processed, or the detector runs -/
  | server (e : PresenceEvent)
  /-- a tick: a heartbeat at so many nanoseconds after the microsecond -/
  | beat (ns : Fin 1000) (metrics : Metrics) (lost : Bool)
  /-- the worker gets heartbeat `i`, perhaps again -/
  | deliver (i : ℕ)
  /-- the network forgets a heartbeat that it has delivered -/
  | forget (i : ℕ)

namespace System

/-- Instants are microseconds; the gateway's clock has nanoseconds. -/
def step (gatewayID : String) (gatewayId : UUID) (thresholdSec : ℤ) (interval : ℕ) (s : System) :
    Event → Option System
  | .server e => (Presence.step gatewayId thresholdSec s.presence e).map fun presence => { s with presence }
  | .beat ns metrics lost =>
    if s.nextTick ≤ s.presence.now then
      let s' := { s with nextTick := s.nextTick + interval }
      if lost then some { s' with lost := s.lost + 1 }
      else some { s' with
        survivor := s.presence.now
        lost := 0
        sent := s.sent ++ [⟨s.presence.now * 1000 + ns, metrics, false⟩] }
    else none
  | .deliver i =>
    match s.sent[i]? with
    | none => none
    | some m =>
      (Presence.step gatewayId thresholdSec s.presence
        (.heartbeat (heartbeatBody gatewayID m.metrics m.sentAt))).map fun presence =>
          { s with presence, sent := s.sent.set i { m with delivered := true } }
  | .forget i =>
    match s.sent[i]? with
    | some m => if m.delivered then some { s with sent := s.sent.eraseIdx i } else none
    | none => none

/-! ## Assumptions -/

/-- How long things take at most, and how many heartbeats in a row may be lost. -/
structure Bounds where
  lag : ℕ
  delay : ℕ
  failures : ℕ

/-- The ticker is served, and the network delivers what it has not lost, in time. -/
structure Prompt (b : Bounds) (s : System) : Prop where
  years : Timestamps.InYears 86400000000 s.presence.now
  tick : s.presence.now ≤ s.nextTick + b.lag
  lost : s.lost ≤ b.failures
  network : ∀ m ∈ s.sent, s.presence.now ≤ m.sentAt / 1000 + b.delay

/-- A state message says online. -/
def SaysOnline : PresenceEvent → Prop
  | .state body => ((Json.get body "status").getD (.text "online")).isText "online" = true
  | .tick _ | .telemetry _ _ | .heartbeat _ | .offlineDetector => True

instance : DecidablePred SaysOnline
  | .state _ => inferInstanceAs (Decidable (_ = true))
  | .tick _ | .telemetry _ _ | .heartbeat _ | .offlineDetector => isTrue trivial

/-- Another message of the gateway carries a time within the delay, and a state message says
online. -/
def Fresh (b : Bounds) (gatewayId : UUID) (s : System) : Event → Prop
  | .server e => (∀ t ∈ stamp gatewayId s.presence e, s.presence.now - b.delay ≤ t) ∧ SaysOnline e
  | .beat _ _ _ | .deliver _ | .forget _ => True

instance (b : Bounds) (gatewayId : UUID) (s : System) : DecidablePred (Fresh b gatewayId s)
  | .server _ => inferInstanceAs (Decidable (_ ∧ _))
  | .beat _ _ _ | .deliver _ | .forget _ => isTrue trivial

def Timely (b : Bounds) (gatewayId : UUID) (s : System) (e : Event) (s' : System) : Prop :=
  Prompt b s ∧ Prompt b s' ∧ Fresh b gatewayId s e

instance (b : Bounds) (s : System) : Decidable (Prompt b s) :=
  have : Decidable (Timestamps.InYears 86400000000 s.presence.now) := inferInstanceAs (Decidable (_ ∧ _))
  decidable_of_iff (Timestamps.InYears 86400000000 s.presence.now ∧ s.presence.now ≤ s.nextTick + b.lag ∧
    s.lost ≤ b.failures ∧ ∀ m ∈ s.sent, s.presence.now ≤ m.sentAt / 1000 + b.delay)
    ⟨fun ⟨h1, h2, h3, h4⟩ => ⟨h1, h2, h3, h4⟩, fun ⟨h1, h2, h3, h4⟩ => ⟨h1, h2, h3, h4⟩⟩

instance (b : Bounds) (gatewayId : UUID) (s : System) (e : Event) (s' : System) :
    Decidable (Timely b gatewayId s e s') := inferInstanceAs (Decidable (_ ∧ _))

/-! ## The row -/

/-- The gateway is online, and was last seen at `t`. -/
def OnlineSince (gatewayId : UUID) (store : Store) (t : ℤ) : Prop :=
  ∃ gw, store.gateways.find? gatewayId = some gw ∧ gw.status = "online" ∧ gw.lastSeenAt = some t

section Row

variable {gatewayId : UUID} {thresholdSec : ℤ} {p p' : Presence} {e : PresenceEvent} {t : ℤ} {store : Store}

/-- A change of the row that leaves an online gateway online. -/
theorem onlineSince_modify {f : Gateway → Gateway} {t' : ℤ} (hf : ∀ gw, (f gw).id = gw.id)
    (h : OnlineSince gatewayId store t) (hstatus : ∀ gw, gw.status = "online" → (f gw).status = "online")
    (hseen : ∀ gw, gw.lastSeenAt = some t → (f gw).lastSeenAt = some t') {store' : Store}
    (hgw : store'.gateways = store.gateways.modify gatewayId f hf) : OnlineSince gatewayId store' t' := by
  obtain ⟨gw, hfind, honline, ht⟩ := h
  refine ⟨f gw, ?_, hstatus gw honline, hseen gw ht⟩
  rw [hgw, Db.Table.find?_modify, hfind]
  rfl

/-- **A message keeps an online gateway online**, seen at its stamp if it has one, unless it
is a state message that says otherwise. -/
theorem onlineSince_step (h : OnlineSince gatewayId p.store t)
    (hstep : Presence.step gatewayId thresholdSec p e = some p') (hne : e ≠ .offlineDetector)
    (hstate : ∀ body, e = .state body →
      ((Json.get body "status").getD (.text "online")).isText "online" = true) :
    OnlineSince gatewayId p'.store ((stamp gatewayId p e).getD t) := by
  have hfind := h
  obtain ⟨gw, hgw, -, -⟩ := hfind
  cases e with
  | offlineDetector => exact absurd rfl hne
  | tick d =>
    cases hstep
    exact h
  | telemetry mono body =>
    simp only [Presence.step, Option.some.injEq] at hstep
    subst hstep
    rw [Presence.processed_store]
    cases hc : toCommit p.store p.cache mono p.now gatewayId body with
    | none =>
      have hsame : (telemetry p.store p.cache mono p.now gatewayId body).2.getD p.store = p.store := by
        cases hr : (telemetry p.store p.cache mono p.now gatewayId body).2 with
        | none => rfl
        | some store' => exact telemetry_of_not_toCommit hc hr
      rw [hsame, stamp, hc]
      exact h
    | some result =>
      obtain ⟨ts, rows⟩ := result
      rw [telemetry_of_toCommit hc, stamp, hc]
      exact onlineSince_modify (Gateway.seen_id ts) h (fun _ _ => rfl) (fun _ _ => rfl) rfl
  | heartbeat body =>
    simp only [Presence.step, Option.some.injEq] at hstep
    subst hstep
    rw [Presence.processed_store, heartbeat, stamp, hgw]
    rw [← messageTime]
    cases ht : messageTime p.now body with
    | none => simpa using h
    | some t' =>
      simp only [Option.bind_eq_bind, Option.bind_some, Option.getD_some]
      refine onlineSince_modify (Gateway.beat_id t') h (fun gw honline => ?_) (fun _ _ => rfl) rfl
      simp [Gateway.beat, honline]
  | state body =>
    have honline := hstate body rfl
    simp only [Presence.step, Option.some.injEq] at hstep
    subst hstep
    rw [Presence.processed_store, state, stamp, hgw]
    cases hr : stateReport p.now body with
    | none => simpa using h
    | some r =>
      have hstatus : r.status = "online" := by
        unfold stateReport at hr
        simp only [Option.bind_eq_bind, Option.bind_eq_some_iff] at hr
        obtain ⟨_, -, _, -, _, -, _, -, hr⟩ := hr
        cases hr
        simp [honline]
      simp only [Option.bind_eq_bind, Option.bind_some, Option.getD_some]
      refine onlineSince_modify (Gateway.report_id r) h (fun _ _ => hstatus) (fun gw ht => ?_) rfl
      cases hs : r.lastSeenAt with
      | none => simpa [Gateway.report, hs] using ht
      | some t' => simp [Gateway.report, hs]

/-- The detector leaves a gateway that was seen within the threshold. -/
theorem onlineSince_detector (h : OnlineSince gatewayId p.store t) (hnow : p.now - thresholdSec * 1000000 ≤ t)
    (hstep : Presence.step gatewayId thresholdSec p .offlineDetector = some p') :
    OnlineSince gatewayId p'.store t := by
  cases hstep
  obtain ⟨gw, hfind, honline, ht⟩ := h
  refine ⟨gw, ?_, honline, ht⟩
  simp only [offlineDetector, Db.Table.find?_map, hfind, Option.map_some, Option.some.injEq]
  unfold Gateway.detect
  rw [if_neg]
  rintro ⟨-, hsilent⟩
  rw [ht] at hsilent
  simp only [Option.all_some, decide_eq_true_eq] at hsilent
  omega

/-- The worker reads the instant of a heartbeat, to the microsecond. -/
theorem stamp_heartbeat {gatewayID : String} {m : Metrics} {at' : ℤ}
    (hgw : (p.store.gateways.find? gatewayId).isSome = true)
    (hyears : Timestamps.InYears 86400000000000 at') :
    stamp gatewayId p (.heartbeat (heartbeatBody gatewayID m at')) = some (at' / 1000) := by
  obtain ⟨gw, hgw⟩ := Option.isSome_iff_exists.1 hgw
  have hget : Json.get (heartbeatBody gatewayID m at') "timestamp" =
      some (.text (Gateway.formatRFC3339Nano at')) := by
    simp [heartbeatBody, Json.get, Str.of_inj]
  have hparse : parseIso8601 p.now (some (.text (Gateway.formatRFC3339Nano at'))) = some (at' / 1000) :=
    Timestamps.parseIso8601_of_readReplaced (Timestamps.readReplaced_format hyears) p.now
  rw [Timestamps.inYears_iff] at hyears
  have hcolumn : Db.timestamptz (at' / 1000) = some (at' / 1000) := if_pos (by omega)
  rw [stamp, hgw]
  simp only [Option.bind_some, messageTime, hget, hparse, hcolumn]

end Row

/-! ## Runs -/

/-- Between one heartbeat that gets through and the next. -/
def Bounds.gap (b : Bounds) (interval : ℕ) : ℤ := (b.failures + 1) * interval + b.lag

theorem gap_nonneg (b : Bounds) (interval : ℕ) : 0 ≤ b.gap interval := by
  unfold Bounds.gap
  positivity

/-- All is delivered, and `t` is not long before the last heartbeat that got through; or `t`
is not long before one that is on its way. -/
def Recent (b : Bounds) (interval : ℕ) (s : System) (t : ℤ) : Prop :=
  ((∀ m ∈ s.sent, m.delivered = true) ∧ s.survivor - b.delay ≤ t) ∨
    ∃ m ∈ s.sent, m.delivered = false ∧ m.sentAt / 1000 - b.gap interval - b.delay ≤ t

/-- Along a run of timely states. -/
structure Inv (b : Bounds) (gatewayId : UUID) (interval : ℕ) (s : System) : Prop where
  prompt : Prompt b s
  row : ∃ t, OnlineSince gatewayId s.presence.store t ∧ Recent b interval s t
  survivor : s.survivor ≤ s.presence.now
  tick : s.nextTick ≤ s.survivor + (s.lost + 1) * interval
  sent : ∀ m ∈ s.sent, m.sentAt / 1000 ≤ s.presence.now ∧ Timestamps.InYears 86400000000000 m.sentAt

section Run

variable {b : Bounds} {gatewayID : String} {gatewayId : UUID} {thresholdSec t : ℤ} {interval : ℕ}
  {s s' : System} {e : Event}

/-- The time of a message that is processed now is recent. -/
theorem recent_of_now (hsurvivor : s.survivor ≤ s.presence.now)
    (hsent : ∀ m ∈ s.sent, m.sentAt / 1000 ≤ s.presence.now) (ht : s.presence.now - b.delay ≤ t) :
    Recent b interval s t := by
  by_cases hall : ∀ m ∈ s.sent, m.delivered = true
  · exact Or.inl ⟨hall, by omega⟩
  · push Not at hall
    obtain ⟨m, hm, hno⟩ := hall
    have hpast := hsent m hm
    have hgap := gap_nonneg b interval
    exact Or.inr ⟨m, hm, by simpa using hno, by omega⟩

/-- A heartbeat that gets through comes soon after the one before. -/
theorem now_le_survivor (hs : Inv b gatewayId interval s) :
    s.presence.now ≤ s.survivor + b.gap interval := by
  have htick := hs.prompt.tick
  have hnext := hs.tick
  have hlost : ((s.lost : ℤ) + 1) * interval ≤ (b.failures + 1) * interval := by
    have hle := hs.prompt.lost
    refine mul_le_mul_of_nonneg_right ?_ (Int.natCast_nonneg _)
    omega
  unfold Bounds.gap
  omega

/-- **The gateway was seen not long ago.** -/
theorem recent_now (hs : Inv b gatewayId interval s)
    (ht : Recent b interval s t) : s.presence.now ≤ t + b.gap interval + 2 * b.delay := by
  rcases ht with ⟨-, hlast⟩ | ⟨m, hm, -, hlast⟩
  · have hnow := now_le_survivor hs
    omega
  · have hnow := hs.prompt.network m hm
    omega

theorem presence_now {p p' : Presence} {e : PresenceEvent}
    (h : Presence.step gatewayId thresholdSec p e = some p') :
    p.now ≤ p'.now ∧ ((stamp gatewayId p e).isSome = true → p'.now = p.now) := by
  have hprocessed : ∀ result, (p.processed result).now = p.now := by
    intro result
    cases result <;> rfl
  cases e with
  | tick d =>
    cases h
    exact ⟨by simp, fun hsome => by cases hsome⟩
  | telemetry mono body =>
    cases h
    exact ⟨(hprocessed _).ge, fun _ => hprocessed _⟩
  | heartbeat body =>
    cases h
    exact ⟨(hprocessed _).ge, fun _ => hprocessed _⟩
  | state body =>
    cases h
    exact ⟨(hprocessed _).ge, fun _ => hprocessed _⟩
  | offlineDetector =>
    cases h
    exact ⟨le_rfl, fun _ => rfl⟩

/-- Another process of the server takes a step. -/
theorem inv_server
    (hthreshold : b.gap interval + 2 * b.delay ≤ thresholdSec * 1000000) (hs : Inv b gatewayId interval s)
    {e : PresenceEvent} {p' : Presence} (h : Presence.step gatewayId thresholdSec s.presence e = some p')
    (hprompt : Prompt b { s with presence := p' }) (hfresh : Fresh b gatewayId s (.server e)) :
    Inv b gatewayId interval { s with presence := p' } := by
  obtain ⟨t, honline, hrecent⟩ := hs.row
  obtain ⟨hnow, hsame⟩ := presence_now h
  have hsurvivor := hs.survivor
  have hsent : ∀ m ∈ s.sent, m.sentAt / 1000 ≤ p'.now ∧ Timestamps.InYears 86400000000000 m.sentAt := by
    intro m hm
    obtain ⟨hpast, hyears⟩ := hs.sent m hm
    exact ⟨by omega, hyears⟩
  refine ⟨hprompt, ?_, by dsimp only; omega, hs.tick, hsent⟩
  by_cases hdetector : e = .offlineDetector
  · subst hdetector
    have hseen := recent_now hs hrecent
    exact ⟨t, onlineSince_detector honline (by omega) h, hrecent⟩
  · obtain ⟨hstamp, hstate⟩ := hfresh
    have honline' := onlineSince_step honline h hdetector fun body he => by subst he; exact hstate
    cases hst : stamp gatewayId s.presence e with
    | none =>
      rw [hst] at honline'
      exact ⟨t, honline', hrecent⟩
    | some t' =>
      rw [hst] at honline'
      refine ⟨t', honline', recent_of_now (by dsimp only; omega) (fun m hm => (hsent m hm).1) ?_⟩
      have hlate := hstamp t' hst
      have heq := hsame (by rw [hst]; rfl)
      dsimp only
      omega

/-- A heartbeat is delivered. -/
theorem inv_deliver (hs : Inv b gatewayId interval s) {i : ℕ}
    {m : Sent} (hm : s.sent[i]? = some m) {p' : Presence}
    (h : Presence.step gatewayId thresholdSec s.presence
      (.heartbeat (heartbeatBody gatewayID m.metrics m.sentAt)) = some p')
    (hprompt : Prompt b { s with presence := p', sent := s.sent.set i { m with delivered := true } }) :
    Inv b gatewayId interval { s with presence := p', sent := s.sent.set i { m with delivered := true } } := by
  obtain ⟨t, honline, -⟩ := hs.row
  have hmem := List.mem_of_getElem? hm
  obtain ⟨gw, hgw, -, -⟩ := id honline
  have hstamp : stamp gatewayId s.presence (.heartbeat (heartbeatBody gatewayID m.metrics m.sentAt)) =
      some (m.sentAt / 1000) := stamp_heartbeat (by rw [hgw]; rfl) (hs.sent m hmem).2
  have hnow : p'.now = s.presence.now := (presence_now h).2 (by rw [hstamp]; rfl)
  have honline' := onlineSince_step honline h (by simp) fun body he => by cases he
  rw [hstamp, Option.getD_some] at honline'
  have hsent : ∀ m' ∈ s.sent.set i { m with delivered := true },
      m'.sentAt / 1000 ≤ p'.now ∧ Timestamps.InYears 86400000000000 m'.sentAt := by
    intro m' hm'
    rw [hnow]
    rcases List.mem_or_eq_of_mem_set hm' with hm' | rfl
    · exact hs.sent m' hm'
    · exact hs.sent m hmem
  have hsurvivor := hs.survivor
  refine ⟨hprompt, ⟨_, honline', ?_⟩, by dsimp only; omega, hs.tick, hsent⟩
  have hdelivered := hs.prompt.network m hmem
  exact recent_of_now (by dsimp only; omega) (fun m' hm' => (hsent m' hm').1)
    (by dsimp only; omega)

theorem inv_step
    (hthreshold : b.gap interval + 2 * b.delay ≤ thresholdSec * 1000000) (hs : Inv b gatewayId interval s)
    (h : step gatewayID gatewayId thresholdSec interval s e = some s') (ht : Timely b gatewayId s e s') :
    Inv b gatewayId interval s' := by
  obtain ⟨-, hprompt, hfresh⟩ := ht
  cases e with
  | server e =>
    obtain ⟨p', hp', rfl⟩ := Option.map_eq_some_iff.1 h
    exact inv_server hthreshold hs hp' hprompt hfresh
  | deliver i =>
    simp only [step] at h
    split at h
    · cases h
    · rename_i m hm
      obtain ⟨p', hp', rfl⟩ := Option.map_eq_some_iff.1 h
      exact inv_deliver hs hm hp' hprompt
  | forget i =>
    simp only [step] at h
    split at h
    · rename_i m hm
      split_ifs at h with hdelivered
      cases h
      obtain ⟨t, honline, hrecent⟩ := hs.row
      refine ⟨hprompt, ⟨t, honline, ?_⟩, hs.survivor, hs.tick,
        fun m' hm' => hs.sent m' (List.mem_of_mem_eraseIdx hm')⟩
      rcases hrecent with ⟨hall, hlast⟩ | ⟨m', hm', hno, hlast⟩
      · exact Or.inl ⟨fun m' hm' => hall m' (List.mem_of_mem_eraseIdx hm'), hlast⟩
      · -- what is on its way is not forgotten
        refine Or.inr ⟨m', ?_, hno, hlast⟩
        obtain ⟨k, hk⟩ := List.mem_iff_getElem?.1 hm'
        refine List.mem_eraseIdx_iff_getElem?.2 ⟨k, ?_, hk⟩
        rintro rfl
        rw [hm] at hk
        cases hk
        rw [hdelivered] at hno
        cases hno
    · cases h
  | beat ns metrics lost =>
    simp only [step] at h
    split_ifs at h with hdue hlost
    · cases h
      obtain ⟨t, honline, hrecent⟩ := hs.row
      refine ⟨hprompt, ⟨t, honline, hrecent⟩, hs.survivor, ?_, hs.sent⟩
      have htick := hs.tick
      have hnext : ((s.lost : ℤ) + 1 + 1) * interval = (s.lost + 1) * interval + interval := by ring
      push_cast
      omega
    · cases h
      obtain ⟨t, honline, hrecent⟩ := hs.row
      have hnow := now_le_survivor hs
      have hns : (s.presence.now * 1000 + (ns : ℕ)) / 1000 = s.presence.now := by omega
      refine ⟨hprompt, ⟨t, honline, ?_⟩, le_rfl, ?_, ?_⟩
      · rcases hrecent with ⟨-, hlast⟩ | ⟨m, hm, hno, hlast⟩
        · refine Or.inr ⟨_, List.mem_append_right _ (List.mem_singleton_self _), rfl, ?_⟩
          dsimp only
          rw [hns]
          omega
        · exact Or.inr ⟨m, List.mem_append_left _ hm, hno, hlast⟩
      · dsimp only
        push_cast
        omega
      · intro m hm
        rcases List.mem_append.1 hm with hm | hm
        · exact hs.sent m hm
        · obtain rfl := List.mem_singleton.1 hm
          have hyears := hs.prompt.years
          rw [Timestamps.inYears_iff] at hyears ⊢
          refine ⟨by dsimp only; omega, ?_⟩
          dsimp only
          omega

/-- The gateway is connected and has said so: the first heartbeat is due. -/
def init (p : Presence) : System := ⟨p, p.now, p.now, 0, []⟩

/-- **A gateway that sends heartbeats stays online.** -/
theorem heartbeats_keep_online (gatewayID : String) (gatewayId : UUID) (thresholdSec : ℤ) (interval : ℕ)
    (b : Bounds)
    (hthreshold : (b.failures + 1) * interval + b.lag + 2 * b.delay ≤ thresholdSec * 1000000)
    (p : Presence) (hyears : Timestamps.InYears 86400000000 p.now) (t : ℤ)
    (hrow : OnlineSince gatewayId p.store t) (ht : p.now - b.delay ≤ t) (es : List Event)
    (htimely : Along (step gatewayID gatewayId thresholdSec interval) (Timely b gatewayId) (init p) es) :
    Always (step gatewayID gatewayId thresholdSec interval)
      (fun s => ∃ gw, s.presence.store.gateways.find? gatewayId = some gw ∧ gw.status = "online") (init p) es := by
  have hinit : Inv b gatewayId interval (init p) := by
    refine ⟨⟨hyears, by simp [init], Nat.zero_le _, fun m hm => by cases hm⟩, ⟨t, hrow, Or.inl ⟨?_, ht⟩⟩,
      le_rfl, ?_, fun m hm => by cases hm⟩
    · intro m hm
      cases hm
    · simp [init]
  have hkeep : ∀ s e s', Inv b gatewayId interval s →
      step gatewayID gatewayId thresholdSec interval s e = some s' → Timely b gatewayId s e s' →
      Inv b gatewayId interval s' :=
    fun s e s' hs h ht => inv_step hthreshold hs h ht
  refine always_of_along hkeep (fun s hs => ?_) hinit htimely
  obtain ⟨t, ⟨gw, hgw, honline, -⟩, -⟩ := hs.row
  exact ⟨gw, hgw, honline⟩

end Run

/-! A gateway with the default 30 s sends three heartbeats, of which the second is lost; the
detector runs before each delivery. -/

def barnPresence : Presence :=
  ⟨Presence.noon, ⟨⟨[⟨7, "GW-1", 3, none, "online", none, none, 0, some Presence.noon⟩], by simp⟩, .empty, [],
    .empty⟩, fun _ => none, none⟩

def barnMetrics : Metrics := ⟨"barn", 60, 0, 0, 12, 0, 0⟩

def barnBeats : List Event :=
  [.beat 7 barnMetrics false, .server (.tick 4000000), .deliver 0, .forget 0, .server (.tick 26000000),
    .beat 8 barnMetrics true, .server (.tick 30000000), .beat 9 barnMetrics false, .server (.tick 5000000),
    .server .offlineDetector, .deliver 0, .forget 0, .server (.tick 20000000), .server .offlineDetector]

theorem barn_stays_online :
    Always (step "GW-1" 7 90 30000000)
      (fun s => ∃ gw, s.presence.store.gateways.find? 7 = some gw ∧ gw.status = "online") (init barnPresence)
      barnBeats :=
  heartbeats_keep_online "GW-1" 7 90 30000000 ⟨100000, 5000000, 1⟩ (by decide) barnPresence
    (by constructor <;> decide) Presence.noon ⟨_, rfl, rfl, rfl⟩ (by decide) barnBeats (by decide +kernel)

end System

end Heartbeats
