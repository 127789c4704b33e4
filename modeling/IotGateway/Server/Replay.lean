import IotGateway.Server.Presence

/-!
# A state message processed again

State messages are retained: the broker sends the last one of each gateway whenever the
worker subscribes. What the message sets it sets again, to the same values, except for a
time that it does not carry: a last will has none, and is stamped by the server's clock.

`replay`: **a second processing leaves the row as it was after the first, except that a
message dated by the server's clock moves `last_seen_at` to the second reading of it.**
-/

namespace Server

open Python

/-- The message has no time of its own: it is a last will, or says online without a
timestamp. -/
def ClockDated (body : List (Str × Json)) : Prop :=
  let newStatus := (Json.get body "status").getD (.text "online")
  (newStatus.isText "online" = true ∧ ∀ v ∈ Json.get body "timestamp", v.truthy = false) ∨
    (newStatus.isText "offline" = true ∧ ((Json.get body "reason").getD .null).isText "lwt" = true)

instance (body : List (Str × Json)) : Decidable (ClockDated body) := by
  unfold ClockDated
  infer_instance

/-- `state.handle` of a message, whether it returns or raises. -/
def afterState (store : Store) (now : ℤ) (gatewayId : UUID) (body : List (Str × Json)) : Store :=
  (state store now gatewayId body).getD store

section Replay

variable {store : Store} {now t t' : ℤ} {gatewayId : UUID} {body : List (Str × Json)} {gw : Gateway}

/-- **What a state message does to the row.** -/
theorem find?_afterState : (afterState store now gatewayId body).gateways.find? gatewayId =
    (store.gateways.find? gatewayId).map fun gw => (stateReport now body).elim gw gw.report := by
  unfold afterState state
  cases hgw : store.gateways.find? gatewayId with
  | none => simpa using hgw
  | some gw =>
    cases hr : stateReport now body with
    | none => simpa using hgw
    | some r =>
      simp only [Option.bind_eq_bind, Option.bind_some, Option.getD_some, Option.map_some, Option.elim_some]
      rw [Db.Table.find?_modify, hgw]
      rfl

theorem isText_eq {v : Json} {s s' : String} (h : v.isText s = true) (h' : v.isText s' = true) : s = s' := by
  unfold Json.isText at h h'
  split at h
  · rw [decide_eq_true_eq] at h h'
    exact Str.of_inj.1 (h.symm.trans h')
  · cases h

/-- A time that the message carries does not depend on the clock. -/
theorem stateSeen_of_not_clockDated (h : ¬ ClockDated body) : stateSeen t' body = stateSeen t body := by
  unfold ClockDated at h
  dsimp only at h
  push Not at h
  obtain ⟨honline, hlwt⟩ := h
  unfold stateSeen
  dsimp only
  by_cases ho : ((Json.get body "status").getD (.text "online")).isText "online" = true
  · rw [if_pos ho, if_pos ho]
    obtain ⟨v, hv, htruthy⟩ := honline ho
    have hparse : parseIso8601 t' (Json.get body "timestamp") = parseIso8601 t (Json.get body "timestamp") := by
      unfold parseIso8601
      rw [hv]
      dsimp only
      rw [if_neg htruthy, if_neg htruthy]
    rw [hparse]
  · rw [if_neg ho, if_neg ho]
    by_cases hoff : ((Json.get body "status").getD (.text "online")).isText "offline" = true
    · have hno := hlwt hoff
      rw [if_neg fun h => hno h.2, if_neg fun h => hno h.2]
    · rw [if_neg fun h => hoff h.1, if_neg fun h => hoff h.1]

/-- A message without a time of its own is stamped by the clock. -/
theorem stateSeen_of_clockDated (h : ClockDated body) (ht : Db.timestamptz t = some t) :
    stateSeen t body = some (some t) := by
  unfold stateSeen
  dsimp only
  rcases h with ⟨honline, htime⟩ | ⟨hoff, hlwt⟩
  · rw [if_pos honline]
    have hparse : parseIso8601 t (Json.get body "timestamp") = some t := by
      unfold parseIso8601
      cases hv : Json.get body "timestamp" with
      | none => rfl
      | some v => exact if_pos (htime v hv)
    rw [hparse, Option.bind_some, ht]
    rfl
  · have hne : ¬ ((Json.get body "status").getD (.text "online")).isText "online" = true := by
      intro honline
      have := isText_eq honline hoff
      simp at this
    rw [if_neg hne, if_pos ⟨hoff, hlwt⟩, ht]
    rfl

/-- **The report at another time** differs in the stamp only, if the clock gives it. -/
theorem stateReport_again (ht : Db.timestamptz t = some t) (ht' : Db.timestamptz t' = some t') :
    stateReport t' body = (stateReport t body).map fun r =>
      if ClockDated body then { r with lastSeenAt := some t' } else r := by
  unfold stateReport
  by_cases hdated : ClockDated body
  · rw [stateSeen_of_clockDated hdated ht, stateSeen_of_clockDated hdated ht']
    simp only [if_pos hdated, Option.bind_eq_bind, Option.map_bind, Option.bind_some, Function.comp_def,
      Option.map_some]
  · rw [stateSeen_of_not_clockDated (t := t) hdated]
    simp only [if_neg hdated, Option.map_id']

theorem Gateway.report_report (r : StateReport) (gw : Gateway) : (gw.report r).report r = gw.report r := by
  unfold Gateway.report
  cases r.appVersion <;> cases r.firmwareVersion <;> cases r.configVersion <;> cases r.lastSeenAt <;> rfl

theorem Gateway.report_stamp (r : StateReport) (gw : Gateway) (t : ℤ) :
    (gw.report r).report { r with lastSeenAt := some t } = { gw.report r with lastSeenAt := some t } := by
  unfold Gateway.report
  cases r.appVersion <;> cases r.firmwareVersion <;> cases r.configVersion <;> rfl

end Replay

/-- **Replay.** A state message processed at `t` and directly after that at `t'` leaves the
gateway's row as it was after the first time, with one exception: if the message is dated
by the server's clock, and nothing in it raises, `last_seen_at` is `t'`. -/
theorem replay (store : Store) (gatewayId : UUID) (body : List (Str × Json)) (t t' : ℤ)
    (ht : Db.timestamptz t = some t) (ht' : Db.timestamptz t' = some t') :
    (afterState (afterState store t gatewayId body) t' gatewayId body).gateways.find? gatewayId =
      ((afterState store t gatewayId body).gateways.find? gatewayId).map fun gw =>
        if ClockDated body ∧ (stateReport t body).isSome then { gw with lastSeenAt := some t' } else gw := by
  rw [find?_afterState, find?_afterState, stateReport_again ht ht', Option.map_map, Option.map_map]
  refine Option.map_congr fun gw _ => ?_
  cases hr : stateReport t body with
  | none => simp
  | some r =>
    by_cases hdated : ClockDated body
    · simp only [Function.comp_apply, Option.map_some, if_pos hdated, Option.elim_some, Option.isSome_some,
        and_true]
      exact Gateway.report_stamp r gw t'
    · have hno : ¬ (ClockDated body ∧ (some r).isSome = true) := fun h => hdated h.1
      simp only [Function.comp_apply, Option.map_some, if_neg hdated, if_neg hno, Option.elim_some]
      exact Gateway.report_report r gw

/-! The last will of gateway 7, retained by the broker, and a state message with a time. -/

def lastWill : List (Str × Json) :=
  [(Str.of "gateway_id", .text "GW-001"), (Str.of "status", .text "offline"), (Str.of "reason", .text "lwt")]

def lastSeenAfter (body : List (Str × Json)) (times : List ℤ) : Option (Option ℤ) :=
  ((times.foldl (fun store t => afterState store t 7 body) barn).gateways.find? 7).map (·.lastSeenAt)

/-- **A retained last will**, sent again an hour later, moves `last_seen_at` by the hour. -/
theorem lastWill_restamped :
    lastSeenAfter lastWill [Presence.noon] = some (some Presence.noon) ∧
    lastSeenAfter lastWill [Presence.noon, Presence.noon + 3600000000] =
      some (some (Presence.noon + 3600000000)) := by
  decide +kernel

def onlineState : List (Str × Json) :=
  [(Str.of "status", .text "online"), (Str.of "timestamp", .text "2026-05-04T12:00:00Z")]

/-- A message with a time changes nothing. -/
theorem online_replayed :
    (afterState (afterState barn Presence.noon 7 onlineState) (Presence.noon + 3600000000) 7
      onlineState).gateways.find? 7 = (afterState barn Presence.noon 7 onlineState).gateways.find? 7 := by
  have hdated : ¬ ClockDated onlineState := by decide +kernel
  rw [replay barn 7 onlineState Presence.noon (Presence.noon + 3600000000) (by decide) (by decide)]
  simp [hdated]

end Server
