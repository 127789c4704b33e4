import IotGateway.Db.Table
import IotGateway.Gateway.LocalDb

/-!
# Sensor health

`SetSensorHealth` and its table `sensor_health`. Both of its statements insert the row of a
channel or update it; what a row tells is a function of the channel's own calls.

* `setSensorHealth_find?`: one call, for its channel and for the others.
* `sensorHealth_of_calls`: **after any calls the row of a channel is the summary of the calls
  for it.**
-/

namespace Gateway

/-- A row of `sensor_health`; `none` is NULL. -/
structure HealthRow where
  channelId : String
  lastOkAt : Option String
  lastFailAt : Option String
  consecutiveFails : ℕ
  state : String
deriving DecidableEq, Repr

abbrev HealthTable : Type := Db.Table HealthRow HealthRow.channelId

/-- A call `SetSensorHealth(channelID, ok)`, and what `time.Now().UTC()` gives in it. -/
structure HealthCall where
  channelId : String
  ok : Bool
  now : GoTime
deriving DecidableEq, Repr

namespace HealthRow

/-- `VALUES(?, ?, 0, 'ok')` -/
def insertOk (channelId : String) (now : GoTime) : HealthRow := ⟨channelId, some now.string, none, 0, "ok"⟩

/-- The `DO UPDATE SET` of a success. -/
def updateOk (now : GoTime) (r : HealthRow) : HealthRow :=
  { r with lastOkAt := some now.string, consecutiveFails := 0, state := "ok" }

/-- `VALUES(?, ?, 1, 'degraded')` -/
def insertFail (channelId : String) (now : GoTime) : HealthRow :=
  ⟨channelId, none, some now.string, 1, "degraded"⟩

/-- The `DO UPDATE SET` of a failure. -/
def updateFail (now : GoTime) (r : HealthRow) : HealthRow :=
  { r with
    lastFailAt := some now.string
    consecutiveFails := r.consecutiveFails + 1
    state := if 5 ≤ r.consecutiveFails + 1 then "failed" else "degraded" }

theorem updateOk_channelId (now : GoTime) (r : HealthRow) : (r.updateOk now).channelId = r.channelId := rfl

theorem updateFail_channelId (now : GoTime) (r : HealthRow) :
    (r.updateFail now).channelId = r.channelId := rfl

end HealthRow

open HealthRow

/-- `SetSensorHealth` -/
def setSensorHealth (t : HealthTable) (c : HealthCall) : HealthTable :=
  if c.ok then t.upsert (insertOk c.channelId c.now) (updateOk c.now) (updateOk_channelId c.now)
  else t.upsert (insertFail c.channelId c.now) (updateFail c.now) (updateFail_channelId c.now)

/-! ### What a row should tell -/

/-- The failures after the last success. -/
def trailingFails (calls : List HealthCall) : ℕ := (calls.reverse.takeWhile (!·.ok)).length

/-- The time of the last call with that outcome. -/
def lastAt (ok : Bool) (calls : List HealthCall) : Option String :=
  ((calls.filter (·.ok = ok)).getLast?).map (·.now.string)

def healthState (fails : ℕ) : String :=
  if fails = 0 then "ok" else if fails < 5 then "degraded" else "failed"

/-- The row for the calls of a channel; without calls there is none. -/
def summary (channelId : String) (calls : List HealthCall) : Option HealthRow :=
  if calls = [] then none
  else some ⟨channelId, lastAt true calls, lastAt false calls, trailingFails calls,
    healthState (trailingFails calls)⟩

section Calls

variable {calls : List HealthCall} {c : HealthCall} {channelId : String} {t : HealthTable}

theorem trailingFails_ok (h : c.ok = true) : trailingFails (calls ++ [c]) = 0 := by
  simp [trailingFails, h]

theorem trailingFails_fail (h : c.ok = false) : trailingFails (calls ++ [c]) = trailingFails calls + 1 := by
  simp [trailingFails, h]

theorem lastAt_same {ok : Bool} (h : c.ok = ok) : lastAt ok (calls ++ [c]) = some c.now.string := by
  simp [lastAt, List.filter_append, h]

theorem lastAt_other {ok : Bool} (h : c.ok ≠ ok) : lastAt ok (calls ++ [c]) = lastAt ok calls := by
  simp [lastAt, List.filter_append, h]

/-- One more call: the row is made, or updated. -/
theorem summary_append_ok (h : c.ok = true) : summary channelId (calls ++ [c]) =
    some ((summary channelId calls).elim (insertOk channelId c.now) (updateOk c.now)) := by
  have hno : c.ok ≠ false := by rw [h]; decide
  rw [summary, if_neg (by simp), trailingFails_ok h, lastAt_same h, lastAt_other hno]
  by_cases hnil : calls = []
  · rw [summary, if_pos hnil, hnil]
    rfl
  · rw [summary, if_neg hnil]
    rfl

theorem summary_append_fail (h : c.ok = false) : summary channelId (calls ++ [c]) =
    some ((summary channelId calls).elim (insertFail channelId c.now) (updateFail c.now)) := by
  have hno : c.ok ≠ true := by rw [h]; decide
  rw [summary, if_neg (by simp), trailingFails_fail h, lastAt_same h, lastAt_other hno]
  by_cases hnil : calls = []
  · rw [summary, if_pos hnil, hnil]
    rfl
  · have hstate : healthState (trailingFails calls + 1) =
        if 5 ≤ trailingFails calls + 1 then "failed" else "degraded" := by
      rw [healthState, if_neg (Nat.succ_ne_zero _)]
      by_cases hfive : 5 ≤ trailingFails calls + 1
      · rw [if_neg (Nat.not_lt.mpr hfive), if_pos hfive]
      · rw [if_pos (Nat.not_le.mp hfive), if_neg hfive]
    rw [summary, if_neg hnil, hstate]
    rfl

/-- **One call** makes or updates the row of its channel, and no other. -/
theorem setSensorHealth_find? : (setSensorHealth t c).find? channelId =
    if c.channelId = channelId then
      some (if c.ok then (t.find? channelId).elim (insertOk channelId c.now) (updateOk c.now)
        else (t.find? channelId).elim (insertFail channelId c.now) (updateFail c.now))
    else t.find? channelId := by
  unfold setSensorHealth
  by_cases hc : c.channelId = channelId
  · subst hc
    rw [if_pos rfl]
    split_ifs
    · rw [Db.Table.find?_upsert]
      exact if_pos rfl
    · rw [Db.Table.find?_upsert]
      exact if_pos rfl
  · rw [if_neg hc]
    split_ifs
    · rw [Db.Table.find?_upsert]
      exact if_neg hc
    · rw [Db.Table.find?_upsert]
      exact if_neg hc

/-- After any calls on a table that was empty. -/
theorem foldl_setSensorHealth (calls : List HealthCall) (channelId : String) :
    (calls.foldl setSensorHealth Db.Table.empty).find? channelId =
      summary channelId (calls.filter (·.channelId = channelId)) := by
  induction calls using List.reverseRecOn with
  | nil => rfl
  | append_singleton calls c ih =>
    rw [List.foldl_append, List.foldl_cons, List.foldl_nil, setSensorHealth_find?, ih,
      List.filter_append]
    by_cases hc : c.channelId = channelId
    · have hsel : [c].filter (·.channelId = channelId) = [c] := by simp [hc]
      rw [if_pos hc, hsel]
      cases hok : c.ok with
      | true => rw [summary_append_ok hok, if_pos rfl]
      | false => rw [summary_append_fail hok, if_neg (by decide)]
    · have hsel : [c].filter (·.channelId = channelId) = [] := by simp [hc]
      rw [if_neg hc, hsel, List.append_nil]

/-- **Sensor health** after any calls, on a table that was empty: a channel that was named has
one row, which tells its last success, its last failure and the failures since the success; a
channel that was not has none. Calls for other channels do not matter. -/
theorem sensorHealth_of_calls (calls : List HealthCall) (channelId : String) :
    let own := calls.filter (·.channelId = channelId)
    ∀ r, r ∈ (calls.foldl setSensorHealth Db.Table.empty).rows ∧ r.channelId = channelId ↔
      own ≠ [] ∧ r = ⟨channelId, lastAt true own, lastAt false own, trailingFails own,
        healthState (trailingFails own)⟩ := by
  intro own r
  rw [← Db.Table.find?_eq_some, foldl_setSensorHealth, summary]
  split_ifs with hnil
  · exact iff_of_false (by simp) fun h => h.1 hnil
  · rw [Option.some.injEq, eq_comm, and_iff_right hnil]

end Calls

end Gateway
