import IotGateway.Lts.Run
import IotGateway.Server.Permissions

/-!
# A command's row, written by three processes

`issue_command` commits the row as pending, publishes the request and commits the status
published. `command_response.handle` reads the row of each response and commits the
columns it changed; `command_timeout.run` updates the row if it is overdue. The commits
are the atomic steps, in any order the processes allow.

`answer_kept_iff`: **with responses of a final status, the published commit and the
timeouts leave an answered command alone exactly when the published commit comes before
the first answer.** A gateway that answers faster turns an executed command back into
published, and then into timeout (`executed_then_timeout`).
-/

namespace Server

open Lts Python

/-! ## The three writers -/

/-- What the routes of commands read: their tables and settings. -/
structure Api extends Access where
  actuators : Db.Table ActuatorChannel (·.id)
  defaultExpiresSec : ℤ

inductive Action where
  | ON
  | OFF
deriving DecidableEq, Repr

def Action.text : Action → String
  | .ON => "ON"
  | .OFF => "OFF"

structure CommandIn where
  actuatorChannelId : UUID
  action : Action
  expiresInSec : ℤ
  timeoutMs : ℤ
  requireAck : Bool
  reason : Option Str

/-- The payload on `gw/{serial}/command/request`, the fields that the gateway reads. -/
structure Request where
  commandId : String
  gatewayId : String
  actuatorChannelId : String
  action : String
  expiresAt : String
  requireAck : Bool
deriving DecidableEq, Repr

/-- `cmd-%Y%m%d-%H%M%S-%f` and eight hexadecimal digits of a random UUID. -/
def commandId (now : ℤ) (hex : String) : String :=
  let (y, m, d) := Calendar.ofDays (now / 86400000000)
  let sod := (now % 86400000000 / 1000000).toNat
  let stamp := Calendar.showDigits 4 y.toNat ++ Calendar.showDigits 2 m.toNat ++
    Calendar.showDigits 2 d.toNat ++ '-' :: Calendar.showDigits 2 (sod / 3600) ++
    Calendar.showDigits 2 (sod / 60 % 60) ++ Calendar.showDigits 2 (sod % 60) ++
    '-' :: Calendar.showDigits 6 (now % 1000000).toNat
  "cmd-" ++ String.ofList stamp ++ "-" ++ hex

/-- `issue_command`, up to its first commit: the row, and the request to publish. -/
def issueCommand (api : Api) (userId gatewayId : UUID) (now : ℤ) (hex : String) (body : CommandIn) :
    Except Failure (Command × Request) := do
  let gw ← checkPerm api.toAccess userId gatewayId "control"
  match api.actuators.find? body.actuatorChannelId with
  | none => .error (.http 404 "actuator_channel not found in gateway")
  | some actuator =>
    if actuator.gatewayId ≠ gatewayId then
      .error (.http 404 "actuator_channel not found in gateway")
    else
      let sec := if body.expiresInSec = 0 then api.defaultExpiresSec else body.expiresInSec
      match Db.timestamptz (now + sec * 1000000), Db.integer body.timeoutMs, body.reason.mapM Db.text with
      | some expiresAt, some _, some _ =>
        .ok (⟨commandId now hex, gatewayId, "pending", expiresAt, none⟩,
          ⟨commandId now hex, gw.serialNumber, actuator.slug, body.action.text, isoformat expiresAt,
            body.requireAck⟩)
      | _, _, _ => .error .dataError

/-- The columns a handler's commit writes: those it changed from what it read. -/
structure Changes where
  status : Option String
  completedAt : Option ℤ
deriving DecidableEq, Repr

/-- `UPDATE commands SET … WHERE id = …` -/
def Command.apply (cmd : Command) (c : Changes) : Command :=
  { cmd with
    status := c.status.getD cmd.status
    completedAt := c.completedAt.or cmd.completedAt }

/-- The new status, if `cmd.status = v` changes it. -/
def newStatus (cmd : Command) (v : Json) : Option (Option String) :=
  match v with
  | .str s => if s = Str.of cmd.status then some none else (Db.varchar 32 s).map some
  | _ => none

/-- The new completion time, if `cmd.completed_at = t` changes it. -/
def newCompletedAt (cmd : Command) (t : ℤ) : Option (Option ℤ) :=
  if cmd.completedAt = some t then some none else (Db.timestamptz t).map some

/-- What `handle` commits once it has found the row `cmd`; `none` is an exception. The
column `response`, which nothing reads back, gets the body. -/
def responseChanges (cmd : Command) (now : ℤ) (body : List (Str × Json)) : Option Changes := do
  let status ← newStatus cmd ((Json.get body "status").getD (.text "executed"))
  let t ← parseIso8601 now (Json.get body "executed_at")
  let completedAt ← newCompletedAt cmd t
  if Db.jsonb (.obj body) then some ⟨status, completedAt⟩ else none

/-- The value that `session.get(Command, …)` looks for: a list, or a dict by the name of the column,
of one primary key stands for its value. `none` is an exception. -/
def primaryKey : Json → Option Json
  | .arr [v] => some v
  | .arr _ => none
  | .obj [(key, v)] => if key = Str.of "id" then some v else none
  | .obj _ => none
  | v => some v

/-- The id of the row that `handle` gets; `none` is an exception, `some none` an early return. -/
def namedId (body : List (Str × Json)) : Option (Option Str) :=
  match Json.get body "command_id" with
  | none => some none
  | some cmdId =>
    if cmdId.truthy = false then some none
    else match primaryKey cmdId with
    | some (.str s) => some (some s)
    | some .null => some none  -- no row has that id
    | _ => none

/-- `command_response.handle`, from the row `cmd` it read: an exception, an early return, or
the changes it commits. -/
def commandResponse (cmd : Command) (gatewayId : UUID) (now : ℤ) (body : List (Str × Json)) :
    Option (Option Changes) :=
  match namedId body with
  | none => none
  | some none => some none
  | some (some s) =>
    -- any other id is another command's, or unknown
    if s ≠ Str.of cmd.id ∨ cmd.gatewayId ≠ gatewayId then some none
    else (responseChanges cmd now body).map some

/-- `command_timeout.run`, on one row. -/
def commandTimeout (now : ℤ) (cmd : Command) : Command :=
  if cmd.status ∈ ["pending", "published"] ∧ cmd.expiresAt < now then
    { cmd with status := "timeout", completedAt := some now }
  else cmd

/-! ## Their steps -/

/-- Where `issue_command` is. -/
inductive Phase where
  | start
  | pending
  | published
  | done
deriving DecidableEq, Repr

/-- One command: its row and request, the changes of the handlers that have read the row
and not committed, and whether a handler has committed a final status. -/
structure Issue where
  phase : Phase
  row : Option Command
  request : Option Request
  handlers : List Changes
  answered : Bool

def Issue.init : Issue := ⟨.start, none, none, [], false⟩

inductive IssueEvent where
  /-- `issue_command` commits the row as pending -/
  | commitPending (now : ℤ) (hex : String) (body : CommandIn)
  | publish
  /-- the publish raises, before or after the broker has the message -/
  | publishFailed
  /-- `issue_command` commits the status published -/
  | commitPublished
  /-- a handler gets a response and reads the row -/
  | read (gatewayId : UUID) (now : ℤ) (body : List (Str × Json))
  /-- handler `i` commits -/
  | commit (i : ℕ)
  /-- a run of `command_timeout` -/
  | timeout (now : ℤ)

/-- The statuses of a gateway's answer. -/
def finalStatuses : List String := ["executed", "rejected", "failed"]

def FinalStatus (body : List (Str × Json)) : Prop :=
  match (Json.get body "status").getD (.text "executed") with
  | .str s => ∃ st ∈ finalStatuses, s = Str.of st
  | _ => False

instance (body : List (Str × Json)) : Decidable (FinalStatus body) := by
  unfold FinalStatus
  split <;> infer_instance

namespace Issue

def step (api : Api) (userId gatewayId : UUID) (s : Issue) : IssueEvent → Option Issue
  | .commitPending now hex body =>
    if s.phase = .start then
      match issueCommand api userId gatewayId now hex body with
      | .ok (cmd, request) => some { s with phase := .pending, row := some cmd, request := some request }
      | .error _ => none
    else none
  | .publish => if s.phase = .pending then some { s with phase := .published } else none
  | .publishFailed =>
    if s.phase = .pending ∨ s.phase = .published then some { s with phase := .done } else none
  | .commitPublished =>
    if s.phase = .published then
      some { s with phase := .done, row := s.row.map (·.apply ⟨some "published", none⟩) }
    else none
  | .read gw now body =>
    match s.row.bind (commandResponse · gw now body) with
    | some (some c) => some { s with handlers := s.handlers ++ [c] }
    | _ => some s
  | .commit i =>
    match s.handlers[i]?, s.row with
    | some c, some cmd =>
      let cmd' := cmd.apply c
      some { s with
        row := some cmd'
        handlers := s.handlers.eraseIdx i
        answered := s.answered || cmd'.status ∈ finalStatuses }
    | _, _ => none
  | .timeout now => some { s with row := s.row.map (commandTimeout now) }

/-- The published commit and the timeouts leave status and completion of an answered
command alone. -/
def AnswerKept (s : Issue) (e : IssueEvent) (s' : Issue) : Prop :=
  match e with
  | .commitPublished | .timeout _ => s.answered = true →
      s'.row.map (fun cmd => (cmd.status, cmd.completedAt)) =
        s.row.map fun cmd => (cmd.status, cmd.completedAt)
  | _ => True

/-- The published commit finds the command unanswered. -/
def PublishedFirst (s : Issue) (e : IssueEvent) (_ : Issue) : Prop :=
  match e with
  | .commitPublished => s.answered = false
  | _ => True

/-- The response has a final status, or none and so the default. -/
def FinalBody (_ : Issue) (e : IssueEvent) (_ : Issue) : Prop :=
  match e with
  | .read _ _ body => FinalStatus body
  | _ => True

instance (s : Issue) (e : IssueEvent) (s' : Issue) : Decidable (AnswerKept s e s') := by
  unfold AnswerKept
  cases e <;> infer_instance

instance (s : Issue) (e : IssueEvent) (s' : Issue) : Decidable (PublishedFirst s e s') := by
  unfold PublishedFirst
  cases e <;> infer_instance

instance (s : Issue) (e : IssueEvent) (s' : Issue) : Decidable (FinalBody s e s') := by
  unfold FinalBody
  cases e <;> infer_instance

variable {api : Api} {userId gatewayId : UUID} {s s' : Issue} {cmd : Command}

/-- **What each step does.** -/
theorem step_cases {e : IssueEvent} (h : step api userId gatewayId s e = some s') :
    match e with
    | .commitPending now hex body => s.phase = .start ∧ ∃ cmd request,
        issueCommand api userId gatewayId now hex body = .ok (cmd, request) ∧
        s' = { s with phase := .pending, row := some cmd, request := some request }
    | .publish => s' = { s with phase := .published }
    | .publishFailed => s' = { s with phase := .done }
    | .commitPublished =>
        s' = { s with phase := .done, row := s.row.map (·.apply ⟨some "published", none⟩) }
    | .read gw now body => s' = s ∨ ∃ cmd c, s.row = some cmd ∧
        commandResponse cmd gw now body = some (some c) ∧ s' = { s with handlers := s.handlers ++ [c] }
    | .commit i => ∃ c ∈ s.handlers, ∃ cmd, s.row = some cmd ∧
        s' = { s with
          row := some (cmd.apply c)
          handlers := s.handlers.eraseIdx i
          answered := s.answered || (cmd.apply c).status ∈ finalStatuses }
    | .timeout now => s' = { s with row := s.row.map (commandTimeout now) } := by
  cases e with
  | commitPending now hex body =>
    simp only [step] at h
    split_ifs at h with hstart
    split at h
    · rename_i cmd request hissue
      exact ⟨hstart, cmd, request, hissue, (Option.some.inj h).symm⟩
    · cases h
  | publish =>
    simp only [step] at h
    split_ifs at h
    exact (Option.some.inj h).symm
  | publishFailed =>
    simp only [step] at h
    split_ifs at h
    exact (Option.some.inj h).symm
  | commitPublished =>
    simp only [step] at h
    split_ifs at h
    exact (Option.some.inj h).symm
  | read gw now body =>
    simp only [step] at h
    split at h
    · rename_i c hc
      obtain ⟨cmd, hrow, hresp⟩ := Option.bind_eq_some_iff.1 hc
      exact Or.inr ⟨cmd, c, hrow, hresp, (Option.some.inj h).symm⟩
    · exact Or.inl (Option.some.inj h).symm
  | commit i =>
    simp only [step] at h
    split at h
    · rename_i c cmd hget hrow
      exact ⟨c, List.mem_of_getElem? hget, cmd, hrow, (Option.some.inj h).symm⟩
    · cases h
  | timeout now => exact (Option.some.inj h).symm

/-! ## Answers are kept -/

/-- A status that fits its column is written if it is another one. -/
theorem newStatus_text {st : String} (hfit : Db.varchar 32 (Str.of st) = some st) :
    newStatus cmd (.text st) = some (if st = cmd.status then none else some st) := by
  unfold newStatus Json.text
  simp only [Str.of_inj, hfit, Option.map_some]
  split_ifs <;> rfl

theorem finalStatuses_fit {st : String} (hst : st ∈ finalStatuses) : Db.varchar 32 (Str.of st) = some st := by
  fin_cases hst <;> decide +kernel

/-- **What a handler commits**: the response's status and time, as far as they are new. -/
theorem commandResponse_cases {gw : UUID} {now : ℤ} {body : List (Str × Json)} {c : Changes}
    (h : commandResponse cmd gw now body = some (some c)) :
    newStatus cmd ((Json.get body "status").getD (.text "executed")) = some c.status ∧
      ∃ t, parseIso8601 now (Json.get body "executed_at") = some t ∧
        newCompletedAt cmd t = some c.completedAt := by
  have hchanges : responseChanges cmd now body = some c := by
    unfold commandResponse at h
    split at h
    · cases h
    · cases h
    · split_ifs at h
      · cases h
      · simpa using h
  unfold responseChanges at hchanges
  simp only [Option.bind_eq_bind, Option.bind_eq_some_iff] at hchanges
  obtain ⟨status, hstatus, t, ht, completedAt, hcompleted, hc⟩ := hchanges
  split_ifs at hc
  cases hc
  exact ⟨hstatus, t, ht, hcompleted⟩

/-- **A handler's changes**: with a response of a final status, the row gets one, or has
it already. -/
theorem commandResponse_final {gw : UUID} {now : ℤ} {body : List (Str × Json)} {c : Changes}
    (hbody : FinalStatus body) (h : commandResponse cmd gw now body = some (some c)) :
    ∃ st ∈ finalStatuses, (Json.get body "status").getD (.text "executed") = .text st ∧
      c.status = if st = cmd.status then none else some st := by
  obtain ⟨st, hst, hv⟩ : ∃ st ∈ finalStatuses,
      (Json.get body "status").getD (.text "executed") = .text st := by
    unfold FinalStatus at hbody
    split at hbody
    · rename_i s hs
      obtain ⟨st, hst, rfl⟩ := hbody
      exact ⟨st, hst, hs⟩
    · exact hbody.elim
  refine ⟨st, hst, hv, ?_⟩
  obtain ⟨hstatus, -⟩ := commandResponse_cases h
  rw [hv, newStatus_text (finalStatuses_fit hst)] at hstatus
  exact (Option.some.inj hstatus).symm

/-- Along a run with responses of final statuses and the published commit first. -/
structure Inv (s : Issue) : Prop where
  start : s.phase = .start → s.row = none
  row_answered : ∀ cmd, s.row = some cmd → cmd.status ∈ finalStatuses → s.answered = true
  handlers : ∀ c ∈ s.handlers, (∃ st ∈ finalStatuses, c.status = some st) ∨
    c.status = none ∧ s.answered = true
  answered_row : s.answered = true → ∃ cmd, s.row = some cmd ∧ cmd.status ∈ finalStatuses

theorem inv_init : Inv init :=
  ⟨fun _ => rfl, fun _ h _ => (by cases h), fun _ h => (by cases h), fun h => (by cases h)⟩

/-- **What is issued**: a pending row, and the request for it. -/
theorem issueCommand_eq_ok {now : ℤ} {hex : String} {body : CommandIn} {request : Request}
    (h : issueCommand api userId gatewayId now hex body = .ok (cmd, request)) :
    ∃ gw actuator expiresAt, checkPerm api.toAccess userId gatewayId "control" = .ok gw ∧
      api.actuators.find? body.actuatorChannelId = some actuator ∧ actuator.gatewayId = gatewayId ∧
      Db.timestamptz (now + (if body.expiresInSec = 0 then api.defaultExpiresSec else body.expiresInSec) *
        1000000) = some expiresAt ∧
      cmd = ⟨commandId now hex, gatewayId, "pending", expiresAt, none⟩ ∧
      request = ⟨commandId now hex, gw.serialNumber, actuator.slug, body.action.text, isoformat expiresAt,
        body.requireAck⟩ := by
  unfold issueCommand at h
  cases hp : checkPerm api.toAccess userId gatewayId "control" with
  | error e => rw [hp] at h; cases h
  | ok gw =>
    rw [hp] at h
    simp only [bind, Except.bind] at h
    split at h
    · cases h
    rename_i actuator hactuator
    by_cases hgateway : actuator.gatewayId = gatewayId
    swap
    · rw [if_pos hgateway] at h
      cases h
    rw [if_neg (not_not.2 hgateway)] at h
    -- the three values that a column takes
    split at h
    · rename_i expiresAt _ _ hexpires _ _
      cases h
      exact ⟨gw, actuator, expiresAt, rfl, hactuator, hgateway, hexpires, rfl, rfl⟩
    · cases h

theorem issueCommand_status {now : ℤ} {hex : String} {body : CommandIn} {request : Request}
    (h : issueCommand api userId gatewayId now hex body = .ok (cmd, request)) :
    cmd.status = "pending" ∧ cmd.gatewayId = gatewayId ∧ cmd.id = commandId now hex ∧
      request.commandId = cmd.id ∧ request.requireAck = body.requireAck := by
  obtain ⟨gw, actuator, expiresAt, -, -, -, -, rfl, rfl⟩ := issueCommand_eq_ok h
  exact ⟨rfl, rfl, rfl, rfl, rfl⟩

theorem issueCommand_pending {now : ℤ} {hex : String} {body : CommandIn} {request : Request}
    (h : issueCommand api userId gatewayId now hex body = .ok (cmd, request)) :
    cmd.status = "pending" ∧ cmd.completedAt = none := by
  obtain ⟨gw, actuator, expiresAt, -, -, -, -, rfl, -⟩ := issueCommand_eq_ok h
  exact ⟨rfl, rfl⟩

theorem commandId_ne_empty (now : ℤ) (hex : String) : commandId now hex ≠ "" := by
  intro h
  have hlen := congrArg (fun t => t.toList.length) h
  simp [commandId] at hlen

theorem commandTimeout_final {now : ℤ} (h : cmd.status ∈ finalStatuses) :
    commandTimeout now cmd = cmd := by
  unfold commandTimeout
  rw [if_neg]
  rintro ⟨hst, -⟩
  unfold finalStatuses at h
  simp only [List.mem_cons, List.not_mem_nil, or_false] at h hst
  rcases hst with hst | hst <;> rw [hst] at h <;> simp at h

theorem commandTimeout_status {now : ℤ} (h : (commandTimeout now cmd).status ∈ finalStatuses) :
    cmd.status ∈ finalStatuses := by
  unfold commandTimeout at h
  split_ifs at h with hdue
  · simp [finalStatuses] at h
  · exact h

/-- A commit of a handler leaves a final status. -/
theorem apply_final (hs : Inv s) {c : Changes} (hc : c ∈ s.handlers) (hrow : s.row = some cmd) :
    (cmd.apply c).status ∈ finalStatuses := by
  rcases hs.handlers c hc with ⟨st, hst, hcst⟩ | ⟨hcst, ha⟩
  · simp only [Command.apply, hcst]
    exact hst
  · obtain ⟨cmd', hrow', hst⟩ := hs.answered_row ha
    rw [hrow] at hrow'
    cases hrow'
    simp only [Command.apply, hcst]
    exact hst

theorem inv_step (hs : Inv s) {e : IssueEvent} (h : step api userId gatewayId s e = some s')
    (hbody : FinalBody s e s') (hfirst : PublishedFirst s e s') : Inv s' := by
  cases e with
  | commitPending now hex body =>
    obtain ⟨hstart, cmd, request, hissue, rfl⟩ := step_cases h
    have hrow := hs.start hstart
    have hno : s.answered ≠ true := by
      intro ha
      obtain ⟨c, hc, -⟩ := hs.answered_row ha
      rw [hrow] at hc
      cases hc
    refine ⟨nofun, ?_, hs.handlers, fun ha => absurd ha hno⟩
    rintro c hc hst
    cases hc
    rw [(issueCommand_status hissue).1] at hst
    exact absurd hst (by decide)
  | publish =>
    cases step_cases h
    exact ⟨nofun, hs.row_answered, hs.handlers, hs.answered_row⟩
  | publishFailed =>
    cases step_cases h
    exact ⟨nofun, hs.row_answered, hs.handlers, hs.answered_row⟩
  | commitPublished =>
    cases step_cases h
    have hno : s.answered = false := hfirst
    refine ⟨nofun, ?_, hs.handlers, fun ha => absurd ha (by simp [hno])⟩
    intro cmd hc hst
    obtain ⟨c, -, rfl⟩ := Option.map_eq_some_iff.1 hc
    exact absurd hst (by simp [Command.apply, finalStatuses])
  | read gw now body =>
    rcases step_cases h with rfl | ⟨cmd, c, hrow, hresp, rfl⟩
    · exact hs
    · obtain ⟨st, hst, -, hcst⟩ := commandResponse_final hbody hresp
      refine ⟨hs.start, hs.row_answered, ?_, hs.answered_row⟩
      intro c' hc'
      rcases List.mem_append.1 hc' with hc' | hc'
      · exact hs.handlers c' hc'
      · rw [List.mem_singleton] at hc'
        subst hc'
        -- a status the row has already is not written again
        by_cases hsame : st = cmd.status
        · rw [if_pos hsame] at hcst
          exact Or.inr ⟨hcst, hs.row_answered cmd hrow (hsame ▸ hst)⟩
        · rw [if_neg hsame] at hcst
          exact Or.inl ⟨st, hst, hcst⟩
  | commit i =>
    obtain ⟨c, hmem, cmd, hrow, rfl⟩ := step_cases h
    have hfinal := apply_final hs hmem hrow
    refine ⟨?_, fun _ _ _ => by simp [hfinal], ?_, fun _ => ⟨_, rfl, hfinal⟩⟩
    · intro hp
      rw [hs.start hp] at hrow
      cases hrow
    · intro c' hc'
      rcases hs.handlers c' (List.mem_of_mem_eraseIdx hc') with hst | ⟨hcst, -⟩
      · exact Or.inl hst
      · exact Or.inr ⟨hcst, by simp [hfinal]⟩
  | timeout now =>
    cases step_cases h
    refine ⟨fun hp => by simp [hs.start hp], ?_, hs.handlers, ?_⟩
    · intro cmd hc hst
      obtain ⟨c, hrow, rfl⟩ := Option.map_eq_some_iff.1 hc
      exact hs.row_answered c hrow (commandTimeout_status hst)
    · intro ha
      obtain ⟨cmd, hrow, hst⟩ := hs.answered_row ha
      exact ⟨cmd, by simp [hrow, commandTimeout_final hst], hst⟩

/-- **One step** keeps the answer exactly when it is no published commit after it. -/
theorem step_answerKept (hs : Inv s) {e : IssueEvent} (h : step api userId gatewayId s e = some s') :
    AnswerKept s e s' ↔ PublishedFirst s e s' := by
  cases e with
  | commitPublished =>
    cases step_cases h
    unfold AnswerKept PublishedFirst
    constructor
    · intro hkept
      by_contra hno
      have ha : s.answered = true := by simpa using hno
      obtain ⟨cmd, hrow, hst⟩ := hs.answered_row ha
      have := hkept ha
      simp only [hrow, Option.map_some, Command.apply, Option.getD_some, Option.some.injEq,
        Prod.mk.injEq] at this
      rw [← this.1] at hst
      exact absurd hst (by decide)
    · intro hno ha
      rw [hno] at ha
      cases ha
  | timeout now =>
    cases step_cases h
    refine iff_of_true ?_ trivial
    intro ha
    obtain ⟨cmd, hrow, hst⟩ := hs.answered_row ha
    simp only [hrow, Option.map_some, commandTimeout_final hst]
  | commitPending now hex body => exact Iff.rfl
  | publish => exact Iff.rfl
  | publishFailed => exact Iff.rfl
  | read gw now body => exact Iff.rfl
  | commit i => exact Iff.rfl

/-- **An answered command.** In a run whose responses all have a final status, the
published commit and the timeouts after a committed answer leave the command's status and
completion alone if and only if the published commit comes before the first answer. -/
theorem answer_kept_iff (api : Api) (userId gatewayId : UUID) (es : List IssueEvent)
    (hbodies : Along (step api userId gatewayId) FinalBody init es) :
    Along (step api userId gatewayId) AnswerKept init es ↔
      Along (step api userId gatewayId) PublishedFirst init es := by
  refine along_iff_along ?_ ?_ inv_init hbodies
  · intro s e s' hs h hbody hfirst
    exact inv_step hs h hbody hfirst
  · intro s e s' hs h _
    exact step_answerKept hs h

/-! User 1 switches actuator 5 of gateway 7 ON; the gateway answers before the second
commit of `issue_command`. -/

def ventApi : Api where
  toAccess := ownerAccess
  actuators := ⟨[⟨5, 7, "relay-vent"⟩], by simp⟩
  defaultExpiresSec := 5

/-- 2026-05-04T12:00:00Z -/
def noon : ℤ := 1777896000000000

def ventOn : CommandIn := ⟨5, .ON, 5, 3000, true, none⟩

def executedBody : List (Str × Json) :=
  [(Str.of "command_id", .text (commandId noon "0a1b2c3d")), (Str.of "status", .text "executed"),
    (Str.of "executed_at", .text "2026-05-04T12:00:00.2Z")]

def fastAnswer : List IssueEvent :=
  [.commitPending noon "0a1b2c3d" ventOn, .publish, .read 7 (noon + 300000) executedBody, .commit 0,
    .commitPublished, .timeout (noon + 6000000)]

/-- Whether an answer was committed, with the status and the completion of the row. -/
def outcome (s : Issue) : Bool × Option (String × Option ℤ) :=
  (s.answered, s.row.map fun cmd => (cmd.status, cmd.completedAt))

/-- **Executed, then published, then timeout**: the commits after the answer change it. -/
theorem executed_then_timeout :
    (run (step ventApi 1 7) init (fastAnswer.take 4)).map outcome =
      some (true, some ("executed", some (noon + 200000))) ∧
    (run (step ventApi 1 7) init fastAnswer).map outcome =
      some (true, some ("timeout", some (noon + 6000000))) ∧
    ¬ Along (step ventApi 1 7) AnswerKept init fastAnswer := by
  decide +kernel

/-- The published commit before the answer: the timeouts leave the row executed. -/
theorem slowAnswer_kept :
    Along (step ventApi 1 7) AnswerKept init
      [.commitPending noon "0a1b2c3d" ventOn, .publish, .commitPublished,
        .read 7 (noon + 300000) executedBody, .commit 0, .timeout (noon + 6000000)] := by
  refine (answer_kept_iff ventApi 1 7 _ ?_).2 (by decide +kernel)
  decide +kernel

end Issue

end Server
