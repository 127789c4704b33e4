import IotGateway.Gateway.Plant
import IotGateway.Server.Commands

/-!
# One command between the server and its gateway

The server's row (`Server.Issue`), the gateway's `execute` and the broker between them,
which delivers every request and every response at least once and in any order. The two
clocks are one, in nanoseconds; the server counts microseconds.

`agreed_of_acked`: **if the command asks for an answer, and the published commit comes
before the first one, the row and the gateway agree whenever nothing is left to do**: an
executed command has not timed out, and a row that says executed is true.
Without `require_ack` an executed command times out (`unacked_timeout`); with it, so does
one answered too fast (`fast_timeout`).
-/

namespace Protocol

open Lts Python Server

/-- The request as the gateway decodes it. -/
def decode (r : Request) : Gateway.CommandRequest :=
  ⟨r.commandId, r.gatewayId, r.actuatorChannelId, r.action, r.expiresAt, r.requireAck⟩

/-- The response as the worker decodes it. -/
def responseBody (r : Gateway.CommandResponse) : List (Str × Json) :=
  [(Str.of "command_id", .text r.commandID), (Str.of "gateway_id", .text r.gatewayID),
    (Str.of "status", .text r.status), (Str.of "reason", .text r.reason),
    (Str.of "result", .text r.result), (Str.of "executed_at", .text r.executedAt),
    (Str.of "local_safety_check", .text r.localSafetyCheck)]

/-- The parties and the messages in flight; `executed` records that `execute` has
returned "executed" for the command. -/
structure State where
  now : ℤ
  server : Issue
  requests : List Gateway.CommandRequest
  responses : List Gateway.CommandResponse
  gateway : Gateway.Manager
  executed : Bool

inductive Event where
  | tick (d : ℕ)
  | commitPending (hex : String) (body : CommandIn)
  | publish
  | commitPublished
  /-- the broker delivers request `i`, `again` if it will once more, and the gateway
  handles it; `gpioSet` is its HAL -/
  | request (i : ℕ) (again : Bool) (gpioSet : ℤ → ℤ → Except Hal.Err Unit)
  /-- other commands and timers leave the gateway's manager as `mgr` -/
  | other (mgr : Gateway.Manager)
  /-- the broker delivers response `i`, and a handler reads the row -/
  | response (i : ℕ) (again : Bool)
  /-- handler `i` commits -/
  | commit (i : ℕ)
  | timeout

/-- What is in flight after message `i` was delivered. -/
def deliver {α : Type} (msgs : List α) (i : ℕ) (again : Bool) : List α :=
  if again then msgs else msgs.eraseIdx i

/-- The messages of the command travel under the topics of gateway `gatewayId`, which the
worker looks up by its serial number. -/
def step (api : Api) (userId gatewayId : UUID) (s : State) (e : Event) : Option State :=
  let issue (e : IssueEvent) := s.server.step api userId gatewayId e
  match e with
  | .tick d => some { s with now := s.now + d }
  | .commitPending hex body =>
    (issue (.commitPending (s.now / 1000) hex body)).map fun server => { s with server }
  | .publish =>
    (issue .publish).map fun server =>
      { s with server, requests := s.requests ++ (server.request.map decode).toList }
  | .commitPublished => (issue .commitPublished).map fun server => { s with server }
  | .request i again gpioSet =>
    match s.requests[i]? with
    | none => none
    | some req =>
      let (answer, gateway, _) := Gateway.handleCommand s.gateway s.now gpioSet (some req)
      let (resp, _, _) := Gateway.execute s.gateway s.now gpioSet req
      some { s with
        requests := deliver s.requests i again
        responses := s.responses ++ answer.toList
        gateway
        executed := s.executed || resp.status = "executed" }
  | .other mgr => some { s with gateway := mgr }
  | .response i again =>
    match s.responses[i]?, s.server.row with
    | some r, some cmd =>
      -- no step fails: the handler does not raise
      if (commandResponse cmd gatewayId (s.now / 1000) (responseBody r)).isNone then none
      else (issue (.read gatewayId (s.now / 1000) (responseBody r))).map fun server =>
        { s with server, responses := deliver s.responses i again }
    | _, _ => none
  | .commit i => (issue (.commit i)).map fun server => { s with server }
  | .timeout => (issue (.timeout (s.now / 1000))).map fun server => { s with server }

def init (now : ℤ) (gateway : Gateway.Manager) : State :=
  ⟨now, Issue.init, [], [], gateway, false⟩

/-- No step of the command is in progress, and no message about it in flight. -/
def Quiescent (s : State) : Prop :=
  s.server.phase = .done ∧ s.server.handlers = [] ∧ s.requests = [] ∧ s.responses = []

/-- At rest, the row and the gateway agree. -/
def Agreed (s : State) : Prop :=
  Quiescent s → ∀ cmd, s.server.row = some cmd →
    (s.executed = true → cmd.status ≠ "timeout") ∧ (cmd.status = "executed" → s.executed = true)

/-- The command asks for an answer, and its published commit comes before the first. -/
def Acked (s : State) (e : Event) (_ : State) : Prop :=
  match e with
  | .commitPending _ body => body.requireAck = true
  | .commitPublished => s.server.answered = false
  | _ => True

instance (s : State) (e : Event) (s' : State) : Decidable (Acked s e s') := by
  unfold Acked
  cases e <;> infer_instance

section Response

variable {cmd : Command} {gatewayId : UUID} {r : Gateway.CommandResponse}

theorem get_responseBody :
    Json.get (responseBody r) "command_id" = some (.text r.commandID) ∧
      Json.get (responseBody r) "status" = some (.text r.status) := by
  simp [Json.get, responseBody, Str.of_inj]

theorem finalStatus_responseBody (h : r.status ∈ finalStatuses) : FinalStatus (responseBody r) := by
  unfold FinalStatus
  rw [get_responseBody.2]
  exact ⟨r.status, h, rfl⟩

/-- **The gateway's response reaches its row**: the handler does not return early. -/
theorem commandResponse_reaches (now : ℤ) (hid : r.commandID = cmd.id) (hne : cmd.id ≠ "")
    (hgw : cmd.gatewayId = gatewayId) :
    commandResponse cmd gatewayId now (responseBody r) =
      (responseChanges cmd now (responseBody r)).map some := by
  have htrue : (Json.text r.commandID).truthy ≠ false := by
    have hnil : Str.of cmd.id ≠ [] := fun h => hne (Str.of_inj.1 (h.trans (by rfl : [] = Str.of "")))
    simp [Json.text, Json.truthy, hid, hnil]
  have hnamed : namedId (responseBody r) = some (some (Str.of r.commandID)) := by
    unfold namedId
    rw [get_responseBody.1]
    exact if_neg htrue
  unfold commandResponse
  rw [hnamed]
  simp [hid, hgw]

end Response

/-! ## The server's side -/

section Server

variable {api : Api} {userId gatewayId : UUID} {s s' : Issue} {e : IssueEvent}

/-- The row and the request carry one id, and the request asks for an answer. -/
def Named (gatewayId : UUID) (s : Issue) : Prop :=
  s.row = none ∧ s.request = none ∨
  ∃ cmd req, s.row = some cmd ∧ s.request = some req ∧ cmd.id ≠ "" ∧ cmd.gatewayId = gatewayId ∧
    req.commandId = cmd.id ∧ req.requireAck = true

/-- Only the first commit of `issue_command` makes a row and a request: every other step
keeps the request, and a row's id and gateway. -/
theorem step_keeps (he : ∀ now hex body, e ≠ .commitPending now hex body)
    (h : Issue.step api userId gatewayId s e = some s') :
    s'.request = s.request ∧ (s.row = none → s'.row = none) ∧
      ∀ cmd, s.row = some cmd → ∃ cmd', s'.row = some cmd' ∧ cmd'.id = cmd.id ∧
        cmd'.gatewayId = cmd.gatewayId := by
  cases e with
  | commitPending now hex body => exact absurd rfl (he now hex body)
  | publish =>
    cases Issue.step_cases h
    exact ⟨rfl, id, fun cmd hrow => ⟨cmd, hrow, rfl, rfl⟩⟩
  | publishFailed =>
    cases Issue.step_cases h
    exact ⟨rfl, id, fun cmd hrow => ⟨cmd, hrow, rfl, rfl⟩⟩
  | commitPublished =>
    cases Issue.step_cases h
    exact ⟨rfl, fun hrow => by simp [hrow], fun cmd hrow =>
      ⟨cmd.apply ⟨some "published", none⟩, by simp [hrow], rfl, rfl⟩⟩
  | read gw now body =>
    rcases Issue.step_cases h with rfl | ⟨-, -, -, -, rfl⟩
    · exact ⟨rfl, id, fun cmd hrow => ⟨cmd, hrow, rfl, rfl⟩⟩
    · exact ⟨rfl, id, fun cmd hrow => ⟨cmd, hrow, rfl, rfl⟩⟩
  | commit i =>
    obtain ⟨c, -, cmd, hrow, rfl⟩ := Issue.step_cases h
    refine ⟨rfl, fun hnone => by simp [hnone] at hrow, fun cmd' hrow' => ⟨_, rfl, ?_⟩⟩
    rw [hrow] at hrow'
    cases hrow'
    exact ⟨rfl, rfl⟩
  | timeout now =>
    cases Issue.step_cases h
    refine ⟨rfl, fun hrow => by simp [hrow], fun cmd hrow => ⟨commandTimeout now cmd, by simp [hrow], ?_⟩⟩
    unfold commandTimeout
    split_ifs <;> exact ⟨rfl, rfl⟩

theorem named_step (hs : Named gatewayId s)
    (hack : ∀ now hex body, e = .commitPending now hex body → body.requireAck = true)
    (h : Issue.step api userId gatewayId s e = some s') : Named gatewayId s' := by
  by_cases he : ∃ now hex body, e = .commitPending now hex body
  · obtain ⟨now, hex, body, rfl⟩ := he
    obtain ⟨-, cmd, req, hissue, rfl⟩ := Issue.step_cases h
    obtain ⟨-, hgw, hid, hreq, hra⟩ := Issue.issueCommand_status hissue
    refine Or.inr ⟨cmd, req, rfl, rfl, ?_, hgw, hreq, hra.trans (hack now hex body rfl)⟩
    rw [hid]
    exact Issue.commandId_ne_empty now hex
  · push Not at he
    obtain ⟨hreq, hnone, hsome⟩ := step_keeps he h
    rcases hs with ⟨hrow, hr⟩ | ⟨cmd, req, hrow, hr, hne, hgw, hid, hra⟩
    · exact Or.inl ⟨hnone hrow, hreq.trans hr⟩
    · obtain ⟨cmd', hrow', hid', hgw'⟩ := hsome cmd hrow
      exact Or.inr ⟨cmd', req, hrow', hreq.trans hr, hid' ▸ hne, hgw'.trans hgw, hid.trans hid'.symm, hra⟩

/-- What says executed after a step said so before, or is a response read in it. -/
theorem executed_source (he : ∀ now hex body, e ≠ .commitPending now hex body)
    (h : Issue.step api userId gatewayId s e = some s') :
    (∀ c ∈ s'.handlers, c ∈ s.handlers ∨ ∃ gw now body cmd, e = .read gw now body ∧
        s.row = some cmd ∧ commandResponse cmd gw now body = some (some c)) ∧
    ∀ cmd', s'.row = some cmd' → cmd'.status = "executed" →
      (∃ cmd, s.row = some cmd ∧ cmd.status = "executed") ∨
        ∃ c ∈ s.handlers, c.status = some "executed" := by
  cases e with
  | commitPending now hex body => exact absurd rfl (he now hex body)
  | publish =>
    cases Issue.step_cases h
    exact ⟨fun c hc => Or.inl hc, fun cmd hrow hst => Or.inl ⟨cmd, hrow, hst⟩⟩
  | publishFailed =>
    cases Issue.step_cases h
    exact ⟨fun c hc => Or.inl hc, fun cmd hrow hst => Or.inl ⟨cmd, hrow, hst⟩⟩
  | commitPublished =>
    cases Issue.step_cases h
    refine ⟨fun c hc => Or.inl hc, fun cmd' hrow' hst => ?_⟩
    obtain ⟨cmd, -, rfl⟩ := Option.map_eq_some_iff.1 hrow'
    simp [Command.apply] at hst
  | read gw now body =>
    rcases Issue.step_cases h with rfl | ⟨cmd, c, hrow, hresp, rfl⟩
    · exact ⟨fun c hc => Or.inl hc, fun cmd hrow hst => Or.inl ⟨cmd, hrow, hst⟩⟩
    · refine ⟨fun c' hc' => ?_, fun cmd hrow hst => Or.inl ⟨cmd, hrow, hst⟩⟩
      rcases List.mem_append.1 hc' with hold | hnew
      · exact Or.inl hold
      · rw [List.mem_singleton] at hnew
        exact Or.inr ⟨gw, now, body, cmd, rfl, hrow, hnew ▸ hresp⟩
  | commit i =>
    obtain ⟨c, hmem, cmd, hrow, rfl⟩ := Issue.step_cases h
    refine ⟨fun c' hc' => Or.inl (List.mem_of_mem_eraseIdx hc'), fun cmd' hrow' hst => ?_⟩
    cases hrow'
    -- the status is the handler's own, or the row's where it changes none
    cases hc : c.status with
    | none => exact Or.inl ⟨cmd, hrow, by simpa [Command.apply, hc] using hst⟩
    | some st =>
      refine Or.inr ⟨c, hmem, ?_⟩
      rw [hc]
      simpa [Command.apply, hc] using hst
  | timeout now =>
    cases Issue.step_cases h
    refine ⟨fun c hc => Or.inl hc, fun cmd' hrow' hst => ?_⟩
    obtain ⟨cmd, hrow, rfl⟩ := Option.map_eq_some_iff.1 hrow'
    unfold commandTimeout at hst
    split_ifs at hst
    · simp at hst
    · exact Or.inl ⟨cmd, hrow, hst⟩

/-- An answer that is being committed, or has been, is not lost. -/
theorem underway_step (hs : s.Inv) (he : ∀ now hex body, e ≠ .commitPending now hex body)
    (h : Issue.step api userId gatewayId s e = some s') (hu : s.handlers ≠ [] ∨ s.answered = true) :
    s'.handlers ≠ [] ∨ s'.answered = true := by
  cases e with
  | commitPending now hex body => exact absurd rfl (he now hex body)
  | publish =>
    cases Issue.step_cases h
    exact hu
  | publishFailed =>
    cases Issue.step_cases h
    exact hu
  | commitPublished =>
    cases Issue.step_cases h
    exact hu
  | read gw now body =>
    rcases Issue.step_cases h with rfl | ⟨_, _, -, -, rfl⟩
    · exact hu
    · exact Or.inl (by simp)
  | commit i =>
    obtain ⟨c, hmem, cmd, hrow, rfl⟩ := Issue.step_cases h
    exact Or.inr (by simp [Issue.apply_final hs hmem hrow])
  | timeout now =>
    cases Issue.step_cases h
    exact hu

end Server

/-! ## Runs with an answer, in order -/

section Runs

variable {api : Api} {userId gatewayId : UUID} {s s' : State} {e : Event}

/-- Everything that says executed is true, and an executed command is answered or its
answer still under way. -/
structure Inv (gatewayId : UUID) (s : State) : Prop where
  server : s.server.Inv
  named : Named gatewayId s.server
  requests : ∀ r ∈ s.requests, ∃ req, s.server.request = some req ∧ r = decode req
  responses : ∀ r ∈ s.responses, (∃ req, s.server.request = some req ∧ r.commandID = req.commandId) ∧
    r.status ∈ finalStatuses ∧ (r.status = "executed" → s.executed = true)
  handlers : ∀ c ∈ s.server.handlers, c.status = some "executed" → s.executed = true
  row : ∀ cmd, s.server.row = some cmd → cmd.status = "executed" → s.executed = true
  underway : s.executed = true →
    s.responses ≠ [] ∨ s.server.handlers ≠ [] ∨ s.server.answered = true

theorem inv_init (now : ℤ) (gateway : Gateway.Manager) : Inv gatewayId (init now gateway) where
  server := Issue.inv_init
  named := Or.inl ⟨rfl, rfl⟩
  requests := by simp [init]
  responses := by simp [init]
  handlers := by simp [init, Issue.init]
  row := by simp [init, Issue.init]
  underway := by simp [init]

/-- The gateway's response to a request has its id and a final status. -/
theorem execute_final (m : Gateway.Manager) (now : ℤ) (gpioSet : ℤ → ℤ → Except Hal.Err Unit)
    (req : Gateway.CommandRequest) :
    (Gateway.execute m now gpioSet req).1.status ∈ finalStatuses ∧
      (Gateway.execute m now gpioSet req).1.commandID = req.commandID := by
  refine ⟨?_, Gateway.execute_commandID m now gpioSet req⟩
  unfold finalStatuses
  rcases Gateway.execute_cases m now gpioSet req with
    ⟨-, resp, hx, hst⟩ | ⟨-, st, v, resp, -, hx, hst⟩
  · rw [hx]
    rcases hst with hst | hst <;> simp [hst]
  · rw [hx]
    simp [hst]

theorem mem_of_mem_deliver {α : Type} {msgs : List α} {i : ℕ} {again : Bool} {x : α}
    (h : x ∈ deliver msgs i again) : x ∈ msgs := by
  unfold deliver at h
  split_ifs at h
  · exact h
  · exact List.mem_of_mem_eraseIdx h

/-- A step of the server that neither makes the row nor reads a response. -/
theorem inv_server {ie : IssueEvent} {server : Issue} (hs : Inv gatewayId s)
    (he : ∀ now hex body, ie ≠ .commitPending now hex body) (hr : ∀ gw now body, ie ≠ .read gw now body)
    (h : s.server.step api userId gatewayId ie = some server)
    (hfirst : Issue.PublishedFirst s.server ie server) : Inv gatewayId { s with server } := by
  obtain ⟨hreq, -, -⟩ := step_keeps he h
  obtain ⟨hh, hrow⟩ := executed_source he h
  have hbody : Issue.FinalBody s.server ie server := by
    cases ie with
    | read gw now body => exact absurd rfl (hr gw now body)
    | _ => trivial
  refine ⟨Issue.inv_step hs.server h hbody hfirst,
    named_step hs.named (fun now hex body heq => absurd heq (he now hex body)) h,
    fun r hmem => ?_, fun r hmem => ?_, fun c hc hst => ?_, fun cmd hc hst => ?_, fun hx => ?_⟩
  · rw [hreq]
    exact hs.requests r hmem
  · rw [hreq]
    exact hs.responses r hmem
  · rcases hh c hc with hold | ⟨gw, now, body, cmd, hread, -, -⟩
    · exact hs.handlers c hold hst
    · exact absurd hread (hr gw now body)
  · rcases hrow cmd hc hst with ⟨cmd', hc', hst'⟩ | ⟨c, hc', hst'⟩
    · exact hs.row cmd' hc' hst'
    · exact hs.handlers c hc' hst'
  · -- responses in flight stay there; an answer being committed is committed or stays
    rcases hs.underway hx with hresp | hu
    · exact Or.inl hresp
    · exact Or.inr (underway_step hs.server he h hu)

theorem inv_commitPending (hs : Inv gatewayId s) {hex : String} {body : CommandIn}
    (h : step api userId gatewayId s (.commitPending hex body) = some s') (hack : body.requireAck = true) :
    Inv gatewayId s' := by
  obtain ⟨server, hserver, rfl⟩ := Option.map_eq_some_iff.1 h
  have hnamed := named_step hs.named (by rintro now hex' body' ⟨⟩; exact hack) hserver
  have hinv := Issue.inv_step hs.server hserver trivial trivial
  obtain ⟨hstart, cmd, req, hissue, rfl⟩ := Issue.step_cases hserver
  -- the command has no row yet, so there is no request, and no message
  have hnone : s.server.request = none := by
    rcases hs.named with ⟨-, hreq⟩ | ⟨cmd, req, hrow, -⟩
    · exact hreq
    · rw [hs.server.start hstart] at hrow
      cases hrow
  refine ⟨hinv, hnamed, fun r hmem => ?_, fun r hmem => ?_, hs.handlers, fun c hc hst => ?_, hs.underway⟩
  · obtain ⟨req, hreq, -⟩ := hs.requests r hmem
    rw [hnone] at hreq
    cases hreq
  · obtain ⟨⟨req, hreq, -⟩, -⟩ := hs.responses r hmem
    rw [hnone] at hreq
    cases hreq
  · cases hc
    rw [(Issue.issueCommand_status hissue).1] at hst
    simp at hst

/-- The gateway answers a request: what it says is final, and true. -/
theorem inv_request (hs : Inv gatewayId s) {i : ℕ} {again : Bool} {gpioSet : ℤ → ℤ → Except Hal.Err Unit}
    (h : step api userId gatewayId s (.request i again gpioSet) = some s') : Inv gatewayId s' := by
  simp only [step] at h
  split at h
  · cases h
  rename_i r hget
  obtain ⟨req, hreq, rfl⟩ := hs.requests r (List.mem_of_getElem? hget)
  obtain ⟨hfinal, hid⟩ := execute_final s.gateway s.now gpioSet (decode req)
  have hack : (decode req).requireAck = true := by
    rcases hs.named with ⟨-, hnone⟩ | ⟨cmd, req', -, hreq', -, -, -, hra⟩
    · rw [hreq] at hnone
      cases hnone
    · rw [hreq] at hreq'
      cases hreq'
      exact hra
  simp only [Gateway.handleCommand, hack, if_true, Option.toList_some, Option.some.injEq] at h
  subst h
  refine ⟨hs.server, hs.named, fun r hmem => hs.requests r (mem_of_mem_deliver hmem), fun r hmem => ?_,
    fun c hc hst => by simp [hs.handlers c hc hst], fun cmd hc hst => by simp [hs.row cmd hc hst],
    fun _ => Or.inl (by simp)⟩
  rcases List.mem_append.1 hmem with hold | hnew
  · obtain ⟨h1, h2, h3⟩ := hs.responses r hold
    exact ⟨h1, h2, fun hst => by simp [h3 hst]⟩
  · rw [List.mem_singleton] at hnew
    subst hnew
    exact ⟨⟨req, hreq, hid⟩, hfinal, fun hst => by simp [hst]⟩

/-- A response is about the row, so its handler has something to commit. -/
theorem handlers_of_read (hs : Inv gatewayId s) {r : Gateway.CommandResponse} {cmd : Command} {now : ℤ}
    {server : Issue} (hmem : r ∈ s.responses) (hrow : s.server.row = some cmd)
    (hraise : (commandResponse cmd gatewayId now (responseBody r)).isNone ≠ true)
    (hserver : s.server.step api userId gatewayId (.read gatewayId now (responseBody r)) = some server) :
    server.handlers ≠ [] := by
  obtain ⟨⟨req, hreq, hrid⟩, -⟩ := hs.responses r hmem
  obtain ⟨hne, hgw, hid⟩ : cmd.id ≠ "" ∧ cmd.gatewayId = gatewayId ∧ req.commandId = cmd.id := by
    rcases hs.named with ⟨hnone, -⟩ | ⟨cmd', req', hrow', hr', hne, hgw, hid, -⟩
    · rw [hrow] at hnone
      cases hnone
    · rw [hrow] at hrow'
      rw [hreq] at hr'
      cases hrow'
      cases hr'
      exact ⟨hne, hgw, hid⟩
  have hreach := commandResponse_reaches now (hrid.trans hid) hne hgw
  rw [hreach, Option.isNone_map] at hraise
  have hsome : (responseChanges cmd now (responseBody r)).isSome = true := by
    rw [← Option.not_isNone, Bool.not_eq_true']
    exact Bool.not_eq_true _ ▸ hraise
  obtain ⟨c, hc⟩ := Option.isSome_iff_exists.1 hsome
  simp only [Issue.step, hrow, Option.bind_some, hreach, hc, Option.map_some] at hserver
  cases hserver
  simp

/-- The worker reads a response. -/
theorem inv_response (hs : Inv gatewayId s) {i : ℕ} {again : Bool}
    (h : step api userId gatewayId s (.response i again) = some s') : Inv gatewayId s' := by
  simp only [step] at h
  split at h
  case h_2 => cases h
  rename_i r cmd hget hrow
  split_ifs at h with hraise
  obtain ⟨server, hserver, rfl⟩ := Option.map_eq_some_iff.1 h
  have hmem := List.mem_of_getElem? hget
  obtain ⟨-, hfinal, htrue⟩ := hs.responses r hmem
  have hinv := Issue.inv_step hs.server hserver (finalStatus_responseBody hfinal) trivial
  have hnamed := named_step hs.named (by simp) hserver
  obtain ⟨hreq', -, -⟩ := step_keeps (by simp) hserver
  obtain ⟨hh, hexec⟩ := executed_source (by simp) hserver
  have hnew := handlers_of_read hs hmem hrow hraise hserver
  refine ⟨hinv, hnamed, fun r hmem => ?_, fun r hmem => ?_, fun c hc hst => ?_, fun cmd' hc hst => ?_,
    fun _ => Or.inr (Or.inl hnew)⟩
  · rw [hreq']
    exact hs.requests r hmem
  · rw [hreq']
    exact hs.responses r (mem_of_mem_deliver hmem)
  · rcases hh c hc with hold | ⟨gw, now, body, cmd', hread, -, hresp⟩
    · exact hs.handlers c hold hst
    · cases hread
      obtain ⟨st, -, hget', hcst⟩ := Issue.commandResponse_final (finalStatus_responseBody hfinal) hresp
      rw [get_responseBody.2, Option.getD_some] at hget'
      have hsame : r.status = st := Str.of_inj.1 (Json.str.inj hget')
      apply htrue
      rw [hcst] at hst
      split_ifs at hst
      rw [hsame]
      exact Option.some.inj hst
  · rcases hexec cmd' hc hst with ⟨cmd'', hc', hst'⟩ | ⟨c, hc', hst'⟩
    · exact hs.row cmd'' hc' hst'
    · exact hs.handlers c hc' hst'

theorem inv_step (hs : Inv gatewayId s) (h : step api userId gatewayId s e = some s')
    (hack : Acked s e s') : Inv gatewayId s' := by
  cases e with
  | tick d =>
    cases h
    exact ⟨hs.server, hs.named, hs.requests, hs.responses, hs.handlers, hs.row, hs.underway⟩
  | other mgr =>
    cases h
    exact ⟨hs.server, hs.named, hs.requests, hs.responses, hs.handlers, hs.row, hs.underway⟩
  | commitPending hex body => exact inv_commitPending hs h hack
  | publish =>
    obtain ⟨server, hserver, rfl⟩ := Option.map_eq_some_iff.1 h
    have hinv := inv_server hs (by simp) (by simp) hserver trivial
    refine { hinv with requests := fun r hmem => ?_ }
    rcases List.mem_append.1 hmem with hold | hnew
    · exact hinv.requests r hold
    · obtain ⟨req, hreq, rfl⟩ := Option.map_eq_some_iff.1 (Option.mem_toList.1 hnew)
      exact ⟨req, hreq, rfl⟩
  | commitPublished =>
    obtain ⟨server, hserver, rfl⟩ := Option.map_eq_some_iff.1 h
    exact inv_server hs (by simp) (by simp) hserver hack
  | request i again gpioSet => exact inv_request hs h
  | response i again => exact inv_response hs h
  | commit i =>
    obtain ⟨server, hserver, rfl⟩ := Option.map_eq_some_iff.1 h
    exact inv_server hs (by simp) (by simp) hserver trivial
  | timeout =>
    have hmap : (s.server.step api userId gatewayId (.timeout (s.now / 1000))).map
      (fun server => { s with server }) = some s' := h
    obtain ⟨server, hserver, rfl⟩ := Option.map_eq_some_iff.1 hmap
    exact inv_server hs (by simp) (by simp) hserver trivial

theorem agreed_of_inv (hs : Inv gatewayId s) : Agreed s := by
  rintro ⟨-, hhandlers, -, hresponses⟩ cmd hrow
  -- at rest an answer cannot be under way any more
  refine ⟨fun hx => ?_, hs.row cmd hrow⟩
  rcases hs.underway hx with h | h | h
  · exact absurd hresponses h
  · exact absurd hhandlers h
  · obtain ⟨cmd', hrow', hst⟩ := hs.server.answered_row h
    rw [hrow] at hrow'
    cases hrow'
    intro ht
    rw [ht] at hst
    simp [finalStatuses] at hst

/-- **Agreement.** In every run of a command that asks for an answer and whose published
commit comes before the first one, whenever nothing is left to do, an executed command
has not timed out, and a row that says executed is true. -/
theorem agreed_of_acked (api : Api) (userId gatewayId : UUID) (now : ℤ) (gateway : Gateway.Manager)
    (es : List Event) (hack : Along (step api userId gatewayId) Acked (init now gateway) es) :
    Always (step api userId gatewayId) Agreed (init now gateway) es := by
  have hinit : Inv gatewayId (init now gateway) := inv_init now gateway
  refine always_of_along ?_ ?_ hinit hack
  · intro s e s' hs h hp
    exact inv_step hs h hp
  · intro s hs
    exact agreed_of_inv hs

end Runs

/-! User 1 switches the vent of gateway 7 ON, at noon. -/

section Vent

instance (s : State) : Decidable (Quiescent s) := inferInstanceAs (Decidable (_ ∧ _ ∧ _ ∧ _))

/-- Whether nothing is left to do, whether the command was executed, and the row's status. -/
def outcome (s : State) : Bool × Bool × Option String :=
  (Quiescent s, s.executed, s.server.row.map (·.status))

def ventStep : State → Event → Option State := step Issue.ventApi 1 7

def vent : State :=
  init (Issue.noon * 1000) (Gateway.singleManager (Gateway.newChannelState Gateway.relayVent) "GW-001")

/-- At rest, executed and timed out do not agree. -/
theorem not_agreed_of_outcome {es : List Event}
    (h : (run ventStep vent es).map outcome = some (true, true, some "timeout")) :
    ¬ Always ventStep Agreed vent es := by
  intro hall
  obtain ⟨s, hrun, hout⟩ := Option.map_eq_some_iff.1 h
  simp only [outcome, Prod.mk.injEq, decide_eq_true_eq, Option.map_eq_some_iff] at hout
  obtain ⟨hrest, hx, cmd, hrow, hst⟩ := hout
  exact (hall.last hrun hrest cmd hrow).1 hx hst

/-- Requested without an answer, executed, and overdue when the timeouts run. -/
def unacked : List Event :=
  [.commitPending "0a1b2c3d" { Issue.ventOn with requireAck := false }, .publish, .commitPublished,
    .request 0 false Gateway.halOk, .tick 6000000000, .timeout]

/-- **Without `require_ack`** the executed command times out. -/
theorem unacked_timeout :
    (run ventStep vent unacked).map outcome = some (true, true, some "timeout") ∧
      ¬ Always ventStep Agreed vent unacked := by
  have h : (run ventStep vent unacked).map outcome = some (true, true, some "timeout") := by
    decide +kernel
  exact ⟨h, not_agreed_of_outcome h⟩

/-- Answered before the published commit. -/
def fast : List Event :=
  [.commitPending "0a1b2c3d" Issue.ventOn, .publish, .request 0 false Gateway.halOk,
    .response 0 false, .commit 0, .commitPublished, .tick 6000000000, .timeout]

/-- **With an answer that is too fast** it does, too. -/
theorem fast_timeout :
    (run ventStep vent fast).map outcome = some (true, true, some "timeout") ∧
      ¬ Always ventStep Agreed vent fast := by
  have h : (run ventStep vent fast).map outcome = some (true, true, some "timeout") := by
    decide +kernel
  exact ⟨h, not_agreed_of_outcome h⟩

/-- Delivered twice, timed out in between, and executed at last. -/
theorem vent_agreed :
    Always ventStep Agreed vent
      [.commitPending "0a1b2c3d" Issue.ventOn, .publish, .commitPublished,
        .request 0 true Gateway.halOk, .request 0 false Gateway.halOk, .tick 6000000000, .timeout,
        .response 1 false, .commit 0, .response 0 false, .commit 0] :=
  agreed_of_acked Issue.ventApi 1 7 (Issue.noon * 1000) _ _ (by decide +kernel)

end Vent

end Protocol
