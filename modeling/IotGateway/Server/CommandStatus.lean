import IotGateway.Server.Commands

/-!
# A command's status and completion

`command_response.handle` copies the status field of a response into the row, whatever it
is, takes a missing one for `executed`, and always sets the completion time.

`wellFormed_of_proper`: **the row has one of the six statuses, and a completion time exactly
with the last four of them, in every state of a run whose committed responses carry one of
these four and whose published commit finds the row pending.** A response can also reopen a
finished command, invent a status, or execute by leaving it out (`response_breaks_row`).
-/

namespace Server

open Lts Python

/-- `pending | published | executed | rejected | failed | timeout` -/
def commandStatuses : List String := ["pending", "published", "executed", "rejected", "failed", "timeout"]

/-- The statuses of a completed command. -/
def completedStatuses : List String := ["executed", "rejected", "failed", "timeout"]

/-- The status is one of the six, and the completion time is set with the last four. -/
structure Command.WellFormed (cmd : Command) : Prop where
  status : cmd.status ∈ commandStatuses
  completed : cmd.completedAt.isSome = true ↔ cmd.status ∈ completedStatuses

/-- The response has a status field, and it is that of a completed command. -/
def CompletedBody (body : List (Str × Json)) : Prop :=
  ∃ st ∈ completedStatuses, Json.get body "status" = some (.text st)

namespace Issue

/-- The row, once there is one, is well formed. -/
def RowWellFormed (s : Issue) : Prop := ∀ cmd ∈ s.row, cmd.WellFormed

/-- A handler sets `executed` only for a response that says so. -/
def ExecutedByBody (s : Issue) (e : IssueEvent) (_ : Issue) : Prop :=
  match e with
  | .read gw now body => ∀ cmd ∈ s.row, ∀ c, commandResponse cmd gw now body = some (some c) →
      c.status = some "executed" → Json.get body "status" = some (.text "executed")
  | _ => True

/-- A response that its handler comes to commit has the status of a completed command, and
the published commit finds the row pending. -/
def Proper (s : Issue) (e : IssueEvent) (_ : Issue) : Prop :=
  match e with
  | .read gw now body => ∀ cmd ∈ s.row, (∃ c, commandResponse cmd gw now body = some (some c)) →
      CompletedBody body
  | .commitPublished => ∀ cmd ∈ s.row, cmd.status = "pending"
  | _ => True

variable {api : Api} {userId gatewayId : UUID} {s s' : Issue} {cmd : Command} {c : Changes}

theorem completedStatuses_fit {st : String} (hst : st ∈ completedStatuses) :
    Db.varchar 32 (Str.of st) = some st := by
  fin_cases hst <;> decide +kernel

theorem completedStatuses_sub {st : String} (hst : st ∈ completedStatuses) : st ∈ commandStatuses := by
  fin_cases hst <;> decide

/-- **A handler's changes**, if the response has the status of a completed command: each of
the two columns is written, or has its value already. -/
theorem commandResponse_completed {gw : UUID} {now : ℤ} {body : List (Str × Json)} (hbody : CompletedBody body)
    (h : commandResponse cmd gw now body = some (some c)) :
    (∃ st ∈ completedStatuses, Json.get body "status" = some (.text st) ∧
      (c.status = some st ∨ c.status = none ∧ cmd.status = st)) ∧
    (c.completedAt.isSome = true ∨ cmd.completedAt.isSome = true) := by
  obtain ⟨st, hst, hget⟩ := hbody
  obtain ⟨hstatus, t, -, hcompleted⟩ := commandResponse_cases h
  constructor
  · refine ⟨st, hst, hget, ?_⟩
    rw [hget, Option.getD_some, newStatus_text (completedStatuses_fit hst), Option.some.injEq] at hstatus
    by_cases hsame : st = cmd.status
    · rw [if_pos hsame] at hstatus
      exact Or.inr ⟨hstatus.symm, hsame.symm⟩
    · rw [if_neg hsame] at hstatus
      exact Or.inl hstatus.symm
  · unfold newCompletedAt at hcompleted
    split_ifs at hcompleted with hsame
    · exact Or.inr (by rw [hsame]; rfl)
    · obtain ⟨t', -, heq⟩ := Option.map_eq_some_iff.1 hcompleted
      exact Or.inl (by rw [← heq]; rfl)

/-- The row is that of a completed command. -/
def Completed (s : Issue) : Prop := ∃ cmd, s.row = some cmd ∧ cmd.status ∈ completedStatuses

/-- Along a run of proper steps: a handler holds a status and a completion time, or leaves
those of a completed row. -/
structure StatusInv (s : Issue) : Prop where
  start : s.phase = .start → s.row = none
  row : RowWellFormed s
  status : ∀ c ∈ s.handlers, (∃ st ∈ completedStatuses, c.status = some st) ∨ c.status = none ∧ Completed s
  completedAt : ∀ c ∈ s.handlers, c.completedAt.isSome = true ∨ Completed s

theorem statusInv_init : StatusInv init :=
  ⟨fun _ => rfl, fun _ h => (by cases h), fun _ h => (by cases h), fun _ h => (by cases h)⟩

/-- A step that leaves the handlers, and the row of a completed command. -/
theorem StatusInv.handlers_of (hs : StatusInv s) (s' : Issue) (hsame : s'.handlers = s.handlers)
    (hcompleted : Completed s → Completed s') :
    (∀ c ∈ s'.handlers, (∃ st ∈ completedStatuses, c.status = some st) ∨ c.status = none ∧ Completed s') ∧
      ∀ c ∈ s'.handlers, c.completedAt.isSome = true ∨ Completed s' := by
  rw [hsame]
  refine ⟨fun c hc => ?_, fun c hc => ?_⟩
  · rcases hs.status c hc with hst | ⟨hno, hrow⟩
    · exact Or.inl hst
    · exact Or.inr ⟨hno, hcompleted hrow⟩
  · exact (hs.completedAt c hc).imp_right hcompleted

/-- **A handler's commit** completes the row. -/
theorem apply_completed (hs : StatusInv s) (hc : c ∈ s.handlers) (hrow : s.row = some cmd) :
    (cmd.apply c).status ∈ completedStatuses ∧ (cmd.apply c).WellFormed := by
  -- what the handler does not write, the row has as a completed command
  have hkept : Completed s → cmd.status ∈ completedStatuses ∧ cmd.completedAt.isSome = true := by
    rintro ⟨cmd', hrow', hst⟩
    rw [hrow] at hrow'
    cases hrow'
    exact ⟨hst, (hs.row cmd hrow).completed.2 hst⟩
  have hst : (cmd.apply c).status ∈ completedStatuses := by
    unfold Command.apply
    rcases hs.status c hc with ⟨st, hst, heq⟩ | ⟨hno, hcompleted⟩
    · rw [heq]
      exact hst
    · rw [hno]
      exact (hkept hcompleted).1
  have htime : (cmd.apply c).completedAt.isSome = true := by
    unfold Command.apply
    rcases hs.completedAt c hc with hsome | hcompleted
    · obtain ⟨t, ht⟩ := Option.isSome_iff_exists.1 hsome
      simp [ht]
    · obtain ⟨t, ht⟩ := Option.isSome_iff_exists.1 (hkept hcompleted).2
      simp [ht]
  exact ⟨hst, completedStatuses_sub hst, iff_of_true htime hst⟩

/-- The timeout completes an overdue row, and leaves any other. -/
theorem commandTimeout_wellFormed {now : ℤ} (h : cmd.WellFormed) :
    (commandTimeout now cmd).WellFormed ∧
      (cmd.status ∈ completedStatuses → (commandTimeout now cmd).status ∈ completedStatuses) := by
  have htimeout : "timeout" ∈ completedStatuses := by decide
  unfold commandTimeout
  split_ifs
  · exact ⟨⟨completedStatuses_sub htimeout, iff_of_true rfl htimeout⟩, fun _ => htimeout⟩
  · exact ⟨h, id⟩

/-- A response of a completed command is read. -/
theorem statusInv_read (hs : StatusInv s) {gw : UUID} {now : ℤ} {body : List (Str × Json)}
    (h : step api userId gatewayId s (.read gw now body) = some s')
    (hproper : Proper s (.read gw now body) s') : StatusInv s' := by
  rcases step_cases h with rfl | ⟨cmd, c, hrow, hresp, rfl⟩
  · exact hs
  have hbody := hproper cmd hrow ⟨c, hresp⟩
  obtain ⟨⟨st, hst, -, hcst⟩, htime⟩ := commandResponse_completed hbody hresp
  have hcompleted : cmd.status ∈ completedStatuses → Completed s := fun h => ⟨cmd, hrow, h⟩
  refine ⟨hs.start, hs.row, fun c' hc' => ?_, fun c' hc' => ?_⟩
  · rcases List.mem_append.1 hc' with hc' | hc'
    · exact hs.status c' hc'
    · rw [List.mem_singleton] at hc'
      subst hc'
      rcases hcst with hcst | ⟨hno, hsame⟩
      · exact Or.inl ⟨st, hst, hcst⟩
      · exact Or.inr ⟨hno, hcompleted (hsame ▸ hst)⟩
  · rcases List.mem_append.1 hc' with hc' | hc'
    · exact hs.completedAt c' hc'
    · rw [List.mem_singleton] at hc'
      subst hc'
      rcases htime with htime | htime
      · exact Or.inl htime
      · exact Or.inr (hcompleted ((hs.row cmd hrow).completed.1 htime))

/-- A handler commits, and the row is that of a completed command. -/
theorem statusInv_commit (hs : StatusInv s) {i : ℕ}
    (h : step api userId gatewayId s (.commit i) = some s') : StatusInv s' := by
  obtain ⟨c, hmem, cmd, hrow, rfl⟩ := step_cases h
  obtain ⟨hst, hwf⟩ := apply_completed hs hmem hrow
  have hcompleted : Completed { s with
      row := some (cmd.apply c)
      handlers := s.handlers.eraseIdx i
      answered := s.answered || (cmd.apply c).status ∈ finalStatuses } := ⟨_, rfl, hst⟩
  refine ⟨fun hp => ?_, fun cmd' hcmd' => ?_, fun c' hc' => ?_, fun c' hc' => Or.inr hcompleted⟩
  · rw [hs.start hp] at hrow
    cases hrow
  · cases hcmd'
    exact hwf
  · rcases hs.status c' (List.mem_of_mem_eraseIdx hc') with hst' | ⟨hno, -⟩
    · exact Or.inl hst'
    · exact Or.inr ⟨hno, hcompleted⟩

theorem statusInv_step (hs : StatusInv s) {e : IssueEvent} (h : step api userId gatewayId s e = some s')
    (hproper : Proper s e s') : StatusInv s' := by
  cases e with
  | commitPending now hex body =>
    obtain ⟨hstart, cmd, request, hissue, rfl⟩ := step_cases h
    have hno : ¬ Completed s := by
      rintro ⟨cmd', hrow', -⟩
      rw [hs.start hstart] at hrow'
      cases hrow'
    obtain ⟨hstatus, hcompletedAt⟩ := hs.handlers_of { s with
      phase := .pending, row := some cmd, request := some request } rfl fun hc => absurd hc hno
    refine ⟨nofun, ?_, hstatus, hcompletedAt⟩
    rintro cmd' hcmd'
    cases hcmd'
    obtain ⟨hpending, hnone⟩ : cmd.status = "pending" ∧ cmd.completedAt = none := issueCommand_pending hissue
    refine ⟨by rw [hpending]; decide, iff_of_false ?_ ?_⟩
    · rw [hnone]
      decide
    · rw [hpending]
      decide
  | publish =>
    cases step_cases h
    exact ⟨nofun, hs.row, hs.status, hs.completedAt⟩
  | publishFailed =>
    cases step_cases h
    exact ⟨nofun, hs.row, hs.status, hs.completedAt⟩
  | commitPublished =>
    cases step_cases h
    have hno : ¬ Completed s := by
      rintro ⟨cmd, hrow, hst⟩
      rw [hproper cmd hrow] at hst
      exact absurd hst (by decide)
    obtain ⟨hstatus, hcompletedAt⟩ := hs.handlers_of { s with
      phase := .done, row := s.row.map (·.apply ⟨some "published", none⟩) } rfl fun hc => absurd hc hno
    refine ⟨nofun, ?_, hstatus, hcompletedAt⟩
    intro cmd' hcmd'
    obtain ⟨cmd, hrow, rfl⟩ := Option.map_eq_some_iff.1 hcmd'
    -- a pending row has no completion time
    have hnone : ¬ cmd.completedAt.isSome = true := by
      rw [(hs.row cmd hrow).completed, hproper cmd hrow]
      decide
    refine ⟨by simp [Command.apply, commandStatuses], iff_of_false ?_ ?_⟩
    · simpa [Command.apply] using hnone
    · simp [Command.apply, completedStatuses]
  | read gw now body => exact statusInv_read hs h hproper
  | commit i => exact statusInv_commit hs h
  | timeout now =>
    cases step_cases h
    have hcompleted : Completed s → Completed { s with row := s.row.map (commandTimeout now) } := by
      rintro ⟨cmd, hrow, hst⟩
      exact ⟨_, by rw [hrow]; rfl, (commandTimeout_wellFormed (hs.row cmd hrow)).2 hst⟩
    obtain ⟨hstatus, hcompletedAt⟩ := hs.handlers_of { s with
      row := s.row.map (commandTimeout now) } rfl hcompleted
    refine ⟨fun hp => by simp [hs.start hp], ?_, hstatus, hcompletedAt⟩
    intro cmd' hcmd'
    obtain ⟨cmd, hrow, rfl⟩ := Option.map_eq_some_iff.1 hcmd'
    exact (commandTimeout_wellFormed (hs.row cmd hrow)).1

/-- A proper response that sets `executed` says so. -/
theorem executedByBody_step {e : IssueEvent} (hproper : Proper s e s') : ExecutedByBody s e s' := by
  cases e with
  | read gw now body =>
    intro cmd hrow c hresp hexecuted
    obtain ⟨⟨st, hst, hget, hcst⟩, -⟩ := commandResponse_completed (hproper cmd hrow ⟨c, hresp⟩) hresp
    rcases hcst with hcst | ⟨hno, -⟩
    · rw [hexecuted, Option.some.injEq] at hcst
      rw [hget, hcst]
    · rw [hno] at hexecuted
      cases hexecuted
  | _ => trivial

/-- **A command's row.** In every run whose committed responses carry the status of a
completed command, and whose published commit finds the row pending, the row of every
state is well formed, and `executed` is set for responses with that status only. -/
theorem wellFormed_of_proper (api : Api) (userId gatewayId : UUID) (es : List IssueEvent)
    (hproper : Along (step api userId gatewayId) Proper init es) :
    Always (step api userId gatewayId) RowWellFormed init es ∧
      Along (step api userId gatewayId) ExecutedByBody init es := by
  constructor
  · refine always_of_along (I := StatusInv) ?_ ?_ statusInv_init hproper
    · intro s e s' hs h hp
      exact statusInv_step hs h hp
    · exact fun s hs => hs.row
  · refine hproper.imp ?_
    intro s e s' _ hp
    exact executedByBody_step hp

/-! The gateway of the command answers it with executed, and then with another body. -/

def answerBody (status : List (Str × Json)) : List (Str × Json) :=
  (Str.of "command_id", .text (commandId noon "0a1b2c3d")) :: status

/-- The command is issued and published, and the gateway sends these responses. -/
def answeredWith (bodies : List (List (Str × Json))) : List IssueEvent :=
  [.commitPending noon "0a1b2c3d" ventOn, .publish, .commitPublished] ++
    bodies.flatMap fun body => [.read 7 (noon + 300000) body, .commit 0]

/-- The status and the completion of the row at the end. -/
def rowAfter (bodies : List (List (Str × Json))) : Option (Option (String × Option ℤ)) :=
  (run (step ventApi 1 7) init (answeredWith bodies)).map fun s =>
    s.row.map fun cmd => (cmd.status, cmd.completedAt)

/-- A response that names the command by a list of its primary key. -/
def listedBody (status : List (Str × Json)) : List (Str × Json) :=
  (Str.of "command_id", .arr [.text (commandId noon "0a1b2c3d")]) :: status

/-- **Pending reopens a completed command**, an unknown status is stored as it is, also from a
response that names the command by a list, and a response without status executes. -/
theorem response_breaks_row :
    rowAfter [executedBody, answerBody [(Str.of "status", .text "pending")]] =
      some (some ("pending", some (noon + 300000))) ∧
    rowAfter [answerBody [(Str.of "status", .text "done")]] = some (some ("done", some (noon + 300000))) ∧
    rowAfter [listedBody [(Str.of "status", .text "done")]] = some (some ("done", some (noon + 300000))) ∧
    rowAfter [answerBody []] = some (some ("executed", some (noon + 300000))) := by
  decide +kernel

/-- A rejection, and a timeout after it. -/
theorem rejected_wellFormed : Always (step ventApi 1 7) RowWellFormed init
    (answeredWith [answerBody [(Str.of "status", .text "rejected")]] ++ [.timeout (noon + 6000000)]) := by
  refine (wellFormed_of_proper ventApi 1 7 _ ?_).1
  -- the row is pending at the published commit, and the response says rejected
  intro s₁ h₁
  refine ⟨trivial, fun s₂ h₂ => ⟨trivial, fun s₃ h₃ => ⟨?_, fun s₄ h₄ => ⟨?_, fun s₅ h₅ => ?_⟩⟩⟩⟩
  · obtain ⟨-, cmd, request, hissue, rfl⟩ := step_cases h₁
    cases step_cases h₂
    rintro cmd' hcmd'
    cases hcmd'
    exact (issueCommand_pending hissue).1
  · exact fun cmd _ _ => ⟨"rejected", by decide, rfl⟩
  · exact ⟨trivial, fun s₆ h₆ => ⟨trivial, trivial⟩⟩

end Issue

end Server
