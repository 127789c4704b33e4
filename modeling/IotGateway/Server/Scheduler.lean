import IotGateway.Lts.Periodic
import IotGateway.Server.Dispatch

/-!
# The scheduler's jobs

The scheduler is one process with a loop for each job. A run reads the clock, updates the
tables in one statement and commits; an exception is logged and the loop goes on after its
interval. The API and the worker change the same tables in between.

A row is watched: `changed` is when another process last changed it, or when the scheduler
was started.

* `commands_closed_in_time`: **a command is pending or published for at most the job's
  latency after it expired or was last changed**;
* `silence_noticed_in_time`: **a gateway is online for at most the job's latency after it
  was last seen the threshold ago or was last changed.**

Both hold whatever the other processes do, and for every interleaving with them.
-/

namespace Server

open Lts

/-! ## The jobs -/

inductive JobName where
  | offlineDetector
  | commandTimeout
  | partitionManager
deriving DecidableEq, Repr

/-- `interval_sec` of the job's `_tick`. -/
def JobName.intervalSec : JobName → ℤ
  | .offlineDetector => 30
  | .commandTimeout => 10
  | .partitionManager => 6 * 3600

theorem commandTimeout_id (now : ℤ) (cmd : Command) : (commandTimeout now cmd).id = cmd.id := by
  unfold commandTimeout
  split <;> rfl

/-- `command_timeout.run`, on the table. -/
def Database.commandTimeout (db : Database) (now : ℤ) : Database :=
  { db with commands := db.commands.map (Server.commandTimeout now) (commandTimeout_id now) }

/-- What a run commits that read the clock at `t`. The partitions are no rows of these
tables. -/
def JobName.fn (thresholdSec t : ℤ) (db : Database) : JobName → Database
  | .offlineDetector => { db with toStore := Server.offlineDetector db.toStore thresholdSec t }
  | .commandTimeout => db.commandTimeout t
  | .partitionManager => db

/-- The scheduler's loops, and the tables. -/
structure Scheduler where
  now : ℤ
  db : Database
  jobs : JobName → Job

inductive SchedulerEvent where
  | tick (d : ℕ)
  /-- another process leaves the tables as `db` -/
  | others (db : Database)
  | begin (j : JobName)
  | commit (j : JobName)
  | finish (j : JobName)

namespace Scheduler

/-- The tasks are created. -/
def start (now : ℤ) (db : Database) : Scheduler := ⟨now, db, fun _ => .start now⟩

def step (thresholdSec : ℤ) (s : Scheduler) : SchedulerEvent → Option Scheduler
  | .tick d => some { s with now := s.now + d }
  | .others db => some { s with db }
  | .begin j => ((s.jobs j).begin s.now).map fun job => { s with jobs := Function.update s.jobs j job }
  | .commit j => (s.jobs j).commit.map fun (t, job) =>
      { s with db := j.fn thresholdSec t s.db, jobs := Function.update s.jobs j job }
  | .finish j => ((s.jobs j).finish (j.intervalSec * 1000000) s.now).map fun job =>
      { s with jobs := Function.update s.jobs j job }

end Scheduler

/-! ## Watching a row -/

/-- The scheduler, and when another process last changed the row that is watched. -/
structure Watch where
  scheduler : Scheduler
  changed : ℤ

namespace Watch

section Step

variable {ρ : Type} [DecidableEq ρ] (row : Database → ρ) (thresholdSec : ℤ)

def start (now : ℤ) (db : Database) : Watch := ⟨.start now db, now⟩

def step (w : Watch) (e : SchedulerEvent) : Option Watch :=
  (w.scheduler.step thresholdSec e).map fun s => ⟨s,
    match e with
    | .others db => if row db = row w.scheduler.db then w.changed else s.now
    | _ => w.changed⟩

end Step

/-- The limits of a job of the scheduler. -/
def limits (j : JobName) (runUs lagUs : ℕ) (failures : ℕ) : Limits :=
  ⟨j.intervalSec * 1000000, runUs, lagUs, failures⟩

theorem limits_proper (j : JobName) (runUs lagUs failures : ℕ) : (limits j runUs lagUs failures).Proper where
  interval := by cases j <;> simp [limits, JobName.intervalSec]
  run := Int.natCast_nonneg _
  lag := Int.natCast_nonneg _

/-- The job is within its limits before and after the step. -/
def Timely (j : JobName) (l : Limits) (w : Watch) (_ : SchedulerEvent) (w' : Watch) : Prop :=
  (w.scheduler.jobs j).Timely l w.scheduler.now ∧ (w'.scheduler.jobs j).Timely l w'.scheduler.now

instance (j : JobName) (l : Limits) (w : Watch) (e : SchedulerEvent) (w' : Watch) :
    Decidable (Timely j l w e w') := by
  unfold Timely
  infer_instance

/-- Job `j` sweeps the row: after a run at `t` it is not due before `t`; and no other job
changes it. -/
structure Sweeps {ρ : Type} (thresholdSec : ℤ) (j : JobName) (row : Database → ρ) (due : ℤ → ρ → Option ℤ) :
    Prop where
  swept : ∀ changed t db, ∀ d ∈ due changed (row (j.fn thresholdSec t db)), t ≤ d
  kept : ∀ j' t db, j' ≠ j → row (j'.fn thresholdSec t db) = row db

section Sim

variable {ρ : Type} [DecidableEq ρ] {row : Database → ρ} {due : ℤ → ρ → Option ℤ} {thresholdSec : ℤ}
  {j : JobName}

/-- The loop of a job, and the row as its item. -/
def sweep (row : Database → ρ) (due : ℤ → ρ → Option ℤ) (j : JobName) (w : Watch) : Sweep :=
  ⟨w.scheduler.now, w.scheduler.jobs j, due w.changed (row w.scheduler.db), w.changed⟩

/-- **Each step is one of the loop and its item.** -/
theorem sweep_step (hj : Sweeps thresholdSec j row due) {l : Limits}
    (hl : l.interval = j.intervalSec * 1000000) {w w' : Watch} {e : SchedulerEvent}
    (h : step row thresholdSec w e = some w') :
    ∃ e', Sweep.step l (w.sweep row due j) e' = some (w'.sweep row due j) := by
  obtain ⟨s, hs, rfl⟩ := Option.map_eq_some_iff.1 h
  have hstay : Sweep.step l (w.sweep row due j) (.tick 0) = some (w.sweep row due j) := by
    simp [Sweep.step]
  cases e with
  | tick d =>
    cases hs
    exact ⟨.tick d, rfl⟩
  | others db =>
    cases hs
    by_cases hrow : row db = row w.scheduler.db
    · refine ⟨.tick 0, ?_⟩
      rw [hstay]
      simp [sweep, hrow]
    · refine ⟨.change (due w.scheduler.now (row db)), ?_⟩
      simp [Sweep.step, sweep, hrow]
  | begin j' =>
    obtain ⟨job, hjob, rfl⟩ := Option.map_eq_some_iff.1 hs
    by_cases hne : j' = j
    · subst hne
      refine ⟨.begin, ?_⟩
      simp [Sweep.step, sweep, hjob]
    · refine ⟨.tick 0, ?_⟩
      rw [hstay]
      simp [sweep, Function.update_of_ne (Ne.symm hne)]
  | commit j' =>
    obtain ⟨⟨t, job⟩, hjob, rfl⟩ := Option.map_eq_some_iff.1 hs
    by_cases hne : j' = j
    · subst hne
      refine ⟨.commit (due w.changed (row (j'.fn thresholdSec t w.scheduler.db))), ?_⟩
      have hleft := hj.swept w.changed t w.scheduler.db
      simp only [Sweep.step, sweep, hjob, Option.bind_eq_bind, Option.bind_some]
      rw [if_pos hleft]
      simp
    · refine ⟨.tick 0, ?_⟩
      rw [hstay]
      simp [sweep, Function.update_of_ne (Ne.symm hne), hj.kept j' t w.scheduler.db hne]
  | finish j' =>
    obtain ⟨job, hjob, rfl⟩ := Option.map_eq_some_iff.1 hs
    by_cases hne : j' = j
    · subst hne
      refine ⟨.finish, ?_⟩
      simp [Sweep.step, sweep, hl, hjob]
    · refine ⟨.tick 0, ?_⟩
      rw [hstay]
      simp [sweep, Function.update_of_ne (Ne.symm hne)]

theorem swept_in_time (hj : Sweeps thresholdSec j row due) (runUs lagUs failures : ℕ) (now : ℤ) (db : Database)
    (es : List SchedulerEvent)
    (ht : Along (step row thresholdSec) (Timely j (limits j runUs lagUs failures)) (start now db) es) :
    Always (step row thresholdSec)
      (fun w => Sweep.InTime (limits j runUs lagUs failures) (w.sweep row due j)) (start now db) es := by
  have hl := limits_proper j runUs lagUs failures
  refine Sweep.closed_in_time hl ?_ ?_ es ht
  · intro w e w' h
    exact sweep_step hj rfl h
  · exact Sweep.inv_init hl now _

end Sim

/-! ## Overdue commands -/

def commandRow (id : String) (db : Database) : Option Command := db.commands.find? id

/-- When a command that is still open is overdue. -/
def commandDue (_ : ℤ) (row : Option Command) : Option ℤ :=
  (row.filter fun cmd => cmd.status ∈ ["pending", "published"]).map (·.expiresAt)

theorem commandTimeout_sweeps (thresholdSec : ℤ) (id : String) :
    Sweeps thresholdSec .commandTimeout (commandRow id) commandDue where
  swept := by
    intro changed t db d hd
    obtain ⟨cmd, hcmd, rfl⟩ := Option.map_eq_some_iff.1 hd
    obtain ⟨hrow, hopen⟩ := Option.filter_eq_some_iff.1 hcmd
    simp only [JobName.fn, commandRow, Database.commandTimeout, Db.Table.find?_map] at hrow
    obtain ⟨old, -, rfl⟩ := Option.map_eq_some_iff.1 hrow
    unfold Server.commandTimeout at hopen ⊢
    split_ifs at hopen ⊢ with hdue
    · simp at hopen
    · by_contra hlate
      exact hdue ⟨of_decide_eq_true hopen, by omega⟩
  kept := by
    intro j' t db hne
    cases j' with
    | commandTimeout => exact absurd rfl hne
    | offlineDetector => rfl
    | partitionManager => rfl

/-- **Commands are closed in time.** -/
theorem commands_closed_in_time (thresholdSec : ℤ) (id : String) (runUs lagUs failures : ℕ) (now : ℤ)
    (db : Database) (es : List SchedulerEvent)
    (ht : Along (step (commandRow id) thresholdSec)
      (Timely .commandTimeout (limits .commandTimeout runUs lagUs failures)) (start now db) es) :
    Always (step (commandRow id) thresholdSec) (fun w => ∀ cmd,
      w.scheduler.db.commands.find? id = some cmd → cmd.status ∈ ["pending", "published"] →
      w.scheduler.now ≤ max cmd.expiresAt w.changed +
        (failures + 1) * (runUs + 10000000 + lagUs) + runUs) (start now db) es := by
  refine Always.imp ?_ (swept_in_time (commandTimeout_sweeps thresholdSec id) runUs lagUs failures now db es ht)
  intro w hw cmd hrow hopen
  have hdue : commandDue w.changed (commandRow id w.scheduler.db) = some cmd.expiresAt := by
    simp only [commandDue, commandRow, hrow]
    rw [Option.filter_some, if_pos (decide_eq_true hopen)]
    rfl
  have hle := hw cmd.expiresAt hdue
  simp only [sweep, Limits.latency, Limits.period, limits, JobName.intervalSec] at hle
  linarith

/-- One run of the job, a tenth of a second long. -/
def oneRun (j : JobName) : List SchedulerEvent := [.begin j, .tick 50000, .commit j, .tick 50000, .finish j]

/-- The run before the command expires leaves it, the next one closes it. -/
def overdueVent : List SchedulerEvent :=
  oneRun .commandTimeout ++ .tick 10000000 :: oneRun .commandTimeout

def ventDatabase : Database where
  toStore := ⟨.empty, .empty, [], .empty⟩
  commands := ⟨[⟨"cmd-1", 7, "published", 5000000, none⟩], by simp⟩

theorem vent_closed_in_time :
    Always (step (commandRow "cmd-1") 90) (fun w => ∀ cmd,
      w.scheduler.db.commands.find? "cmd-1" = some cmd → cmd.status ∈ ["pending", "published"] →
      w.scheduler.now ≤ max cmd.expiresAt w.changed +
        (((0 : ℕ) : ℤ) + 1) * (((200000 : ℕ) : ℤ) + 10000000 + ((1000 : ℕ) : ℤ)) + ((200000 : ℕ) : ℤ))
      (start 0 ventDatabase) overdueVent :=
  commands_closed_in_time 90 "cmd-1" 200000 1000 0 0 ventDatabase overdueVent (by decide +kernel)

/-! ## Silent gateways -/

def gatewayRow (gatewayId : UUID) (db : Database) : Option Gateway := db.gateways.find? gatewayId

/-- When a gateway that is online has been silent for the threshold; one that was never seen
is silent from the start. -/
def gatewayDue (thresholdSec changed : ℤ) (row : Option Gateway) : Option ℤ :=
  (row.filter fun gw => gw.status = "online").map fun gw =>
    (gw.lastSeenAt.map (· + thresholdSec * 1000000)).getD changed

theorem offlineDetector_sweeps (thresholdSec : ℤ) (gatewayId : UUID) :
    Sweeps thresholdSec .offlineDetector (gatewayRow gatewayId) (gatewayDue thresholdSec) where
  swept := by
    intro changed t db d hd
    obtain ⟨gw, hgw, rfl⟩ := Option.map_eq_some_iff.1 hd
    obtain ⟨hrow, honline⟩ := Option.filter_eq_some_iff.1 hgw
    simp only [JobName.fn, gatewayRow, Server.offlineDetector, Db.Table.find?_map] at hrow
    obtain ⟨old, -, rfl⟩ := Option.map_eq_some_iff.1 hrow
    unfold Gateway.detect at honline ⊢
    split_ifs at honline ⊢ with hsilent
    · simp at honline
    · cases hseen : old.lastSeenAt with
      | none => exact absurd ⟨of_decide_eq_true honline, by simp [hseen]⟩ hsilent
      | some seen =>
        have hrecent : ¬ seen < t - thresholdSec * 1000000 := by
          intro hlt
          exact hsilent ⟨of_decide_eq_true honline, by simpa [hseen] using hlt⟩
        simp only [Option.map_some, Option.getD_some]
        omega
  kept := by
    intro j' t db hne
    cases j' with
    | offlineDetector => exact absurd rfl hne
    | commandTimeout => rfl
    | partitionManager => rfl

/-- **A silence is noticed in time.** -/
theorem silence_noticed_in_time (thresholdSec : ℤ) (gatewayId : UUID) (runUs lagUs failures : ℕ) (now : ℤ)
    (db : Database) (es : List SchedulerEvent)
    (ht : Along (step (gatewayRow gatewayId) thresholdSec)
      (Timely .offlineDetector (limits .offlineDetector runUs lagUs failures)) (start now db) es) :
    Always (step (gatewayRow gatewayId) thresholdSec) (fun w => ∀ gw,
      w.scheduler.db.gateways.find? gatewayId = some gw → gw.status = "online" →
      w.scheduler.now ≤ max ((gw.lastSeenAt.map (· + thresholdSec * 1000000)).getD w.changed) w.changed +
        (failures + 1) * (runUs + 30000000 + lagUs) + runUs) (start now db) es := by
  refine Always.imp ?_ (swept_in_time (offlineDetector_sweeps thresholdSec gatewayId) runUs lagUs failures
    now db es ht)
  intro w hw gw hrow honline
  have hdue : gatewayDue thresholdSec w.changed (gatewayRow gatewayId w.scheduler.db) =
      some ((gw.lastSeenAt.map (· + thresholdSec * 1000000)).getD w.changed) := by
    simp only [gatewayDue, gatewayRow, hrow]
    rw [Option.filter_some, if_pos (decide_eq_true honline)]
    rfl
  have hle := hw _ hdue
  simp only [sweep, Limits.latency, Limits.period, limits, JobName.intervalSec] at hle
  linarith

def onlineDatabase : Database where
  toStore := ⟨⟨[⟨7, "GW-1", 3, none, "online", none, none, 0, some 0⟩], by simp⟩, .empty, [], .empty⟩
  commands := .empty

/-- Seen when the scheduler starts, and then silent; the third run raises, the fourth marks
it offline. -/
def silentBarn : List SchedulerEvent :=
  oneRun .offlineDetector ++ .tick 30000000 :: oneRun .offlineDetector ++
    [.tick 30000000, .begin .offlineDetector, .finish .offlineDetector, .tick 30000000] ++
    oneRun .offlineDetector

theorem barn_noticed_in_time :
    Always (step (gatewayRow 7) 90) (fun w => ∀ gw,
      w.scheduler.db.gateways.find? 7 = some gw → gw.status = "online" →
      w.scheduler.now ≤ max ((gw.lastSeenAt.map (· + 90 * 1000000)).getD w.changed) w.changed +
        (((1 : ℕ) : ℤ) + 1) * (((200000 : ℕ) : ℤ) + 30000000 + ((1000 : ℕ) : ℤ)) + ((200000 : ℕ) : ℤ))
      (start 0 onlineDatabase) silentBarn :=
  silence_noticed_in_time 90 7 200000 1000 1 0 onlineDatabase silentBarn (by decide +kernel)

end Watch

end Server
