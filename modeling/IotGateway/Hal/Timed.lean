import IotGateway.Hal.Serial
import Mathlib.Algebra.BigOperators.Group.List.Basic
import Mathlib.Algebra.Order.Field.Rat
import Mathlib.Tactic.Linarith

/-!
# The time a read takes

`read_with_timeout` of `rs485.c` once more, now with the time that passes in its `select`
calls. `timeout_ms` is the time to wait for the reply, but the `timeval` is made anew in
every round.

* `timedRounds_untimed`: without the times it is `readRounds`.
* `timedRounds_inTime`: by induction over the rounds, with the time that is left.
* `timedReadWithTimeout_keepsTimeout_iff`: **the timeout holds exactly of a read that is over
  in time, and of a line on which nothing has happened.**
-/

namespace Hal

/-- `struct timeval` -/
structure Timeval where
  tvSec : ℕ
  tvUsec : ℕ
deriving DecidableEq, Repr

/-- The `tv` of a round. -/
def timeval (timeoutMs : ℕ) : Timeval := ⟨timeoutMs / 1000, timeoutMs % 1000 * 1000⟩

/-- Its microseconds. -/
def Timeval.span (tv : Timeval) : ℚ := tv.tvSec * 1000000 + tv.tvUsec

theorem timeval_span (timeoutMs : ℕ) : (timeval timeoutMs).span = timeoutMs * 1000 := by
  have h := Nat.div_add_mod timeoutMs 1000
  have hq : (1000 : ℚ) * (timeoutMs / 1000 : ℕ) + (timeoutMs % 1000 : ℕ) = timeoutMs := by
    exact_mod_cast h
  simp only [timeval, Timeval.span, Nat.cast_mul, Nat.cast_ofNat]
  linarith

theorem span_nonneg (timeoutMs : ℕ) : 0 ≤ (timeval timeoutMs).span := by
  rw [timeval_span]
  positivity

/-- A round whose `select` does not expire, with the time it waits. -/
structure Round (timeoutMs : ℕ) where
  turn : Turn
  delay : ℚ
  nonneg : 0 ≤ delay
  inside : delay ≤ (timeval timeoutMs).span

/-- What is there already is not waited for. -/
def Round.atOnce (timeoutMs : ℕ) (turn : Turn) : Round timeoutMs :=
  ⟨turn, 0, le_rfl, span_nonneg timeoutMs⟩

/-- What a call leaves: the time it took, its result, the buffer and the rest of the line. -/
abbrev Timed (timeoutMs : ℕ) : Type := ℚ × ℤ × List Byte × List (Round timeoutMs)

/-- The call took `delay` more. -/
def later {timeoutMs : ℕ} (delay : ℚ) (r : Timed timeoutMs) : Timed timeoutMs :=
  (delay + r.1, r.2)

/-- The loop of `read_with_timeout`, as in `readRounds` for a descriptor that `FD_SET` has room
for. After the last round the line is silent, and `select` waits for the whole of its `tv`. -/
def timedRounds (timeoutMs off want got : ℕ) (resp : List Byte) :
    List (Round timeoutMs) → Option (Timed timeoutMs)
  | [] =>
    if got < want then some ((timeval timeoutMs).span, gwErrTimeout, resp, [])
    else some (0, got, resp, [])
  | round :: rounds =>
    if got < want then
      match round.turn with
      | .selectFails errno =>
        if errno = .eintr then
          (timedRounds timeoutMs off want got resp rounds).map (later round.delay)
        else some (round.delay, gwErrIo, resp, rounds)
      | .readFails errno =>
        if errno = .eintr ∨ errno = .eagain then
          (timedRounds timeoutMs off want got resp rounds).map (later round.delay)
        else some (round.delay, gwErrIo, resp, rounds)
      | .arrives chunk => do
        let resp ← store resp (off + got) (want - got) (chunk.take (want - got))
        if chunk = [] then some (round.delay, gwErrIo, resp, rounds)
        else if chunk.length ≤ want - got then
          (timedRounds timeoutMs off want (got + chunk.length) resp rounds).map
            (later round.delay)
        else some (round.delay, want, resp,
          .atOnce timeoutMs (.arrives (chunk.drop (want - got))) :: rounds)
    else some (0, got, resp, round :: rounds)

/-- `read_with_timeout(fd, resp + off, want, timeout_ms)` -/
def timedReadWithTimeout (off want timeoutMs : ℕ) (resp : List Byte)
    (rounds : List (Round timeoutMs)) : Option (Timed timeoutMs) :=
  timedRounds timeoutMs off want 0 resp rounds

/-- Without the times. -/
def untimed {timeoutMs : ℕ} (r : Timed timeoutMs) : ℤ × List Byte × List Turn :=
  (r.2.1, r.2.2.1, r.2.2.2.map Round.turn)

section Loop

variable {timeoutMs off want got : ℕ} {resp : List Byte} {round : Round timeoutMs}
  {rounds : List (Round timeoutMs)}

@[simp] theorem untimed_later (delay : ℚ) (r : Timed timeoutMs) :
    untimed (later delay r) = untimed r := rfl

/-- **Without the times it is the loop as before.** -/
theorem timedRounds_untimed {fd : ℤ} (hset : fd < fdSetSize) :
    (timedRounds timeoutMs off want got resp rounds).map untimed =
      readRounds fd off want got resp (rounds.map Round.turn) := by
  have hlater (delay : ℚ) (o : Option (Timed timeoutMs)) :
      (o.map (later delay)).map untimed = o.map untimed := by
    rw [Option.map_map]
    rfl
  induction rounds generalizing got resp with
  | nil =>
    rw [List.map_nil, timedRounds, readRounds, if_pos hset]
    split_ifs <;> rfl
  | cons round rounds ih =>
    obtain ⟨turn, delay, hd, hle⟩ := round
    rw [List.map_cons]
    by_cases hmore : got < want
    · cases turn with
      | selectFails errno =>
        simp only [timedRounds, readRounds, if_pos hmore, if_pos hset]
        split_ifs
        · rw [hlater, ih]
        · rfl
      | readFails errno =>
        simp only [timedRounds, readRounds, if_pos hmore, if_pos hset]
        split_ifs
        · rw [hlater, ih]
        · rfl
      | arrives chunk =>
        simp only [timedRounds, readRounds, if_pos hmore, if_pos hset]
        cases store resp (off + got) (want - got) (chunk.take (want - got)) with
        | none => rfl
        | some resp' =>
          simp only [Option.bind_eq_bind, Option.bind_some]
          split_ifs
          · rfl
          · rw [hlater, ih]
          · rfl
    · rw [timedRounds, if_neg hmore, readRounds_done (by omega)]
      rfl

theorem timedRounds_done (hdone : want ≤ got) :
    timedRounds timeoutMs off want got resp rounds = some (0, (got : ℤ), resp, rounds) := by
  cases rounds with
  | nil => rw [timedRounds, if_neg (by omega)]
  | cons round rounds => rw [timedRounds, if_neg (by omega)]

/-- A call that fails ends the loop at once. -/
theorem timedRounds_fails (rounds : List (Round timeoutMs)) (hmore : got < want)
    (hin : off + want ≤ resp.length) (hfails : ¬ round.turn.Passes) :
    ∃ resp', timedRounds timeoutMs off want got resp (round :: rounds) =
      some (round.delay, gwErrIo, resp', rounds) := by
  obtain ⟨turn, delay, hd, hle⟩ := round
  cases turn with
  | selectFails errno =>
    refine ⟨resp, ?_⟩
    simp only [timedRounds, if_pos hmore]
    exact if_neg hfails
  | readFails errno =>
    refine ⟨resp, ?_⟩
    simp only [timedRounds, if_pos hmore]
    exact if_neg hfails
  | arrives chunk =>
    have hempty : chunk = [] := not_not.mp hfails
    simp only [timedRounds, if_pos hmore, Option.bind_eq_bind]
    rw [store_eq (by omega), Option.bind_some, if_pos hempty]
    exact ⟨_, rfl⟩

/-- A round that brings too little is followed by the next, with the whole timeout again. -/
theorem timedRounds_goes_on (rounds : List (Round timeoutMs)) (hin : off + want ≤ resp.length)
    (hpass : round.turn.Passes) (hfew : got + round.turn.bytes.length < want) :
    ∃ resp', resp'.length = resp.length ∧
      timedRounds timeoutMs off want got resp (round :: rounds) =
        (timedRounds timeoutMs off want (got + round.turn.bytes.length) resp' rounds).map
          (later round.delay) := by
  have hmore : got < want := by omega
  obtain ⟨turn, delay, hd, hle⟩ := round
  cases turn with
  | selectFails errno =>
    refine ⟨resp, rfl, ?_⟩
    simp only [timedRounds, if_pos hmore]
    exact if_pos hpass
  | readFails errno =>
    refine ⟨resp, rfl, ?_⟩
    simp only [timedRounds, if_pos hmore]
    exact if_pos hpass
  | arrives chunk =>
    have hb : (Turn.arrives chunk).bytes = chunk := rfl
    simp only [hb] at hfew ⊢
    have hfit : chunk.length ≤ want - got := by omega
    refine ⟨resp.take (off + got) ++ chunk ++ resp.drop (off + (got + chunk.length)),
      length_stored chunk (by omega), ?_⟩
    simp only [timedRounds, if_pos hmore, Option.bind_eq_bind]
    rw [List.take_of_length_le hfit, store_eq (by omega), Option.bind_some, if_neg hpass,
      if_pos hfit, Nat.add_assoc]

/-- One that brings what is missing is the last. -/
theorem timedRounds_completes (rounds : List (Round timeoutMs)) (hmore : got < want)
    (hin : off + want ≤ resp.length) (hpass : round.turn.Passes)
    (henough : want ≤ got + round.turn.bytes.length) :
    ∃ resp' rest, timedRounds timeoutMs off want got resp (round :: rounds) =
      some (round.delay, (want : ℤ), resp', rest) := by
  have hsome : round.turn.bytes ≠ [] := List.ne_nil_of_length_pos (by omega)
  obtain ⟨turn, delay, hd, hle⟩ := round
  obtain ⟨chunk, hne, rfl⟩ := Turn.exists_arrives hsome
  have hb : (Turn.arrives chunk).bytes = chunk := rfl
  simp only [hb] at henough
  simp only [timedRounds, if_pos hmore, Option.bind_eq_bind]
  rw [store_eq (by omega), Option.bind_some, if_neg hne]
  by_cases hfit : chunk.length ≤ want - got
  · have hend : got + chunk.length = want := by omega
    rw [if_pos hfit, hend, timedRounds_done le_rfl, Option.map_some, later, add_zero]
    exact ⟨_, _, rfl⟩
  · rw [if_neg hfit]
    exact ⟨_, _, rfl⟩

end Loop

/-! ### What the timeout is for -/

section Deadline

variable {timeoutMs : ℕ}

/-- The time that passes in the rounds. -/
def waited (rounds : List (Round timeoutMs)) : ℚ := (rounds.map Round.delay).sum

/-- How many bytes they bring. -/
def arrived (rounds : List (Round timeoutMs)) : ℕ :=
  (received (rounds.map Round.turn)).length

/-- How many bytes of the line come before the time `limit` is over, up to a call that
fails. -/
def arrivedWithin (limit : ℚ) : List (Round timeoutMs) → ℕ
  | [] => 0
  | round :: rounds =>
    if round.turn.Passes ∧ round.delay ≤ limit then
      round.turn.bytes.length + arrivedWithin (limit - round.delay) rounds
    else 0

/-- The bytes that are missing are there before the time `limit` is over. -/
def Completes (missing : ℕ) (limit : ℚ) (rounds : List (Round timeoutMs)) : Prop :=
  ∃ before after, rounds = before ++ after ∧ (∀ r ∈ before, r.turn.Passes) ∧
    missing ≤ arrived before ∧ waited before ≤ limit

/-- A `select` or a `read` fails before, and the call with it. -/
def Fails (missing : ℕ) (limit : ℚ) (rounds : List (Round timeoutMs)) : Prop :=
  ∃ before round after, rounds = before ++ round :: after ∧ (∀ r ∈ before, r.turn.Passes) ∧
    ¬ round.turn.Passes ∧ arrived before < missing ∧ waited before + round.delay ≤ limit

/-- Too little comes, nothing fails, and the last `select` expires before. -/
def RunsOut (missing : ℕ) (limit : ℚ) (rounds : List (Round timeoutMs)) : Prop :=
  (∀ r ∈ rounds, r.turn.Passes) ∧ arrived rounds < missing ∧
    waited rounds + (timeval timeoutMs).span ≤ limit

@[simp] theorem waited_nil : waited ([] : List (Round timeoutMs)) = 0 := rfl

@[simp] theorem waited_cons (round : Round timeoutMs) (rounds : List (Round timeoutMs)) :
    waited (round :: rounds) = round.delay + waited rounds := List.sum_cons

@[simp] theorem arrived_nil : arrived ([] : List (Round timeoutMs)) = 0 := rfl

@[simp] theorem arrived_cons (round : Round timeoutMs) (rounds : List (Round timeoutMs)) :
    arrived (round :: rounds) = round.turn.bytes.length + arrived rounds := List.length_append

variable {missing : ℕ} {limit : ℚ} {round : Round timeoutMs} {rounds : List (Round timeoutMs)}

theorem waited_nonneg (rounds : List (Round timeoutMs)) : 0 ≤ waited rounds := by
  induction rounds with
  | nil => exact le_rfl
  | cons round rounds ih =>
    rw [waited_cons]
    exact add_nonneg round.nonneg ih

/-! The conditions round by round. -/

theorem Completes.limit_nonneg (h : Completes missing limit rounds) : 0 ≤ limit := by
  obtain ⟨before, after, -, -, -, hle⟩ := h
  exact (waited_nonneg before).trans hle

theorem completes_of_le (h : 0 ≤ limit) : Completes 0 limit rounds :=
  ⟨[], rounds, rfl, fun _ hr => (nomatch hr), Nat.zero_le _, h⟩

theorem not_completes_nil (hpos : 0 < missing) :
    ¬ Completes missing limit ([] : List (Round timeoutMs)) := by
  rintro ⟨before, after, heq, -, henough, -⟩
  obtain ⟨rfl, -⟩ := List.append_eq_nil_iff.mp heq.symm
  rw [arrived_nil] at henough
  omega

theorem completes_cons (hpos : 0 < missing) :
    Completes missing limit (round :: rounds) ↔ round.turn.Passes ∧
      Completes (missing - round.turn.bytes.length) (limit - round.delay) rounds := by
  constructor
  · rintro ⟨before, after, heq, hpass, henough, hle⟩
    cases before with
    | nil =>
      rw [arrived_nil] at henough
      omega
    | cons first before =>
      obtain ⟨rfl, rfl⟩ := List.cons.inj heq
      rw [arrived_cons] at henough
      rw [waited_cons] at hle
      exact ⟨hpass _ List.mem_cons_self, before, after, rfl,
        fun r hr => hpass r (List.mem_cons_of_mem _ hr), by omega, by linarith⟩
  · rintro ⟨hfirst, before, after, rfl, hpass, henough, hle⟩
    refine ⟨round :: before, after, rfl, List.forall_mem_cons.mpr ⟨hfirst, hpass⟩, ?_, ?_⟩
    · rw [arrived_cons]
      omega
    · rw [waited_cons]
      linarith

theorem not_fails_nil : ¬ Fails missing limit ([] : List (Round timeoutMs)) := by
  rintro ⟨before, round, after, heq, -⟩
  exact absurd heq.symm (List.append_ne_nil_of_right_ne_nil _ (List.cons_ne_nil _ _))

theorem fails_cons (hpos : 0 < missing) :
    Fails missing limit (round :: rounds) ↔
      (¬ round.turn.Passes ∧ round.delay ≤ limit) ∨
      (round.turn.Passes ∧
        Fails (missing - round.turn.bytes.length) (limit - round.delay) rounds) := by
  constructor
  · rintro ⟨before, last, after, heq, hpass, hfails, hfew, hle⟩
    cases before with
    | nil =>
      obtain ⟨rfl, rfl⟩ := List.cons.inj heq
      rw [waited_nil, zero_add] at hle
      exact .inl ⟨hfails, hle⟩
    | cons first before =>
      obtain ⟨rfl, rfl⟩ := List.cons.inj heq
      rw [arrived_cons] at hfew
      rw [waited_cons] at hle
      exact .inr ⟨hpass _ List.mem_cons_self, before, last, after, rfl,
        fun r hr => hpass r (List.mem_cons_of_mem _ hr), hfails, by omega, by linarith⟩
  · rintro (⟨hfails, hle⟩ | ⟨hfirst, before, last, after, rfl, hpass, hfails, hfew, hle⟩)
    · refine ⟨[], round, rounds, rfl, fun _ hr => (nomatch hr), hfails, hpos, ?_⟩
      rw [waited_nil, zero_add]
      exact hle
    · refine ⟨round :: before, last, after, rfl, List.forall_mem_cons.mpr ⟨hfirst, hpass⟩,
        hfails, ?_, ?_⟩
      · rw [arrived_cons]
        omega
      · rw [waited_cons]
        linarith

theorem runsOut_cons :
    RunsOut missing limit (round :: rounds) ↔ round.turn.Passes ∧
      RunsOut (missing - round.turn.bytes.length) (limit - round.delay) rounds := by
  simp only [RunsOut, List.forall_mem_cons, waited_cons, arrived_cons]
  constructor
  · rintro ⟨⟨hfirst, hpass⟩, hfew, hle⟩
    exact ⟨hfirst, hpass, by omega, by linarith⟩
  · rintro ⟨hfirst, hpass, hfew, hle⟩
    exact ⟨⟨hfirst, hpass⟩, by omega, by linarith⟩

/-- Too few bytes in time: they are not complete in time. -/
theorem arrivedWithin_lt_iff (hpos : 0 < missing) :
    arrivedWithin limit rounds < missing ↔ ¬ Completes missing limit rounds := by
  induction rounds generalizing missing limit with
  | nil => exact iff_of_true hpos (not_completes_nil hpos)
  | cons round rounds ih =>
    rw [arrivedWithin, completes_cons hpos]
    by_cases hin : round.turn.Passes ∧ round.delay ≤ limit
    · rw [if_pos hin]
      by_cases hlast : missing ≤ round.turn.bytes.length
      · have hall : Completes (missing - round.turn.bytes.length) (limit - round.delay) rounds := by
          rw [Nat.sub_eq_zero_of_le hlast]
          exact completes_of_le (sub_nonneg.mpr hin.2)
        exact iff_of_false (by omega) (not_not_intro ⟨hin.1, hall⟩)
      · rw [and_iff_right hin.1, ← ih (by omega)]
        omega
    · rw [if_neg hin]
      refine iff_of_true hpos ?_
      rintro ⟨hpass, hrest⟩
      exact hin ⟨hpass, sub_nonneg.mp hrest.limit_nonneg⟩

/-! ### How a call ends -/

variable {off want got : ℕ} {resp : List Byte}

theorem natCast_ne_gwErr (n : ℕ) : (n : ℤ) ≠ gwErrTimeout ∧ (n : ℤ) ≠ gwErrIo := by
  unfold gwErrTimeout gwErrIo
  omega

/-- **What a call returns, and when**, told from what happens on the line. -/
theorem timedRounds_outcome (rounds : List (Round timeoutMs)) (hgot : got < want)
    (hin : off + want ≤ resp.length) :
    ∃ r, timedRounds timeoutMs off want got resp rounds = some r ∧
      (r.2.1 = want ∨ r.2.1 = gwErrTimeout ∨ r.2.1 = gwErrIo) ∧
      ∀ limit : ℚ,
        (r.1 ≤ limit ∧ r.2.1 = want ↔ Completes (want - got) limit rounds) ∧
        (r.1 ≤ limit ∧ r.2.1 = gwErrTimeout ↔ RunsOut (want - got) limit rounds) ∧
        (r.1 ≤ limit ∧ r.2.1 = gwErrIo ↔ Fails (want - got) limit rounds) := by
  obtain ⟨hwt, hwi⟩ := natCast_ne_gwErr want
  have hti : gwErrTimeout ≠ gwErrIo := by decide
  have hmissing : 0 < want - got := by omega
  induction rounds generalizing got resp with
  | nil =>
    refine ⟨_, by rw [timedRounds, if_pos hgot], .inr (.inl rfl), fun limit => ⟨?_, ?_, ?_⟩⟩
    · exact iff_of_false (fun h => hwt h.2.symm) (not_completes_nil hmissing)
    · simp [RunsOut, hgot]
    · exact iff_of_false (fun h => hti h.2) not_fails_nil
  | cons round rounds ih =>
    by_cases hpass : round.turn.Passes
    · by_cases hlast : want ≤ got + round.turn.bytes.length
      · obtain ⟨resp', rest, hrun⟩ := timedRounds_completes rounds hgot hin hpass hlast
        have hover : want - got - round.turn.bytes.length = 0 := by omega
        refine ⟨_, hrun, .inl rfl, fun limit => ⟨?_, ?_, ?_⟩⟩
        · rw [completes_cons hmissing, hover, and_iff_left rfl, and_iff_right hpass]
          exact ⟨fun h => completes_of_le (sub_nonneg.mpr h),
            fun h => sub_nonneg.mp h.limit_nonneg⟩
        · refine iff_of_false (fun h => hwt h.2) ?_
          rintro ⟨-, hfew, -⟩
          rw [arrived_cons] at hfew
          omega
        · refine iff_of_false (fun h => hwi h.2) fun h => ?_
          rcases (fails_cons hmissing).mp h with ⟨hno, -⟩ | ⟨-, h⟩
          · exact hno hpass
          · obtain ⟨before, last, after, -, -, -, hfew, -⟩ := h
            omega
      · have hfew : got + round.turn.bytes.length < want := Nat.not_le.mp hlast
        obtain ⟨resp', hlen, hrun⟩ := timedRounds_goes_on rounds hin hpass hfew
        obtain ⟨r, hr, hrc, hlim⟩ := @ih (got + round.turn.bytes.length) resp' hfew
          (hlen ▸ hin) (by omega)
        refine ⟨later round.delay r, by rw [hrun, hr]; rfl, hrc, fun limit => ?_⟩
        obtain ⟨hc, ho, hf⟩ := hlim (limit - round.delay)
        have hle : (later round.delay r).1 ≤ limit ↔ r.1 ≤ limit - round.delay :=
          le_sub_iff_add_le'.symm
        have hrc' : (later round.delay r).2.1 = r.2.1 := rfl
        rw [hle, hrc', completes_cons hmissing, runsOut_cons, fails_cons hmissing, Nat.sub_sub]
        refine ⟨?_, ?_, ?_⟩
        · rw [hc, and_iff_right hpass]
        · rw [ho, and_iff_right hpass]
        · rw [hf, and_iff_right hpass, or_iff_right fun h => h.1 hpass]
    · obtain ⟨resp', hrun⟩ := timedRounds_fails rounds hgot hin hpass
      refine ⟨_, hrun, .inr (.inr rfl), fun limit => ⟨?_, ?_, ?_⟩⟩
      · exact iff_of_false (fun h => hwi h.2.symm)
          (fun h => hpass ((completes_cons hmissing).mp h).1)
      · exact iff_of_false (fun h => hti h.2.symm) (fun h => hpass (runsOut_cons.mp h).1)
      · rw [fails_cons hmissing, and_iff_left rfl]
        constructor
        · exact fun h => .inl ⟨hpass, h⟩
        · rintro (h | h)
          · exact h.2
          · exact absurd h.1 hpass

/-- Nothing on the line is waited for, and then too little is there. -/
def Silent (want : ℕ) (rounds : List (Round timeoutMs)) : Prop :=
  (∀ r ∈ rounds, r.turn.Passes) ∧ arrived rounds < want ∧ waited rounds = 0

theorem runsOut_span {want : ℕ} :
    RunsOut want (timeval timeoutMs).span rounds ↔ Silent want rounds := by
  have hnonneg := waited_nonneg rounds
  rw [RunsOut, Silent, add_le_iff_nonpos_left]
  constructor
  · rintro ⟨hpass, hfew, hle⟩
    exact ⟨hpass, hfew, le_antisymm hle hnonneg⟩
  · rintro ⟨hpass, hfew, heq⟩
    exact ⟨hpass, hfew, heq.le⟩

/-- The call was over in time and, unless a `select` or a `read` failed, said so when too
few bytes had come in time. -/
def KeepsTimeout (want : ℕ) (rounds : List (Round timeoutMs)) (r : Timed timeoutMs) : Prop :=
  r.1 ≤ (timeval timeoutMs).span ∧
    (arrivedWithin (timeval timeoutMs).span rounds < want → r.2.1 ≠ gwErrIo →
      r.2.1 = gwErrTimeout)

/-- The same without the exception for a call that fails. -/
def KeepsToTheLetter (want : ℕ) (rounds : List (Round timeoutMs)) (r : Timed timeoutMs) : Prop :=
  r.1 ≤ (timeval timeoutMs).span ∧
    (arrivedWithin (timeval timeoutMs).span rounds < want → r.2.1 = gwErrTimeout)

/-- **The timeout covers the read exactly when it is over in time or nothing was waited for**:
every wait before the last one comes on top of the timeout of the last. -/
theorem timedReadWithTimeout_keepsTimeout_iff (hin : off + want ≤ resp.length) :
    ∃ r, timedReadWithTimeout off want timeoutMs resp rounds = some r ∧
      (KeepsTimeout want rounds r ↔ Completes want (timeval timeoutMs).span rounds ∨
        Fails want (timeval timeoutMs).span rounds ∨ Silent want rounds) ∧
      (KeepsToTheLetter want rounds r ↔
        Completes want (timeval timeoutMs).span rounds ∨ Silent want rounds) := by
  rcases Nat.eq_zero_or_pos want with rfl | hpos
  · have hall : Completes 0 (timeval timeoutMs).span rounds :=
      completes_of_le (span_nonneg timeoutMs)
    refine ⟨_, timedRounds_done le_rfl, iff_of_true ?_ (.inl hall), iff_of_true ?_ (.inl hall)⟩
    · exact ⟨span_nonneg timeoutMs, fun h => absurd h (Nat.not_lt_zero _)⟩
    · exact ⟨span_nonneg timeoutMs, fun h => absurd h (Nat.not_lt_zero _)⟩
  · obtain ⟨r, hrun, hrc, hlim⟩ := timedRounds_outcome rounds hpos hin
    obtain ⟨hc, ho, hf⟩ := hlim (timeval timeoutMs).span
    rw [Nat.sub_zero] at hc ho hf
    have hti : gwErrTimeout ≠ gwErrIo := by decide
    refine ⟨r, hrun, ?_, ?_⟩
    · rw [KeepsTimeout, arrivedWithin_lt_iff hpos, ← runsOut_span, ← ho, ← hf]
      by_cases hdone : Completes want (timeval timeoutMs).span rounds
      · exact iff_of_true ⟨(hc.mpr hdone).1, fun h => absurd hdone h⟩ (.inl hdone)
      · have hno : ¬ (r.1 ≤ (timeval timeoutMs).span ∧ r.2.1 = want) := fun h => hdone (hc.mp h)
        constructor
        · rintro ⟨hle, hrest⟩
          by_cases hio : r.2.1 = gwErrIo
          · exact .inr (.inl ⟨hle, hio⟩)
          · exact .inr (.inr ⟨hle, hrest hdone hio⟩)
        · rintro (h | ⟨hle, hio⟩ | ⟨hle, hout⟩)
          · exact absurd h hdone
          · exact ⟨hle, fun _ h => absurd hio h⟩
          · exact ⟨hle, fun _ _ => hout⟩
    · rw [KeepsToTheLetter, arrivedWithin_lt_iff hpos, ← runsOut_span, ← ho]
      by_cases hdone : Completes want (timeval timeoutMs).span rounds
      · exact iff_of_true ⟨(hc.mpr hdone).1, fun h => absurd hdone h⟩ (.inl hdone)
      · constructor
        · rintro ⟨hle, hrest⟩
          exact .inr ⟨hle, hrest hdone⟩
        · rintro (h | ⟨hle, hout⟩)
          · exact absurd h hdone
          · exact ⟨hle, fun _ => hout⟩

end Deadline

/-- A reply of two bytes, each of them 900 ms after the one before. -/
def slowReply : List (Round 1000) :=
  [⟨.arrives [0x01], 900000, by norm_num, by rw [timeval_span]; norm_num⟩,
    ⟨.arrives [0x03], 900000, by norm_num, by rw [timeval_span]; norm_num⟩]

/-- With a timeout of one second the call takes 1.8 s and succeeds, although only the first
byte came in time. -/
theorem slowReply_overruns :
    ∃ r, timedReadWithTimeout 0 2 1000 [0, 0] slowReply = some r ∧
      r.1 = 1800000 ∧ r.2.1 = 2 ∧ arrivedWithin (timeval 1000).span slowReply = 1 ∧
      ¬ KeepsTimeout 2 slowReply r := by
  refine ⟨(1800000, 2, [0x01, 0x03], []), ?_, rfl, rfl, ?_, ?_⟩
  · simp only [timedReadWithTimeout, slowReply, timedRounds, store]
    norm_num [later]
  · decide +kernel
  · rintro ⟨hle, -⟩
    rw [timeval_span] at hle
    norm_num at hle

theorem timedReadWithTimeout_slowReply :
    ∃ r, timedReadWithTimeout 0 2 1000 [0, 0] slowReply = some r ∧
      (KeepsTimeout 2 slowReply r ↔ Completes 2 (timeval 1000).span slowReply ∨
        Fails 2 (timeval 1000).span slowReply ∨ Silent 2 slowReply) ∧
      (KeepsToTheLetter 2 slowReply r ↔
        Completes 2 (timeval 1000).span slowReply ∨ Silent 2 slowReply) :=
  timedReadWithTimeout_keepsTimeout_iff (by decide)

end Hal
