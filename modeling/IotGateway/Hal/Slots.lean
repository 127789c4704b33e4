import IotGateway.Hal.Threads

/-!
# The slot table, one call at a time

`platform_pi4.c` again, now with the levels of the lines, when its functions are called one
after the other. What the table should hold is read off the answers of the calls: `grants`.

* `request_cases`: a request grants a line, or it changes nothing that is reserved.
* `Kept.invoke`: every call keeps the table and the answers together.
* `sound_of_calls`: **in every state that is reached the table is sound.**
-/

namespace Hal.Slots

open Threads

/-- A call, and how libgpiod answers. In `gw_gpio_assert_safe_state` it may answer differently
on each line: `reaches` says on which ones the write succeeds. -/
structure GpioCall where
  fn : Fn
  lib : Lib
  reaches : Line → Bool

/-- The lines on which `gpiod_line_set_value` succeeds. -/
def GpioCall.writes (c : GpioCall) (l : Line) : Bool :=
  match c.fn with
  | .set .. => c.lib.sets
  | _ => c.reaches l

/-- What a call of libgpiod does to the levels of the lines, named by their offsets. -/
def drive (writes : Line → Bool) (level : ℤ → ℤ) : LibCall → ℤ → ℤ
  | .lineRequestOutput (some l) value true => Function.update level l.offset value
  | .lineSetValue (some l) value =>
    if writes l then Function.update level l.offset value else level
  | _ => level

structure Session where
  mem : Memory
  level : ℤ → ℤ

namespace Session

/-- The program's start. -/
def start (level : ℤ → ℤ) : Session := ⟨State.start.mem, level⟩

/-- A call from its start to its return. -/
def invoke (s : Session) (c : GpioCall) : ℤ × Session :=
  match c.fn.early s.mem.initialized with
  | some rc => (rc, s)
  | none =>
    let (rc, mem) := c.fn.locked c.lib s.mem
    (rc, ⟨mem, (mem.calls.drop s.mem.calls.length).foldl (drive c.writes) s.level⟩)

/-- The calls of libgpiod that it makes. -/
def newCalls (s : Session) (c : GpioCall) : List LibCall :=
  (s.invoke c).2.mem.calls.drop s.mem.calls.length

/-- The state after the calls, and what they returned. -/
def run : Session → List GpioCall → Session × List (Fn × ℤ)
  | s, [] => (s, [])
  | s, c :: cs =>
    let (rc, s') := s.invoke c
    let (last, answers) := run s' cs
    (last, (c.fn, rc) :: answers)

end Session

/-- The occupied slots: pin, and whether it is an output. -/
def reserved (m : Memory) : List (ℤ × Bool) :=
  m.lines.filterMap fun s => s.line.map fun _ => (s.pin, s.isOutput)

/-! ### What the table is for -/

/-- What is reserved, with its direction: nothing (`none`) before a `gw_gpio_init` succeeds and
after a cleanup; then what was granted since. -/
def grants (granted : Option (List (ℤ × Bool))) : Fn × ℤ → Option (List (ℤ × Bool))
  | (.init, rc) => if rc = gwOk then some (granted.getD []) else granted
  | (.cleanup, _) => none
  | (.requestOutput pin _, rc) => if rc = gwOk then granted.map ((pin, true) :: ·) else granted
  | (.requestInput pin _, rc) => if rc = gwOk then granted.map ((pin, false) :: ·) else granted
  | _ => granted

/-- The pins whose request returned `GW_OK` since the last `gw_gpio_init` that did, also when
that found the library initialised, or a cleanup came after. -/
def okSinceInit (pins : List ℤ) : Fn × ℤ → List ℤ
  | (.init, rc) => if rc = gwOk then [] else pins
  | (.requestOutput pin _, rc) => if rc = gwOk then pin :: pins else pins
  | (.requestInput pin _, rc) => if rc = gwOk then pin :: pins else pins
  | _ => pins

/-- A request of a pin, for output or for input. -/
def Asks (pin : ℤ) : Fn → Prop
  | .requestOutput p value => p = pin ∧ (value = 0 ∨ value = 1)
  | .requestInput p _ => p = pin
  | _ => False

/-- The table is what was granted, and each call does to it what it should. -/
structure Sound (s : Session) (granted : Option (List (ℤ × Bool))) : Prop where
  range : ∀ p ∈ reserved s.mem, 0 ≤ p.1 ∧ p.1 ≤ 53
  distinct : ((reserved s.mem).map Prod.fst).Nodup
  holds : ∀ p, p ∈ reserved s.mem ↔ p ∈ granted.getD []
  refused : ∀ c : GpioCall, c.fn.Requests → (s.invoke c).1 ≠ gwOk →
    reserved (s.invoke c).2.mem = reserved s.mem ∧ (s.invoke c).2.level = s.level
  busy : granted.isSome → ∀ pin, 0 ≤ pin → pin ≤ 53 → ∀ c : GpioCall, Asks pin c.fn →
    ((s.invoke c).1 = gwErrBusy ↔
      pin ∈ (granted.getD []).map Prod.fst ∨ (granted.getD []).length = maxGpioLines)
  set_output : ∀ (c : GpioCall) pin value, c.fn = .set pin value → ∀ call ∈ s.newCalls c,
    (∃ l : Line, call = .lineSetValue (some l) value ∧ l.offset = pin) ∧
      (pin, true) ∈ granted.getD []
  safe_outputs : ∀ c : GpioCall, c.fn = .assertSafeState → ∀ pin, (pin, true) ∈ granted.getD [] →
    ∃ l : Line, l.offset = pin ∧ .lineSetValue (some l) 0 ∈ s.newCalls c
  safe_only : ∀ c : GpioCall, c.fn = .assertSafeState → ∀ call ∈ s.newCalls c,
    ∃ l : Line, call = .lineSetValue (some l) 0 ∧ (l.offset, true) ∈ granted.getD [] ∧
      (l.offset, false) ∉ granted.getD []

/-! ### The bodies -/

variable {m : Memory} {pin : ℤ} {isOutput : Bool} {lib : Lib}

theorem reserved_map_fst (h : Inv m) :
    (reserved m).map Prod.fst = (m.lines.filterMap (·.line)).map Line.offset := by
  rw [reserved, List.map_filterMap, List.map_filterMap]
  refine List.filterMap_congr fun slot hslot => ?_
  cases hl : slot.line with
  | none => rfl
  | some l => exact congrArg some (h.owned slot hslot l hl).2.1.symm

/-- One chip is open, so that lines with the same pin are the same. -/
theorem reserved_distinct (h : Inv m) : ((reserved m).map Prod.fst).Nodup := by
  rw [reserved_map_fst h]
  refine h.distinct.map_on fun l hl l' hl' heq => ?_
  obtain ⟨slot, hslot, hline⟩ := List.mem_filterMap.mp hl
  obtain ⟨slot', hslot', hline'⟩ := List.mem_filterMap.mp hl'
  have hchip := (h.owned slot hslot l hline).1.symm.trans (h.owned slot' hslot' l' hline').1
  obtain ⟨chip, offset⟩ := l
  obtain ⟨chip', offset'⟩ := l'
  obtain rfl : offset = offset' := heq
  obtain rfl : chip = chip' := Option.some.inj hchip
  rfl

theorem mem_reserved {p : ℤ × Bool} :
    p ∈ reserved m ↔ ∃ slot ∈ m.lines, slot.line.isSome ∧ p = (slot.pin, slot.isOutput) := by
  rw [reserved, List.mem_filterMap]
  refine exists_congr fun slot => and_congr_right fun _ => ?_
  cases slot.line with
  | none => simp
  | some l => simp [eq_comm]

theorem findSlot_eq_none_iff : m.findSlot pin = none ↔ pin ∉ (reserved m).map Prod.fst := by
  rw [Memory.findSlot, List.find?_eq_none, List.mem_map]
  constructor
  · rintro hno ⟨p, hp, rfl⟩
    obtain ⟨slot, hslot, hsome, rfl⟩ := mem_reserved.mp hp
    exact hno slot hslot (by simp [hsome])
  · intro hno slot hslot hfound
    simp only [Bool.and_eq_true, decide_eq_true_eq] at hfound
    exact hno ⟨_, mem_reserved.mpr ⟨slot, hslot, hfound.2, rfl⟩, hfound.1⟩

theorem allocSlot_eq_none_iff (h : Inv m) :
    m.allocSlot = none ↔ (reserved m).length = maxGpioLines := by
  have hcount : (reserved m).length = m.lines.countP (·.line.isSome) := by
    rw [reserved, List.length_filterMap_eq_countP]
    refine List.countP_congr fun slot _ => ?_
    cases slot.line <;> simp
  have hall : m.allocSlot = none ↔ ∀ slot ∈ m.lines, slot.line.isSome = true := by
    rw [Memory.allocSlot, List.findIdx?_eq_none_iff]
    refine forall₂_congr fun slot _ => ?_
    cases slot.line <;> simp
  rw [hall, hcount, ← h.size]
  exact List.countP_eq_length.symm

/-- A free slot with another pin reserves nothing. -/
theorem reserved_freed {lines : List Slot} {i : ℕ} {old : Slot} (hi : lines[i]? = some old)
    (hfree : old.line = none) :
    ((lines.modify i fun s => { s with pin := -1 }).filterMap
      fun s => s.line.map fun _ => (s.pin, s.isOutput)) =
      lines.filterMap fun s => s.line.map fun _ => (s.pin, s.isOutput) :=
  filterMap_modify hi (by simp only [hfree, Option.map_none])

/-- A call of libgpiod that leaves every level. -/
def Quiet (call : LibCall) : Prop := ∀ writes level, drive writes level call = level

theorem foldl_quiet {calls : List LibCall} (hquiet : ∀ call ∈ calls, Quiet call)
    (writes : Line → Bool) (level : ℤ → ℤ) : calls.foldl (drive writes) level = level := by
  induction calls with
  | nil => rfl
  | cons call calls ih =>
    rw [List.foldl_cons, hquiet call List.mem_cons_self]
    exact ih fun c hc => hquiet c (List.mem_cons_of_mem _ hc)

/-- **A request**: the line is busy, or libgpiod refuses it and nothing reserved changes, or it
gets a slot. -/
theorem request_cases (h : Inv m) {ask : Option Line → LibCall}
    (hask : ∀ line, lib.grants = false → Quiet (ask line)) :
    let r := m.request lib pin isOutput ask
    r.2.initialized = m.initialized ∧ ∃ new, r.2.calls = m.calls ++ new ∧
      ((r.1 = gwErrBusy ∧ r.2 = m ∧
          (pin ∈ (reserved m).map Prod.fst ∨ (reserved m).length = maxGpioLines)) ∨
        ((r.1 = gwErrIo ∨ r.1 = gwOk) ∧ pin ∉ (reserved m).map Prod.fst ∧
          (reserved m).length ≠ maxGpioLines ∧
          (r.1 = gwErrIo → reserved r.2 = reserved m ∧ ∀ call ∈ new, Quiet call) ∧
          (r.1 = gwOk → (reserved r.2).Perm ((pin, isOutput) :: reserved m)))) := by
  have hio : ¬ gwErrIo = gwOk := Gpio.io_ne_ok
  intro r
  simp only [r, Memory.request]
  cases hfind : m.findSlot pin with
  | some slot =>
    have hheld : pin ∈ (reserved m).map Prod.fst := by
      by_contra hno
      rw [findSlot_eq_none_iff.mpr hno] at hfind
      cases hfind
    exact ⟨rfl, [], (List.append_nil _).symm, .inl ⟨rfl, rfl, .inl hheld⟩⟩
  | none =>
    have hnew := findSlot_eq_none_iff.mp hfind
    cases halloc : m.allocSlot with
    | none =>
      exact ⟨rfl, [], (List.append_nil _).symm,
        .inl ⟨rfl, rfl, .inr ((allocSlot_eq_none_iff h).mp halloc)⟩⟩
    | some i =>
      obtain ⟨old, hi, hfree⟩ := allocSlot_some halloc
      have hroom : (reserved m).length ≠ maxGpioLines := by
        intro hfull
        rw [(allocSlot_eq_none_iff h).mpr hfull] at halloc
        cases halloc
      dsimp only
      split
      · refine ⟨rfl, _, rfl, .inr ⟨.inl rfl, hnew, hroom, fun _ => ⟨reserved_freed hi hfree, ?_⟩,
          fun h => absurd h hio⟩⟩
        intro call hcall
        rw [List.mem_singleton.mp hcall]
        exact fun _ _ => rfl
      · cases hgrants : lib.grants with
        | false =>
          refine ⟨rfl, _, rfl, .inr ⟨.inl rfl, hnew, hroom,
            fun _ => ⟨reserved_freed hi hfree, ?_⟩, fun h => absurd h hio⟩⟩
          intro call hcall
          rcases List.mem_pair.mp hcall with rfl | rfl
          · exact fun _ _ => rfl
          · exact hask _ hgrants
        | true =>
          refine ⟨rfl, _, rfl, .inr ⟨.inr rfl, hnew, hroom, fun h => absurd h.symm hio, fun _ => ?_⟩⟩
          exact Gpio.filterMap_set_perm hi (by rw [hfree]; rfl) rfl

/-- What the two requests have in common. -/
structure IsRequest (lib : Lib) (fn : Fn) (pin : ℤ) (isOutput : Bool)
    (ask : Option Line → LibCall) : Prop where
  quiet : ∀ line, lib.grants = false → Quiet (ask line)
  handles : ∀ line, (ask line).handles = some (.request line lib.grants)
  locked : ∀ m, fn.locked lib m = m.request lib pin isOutput ask
  early_none : ∀ initialized, fn.early initialized = none →
    initialized = true ∧ 0 ≤ pin ∧ pin ≤ 53
  early_some : ∀ initialized rc, fn.early initialized = some rc → rc ≠ gwErrBusy ∧ rc ≠ gwOk
  grants : ∀ granted rc, grants granted (fn, rc) =
    if rc = gwOk then granted.map ((pin, isOutput) :: ·) else granted
  asks : ∀ p, Asks p fn → p = pin ∧ (0 ≤ p → p ≤ 53 → fn.early true = none)

theorem isRequest {fn : Fn} (h : fn.Requests) (lib : Lib) :
    ∃ pin isOutput ask, IsRequest lib fn pin isOutput ask := by
  cases fn with
  | requestOutput pin value =>
    refine ⟨pin, true, fun line => .lineRequestOutput line value lib.grants, fun line hno => ?_,
      fun _ => rfl, fun _ => rfl, fun initialized he => ?_, fun initialized rc he => ?_,
      fun _ _ => rfl, ?_⟩
    · rw [hno]
      intro writes level
      cases line <;> rfl
    · simp only [Fn.early] at he
      split_ifs at he with hinit hpin hvalue
      exact ⟨by simpa using hinit, by omega⟩
    · simp only [Fn.early] at he
      split_ifs at he <;> cases he <;> decide
    · rintro p ⟨rfl, hvalue⟩
      refine ⟨rfl, fun hlo hhi => ?_⟩
      simp only [Fn.early]
      rw [if_neg (by decide), if_neg (by omega), if_neg (by omega)]
  | requestInput pin pull =>
    refine ⟨pin, false, fun line => .lineRequestInput line lib.grants, fun line hno => ?_,
      fun _ => rfl, fun _ => rfl, fun initialized he => ?_, fun initialized rc he => ?_,
      fun _ _ => rfl, ?_⟩
    · exact fun _ _ => rfl
    · simp only [Fn.early] at he
      split_ifs at he with hinit hpin
      exact ⟨by simpa using hinit, by omega⟩
    · simp only [Fn.early] at he
      split_ifs at he <;> cases he <;> decide
    · rintro p rfl
      refine ⟨rfl, fun hlo hhi => ?_⟩
      simp only [Fn.early]
      rw [if_neg (by decide), if_neg (by omega)]
  | init => exact h.elim
  | set pin value => exact h.elim
  | get pin valueOut => exact h.elim
  | assertSafeState => exact h.elim
  | cleanup => exact h.elim

/-! ### The calls -/

variable {s : Session} {c : GpioCall} {granted : Option (List (ℤ × Bool))}

theorem invoke_early {rc : ℤ} (h : c.fn.early s.mem.initialized = some rc) :
    s.invoke c = (rc, s) := by
  simp only [Session.invoke, h]

theorem invoke_locked {new : List LibCall} (hearly : c.fn.early s.mem.initialized = none)
    (hcalls : (c.fn.locked c.lib s.mem).2.calls = s.mem.calls ++ new) :
    s.invoke c = ((c.fn.locked c.lib s.mem).1,
      ⟨(c.fn.locked c.lib s.mem).2, new.foldl (drive c.writes) s.level⟩) ∧
      s.newCalls c = new := by
  have hinvoke : s.invoke c = ((c.fn.locked c.lib s.mem).1,
      ⟨(c.fn.locked c.lib s.mem).2, new.foldl (drive c.writes) s.level⟩) := by
    simp only [Session.invoke, hearly, hcalls, List.drop_left]
  refine ⟨hinvoke, ?_⟩
  rw [Session.newCalls, hinvoke, hcalls, List.drop_left]

/-- The table is what was granted. -/
structure Kept (m : Memory) (granted : Option (List (ℤ × Bool))) : Prop where
  inv : Inv m
  on : m.initialized = granted.isSome
  range : ∀ p ∈ granted.getD [], 0 ≤ p.1 ∧ p.1 ≤ 53
  perm : (reserved m).Perm (granted.getD [])

namespace Kept

variable {m' : Memory} {fn : Fn}

theorem start : Kept State.start.mem none :=
  ⟨inv_start, rfl, fun _ hp => (nomatch hp), .refl _⟩

theorem congr (h : Kept m granted) (hinv : Inv m') (hinit : m'.initialized = m.initialized)
    (hlines : m'.lines = m.lines) : Kept m' granted := by
  refine ⟨hinv, hinit.trans h.on, h.range, ?_⟩
  rw [reserved, hlines]
  exact h.perm

/-- A table without lines. -/
theorem empty (hinv : Inv m) (hlines : ∀ slot ∈ m.lines, slot.line = none)
    (hon : m.initialized = granted.isSome) (hno : granted.getD [] = []) : Kept m granted := by
  have hres : reserved m = [] := by
    refine List.filterMap_eq_nil_iff.mpr fun slot hslot => ?_
    rw [hlines slot hslot]
    rfl
  exact ⟨hinv, hon, fun p hp => by simp [hno] at hp, by rw [hres, hno]⟩

/-- A request that is not refused at once. -/
theorem request (h : Kept m granted) {ask : Option Line → LibCall}
    (hreq : IsRequest lib fn pin isOutput ask) (hearly : fn.early m.initialized = none) :
    Kept (fn.locked lib m).2 (grants granted (fn, (fn.locked lib m).1)) := by
  obtain ⟨hinit, hpin⟩ := hreq.early_none _ hearly
  obtain ⟨hsame, new, hcalls, hcases⟩ := request_cases h.inv hreq.quiet
  obtain ⟨hinv, -⟩ := spec_request h.inv pin isOutput hreq.handles
  rw [← hreq.locked] at hsame hcases hinv
  rw [hreq.grants]
  rcases hcases with ⟨hbusy, hmem, -⟩ | ⟨hrc, hnew, -, hio, hok⟩
  · rw [if_neg (hbusy ▸ Gpio.busy_ne_ok)]
    exact h.congr hinv hsame (congrArg Memory.lines hmem)
  · rcases hrc with hrc | hrc
    · rw [if_neg (hrc ▸ Gpio.io_ne_ok)]
      refine ⟨hinv, hsame.trans h.on, h.range, ?_⟩
      rw [(hio hrc).1]
      exact h.perm
    · rw [if_pos hrc]
      have hsome : granted.isSome = true := h.on ▸ hinit
      obtain ⟨ps, rfl⟩ := Option.isSome_iff_exists.mp hsome
      refine ⟨hinv, hsame.trans h.on, ?_, (hok hrc).trans (h.perm.cons _)⟩
      exact List.forall_mem_cons.mpr ⟨hpin, h.range⟩

theorem init (h : Kept m granted) (lib : Lib) :
    Kept (m.init lib).2 (grants granted (.init, (m.init lib).1)) := by
  obtain ⟨hinv, -⟩ := spec_init h.inv lib
  revert hinv
  unfold Memory.init
  split_ifs with hinit hopens
  · intro hinv
    obtain ⟨ps, rfl⟩ := Option.isSome_iff_exists.mp (h.on ▸ hinit)
    exact h
  · intro hinv
    have hnone : granted = none := by
      rw [← Option.not_isSome_iff_eq_none, ← h.on]
      exact hinit
    subst hnone
    refine empty hinv (fun slot hslot => ?_) rfl rfl
    rw [List.eq_of_mem_replicate hslot]
  · exact fun hinv => h.congr hinv rfl rfl

theorem cleanup (h : Kept m granted) : Kept m.cleanup.2 none := by
  obtain ⟨hinv, -⟩ := spec_cleanup h.inv
  refine empty hinv (fun slot hslot => ?_) rfl rfl
  obtain ⟨s, -, rfl⟩ := List.mem_map.mp hslot
  split_ifs with hsome
  · rfl
  · simpa using hsome

theorem set_lines (m : Memory) (lib : Lib) (pin value : ℤ) :
    (m.set lib pin value).2.initialized = m.initialized ∧
      (m.set lib pin value).2.lines = m.lines := by
  unfold Memory.set
  cases m.findSlot pin with
  | none => exact ⟨rfl, rfl⟩
  | some slot =>
    dsimp only
    split_ifs <;> exact ⟨rfl, rfl⟩

theorem get_lines (m : Memory) (lib : Lib) (pin : ℤ) :
    (m.get lib pin).2.initialized = m.initialized ∧ (m.get lib pin).2.lines = m.lines := by
  unfold Memory.get
  cases m.findSlot pin <;> exact ⟨rfl, rfl⟩

/-- **What runs under the mutex keeps the table.** -/
theorem locked (h : Kept m granted) (lib : Lib) (hearly : fn.early m.initialized = none) :
    Kept (fn.locked lib m).2 (grants granted (fn, (fn.locked lib m).1)) := by
  by_cases hreq : fn.Requests
  · obtain ⟨pin, isOutput, ask, hask⟩ := isRequest hreq lib
    exact h.request hask hearly
  · obtain ⟨hinv, -⟩ := spec_locked h.inv lib fn
    cases fn with
    | init => exact h.init lib
    | requestOutput pin value => exact absurd trivial hreq
    | requestInput pin pull => exact absurd trivial hreq
    | set pin value => exact h.congr hinv (set_lines ..).1 (set_lines ..).2
    | get pin valueOut => exact h.congr hinv (get_lines ..).1 (get_lines ..).2
    | assertSafeState => exact h.congr hinv rfl rfl
    | cleanup => exact h.cleanup

/-- A call that is refused at once grants nothing. -/
theorem grants_early {initialized : Bool} {rc : ℤ} (h : fn.early initialized = some rc) :
    grants granted (fn, rc) = granted := by
  by_cases hreq : fn.Requests
  · obtain ⟨pin, isOutput, ask, hask⟩ := isRequest hreq ⟨true, true, true, true, 0⟩
    rw [hask.grants, if_neg (hask.early_some _ _ h).2]
  · cases fn with
    | init => cases h
    | requestOutput pin value => exact absurd trivial hreq
    | requestInput pin pull => exact absurd trivial hreq
    | set pin value => rfl
    | get pin valueOut => rfl
    | assertSafeState => cases h
    | cleanup => cases h

/-- **Every call keeps it.** -/
theorem invoke (h : Kept s.mem granted) (c : GpioCall) :
    Kept (s.invoke c).2.mem (grants granted (c.fn, (s.invoke c).1)) := by
  unfold Session.invoke
  cases hearly : c.fn.early s.mem.initialized with
  | some rc =>
    rw [grants_early hearly]
    exact h
  | none => exact h.locked c.lib hearly

/-- And every sequence of calls. -/
theorem run (h : Kept s.mem granted) (cs : List GpioCall) :
    Kept (s.run cs).1.mem ((s.run cs).2.foldl grants granted) := by
  induction cs generalizing s granted with
  | nil => exact h
  | cons c cs ih => exact ih (h.invoke c)

end Kept

/-! ### What the calls do -/

/-- A request that does not return `GW_OK` changes nothing reserved and no level. -/
theorem refused (h : Kept s.mem granted) (hreq : c.fn.Requests) (hno : (s.invoke c).1 ≠ gwOk) :
    reserved (s.invoke c).2.mem = reserved s.mem ∧ (s.invoke c).2.level = s.level := by
  obtain ⟨pin, isOutput, ask, hask⟩ := isRequest hreq c.lib
  cases hearly : c.fn.early s.mem.initialized with
  | some rc =>
    rw [invoke_early hearly]
    exact ⟨rfl, rfl⟩
  | none =>
    obtain ⟨-, new, hcalls, hcases⟩ := request_cases h.inv hask.quiet
    rw [← hask.locked] at hcalls hcases
    obtain ⟨hinvoke, -⟩ := invoke_locked hearly hcalls
    rw [hinvoke] at hno ⊢
    rcases hcases with ⟨-, hmem, -⟩ | ⟨hrc, -, -, hio, -⟩
    · have hnil : new = [] := by
        rw [hmem] at hcalls
        exact List.append_right_eq_self.mp hcalls.symm
      rw [hmem, hnil]
      exact ⟨rfl, rfl⟩
    · obtain ⟨hsame, hquiet⟩ := hio (hrc.resolve_right hno)
      exact ⟨hsame, foldl_quiet hquiet _ _⟩

/-- While the library is initialised, a valid request is busy when its pin or all slots are
taken. -/
theorem busy_iff (h : Kept s.mem granted) (hon : granted.isSome) {pin : ℤ} (hlo : 0 ≤ pin)
    (hhi : pin ≤ 53) (hasks : Asks pin c.fn) :
    (s.invoke c).1 = gwErrBusy ↔
      pin ∈ (granted.getD []).map Prod.fst ∨ (granted.getD []).length = maxGpioLines := by
  have hreq : c.fn.Requests := by
    revert hasks
    cases c.fn <;> simp [Asks, Fn.Requests]
  obtain ⟨p, isOutput, ask, hask⟩ := isRequest hreq c.lib
  obtain ⟨rfl, hearly⟩ := hask.asks pin hasks
  have hinit : c.fn.early s.mem.initialized = none := by
    rw [h.on, hon]
    exact hearly hlo hhi
  obtain ⟨-, new, hcalls, hcases⟩ := request_cases h.inv hask.quiet
  rw [← hask.locked] at hcalls hcases
  rw [(invoke_locked hinit hcalls).1, ← (h.perm.map Prod.fst).mem_iff, ← h.perm.length_eq]
  rcases hcases with ⟨hbusy, -, htaken⟩ | ⟨hrc, hnew, hroom, -, -⟩
  · exact iff_of_true hbusy htaken
  · refine iff_of_false ?_ (not_or.mpr ⟨hnew, hroom⟩)
    rcases hrc with hrc | hrc
    · rw [hrc]
      decide
    · rw [hrc]
      decide

/-- The slot that a call works on. -/
theorem findSlot_reserved (h : Kept m granted) {slot : Slot} (hfind : m.findSlot pin = some slot) :
    ∃ l, slot.line = some l ∧ l.offset = pin ∧ (pin, slot.isOutput) ∈ granted.getD [] := by
  obtain ⟨hslot, l, hl⟩ := findSlot_some hfind
  have hpin : slot.pin = pin := by
    have hfound := List.find?_some hfind
    simp only [Bool.and_eq_true, decide_eq_true_eq] at hfound
    exact hfound.1
  refine ⟨l, hl, (h.inv.owned slot hslot l hl).2.1.trans hpin, ?_⟩
  rw [← h.perm.mem_iff, ← hpin, mem_reserved]
  exact ⟨slot, hslot, hl ▸ rfl, rfl⟩

/-- `gw_gpio_set` calls libgpiod for a reserved output, or not at all. -/
theorem set_output (h : Kept s.mem granted) {pin value : ℤ} (hfn : c.fn = .set pin value) :
    ∀ call ∈ s.newCalls c, (∃ l : Line, call = .lineSetValue (some l) value ∧ l.offset = pin) ∧
      (pin, true) ∈ granted.getD [] := by
  intro call hcall
  cases hearly : c.fn.early s.mem.initialized with
  | some rc =>
    rw [Session.newCalls, invoke_early hearly, List.drop_length] at hcall
    cases hcall
  | none =>
    have hlocked : c.fn.locked c.lib s.mem = s.mem.set c.lib pin value := by
      rw [hfn]
      rfl
    have hnone (hsame : s.mem.set c.lib pin value = (gwErrInvalid, s.mem)) : s.newCalls c = [] := by
      refine (invoke_locked hearly ?_).2
      rw [hlocked, hsame, List.append_nil]
    cases hfind : s.mem.findSlot pin with
    | none =>
      rw [hnone (by simp only [Memory.set, hfind])] at hcall
      cases hcall
    | some slot =>
      obtain ⟨l, hl, hoffset, hres⟩ := findSlot_reserved h hfind
      cases hout : slot.isOutput with
      | false =>
        rw [hnone (by simp [Memory.set, hfind, hout])] at hcall
        cases hcall
      | true =>
        have hnew : s.newCalls c = [.lineSetValue (some l) value] := by
          refine (invoke_locked hearly ?_).2
          simp [hlocked, Memory.set, hfind, hout, hl]
        rw [hnew, List.mem_singleton] at hcall
        exact ⟨⟨l, hcall, hoffset⟩, hout ▸ hres⟩

/-- `gw_gpio_assert_safe_state` writes 0 to the reserved outputs. -/
theorem mem_safeCalls (hfn : c.fn = .assertSafeState) {call : LibCall} :
    call ∈ s.newCalls c ↔ ∃ slot ∈ s.mem.lines, ∃ l, slot.line = some l ∧ slot.isOutput = true ∧
      call = .lineSetValue (some l) 0 := by
  have hearly : c.fn.early s.mem.initialized = none := by rw [hfn]; rfl
  have hlocked : c.fn.locked c.lib s.mem = s.mem.assertSafeState := by rw [hfn]; rfl
  rw [(invoke_locked hearly (by rw [hlocked]; rfl)).2, List.mem_flatMap]
  refine exists_congr fun slot => and_congr_right fun _ => ?_
  unfold Memory.safeCalls
  cases slot.line <;> cases slot.isOutput <;> simp

theorem Kept.sound (h : Kept s.mem granted) : Sound s granted := by
  have hmem : ∀ p, p ∈ reserved s.mem ↔ p ∈ granted.getD [] := fun p => h.perm.mem_iff
  have hdistinct := reserved_distinct h.inv
  refine ⟨fun p hp => h.range p ((hmem p).mp hp), hdistinct, hmem,
    fun c hreq hno => refused h hreq hno,
    fun hon pin hlo hhi c hasks => busy_iff h hon hlo hhi hasks,
    fun c pin value hfn => set_output h hfn, fun c hfn pin hp => ?_, fun c hfn call hcall => ?_⟩
  · obtain ⟨slot, hslot, hsome, heq⟩ := mem_reserved.mp ((hmem _).mpr hp)
    obtain ⟨l, hl⟩ := Option.isSome_iff_exists.mp hsome
    obtain ⟨rfl, hout⟩ := Prod.mk.inj heq
    exact ⟨l, (h.inv.owned slot hslot l hl).2.1,
      (mem_safeCalls hfn).mpr ⟨slot, hslot, l, hl, hout.symm, rfl⟩⟩
  · obtain ⟨slot, hslot, l, hl, hout, rfl⟩ := (mem_safeCalls hfn).mp hcall
    have hpin := (h.inv.owned slot hslot l hl).2.1
    have hres : (l.offset, true) ∈ reserved s.mem :=
      mem_reserved.mpr ⟨slot, hslot, hl ▸ rfl, by rw [hpin, hout]⟩
    refine ⟨l, rfl, (hmem _).mp hres, fun hin => ?_⟩
    -- one pin has one direction
    have heq := List.inj_on_of_nodup_map hdistinct hres ((hmem _).mpr hin) rfl
    cases heq

/-- **The slot table**, after any calls made one at a time: it holds the pins granted since the
library was initialised, none twice and none after a cleanup, and every further call keeps to
it. -/
theorem sound_of_calls (level : ℤ → ℤ) (cs : List GpioCall) :
    Sound ((Session.start level).run cs).1
      (((Session.start level).run cs).2.foldl grants none) :=
  (Kept.run (s := .start level) .start cs).sound

/-- Pin 17 is requested, and all is given back. -/
def requestThenCleanup : List GpioCall :=
  let lib : Lib := ⟨true, true, true, true, 0⟩
  [⟨.init, lib, fun _ => true⟩, ⟨.requestOutput 17 0, lib, fun _ => true⟩,
    ⟨.cleanup, lib, fun _ => true⟩]

/-- No slot is occupied after it, although the request has returned `GW_OK` since the last
`gw_gpio_init`. -/
theorem cleanup_frees :
    ((Session.start fun _ => 0).run requestThenCleanup).2.map Prod.snd = [gwOk, gwOk, gwOk] ∧
      ((Session.start fun _ => 0).run requestThenCleanup).2.foldl okSinceInit [] = [17] ∧
      reserved ((Session.start fun _ => 0).run requestThenCleanup).1.mem = [] := by
  refine ⟨?_, ?_, ?_⟩ <;> decide +kernel

end Hal.Slots
