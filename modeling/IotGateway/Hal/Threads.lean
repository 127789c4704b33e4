import IotGateway.Hal.Gpio
import IotGateway.Lts.Handles
import IotGateway.Lts.Run

/-!
# The GPIO layer, called by threads

`platform_pi4.c` with its handles of libgpiod, and any number of threads. A call tests
`g_gpio_initialized` and its arguments, and then runs under the mutex as one step;
`gw_gpio_assert_safe_state`, if its trylock fails, visits the slots one by one without it.
libgpiod may fail at every call.

* `Inv`: the slots hold the lines of the open chip that were requested, and these lines only.
* `spec_locked`: a body keeps this, and calls libgpiod with handles that live, unless it requests
  a line after a cleanup: the chip is NULL then.
* `disciplined_iff_initialized`: **in every run the handles are used as they should be exactly
  when no request runs its body while the library is not initialised.**
-/

namespace Hal.Threads

open Lts Handles

/-! ## Memory -/

/-- A `struct gpiod_line*`: a line of an opened chip. -/
structure Line where
  chip : ℕ
  offset : ℤ
deriving DecidableEq

/-- `pin_slot_t` -/
structure Slot where
  pin : ℤ
  isOutput : Bool
  line : Option Line
deriving DecidableEq

/-- A call of libgpiod; `none` is NULL. -/
inductive LibCall where
  | chipOpen (chip : Option ℕ)
  | chipGetLine (chip : Option ℕ) (offset : ℤ)
  | lineRequestOutput (line : Option Line) (value : ℤ) (granted : Bool)
  | lineRequestInput (line : Option Line) (granted : Bool)
  | lineSetValue (line : Option Line) (value : ℤ)
  | lineGetValue (line : Option Line)
  | lineRelease (line : Option Line)
  | chipClose (chip : Option ℕ)
deriving DecidableEq

/-- The handles that a call is on; a chip that is not opened gives none. -/
def LibCall.handles : LibCall → Option (Call ℕ Line)
  | .chipOpen chip => chip.map .opened
  | .chipGetLine chip _ => some (.onOwner chip)
  | .lineRequestOutput line _ granted => some (.request line granted)
  | .lineRequestInput line granted => some (.request line granted)
  | .lineSetValue line _ => some (.onItem line)
  | .lineGetValue line => some (.onItem line)
  | .lineRelease line => some (.release line)
  | .chipClose chip => some (.close chip)

/-- How libgpiod answers the calls of one body. -/
structure Lib where
  opens : Bool
  getsLine : Bool
  grants : Bool
  sets : Bool
  value : ℤ

/-- The static variables, how many chips were opened, and the calls of libgpiod so far. -/
structure Memory where
  initialized : Bool
  chip : Option ℕ
  lines : List Slot
  opened : ℕ
  calls : List LibCall
deriving DecidableEq

namespace Memory

/-- `find_slot` -/
def findSlot (m : Memory) (pin : ℤ) : Option Slot :=
  m.lines.find? fun s => s.pin = pin && s.line.isSome

/-- `alloc_slot`: the place of the first free slot. -/
def allocSlot (m : Memory) : Option ℕ := m.lines.findIdx? (·.line.isNone)

/-- `gw_gpio_init` -/
def init (lib : Lib) (m : Memory) : ℤ × Memory :=
  if m.initialized then (gwOk, m)
  else if lib.opens then
    (gwOk, {
      initialized := true
      chip := some m.opened
      lines := List.replicate maxGpioLines ⟨-1, false, none⟩
      opened := m.opened + 1
      calls := m.calls ++ [.chipOpen (some m.opened)] })
  else (gwErrPerm, { m with chip := none, calls := m.calls ++ [.chipOpen none] })

/-- The locked part of both requests; `ask` is the call that requests the line. -/
def request (lib : Lib) (pin : ℤ) (isOutput : Bool) (ask : Option Line → LibCall) (m : Memory) :
    ℤ × Memory :=
  match m.findSlot pin with
  | some _ => (gwErrBusy, m)
  | none =>
    match m.allocSlot with
    | none => (gwErrBusy, m)
    | some i =>
      let freed := m.lines.modify i fun s => { s with pin := -1 }
      match if lib.getsLine then m.chip.map (⟨·, pin⟩) else none with
      | none => (gwErrIo, { m with lines := freed, calls := m.calls ++ [.chipGetLine m.chip pin] })
      | some line =>
        let calls := m.calls ++ [.chipGetLine m.chip pin, ask (some line)]
        if lib.grants then
          (gwOk, { m with lines := m.lines.set i ⟨pin, isOutput, some line⟩, calls })
        else (gwErrIo, { m with lines := freed, calls })

/-- The locked part of `gw_gpio_set`. -/
def set (lib : Lib) (pin value : ℤ) (m : Memory) : ℤ × Memory :=
  match m.findSlot pin with
  | none => (gwErrInvalid, m)
  | some slot =>
    if !slot.isOutput then (gwErrInvalid, m)
    else (if lib.sets then gwOk else gwErrIo, { m with calls := m.calls ++ [.lineSetValue slot.line value] })

/-- The locked part of `gw_gpio_get`; `value_out` is the caller's memory. -/
def get (lib : Lib) (pin : ℤ) (m : Memory) : ℤ × Memory :=
  match m.findSlot pin with
  | none => (gwErrInvalid, m)
  | some slot =>
    (if lib.value < 0 then gwErrIo else gwOk, { m with calls := m.calls ++ [.lineGetValue slot.line] })

/-- What `gw_gpio_assert_safe_state` does to one slot. -/
def safeCalls (s : Slot) : List LibCall :=
  if s.line.isSome && s.isOutput then [.lineSetValue s.line 0] else []

/-- `gw_gpio_assert_safe_state` under the mutex. -/
def assertSafeState (m : Memory) : ℤ × Memory :=
  (gwOk, { m with calls := m.calls ++ m.lines.flatMap safeCalls })

/-- Its visit of slot `i` without it. -/
def visit (i : ℕ) (m : Memory) : Memory :=
  { m with calls := m.calls ++ (m.lines[i]?).toList.flatMap safeCalls }

/-- `gw_gpio_cleanup` -/
def cleanup (m : Memory) : ℤ × Memory :=
  (gwOk, { m with
    initialized := false
    chip := none
    lines := m.lines.map fun s => if s.line.isSome then ⟨-1, s.isOutput, none⟩ else s
    calls := m.calls ++ (m.lines.filterMap (·.line)).map (fun l => .lineRelease (some l)) ++
      m.chip.toList.map fun c => .chipClose (some c) })

/-- The handles of the calls so far. -/
def trace (m : Memory) : List (Call ℕ Line) := m.calls.filterMap (·.handles)

end Memory

/-! ## Threads -/

inductive Fn where
  | init
  | requestOutput (pin initialValue : ℤ)
  | requestInput (pin pull : ℤ)
  | set (pin value : ℤ)
  /-- `valueOut`: the pointer is not NULL -/
  | get (pin : ℤ) (valueOut : Bool)
  | assertSafeState
  | cleanup
deriving DecidableEq

namespace Fn

/-- What a call returns before it locks the mutex, on the flag that it reads. -/
def early (initialized : Bool) : Fn → Option ℤ
  | .init | .assertSafeState | .cleanup => none
  | .requestOutput pin initialValue =>
    if !initialized then some gwErrNotInit
    else if pin < 0 ∨ 53 < pin then some gwErrInvalid
    else if initialValue ≠ 0 ∧ initialValue ≠ 1 then some gwErrInvalid
    else none
  | .requestInput pin _ =>
    if !initialized then some gwErrNotInit
    else if pin < 0 ∨ 53 < pin then some gwErrInvalid
    else none
  | .set _ value =>
    if !initialized then some gwErrNotInit
    else if value ≠ 0 ∧ value ≠ 1 then some gwErrInvalid
    else none
  | .get _ valueOut =>
    if !initialized then some gwErrNotInit
    else if !valueOut then some gwErrInvalid
    else none

/-- What it does under the mutex. -/
def locked (lib : Lib) (m : Memory) : Fn → ℤ × Memory
  | .init => m.init lib
  | .requestOutput pin initialValue =>
    m.request lib pin true fun line => .lineRequestOutput line initialValue lib.grants
  | .requestInput pin _ => m.request lib pin false fun line => .lineRequestInput line lib.grants
  | .set pin value => m.set lib pin value
  | .get pin _ => m.get lib pin
  | .assertSafeState => m.assertSafeState
  | .cleanup => m.cleanup

/-- It requests a line. -/
def Requests : Fn → Prop
  | .requestOutput .. | .requestInput .. => True
  | _ => False

end Fn

inductive Thread where
  | returned (rc : ℤ)
  /-- past the unlocked test -/
  | waiting (fn : Fn)
  /-- in `gw_gpio_assert_safe_state` without the mutex, before slot `i` -/
  | sweeping (i : ℕ)
deriving DecidableEq

structure State where
  mem : Memory
  thread : ℕ → Thread

inductive Event where
  /-- thread `t` calls a function, up to the lock -/
  | call (t : ℕ) (fn : Fn)
  | locked (t : ℕ) (lib : Lib)
  | trylockFails (t : ℕ)
  | visit (t : ℕ)

namespace State

/-- The program's start: the static variables are zero. -/
def start : State :=
  ⟨⟨false, none, List.replicate maxGpioLines ⟨0, false, none⟩, 0, []⟩, fun _ => .returned gwOk⟩

def goto (s : State) (t : ℕ) (th : Thread) : State := { s with thread := Function.update s.thread t th }

def step (s : State) : Event → Option State
  | .call t fn =>
    match s.thread t with
    | .returned _ =>
      match fn.early s.mem.initialized with
      | some rc => some (s.goto t (.returned rc))
      | none => some (s.goto t (.waiting fn))
    | _ => none
  | .locked t lib =>
    match s.thread t with
    | .waiting fn =>
      let (rc, mem) := fn.locked lib s.mem
      some ({ s with mem }.goto t (.returned rc))
    | _ => none
  | .trylockFails t =>
    if s.thread t = .waiting .assertSafeState then some (s.goto t (.sweeping 0)) else none
  | .visit t =>
    match s.thread t with
    | .sweeping i =>
      if i < maxGpioLines then some ({ s with mem := s.mem.visit i }.goto t (.sweeping (i + 1)))
      else some (s.goto t (.returned gwOk))
    | _ => none

end State

/-! ## The slots hold the lines of the open chip -/

variable {m m' : Memory} {lib : Lib} {l : Line} {slot : Slot}

structure Inv (m : Memory) : Prop where
  size : m.lines.length = maxGpioLines
  initialized : m.initialized = m.chip.isSome
  owned : ∀ slot ∈ m.lines, ∀ l ∈ slot.line,
    m.chip = some l.chip ∧ l.offset = slot.pin ∧ Requested m.trace l
  distinct : (m.lines.filterMap (·.line)).Nodup
  /-- no line of the open chip is lost -/
  kept : ∀ l, Requested m.trace l → m.chip = some l.chip → l ∈ m.lines.filterMap (·.line)
  isOpen : ∀ c ∈ m.chip, IsOpen m.trace c ∧ c < m.opened
  unreleased : ∀ l, m.chip = some l.chip → .release (some l) ∉ m.trace
  fresh : ∀ k, m.opened ≤ k → .close (some k) ∉ m.trace ∧
    ∀ l : Line, l.chip = k → .release (some l) ∉ m.trace ∧ ¬ Requested m.trace l

namespace Inv

/-- A slot's line can be used. -/
theorem held (h : Inv m) (hslot : slot ∈ m.lines) (hl : slot.line = some l) :
    Requested m.trace l ∧ Live Line.chip m.trace l := by
  obtain ⟨hchip, -, hreq⟩ := h.owned slot hslot l hl
  exact ⟨hreq, (h.isOpen _ hchip).1, h.unreleased l hchip⟩

/-- Lines are held only while the library is initialised. -/
theorem initialized_of_line (h : Inv m) (hslot : slot ∈ m.lines) (hl : slot.line = some l) :
    m.initialized = true := by
  rw [h.initialized, (h.owned slot hslot l hl).1]
  rfl

/-- Without a chip and without lines, what was opened before is all there is to keep. -/
theorem closed (hsize : m.lines.length = maxGpioLines) (hinit : m.initialized = false)
    (hchip : m.chip = none) (hlines : ∀ slot ∈ m.lines, slot.line = none)
    (hfresh : ∀ k, m.opened ≤ k → .close (some k) ∉ m.trace ∧
      ∀ l : Line, l.chip = k → .release (some l) ∉ m.trace ∧ ¬ Requested m.trace l) : Inv m := by
  have hnone : ∀ k, m.chip ≠ some k := by
    intro k
    rw [hchip]
    exact Option.some_ne_none k |>.symm
  refine ⟨hsize, ?_, fun slot hslot l hl => ?_, ?_, fun l _ hc => ?_, fun c hc => ?_, fun l hc => ?_,
    hfresh⟩
  · rw [hinit, hchip]
    rfl
  · rw [hlines slot hslot] at hl
    cases hl
  · rw [List.filterMap_eq_nil_iff.mpr hlines]
    exact List.nodup_nil
  · exact absurd hc (hnone _)
  · exact absurd hc (hnone _)
  · exact absurd hc (hnone _)

end Inv

/-- A call that gives no handle and takes none. -/
def Neutral : Call ℕ Line → Prop
  | .onOwner _ | .onItem _ | .request _ false => True
  | _ => False

/-- Neutral calls, and slots that hold what they held. -/
theorem Inv.neutral (h : Inv m) (hinit : m'.initialized = m.initialized) (hchip : m'.chip = m.chip)
    (hopened : m'.opened = m.opened) (hlen : m'.lines.length = m.lines.length)
    (hslots : ∀ slot ∈ m'.lines, ∀ l ∈ slot.line, slot ∈ m.lines)
    (hlines : m'.lines.filterMap (·.line) = m.lines.filterMap (·.line)) {new : List (Call ℕ Line)}
    (htrace : m'.trace = m.trace ++ new) (hnew : ∀ c ∈ new, Neutral c) : Inv m' := by
  have hmem : ∀ c, ¬ Neutral c → (c ∈ m'.trace ↔ c ∈ m.trace) := by
    intro c hc
    rw [htrace, List.mem_append]
    exact or_iff_left fun hin => hc (hnew c hin)
  have hreq : ∀ l, Requested m'.trace l ↔ Requested m.trace l := fun l => hmem _ id
  have hopen : ∀ k, IsOpen m'.trace k ↔ IsOpen m.trace k :=
    fun k => and_congr (hmem _ id) (not_congr (hmem _ id))
  refine ⟨hlen.trans h.size, ?_, fun slot hslot l hl => ?_, ?_, fun l hl hc => ?_, fun c hc => ?_,
    fun l hc => ?_, fun k hk => ?_⟩
  · rw [hinit, hchip, h.initialized]
  · rw [hchip, hreq]
    exact h.owned slot (hslots slot hslot l hl) l hl
  · rw [hlines]
    exact h.distinct
  · rw [hlines]
    exact h.kept l ((hreq l).mp hl) (hchip ▸ hc)
  · rw [hopen, hopened]
    exact h.isOpen c (hchip ▸ hc)
  · rw [hmem _ id]
    exact h.unreleased l (hchip ▸ hc)
  · obtain ⟨hclose, hitems⟩ := h.fresh k (hopened ▸ hk)
    refine ⟨fun hin => hclose ((hmem _ id).mp hin), fun l hl => ?_⟩
    obtain ⟨hrel, hno⟩ := hitems l hl
    exact ⟨fun hin => hrel ((hmem _ id).mp hin), fun hin => hno ((hreq l).mp hin)⟩

/-! ### The bodies -/

/-- A body keeps the invariant, and its calls may come when they do if `P` holds. -/
def Spec (m m' : Memory) (P : Prop) : Prop :=
  Inv m' ∧ ∃ new, m'.trace = m.trace ++ new ∧ (Valid Line.chip m.trace new ↔ P)

theorem Spec.congr {P Q : Prop} (h : Spec m m' P) (hPQ : P ↔ Q) : Spec m m' Q := by
  obtain ⟨hinv, new, htrace, hvalid⟩ := h
  exact ⟨hinv, new, htrace, hvalid.trans hPQ⟩

theorem Spec.refl (h : Inv m) : Spec m m True := ⟨h, [], by simp, by simp⟩

theorem trace_append (m : Memory) (cs : List LibCall) :
    ({ m with calls := m.calls ++ cs } : Memory).trace = m.trace ++ cs.filterMap (·.handles) :=
  List.filterMap_append

/-- Calls on lines that slots hold. -/
theorem spec_onItems (h : Inv m) {cs : List LibCall} (lines : List Line)
    (hcs : cs.filterMap (·.handles) = lines.map fun l => .onItem (some l))
    (hlines : ∀ l ∈ lines, ∃ slot ∈ m.lines, slot.line = some l) :
    Spec m { m with calls := m.calls ++ cs } True := by
  have htrace := trace_append m cs
  rw [hcs] at htrace
  refine ⟨h.neutral rfl rfl rfl rfl (fun _ hslot _ _ => hslot) rfl htrace fun c hc => ?_, _, htrace,
    iff_of_true (valid_onItems fun l hl => ?_) trivial⟩
  · obtain ⟨l, -, rfl⟩ := List.mem_map.mp hc
    trivial
  · obtain ⟨slot, hslot, hline⟩ := hlines l hl
    exact h.held hslot hline

theorem findSlot_some {pin : ℤ} (h : m.findSlot pin = some slot) :
    slot ∈ m.lines ∧ ∃ l, slot.line = some l := by
  have hfound := List.find?_some h
  simp only [Bool.and_eq_true] at hfound
  exact ⟨List.mem_of_find?_eq_some h, Option.isSome_iff_exists.mp hfound.2⟩

/-- A call on the line of a slot that was found. -/
theorem spec_found (h : Inv m) {pin : ℤ} (hfind : m.findSlot pin = some slot) {call : LibCall}
    (hcall : ∀ l, slot.line = some l → call.handles = some (.onItem (some l))) :
    Spec m { m with calls := m.calls ++ [call] } True := by
  obtain ⟨hslot, l, hl⟩ := findSlot_some hfind
  refine spec_onItems h [l] ?_ fun l' hl' => ⟨slot, hslot, ?_⟩
  · simp [hcall l hl]
  · rw [hl, List.mem_singleton.mp hl']

theorem spec_set (h : Inv m) (lib : Lib) (pin value : ℤ) : Spec m (m.set lib pin value).2 True := by
  unfold Memory.set
  cases hfind : m.findSlot pin with
  | none => exact .refl h
  | some slot =>
    dsimp only
    cases slot.isOutput with
    | false => exact .refl h
    | true => exact spec_found h hfind fun l hl => by simp [LibCall.handles, hl]

theorem spec_get (h : Inv m) (lib : Lib) (pin : ℤ) : Spec m (m.get lib pin).2 True := by
  unfold Memory.get
  cases hfind : m.findSlot pin with
  | none => exact .refl h
  | some slot => exact spec_found h hfind fun l hl => by simp [LibCall.handles, hl]

/-- The safe state is asserted on lines that slots hold. -/
theorem spec_safe (h : Inv m) {slots : List Slot} (hslots : ∀ slot ∈ slots, slot ∈ m.lines) :
    Spec m { m with calls := m.calls ++ slots.flatMap Memory.safeCalls } True := by
  refine spec_onItems h ((slots.filter (·.isOutput)).filterMap (·.line)) ?_ fun l hl => ?_
  · clear hslots
    induction slots with
    | nil => rfl
    | cons slot slots ih =>
      rw [List.flatMap_cons, List.filterMap_append, ih]
      unfold Memory.safeCalls
      cases hout : slot.isOutput <;> cases hline : slot.line <;> simp [hout, hline, LibCall.handles]
  · obtain ⟨slot, hslot, hline⟩ := List.mem_filterMap.mp hl
    exact ⟨slot, hslots slot (List.mem_of_mem_filter hslot), hline⟩

theorem spec_visit (h : Inv m) (i : ℕ) : Spec m (m.visit i) True :=
  spec_safe h fun _ hslot => List.mem_of_getElem? (Option.mem_toList.mp hslot)

theorem spec_init (h : Inv m) (lib : Lib) : Spec m (m.init lib).2 True := by
  unfold Memory.init
  split_ifs with hinit hopens
  · exact .refl h
  · -- a new chip, which no call has been on
    have htrace : ({
        initialized := true
        chip := some m.opened
        lines := List.replicate maxGpioLines ⟨-1, false, none⟩
        opened := m.opened + 1
        calls := m.calls ++ [.chipOpen (some m.opened)] } : Memory).trace =
          m.trace ++ [.opened m.opened] := List.filterMap_append
    have hkeep : ∀ c : Call ℕ Line, c ≠ .opened m.opened →
        (c ∈ m.trace ++ [.opened m.opened] ↔ c ∈ m.trace) := by
      intro c hc
      simp [hc]
    have hlines : ∀ slot ∈ List.replicate maxGpioLines (⟨-1, false, none⟩ : Slot),
        slot.line = none := by
      intro slot hslot
      rw [List.eq_of_mem_replicate hslot]
    obtain ⟨hclose, hitems⟩ := h.fresh m.opened le_rfl
    refine ⟨⟨List.length_replicate, rfl, fun slot hslot l hl => ?_, ?_, fun l hl hc => ?_,
      fun c hc => ?_, fun l hc => ?_, fun k hk => ?_⟩, _, htrace, ?_⟩
    · rw [hlines slot hslot] at hl
      cases hl
    · rw [List.filterMap_eq_nil_iff.mpr hlines]
      exact List.nodup_nil
    · rw [Requested, htrace, hkeep _ (by simp)] at hl
      exact absurd hl (hitems l (Option.some.inj hc).symm).2
    · cases hc
      refine ⟨⟨?_, ?_⟩, Nat.lt_succ_self _⟩
      · rw [htrace]
        exact List.mem_append_right _ (List.mem_singleton_self _)
      · rw [htrace, hkeep _ (by simp)]
        exact hclose
    · rw [htrace, hkeep _ (by simp)]
      exact (hitems l (Option.some.inj hc).symm).1
    · obtain ⟨hclose', hitems'⟩ := h.fresh k (Nat.le_of_succ_le hk)
      rw [htrace, hkeep _ (by simp)]
      refine ⟨hclose', fun l hl => ?_⟩
      rw [Requested, hkeep _ (by simp), hkeep _ (by simp)]
      exact hitems' l hl
    · simp [Allowed, Alive]
  · -- no chip was there, and none is opened
    have hnone : m.chip = none := by
      have hfalse : m.initialized = false := by simpa using hinit
      rw [h.initialized] at hfalse
      simpa using hfalse
    have htrace := trace_append { m with chip := none } [.chipOpen none]
    refine ⟨h.neutral rfl hnone.symm rfl rfl (fun _ hslot _ _ => hslot) rfl htrace ?_, _, htrace, ?_⟩
    · simp [LibCall.handles]
    · simp [LibCall.handles]

theorem spec_cleanup (h : Inv m) : Spec m m.cleanup.2 True := by
  have htrace : m.cleanup.2.trace = m.trace ++
      ((m.lines.filterMap (·.line)).map (fun l => .release (some l)) ++
        m.chip.toList.map fun c => .close (some c)) := by
    simp [Memory.trace, Memory.cleanup, List.filterMap_map, LibCall.handles]
  have hkeep : ∀ c : Call ℕ Line, (∀ l, c ≠ .release l) → (∀ k, c ≠ .close k) →
      (c ∈ m.cleanup.2.trace ↔ c ∈ m.trace) := by
    intro c hrelease hclose
    rw [htrace, List.mem_append, List.mem_append, List.mem_map, List.mem_map]
    refine or_iff_left ?_
    rintro (⟨l, -, rfl⟩ | ⟨k, -, rfl⟩)
    · exact hrelease _ rfl
    · exact hclose _ rfl
  have hlines : ∀ slot ∈ m.cleanup.2.lines, slot.line = none := by
    intro slot hslot
    obtain ⟨s, hs, rfl⟩ := List.mem_map.mp hslot
    split_ifs with hsome
    · rfl
    · simpa using hsome
  refine ⟨.closed ?_ rfl rfl hlines fun k hk => ?_, _, htrace,
    iff_of_true (valid_append.mpr ⟨?_, ?_⟩) trivial⟩
  · exact List.length_map _ |>.trans h.size
  · -- the chip that is closed is an older one
    obtain ⟨hclose, hitems⟩ := h.fresh k hk
    rw [htrace]
    refine ⟨fun hin => ?_, fun l hl => ⟨fun hin => ?_, fun hin => ?_⟩⟩
    · simp only [List.mem_append, List.mem_map, reduceCtorEq, and_false, exists_false, false_or,
        Call.close.injEq, Option.some.injEq, exists_eq_right, Option.mem_toList] at hin
      rcases hin with hin | hin
      · exact hclose hin
      · exact absurd (h.isOpen k hin).2 (Nat.not_lt.mpr hk)
    · simp only [List.mem_append, List.mem_map, reduceCtorEq, and_false, exists_false, or_false,
        Call.release.injEq, Option.some.injEq, exists_eq_right] at hin
      rcases hin with hin | hin
      · exact (hitems l hl).1 hin
      · obtain ⟨slot, hslot, hline⟩ := List.mem_filterMap.mp hin
        have hlt := (h.isOpen _ (h.owned slot hslot l hline).1).2
        rw [hl] at hlt
        exact absurd hlt (Nat.not_lt.mpr hk)
    · rw [← htrace] at hin
      exact (hitems l hl).2 ((hkeep _ (by simp) (by simp)).mp hin)
  · refine valid_releases (fun l hl => ?_) h.distinct
    obtain ⟨slot, hslot, hline⟩ := List.mem_filterMap.mp hl
    exact h.held hslot hline
  · cases hc : m.chip with
    | none => exact trivial
    | some c =>
      -- every line of the chip was in a slot, and is released by now
      obtain ⟨⟨hopen, hclose⟩, -⟩ := h.isOpen c hc
      refine valid_singleton.mpr ⟨⟨c, rfl, List.mem_append_left _ hopen, ?_⟩, ?_⟩
      · simpa using hclose
      · rintro k l heq rfl hreq
        cases heq
        have hold : Requested m.trace l := by simpa [Requested] using hreq
        exact List.mem_append_right _ (List.mem_map_of_mem (h.kept l hold hc))

/-- An element that is changed gives what it gave. -/
theorem filterMap_modify {α β : Type*} {g : α → Option β} {f : α → α} {l : List α} {i : ℕ} {old : α}
    (hi : l[i]? = some old) (h : g (f old) = g old) : (l.modify i f).filterMap g = l.filterMap g := by
  induction l generalizing i with
  | nil => cases hi
  | cons x xs ih =>
    cases i with
    | zero =>
      cases hi
      rw [List.modify_zero_cons, List.filterMap_cons, List.filterMap_cons, h]
    | succ i => rw [List.modify_succ_cons, List.filterMap_cons, List.filterMap_cons, ih hi]

/-- A free slot gets the pin -1, and holds nothing as before. -/
theorem freed_lines {lines : List Slot} {i : ℕ} {old : Slot} (hi : lines[i]? = some old)
    (hfree : old.line = none) :
    (∀ slot ∈ lines.modify i fun s => { s with pin := -1 }, ∀ l ∈ slot.line, slot ∈ lines) ∧
      (lines.modify i fun s => { s with pin := -1 }).filterMap (·.line) = lines.filterMap (·.line) := by
  refine ⟨fun slot hslot l hl => ?_, filterMap_modify hi rfl⟩
  obtain ⟨k, hk⟩ := List.mem_iff_getElem?.1 hslot
  rw [List.getElem?_modify] at hk
  obtain ⟨s, hs, heq⟩ := Option.map_eq_some_iff.1 hk
  split_ifs at heq with hik
  · -- the slot itself is free
    rw [hik, hs] at hi
    cases hi
    cases heq
    rw [Option.mem_def] at hl
    exact absurd (hfree.symm.trans hl) nofun
  · rw [← heq]
    exact List.mem_of_getElem? hs

theorem findSlot_none {pin : ℤ} (h : Inv m) (hfind : m.findSlot pin = none) :
    ∀ slot ∈ m.lines, ∀ l ∈ slot.line, l.offset ≠ pin := by
  intro slot hslot l hl heq
  have hno := List.find?_eq_none.mp hfind slot hslot
  rw [(h.owned slot hslot l hl).2.1] at heq
  simp [heq, Option.mem_def.mp hl] at hno

theorem allocSlot_some {i : ℕ} (h : m.allocSlot = some i) :
    ∃ old, m.lines[i]? = some old ∧ old.line = none := by
  obtain ⟨hlt, hfree, -⟩ := List.findIdx?_eq_some_iff_getElem.mp h
  exact ⟨_, List.getElem?_eq_getElem hlt, Option.isNone_iff_eq_none.mp hfree⟩

theorem initialized_of_full (h : Inv m) (hfull : m.allocSlot = none) : m.initialized = true := by
  have hpos : 0 < m.lines.length := by
    rw [h.size]
    decide
  have hslot := List.getElem_mem hpos
  have htaken := List.findIdx?_eq_none_iff.mp hfull _ hslot
  obtain ⟨l, hl⟩ := Option.isSome_iff_exists.mp (Option.isNone_eq_false_iff.mp htaken)
  exact h.initialized_of_line hslot hl

/-- The chip can be used while the library is initialised, and only then. -/
theorem allowed_chip (h : Inv m) :
    Allowed Line.chip m.trace (.onOwner m.chip) ↔ m.initialized = true := by
  rw [h.initialized, Option.isSome_iff_exists]
  constructor
  · rintro ⟨⟨c, hc, -⟩, -⟩
    exact ⟨c, hc⟩
  · rintro ⟨c, hc⟩
    exact ⟨⟨c, hc, (h.isOpen c hc).1⟩, fun k l heq => by cases heq⟩

/-- A line that no slot holds may be requested. -/
theorem valid_ask (h : Inv m) {granted : Bool} (hchip : m.chip = some l.chip) :
    Valid Line.chip m.trace [.onOwner m.chip, .request (some l) granted] := by
  have hinit : m.initialized = true := by
    rw [h.initialized, hchip]
    rfl
  obtain ⟨⟨hopen, hclose⟩, -⟩ := h.isOpen _ hchip
  refine ⟨(allowed_chip h).mpr hinit, ⟨⟨l, rfl, ⟨List.mem_append_left _ hopen, ?_⟩, ?_⟩, ?_⟩, trivial⟩
  · simpa using hclose
  · simpa using h.unreleased l hchip
  · intro k l' heq
    cases heq

/-- A free slot gets a line of the chip that no slot holds. -/
theorem Inv.granted (h : Inv m) {i : ℕ} {old : Slot} {isOutput : Bool} {calls : List LibCall}
    (hchip : m.chip = some l.chip) (hi : m.lines[i]? = some old) (hfree : old.line = none)
    (hnew : ∀ slot ∈ m.lines, ∀ l' ∈ slot.line, l'.offset ≠ l.offset)
    (htrace : calls.filterMap (·.handles) = m.trace ++ [.onOwner m.chip, .request (some l) true]) :
    Inv { m with lines := m.lines.set i ⟨l.offset, isOutput, some l⟩, calls } := by
  have hkeep : ∀ c : Call ℕ Line, c ≠ .onOwner m.chip → c ≠ .request (some l) true →
      (c ∈ calls.filterMap (·.handles) ↔ c ∈ m.trace) := by
    intro c hchip' hreq
    rw [htrace]
    simp [hchip', hreq]
  have hgrown : ∀ l', Requested (calls.filterMap (·.handles)) l' ↔ l' = l ∨ Requested m.trace l' := by
    intro l'
    rw [Requested, Requested, htrace]
    simp [or_comm]
  have hperm : ((m.lines.set i ⟨l.offset, isOutput, some l⟩).filterMap (·.line)).Perm
      (l :: m.lines.filterMap (·.line)) := Gpio.filterMap_set_perm hi hfree rfl
  refine ⟨?_, h.initialized, fun slot hslot l' hl' => ?_, ?_, fun l' hreq hc => ?_, fun c hc => ?_,
    fun l' hc => ?_, fun k hk => ?_⟩
  · rw [List.length_set]
    exact h.size
  · rcases List.mem_or_eq_of_mem_set hslot with hslot | rfl
    · obtain ⟨hc, hpin, hreq⟩ := h.owned slot hslot l' hl'
      exact ⟨hc, hpin, (hgrown l').mpr (.inr hreq)⟩
    · cases hl'
      exact ⟨hchip, rfl, (hgrown l).mpr (.inl rfl)⟩
  · rw [hperm.nodup_iff, List.nodup_cons]
    refine ⟨fun hmem => ?_, h.distinct⟩
    obtain ⟨slot, hslot, hline⟩ := List.mem_filterMap.mp hmem
    exact hnew slot hslot l hline rfl
  · rw [hperm.mem_iff, List.mem_cons]
    exact ((hgrown l').mp hreq).imp_right fun hold => h.kept l' hold hc
  · obtain ⟨⟨hopen, hclose⟩, hlt⟩ := h.isOpen c hc
    refine ⟨⟨(hkeep _ (by simp) (by simp)).mpr hopen, fun hin => ?_⟩, hlt⟩
    exact hclose ((hkeep _ (by simp) (by simp)).mp hin)
  · exact fun hin => h.unreleased l' hc ((hkeep _ (by simp) (by simp)).mp hin)
  · obtain ⟨hclose, hitems⟩ := h.fresh k hk
    refine ⟨fun hin => hclose ((hkeep _ (by simp) (by simp)).mp hin), fun l' hl' =>
      ⟨fun hin => ?_, fun hreq => ?_⟩⟩
    · exact (hitems l' hl').1 ((hkeep _ (by simp) (by simp)).mp hin)
    · rcases (hgrown l').mp hreq with rfl | hold
      · exact absurd (h.isOpen _ hchip).2 (Nat.not_lt.mpr (hl' ▸ hk))
      · exact (hitems l' hl').2 hold

theorem spec_request (h : Inv m) (pin : ℤ) (isOutput : Bool) {ask : Option Line → LibCall}
    (hask : ∀ line, (ask line).handles = some (.request line lib.grants)) :
    Spec m (m.request lib pin isOutput ask).2 (m.initialized = true) := by
  unfold Memory.request
  cases hfind : m.findSlot pin with
  | some slot =>
    obtain ⟨hslot, l, hl⟩ := findSlot_some hfind
    have hinit := h.initialized_of_line hslot hl
    exact ⟨h, [], by simp, by simp [hinit]⟩
  | none =>
    cases halloc : m.allocSlot with
    | none => exact ⟨h, [], by simp, by simp [initialized_of_full h halloc]⟩
    | some i =>
      obtain ⟨old, hi, hfree⟩ := allocSlot_some halloc
      obtain ⟨hslots, hlines⟩ := freed_lines hi hfree
      have hlen : (m.lines.modify i fun s => { s with pin := -1 }).length = m.lines.length :=
        List.length_modify ..
      dsimp only
      split
      · -- no line is got, of the chip or of NULL
        have htrace : ({ m with
            lines := m.lines.modify i fun s => { s with pin := -1 }
            calls := m.calls ++ [.chipGetLine m.chip pin] } : Memory).trace =
              m.trace ++ [.onOwner m.chip] := List.filterMap_append
        refine ⟨h.neutral rfl rfl rfl hlen hslots hlines htrace ?_, _, htrace, ?_⟩
        · intro c hc
          rw [List.mem_singleton.mp hc]
          trivial
        · rw [valid_singleton]
          exact allowed_chip h
      · rename_i line hline
        obtain ⟨c, hc, rfl⟩ : ∃ c, m.chip = some c ∧ (⟨c, pin⟩ : Line) = line := by
          cases hgets : lib.getsLine with
          | true => simpa [hgets] using hline
          | false => simp [hgets] at hline
        have hinit : m.initialized = true := by
          rw [h.initialized, hc]
          rfl
        have hcalls : (m.calls ++ [.chipGetLine m.chip pin, ask (some ⟨c, pin⟩)]).filterMap (·.handles) =
            m.trace ++ [.onOwner m.chip, .request (some ⟨c, pin⟩) lib.grants] := by
          simp only [List.filterMap_append, List.filterMap_cons, List.filterMap_nil, hask]
          rfl
        refine ⟨?_, [.onOwner m.chip, .request (some ⟨c, pin⟩) lib.grants], ?_,
          iff_of_true (valid_ask h hc) hinit⟩
        · cases hgrants : lib.grants with
          | false =>
            rw [hgrants] at hcalls
            refine h.neutral rfl rfl rfl hlen hslots hlines hcalls fun c' hc' => ?_
            rcases List.mem_pair.mp hc' with rfl | rfl <;> trivial
          | true =>
            rw [hgrants] at hcalls
            exact h.granted hc hi hfree (findSlot_none h hfind) hcalls
        · rw [← hcalls]
          split_ifs <;> rfl

/-- **What a body calls** is on handles that live, unless it requests a line without a chip. -/
theorem spec_locked (h : Inv m) (lib : Lib) (fn : Fn) :
    Spec m (fn.locked lib m).2 (fn.Requests → m.initialized = true) := by
  cases fn with
  | init => exact (spec_init h lib).congr (iff_of_true trivial False.elim)
  | requestOutput pin initialValue =>
    exact (spec_request h pin true fun _ => rfl).congr (forall_const True).symm
  | requestInput pin pull => exact (spec_request h pin false fun _ => rfl).congr (forall_const True).symm
  | set pin value => exact (spec_set h lib pin value).congr (iff_of_true trivial False.elim)
  | get pin valueOut => exact (spec_get h lib pin).congr (iff_of_true trivial False.elim)
  | assertSafeState => exact (spec_safe h fun _ hslot => hslot).congr (iff_of_true trivial False.elim)
  | cleanup => exact (spec_cleanup h).congr (iff_of_true trivial False.elim)

/-! ## Every run -/

/-- The step is not a request's body while the library is not initialised. -/
def RequestsInitialized (s : State) : Event → State → Prop
  | .locked t _, _ => ∀ fn, s.thread t = .waiting fn → fn.Requests → s.mem.initialized = true
  | _, _ => True

variable {s s' : State} {e : Event}

theorem spec_step (h : Inv s.mem) (hstep : s.step e = some s') :
    Spec s.mem s'.mem (RequestsInitialized s e s') := by
  cases e with
  | call t fn =>
    -- the unlocked test changes no memory
    cases hth : s.thread t with
    | returned rc =>
      cases hearly : fn.early s.mem.initialized <;> simp only [State.step, hth, hearly] at hstep <;>
        cases hstep <;> exact .refl h
    | waiting fn' => simp [State.step, hth] at hstep
    | sweeping i => simp [State.step, hth] at hstep
  | locked t lib =>
    cases hth : s.thread t with
    | returned rc => simp [State.step, hth] at hstep
    | waiting fn =>
      simp only [State.step, hth] at hstep
      cases hstep
      refine (spec_locked h lib fn).congr ⟨fun hreq fn' heq => ?_, fun hreq => hreq fn hth⟩
      rw [hth] at heq
      cases heq
      exact hreq
    | sweeping i => simp [State.step, hth] at hstep
  | trylockFails t =>
    simp only [State.step, Option.ite_none_right_eq_some] at hstep
    obtain ⟨-, heq⟩ := hstep
    cases heq
    exact .refl h
  | visit t =>
    cases hth : s.thread t with
    | returned rc => simp [State.step, hth] at hstep
    | waiting fn => simp [State.step, hth] at hstep
    | sweeping i =>
      simp only [State.step, hth] at hstep
      split_ifs at hstep
      · cases hstep
        exact spec_visit h i
      · cases hstep
        exact .refl h

theorem inv_start : Inv State.start.mem := by
  have hlines : ∀ slot ∈ State.start.mem.lines, slot.line = none := by
    intro slot hslot
    rw [List.eq_of_mem_replicate hslot]
  exact .closed List.length_replicate rfl rfl hlines fun k _ =>
    ⟨List.not_mem_nil, fun l _ => ⟨List.not_mem_nil, List.not_mem_nil⟩⟩

/-- **Handles over a run**, whatever the threads call and wherever libgpiod fails: no call is on
a handle that is NULL, closed or released, every line is released exactly once before its chip
is closed, and every chip is closed at most once, exactly when no request runs its body while
the library is not initialised. -/
theorem disciplined_iff_initialized {es : List Event} :
    Always State.step (fun s => Disciplined Line.chip s.mem.trace) .start es ↔
      Along State.step RequestsInitialized .start es := by
  refine always_iff_along (fun s e s' h hstep => (spec_step h hstep).1) (fun s e s' h hq hstep => ?_)
    inv_start (disciplined_iff.mpr trivial)
  obtain ⟨-, new, htrace, hvalid⟩ := spec_step h hstep
  rw [disciplined_iff, htrace, valid_append, List.nil_append, hvalid]
  exact and_iff_right (disciplined_iff.mp hq)

/-- Thread 1 is past the unlocked test of a request when thread 2 cleans up. -/
def cleanupBetween : List Event :=
  let lib : Lib := ⟨true, true, true, true, 0⟩
  [.call 1 .init, .locked 1 lib, .call 1 (.requestOutput 17 0),
    .call 2 .cleanup, .locked 2 lib, .locked 1 lib]

/-- `gpiod_chip_get_line` is called with NULL. -/
theorem chip_null :
    ¬ Always State.step (fun s => Disciplined Line.chip s.mem.trace) .start cleanupBetween := by
  intro h
  have hrun : (run State.step .start cleanupBetween).map (·.mem.trace) =
      some [.opened 0, .close (some 0), .onOwner none] := rfl
  obtain ⟨t, ht, htrace⟩ := Option.map_eq_some_iff.mp hrun
  have halive : Alive Line.chip [.opened 0, .close (some 0)] (.onOwner none) :=
    (h.last ht).alive _ _ [] htrace
  obtain ⟨k, hk, -⟩ := halive
  cases hk

end Hal.Threads
