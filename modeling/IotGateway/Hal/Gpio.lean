import IotGateway.Hal.Err

/-!
# GPIO lines

`platform_pi4.c`: a table of 32 slots, each free or holding the handle of one line. Each
function here is one call, taken whole. Writes through libgpiod succeed, except where
`tryAssertSafeState` says which do; a request of a line may be refused.

`Gpio.level` is outside the library: the value last written to each line of the chip.
`Gpio.released` records the output lines given back, with the value each had then.

* `gpioSet_ok`: a successful `gw_gpio_set` writes one reserved output line and nothing else.
* `request_eq_ok`: a line is reserved exactly when it is granted, not reserved yet, and a
  slot is left.
-/

namespace Hal

/-- `MAX_GPIO_LINES` -/
def maxGpioLines : ℕ := 32

/-- `pin_slot_t`. The handle `line` is named by the offset of its line on the chip. -/
structure PinSlot where
  pin : ℤ
  isOutput : Bool
  line : Option ℤ
  line_pin : ∀ l ∈ line, l = pin

/-- A slot without a handle, as `gw_gpio_init` and a refused request leave it. -/
def PinSlot.free (isOutput : Bool) : PinSlot := ⟨-1, isOutput, none, by simp⟩

/-- The slot of a line that has been granted. -/
def PinSlot.taken (pin : ℤ) (isOutput : Bool) : PinSlot :=
  ⟨pin, isOutput, some pin, fun _ h => (Option.some.inj h).symm⟩

/-- The library's state: no line has two slots. -/
structure Gpio where
  initialized : Bool
  lines : List PinSlot
  level : ℤ → ℤ
  released : List (ℤ × ℤ)
  size : lines.length = maxGpioLines
  distinct : (lines.filterMap (·.line)).Nodup

theorem freeSlots_size : (List.replicate maxGpioLines (PinSlot.free false)).length = maxGpioLines :=
  List.length_replicate

theorem freeSlots_distinct :
    ((List.replicate maxGpioLines (PinSlot.free false)).filterMap (·.line)).Nodup := by
  simp [PinSlot.free]

/-- A slot's new handle, on a line none of the slots holds, keeps the handles distinct. -/
theorem nodup_set {lines : List PinSlot} {slot : PinSlot} {i : ℕ}
    (h : (lines.filterMap (·.line)).Nodup)
    (hnew : ∀ l ∈ slot.line, l ∉ lines.filterMap (·.line)) :
    ((lines.set i slot).filterMap (·.line)).Nodup := by
  induction lines generalizing i with
  | nil => simp
  | cons x xs ih =>
    -- the slot is the head, or it is in the tail, which has both properties too
    have htail : (xs.filterMap (·.line)).Nodup := by
      cases hx : x.line with
      | none => simpa [hx] using h
      | some q =>
        rw [List.filterMap_cons_some hx] at h
        exact (List.nodup_cons.1 h).2
    have hnew' : ∀ l ∈ slot.line, l ∉ xs.filterMap (·.line) := by
      intro l hl hmem
      refine hnew l hl ?_
      rw [List.mem_filterMap] at hmem ⊢
      obtain ⟨y, hy, hyl⟩ := hmem
      exact ⟨y, List.mem_cons_of_mem x hy, hyl⟩
    cases i with
    | zero =>
      rw [List.set_cons_zero]
      cases hs : slot.line with
      | none => rw [List.filterMap_cons_none hs]; exact htail
      | some p =>
        rw [List.filterMap_cons_some hs]
        exact List.nodup_cons.2 ⟨hnew' p (by rw [hs]; rfl), htail⟩
    | succ i =>
      rw [List.set_cons_succ]
      cases hx : x.line with
      | none => rw [List.filterMap_cons_none hx]; exact ih htail hnew'
      | some q =>
        rw [List.filterMap_cons_some hx, List.nodup_cons]
        refine ⟨fun hmem => ?_, ih htail hnew'⟩
        obtain ⟨y, hy, hyl⟩ := List.mem_filterMap.1 hmem
        rcases List.mem_or_eq_of_mem_set hy with hy' | rfl
        · rw [List.filterMap_cons_some hx, List.nodup_cons] at h
          exact h.1 (List.mem_filterMap.2 ⟨y, hy', hyl⟩)
        · refine hnew q hyl ?_
          rw [List.filterMap_cons_some hx]
          exact List.mem_cons_self

namespace Gpio

/-- `find_slot` -/
def findSlot (g : Gpio) (pin : ℤ) : Option PinSlot :=
  g.lines.find? fun s => s.pin = pin && s.line.isSome

/-- `alloc_slot`: the place of the first free slot. -/
def allocSlot (g : Gpio) : Option ℕ := g.lines.findIdx? (·.line.isNone)

/-- The reserved output lines. -/
def outputs (g : Gpio) : List ℤ := (g.lines.filter (·.isOutput)).filterMap (·.line)

/-- A line without a slot of its own is not held. -/
theorem findSlot_eq_none {g : Gpio} {pin : ℤ} (h : g.findSlot pin = none) :
    pin ∉ g.lines.filterMap (·.line) := by
  intro hmem
  obtain ⟨s, hs, hl⟩ := List.mem_filterMap.1 hmem
  have hno := List.find?_eq_none.1 h s hs
  have hpin : pin = s.pin := s.line_pin pin hl
  simp [hl, hpin] at hno

/-- `gw_gpio_init`: `opens` says whether `gpiod_chip_open` succeeds. -/
def init (opens : Bool) (g : Gpio) : ℤ × Gpio :=
  if g.initialized then (gwOk, g)
  else if !opens then (gwErrPerm, g)
  else (gwOk, { g with
    initialized := true
    lines := List.replicate maxGpioLines (.free false)
    size := freeSlots_size
    distinct := freeSlots_distinct })

/-- A slot is given to a line, or back. -/
def setSlot (g : Gpio) (i : ℕ) (slot : PinSlot)
    (hnew : ∀ l ∈ slot.line, l ∉ g.lines.filterMap (·.line)) : Gpio :=
  { g with
    lines := g.lines.set i slot
    size := by rw [List.length_set]; exact g.size
    distinct := nodup_set g.distinct hnew }

/-- The locked part of both requests: `grants` says whether libgpiod gives the line. -/
def request (grants : ℤ → Bool) (pin : ℤ) (isOutput : Bool) (g : Gpio) : ℤ × Gpio :=
  match hf : g.findSlot pin with
  | some _ => (gwErrBusy, g)
  | none =>
    match g.allocSlot with
    | none => (gwErrBusy, g)
    | some i =>
      if grants pin then
        (gwOk, g.setSlot i (.taken pin isOutput) fun _ h =>
          Option.some.inj h ▸ findSlot_eq_none hf)
      else (gwErrIo, g.setSlot i (.free ((g.lines[i]?).any (·.isOutput))) (by simp [PinSlot.free]))

/-- `gw_gpio_request_output` -/
def requestOutput (grants : ℤ → Bool) (pin initialValue : ℤ) (g : Gpio) : ℤ × Gpio :=
  if !g.initialized then (gwErrNotInit, g)
  else if pin < 0 ∨ 53 < pin then (gwErrInvalid, g)
  else if initialValue ≠ 0 ∧ initialValue ≠ 1 then (gwErrInvalid, g)
  else
    let (rc, g') := g.request grants pin true
    if rc = gwOk then (rc, { g' with level := Function.update g'.level pin initialValue })
    else (rc, g')

/-- `gw_gpio_request_input`, whose `pull` the library ignores. -/
def requestInput (grants : ℤ → Bool) (pin : ℤ) (g : Gpio) : ℤ × Gpio :=
  if !g.initialized then (gwErrNotInit, g)
  else if pin < 0 ∨ 53 < pin then (gwErrInvalid, g)
  else g.request grants pin false

/-- `gw_gpio_set` -/
def set (pin value : ℤ) (g : Gpio) : ℤ × Gpio :=
  if !g.initialized then (gwErrNotInit, g)
  else if value ≠ 0 ∧ value ≠ 1 then (gwErrInvalid, g)
  else match g.findSlot pin with
    | none => (gwErrInvalid, g)
    | some slot =>
      match slot.line with
      | none => (gwErrInvalid, g)
      | some l =>
        if !slot.isOutput then (gwErrInvalid, g)
        else (gwOk, { g with level := Function.update g.level l value })

/-- `gw_gpio_assert_safe_state`, whose writes reach some of the lines: errors are ignored. -/
def tryAssertSafeState (reaches : ℤ → Bool) (g : Gpio) : Gpio :=
  { g with level := fun l => if l ∈ g.outputs ∧ reaches l = true then 0 else g.level l }

/-- `gw_gpio_assert_safe_state` -/
def assertSafeState (g : Gpio) : Gpio := g.tryAssertSafeState fun _ => true

/-- `gw_gpio_cleanup` -/
def cleanup (g : Gpio) : Gpio :=
  { g with
    initialized := false
    lines := g.lines.map fun s => if s.line.isSome then .free s.isOutput else s
    released := g.released ++ g.outputs.map fun l => (l, g.level l)
    size := by rw [List.length_map]; exact g.size
    distinct := by
      rw [List.filterMap_map, List.filterMap_eq_nil_iff.2]
      · exact List.nodup_nil
      · intro s _
        simp only [Function.comp]
        split_ifs with h
        · rfl
        · exact Option.not_isSome_iff_eq_none.1 h }

variable {g g' : Gpio} {pin value : ℤ}

/-! ## Reserved lines -/

/-- The lines that have a slot. -/
def reserved (g : Gpio) : List ℤ := g.lines.filterMap (·.line)

theorem findSlot_isNone : g.findSlot pin = none ↔ pin ∉ g.reserved := by
  constructor
  · exact findSlot_eq_none
  · intro hno
    refine List.find?_eq_none.2 fun s hs hfound => ?_
    simp only [Bool.and_eq_true, decide_eq_true_eq] at hfound
    obtain ⟨l, hl⟩ := Option.isSome_iff_exists.1 hfound.2
    refine hno (List.mem_filterMap.2 ⟨s, hs, ?_⟩)
    rw [hl, s.line_pin l hl, hfound.1]

/-- A slot is left unless all have a line. -/
theorem allocSlot_isNone : g.allocSlot = none ↔ g.reserved.length = maxGpioLines := by
  have hall : g.allocSlot = none ↔ ∀ s ∈ g.lines, s.line.isSome = true := by
    unfold allocSlot
    rw [List.findIdx?_eq_none_iff]
    refine forall₂_congr fun s _ => ?_
    cases s.line <;> simp
  rw [hall, ← g.size, reserved, List.length_filterMap_eq_countP]
  exact (List.countP_eq_length (p := fun s : PinSlot => s.line.isSome)).symm

/-- A free place takes a line, beside those of the others. -/
theorem filterMap_set_perm {α β : Type*} {line : α → Option β} {lines : List α} {i : ℕ} {slot old : α}
    {l : β} (hi : lines[i]? = some old) (hfree : line old = none) (hl : line slot = some l) :
    ((lines.set i slot).filterMap line).Perm (l :: lines.filterMap line) := by
  induction lines generalizing i with
  | nil => cases hi
  | cons x xs ih =>
    cases i with
    | zero =>
      cases hi
      rw [List.set_cons_zero, List.filterMap_cons_some hl, List.filterMap_cons_none hfree]
    | succ i =>
      have hperm := ih (i := i) hi
      rw [List.set_cons_succ]
      cases hx : line x with
      | none =>
        rw [List.filterMap_cons_none hx, List.filterMap_cons_none hx]
        exact hperm
      | some q =>
        rw [List.filterMap_cons_some hx, List.filterMap_cons_some hx]
        exact (hperm.cons q).trans (List.Perm.swap ..)

theorem busy_ne_ok : ¬ gwErrBusy = gwOk := by decide

theorem io_ne_ok : ¬ gwErrIo = gwOk := by decide

/-- **A request** succeeds for a line that is granted and not reserved, while a slot is left. -/
theorem request_eq_ok {grants : ℤ → Bool} {isOutput : Bool} :
    (g.request grants pin isOutput).1 = gwOk ↔
      grants pin = true ∧ pin ∉ g.reserved ∧ g.reserved.length < maxGpioLines := by
  have hle : g.reserved.length ≤ maxGpioLines := by
    rw [← g.size]
    exact List.length_filterMap_le ..
  unfold request
  split
  · rename_i slot hslot
    have hmem : ¬ pin ∉ g.reserved := by
      rw [← findSlot_isNone, hslot]
      exact Option.some_ne_none _
    exact iff_of_false busy_ne_ok fun h => hmem h.2.1
  · rename_i hslot
    split
    · rename_i halloc
      have hfull := allocSlot_isNone.1 halloc
      exact iff_of_false busy_ne_ok fun h => absurd h.2.2 (by omega)
    · rename_i i halloc
      have hroom : g.reserved.length < maxGpioLines := by
        refine lt_of_le_of_ne hle fun hfull => ?_
        rw [allocSlot_isNone.2 hfull] at halloc
        cases halloc
      split_ifs with hgrant
      · exact iff_of_true rfl ⟨hgrant, findSlot_isNone.1 hslot, hroom⟩
      · exact iff_of_false io_ne_ok fun h => hgrant h.1

/-- What a granted request does: a free slot is taken. -/
theorem request_granted {grants : ℤ → Bool} {isOutput : Bool}
    (h : (g.request grants pin isOutput).1 = gwOk) :
    ∃ i old, g.lines[i]? = some old ∧ old.line = none ∧
      (g.request grants pin isOutput).2.lines = g.lines.set i (.taken pin isOutput) ∧
      (g.request grants pin isOutput).2.initialized = g.initialized := by
  obtain ⟨hgrant, hnew, hroom⟩ := request_eq_ok.1 h
  unfold request
  split
  · rename_i slot hslot
    rw [findSlot_isNone.2 hnew] at hslot
    cases hslot
  · split
    · rename_i halloc
      rw [allocSlot_isNone.1 halloc] at hroom
      exact absurd hroom (lt_irrefl _)
    · rename_i i halloc
      rw [if_pos hgrant]
      obtain ⟨hlt, hfree, -⟩ := List.findIdx?_eq_some_iff_getElem.1 halloc
      exact ⟨i, _, List.getElem?_eq_getElem hlt, Option.isNone_iff_eq_none.1 hfree, rfl, rfl⟩

theorem request_reserved {grants : ℤ → Bool} {isOutput : Bool}
    (h : (g.request grants pin isOutput).1 = gwOk) :
    (g.request grants pin isOutput).2.reserved.Perm (pin :: g.reserved) ∧
      (g.request grants pin isOutput).2.initialized = g.initialized := by
  obtain ⟨i, old, hi, hfree, hlines, hinit⟩ := request_granted h
  refine ⟨?_, hinit⟩
  rw [reserved, hlines]
  exact filterMap_set_perm hi hfree rfl

theorem outputs_eq (g : Gpio) :
    g.outputs = g.lines.filterMap fun s => if s.isOutput then s.line else none :=
  List.filterMap_filter

/-- A granted output is one of the outputs. -/
theorem request_outputs {grants : ℤ → Bool} (h : (g.request grants pin true).1 = gwOk) :
    (g.request grants pin true).2.outputs.Perm (pin :: g.outputs) := by
  obtain ⟨i, old, hi, hfree, hlines, -⟩ := request_granted h
  rw [outputs_eq, outputs_eq, hlines]
  refine filterMap_set_perm hi ?_ rfl
  rw [hfree, ite_self]

/-- A request writes to no line. -/
theorem request_level {grants : ℤ → Bool} {pin : ℤ} {isOutput : Bool} (g : Gpio) :
    (g.request grants pin isOutput).2.level = g.level ∧
      (g.request grants pin isOutput).2.initialized = g.initialized := by
  unfold request
  split
  · exact ⟨rfl, rfl⟩
  · split
    · exact ⟨rfl, rfl⟩
    · split_ifs
      · exact ⟨rfl, rfl⟩
      · exact ⟨rfl, rfl⟩

/-- A place without a line that stays so changes nothing. -/
theorem filterMap_set_none {α β : Type*} {line : α → Option β} {lines : List α} {i : ℕ} {slot old : α}
    (hi : lines[i]? = some old) (hold : line old = none) (hnew : line slot = none) :
    (lines.set i slot).filterMap line = lines.filterMap line := by
  induction lines generalizing i with
  | nil => cases hi
  | cons x xs ih =>
    cases i with
    | zero =>
      cases hi
      rw [List.set_cons_zero, List.filterMap_cons_none hnew, List.filterMap_cons_none hold]
    | succ i =>
      rw [List.set_cons_succ, List.filterMap_cons, List.filterMap_cons, ih hi]

/-- A refused request leaves the outputs. -/
theorem request_refused {grants : ℤ → Bool} {isOutput : Bool}
    (h : ¬ (g.request grants pin isOutput).1 = gwOk) :
    (g.request grants pin isOutput).2.outputs = g.outputs := by
  unfold request at h ⊢
  split
  · rfl
  · rename_i hslot
    split
    · rfl
    · rename_i i halloc
      by_cases hgrant : grants pin = true
      · refine absurd ?_ h
        split
        · rename_i slot hslot'
          rw [hslot] at hslot'
          cases hslot'
        · rw [halloc]
          exact congrArg Prod.fst (if_pos hgrant)
      · rw [if_neg hgrant, outputs_eq, outputs_eq]
        obtain ⟨hlt, hfree, -⟩ := List.findIdx?_eq_some_iff_getElem.1 halloc
        refine filterMap_set_none (List.getElem?_eq_getElem hlt) ?_ (ite_self none)
        rw [Option.isNone_iff_eq_none.1 hfree, ite_self]

/-- `gw_gpio_request_output` of a valid line and value, on an initialised library. -/
theorem requestOutput_eq_ok {grants : ℤ → Bool} (hinit : g.initialized = true) (hpin : 0 ≤ pin ∧ pin ≤ 53)
    (hvalue : value = 0 ∨ value = 1) :
    ((g.requestOutput grants pin value).1 = gwOk ↔
      grants pin = true ∧ pin ∉ g.reserved ∧ g.reserved.length < maxGpioLines) ∧
    ((g.requestOutput grants pin value).1 = gwOk →
      (g.requestOutput grants pin value).2.reserved.Perm (pin :: g.reserved) ∧
        (g.requestOutput grants pin value).2.initialized = true) := by
  have hguard : ¬ (value ≠ 0 ∧ value ≠ 1) := by omega
  unfold requestOutput
  rw [if_neg (by simp [hinit]), if_neg (by omega), if_neg hguard]
  dsimp only
  split_ifs with hok
  · refine ⟨iff_of_true hok (request_eq_ok.1 hok), fun _ => ?_⟩
    obtain ⟨hperm, hi⟩ := request_reserved hok
    exact ⟨hperm, hi.trans hinit⟩
  · exact ⟨iff_of_false hok fun h => hok (request_eq_ok.2 h), fun h => absurd h hok⟩

/-- The library before `gw_gpio_init`. -/
def off : Gpio where
  initialized := false
  lines := List.replicate maxGpioLines (.free false)
  level := fun _ => 0
  released := []
  size := freeSlots_size
  distinct := freeSlots_distinct

@[simp] theorem cleanup_released :
    g.cleanup.released = g.released ++ g.outputs.map fun l => (l, g.level l) := rfl

/-- After the safe-state pass every reserved output line is 0. -/
theorem tryAssertSafeState_level {reaches : ℤ → Bool} {l : ℤ} (h : l ∈ g.outputs) (hl : reaches l = true) :
    (g.tryAssertSafeState reaches).level l = 0 :=
  if_pos ⟨h, hl⟩

theorem assertSafeState_level {l : ℤ} (h : l ∈ g.outputs) : g.assertSafeState.level l = 0 :=
  tryAssertSafeState_level h rfl

/-- **`gw_gpio_set`** either refuses and changes nothing, or writes one reserved output line. -/
theorem set_cases (g : Gpio) (pin value : ℤ) :
    (∃ rc, g.set pin value = (rc, g) ∧ rc ≠ gwOk) ∨
      (pin ∈ g.outputs ∧
        g.set pin value = (gwOk, { g with level := Function.update g.level pin value })) := by
  unfold set
  split_ifs with hinit hval
  · exact Or.inl ⟨_, rfl, by decide⟩
  · exact Or.inl ⟨_, rfl, by decide⟩
  · split
    · exact Or.inl ⟨_, rfl, by decide⟩
    · rename_i slot hslot
      split
      · exact Or.inl ⟨_, rfl, by decide⟩
      · rename_i l hl
        split_ifs with hout
        · exact Or.inl ⟨_, rfl, by decide⟩
        · have hmem : slot ∈ g.lines := List.mem_of_find?_eq_some hslot
          have hpin : slot.pin = pin := by
            have := List.find?_some hslot
            simp only [Bool.and_eq_true, decide_eq_true_eq] at this
            exact this.1
          obtain rfl : l = pin := by rw [← hpin]; exact slot.line_pin l hl
          refine Or.inr ⟨?_, rfl⟩
          rw [outputs, List.mem_filterMap]
          exact ⟨slot, List.mem_filter.2 ⟨hmem, by simpa using hout⟩, hl⟩

end Gpio

/-- `GPIOSet` -/
def gpioSet (g : Gpio) (pin value : ℤ) : Except Err Unit × Gpio :=
  let (rc, g') := g.set (cInt pin) (cInt value)
  (wrap rc, g')

/-- `RequestOutput` -/
def requestOutput (grants : ℤ → Bool) (g : Gpio) (pin initialValue : ℤ) : Except Err Unit × Gpio :=
  let (rc, g') := g.requestOutput grants (cInt pin) (cInt initialValue)
  (wrap rc, g')

variable {g g' : Gpio} {pin value : ℤ}

/-- A refused write changes nothing. -/
theorem gpioSet_error {e : Err} (h : gpioSet g pin value = (.error e, g')) : g' = g := by
  unfold gpioSet at h
  rcases g.set_cases (cInt pin) (cInt value) with ⟨rc, heq, -⟩ | ⟨-, heq⟩ <;> rw [heq] at h
  · exact (congrArg Prod.snd h).symm
  · cases h

/-- A successful write is to a reserved output line, and changes only its level. -/
theorem gpioSet_ok (h : gpioSet g pin value = (.ok (), g')) :
    cInt pin ∈ g.outputs ∧ g' = { g with level := Function.update g.level (cInt pin) (cInt value) } := by
  unfold gpioSet at h
  rcases g.set_cases (cInt pin) (cInt value) with ⟨rc, heq, hrc⟩ | ⟨hmem, heq⟩ <;> rw [heq] at h
  · have := congrArg Prod.fst h
    simp [wrap, hrc] at this
  · exact ⟨hmem, (congrArg Prod.snd h).symm⟩

/-- Whatever it answers, a write keeps the reserved lines. -/
theorem gpioSet_outputs (g : Gpio) (pin value : ℤ) :
    (gpioSet g pin value).2.outputs = g.outputs ∧ (gpioSet g pin value).2.released = g.released := by
  rcases h : gpioSet g pin value with ⟨e | u, g'⟩
  · rw [gpioSet_error h]
    exact ⟨rfl, rfl⟩
  · rw [(gpioSet_ok h).2]
    exact ⟨rfl, rfl⟩

end Hal
