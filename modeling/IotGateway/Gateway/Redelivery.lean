import IotGateway.Gateway.Plant

/-!
# Redelivered commands

`handleCommand` receives messages one at a time, any of them repeated by MQTT QoS 1,
while max-on timers go off in between. `localdb` offers `CommandSeen`, but `execute`
never asks: it decides from the request, the clock and the channel table only
(`handle_congr`), so a repeated command is carried out again.

`redelivery_iff`: **removing the repeated deliveries of executed commands changes
neither the effects nor the final channels and pins exactly when no command id is
admitted twice.** The repeat of an overtaken ON switches the relay back ON
(`repeat_reverts_newer`).
-/

namespace Gateway

/-- A message on the command topic, with the clock and the HAL it meets. -/
structure Delivery where
  now : ℤ
  gpioSet : ℤ → ℤ → Except Hal.Err Unit
  payload : Option CommandRequest

/-! ## Time passing between messages -/

namespace ChannelState

/-- The armed timer goes off by `now`. -/
def isDue (st : ChannelState) (now : ℤ) : Bool :=
  match st.maxOnTimer with
  | some t => !t.fired && t.due ≤ now
  | none => false

/-- The pin write of the due callback succeeds; `off due pin` is the HAL's answer. -/
def turnsOff (off : ℤ → ℤ → Bool) (st : ChannelState) : Bool :=
  match st.maxOnTimer with
  | some t => off t.due st.cfg.gpioPin
  | none => false

/-- The channel when its timer, if due by `now`, has gone off and its callback has run. -/
def elapse (off : ℤ → ℤ → Bool) (simulation : Bool) (now : ℤ) (st : ChannelState) : ChannelState :=
  if st.isDue now then
    if simulation || st.turnsOff off then st.fire.autoOff else st.fire
  else st

theorem elapse_cfg (off : ℤ → ℤ → Bool) (simulation : Bool) (now : ℤ) (st : ChannelState) :
    (st.elapse off simulation now).cfg = st.cfg := by
  unfold elapse
  split_ifs <;> rfl

end ChannelState

namespace Plant

/-- Time passes up to `now`: every due timer goes off and its callback runs. -/
def advance (off : ℤ → ℤ → Bool) (now : ℤ) (p : Plant) : Plant where
  mgr := { p.mgr with
    channels := p.mgr.channels.map (·.elapse off p.mgr.simulation now)
    keys := by
      rw [ChannelState.map_channelID (ChannelState.elapse_cfg off p.mgr.simulation now)]
      exact p.mgr.keys }
  level pin :=
    if p.mgr.simulation = false ∧
        ∃ st ∈ p.mgr.channels, st.isDue now ∧ st.turnsOff off ∧ st.cfg.gpioPin = pin
    then 0 else p.level pin

/-- A message arrives at its time. -/
def receive (off : ℤ → ℤ → Bool) (p : Plant) (d : Delivery) : Plant :=
  (p.advance off d.now).deliver d.now d.gpioSet d.payload

/-- The effects of the commands, in order. -/
def effectTrace (off : ℤ → ℤ → Bool) : Plant → List Delivery → List Effect
  | _, [] => []
  | p, d :: ds =>
    (handleCommand (p.advance off d.now).mgr d.now d.gpioSet d.payload).2.2 ++
      effectTrace off (p.receive off d) ds

/-- Channels and pins at `now`, after the messages. -/
def after (off : ℤ → ℤ → Bool) (now : ℤ) (p : Plant) (ds : List Delivery) : Plant :=
  (ds.foldl (receive off) p).advance off now

end Plant

/-- The delivery of a command that `execute` carries out. -/
def Delivery.executes (m : Manager) (d : Delivery) : Bool :=
  match d.payload with
  | some req => Admits m d.now d.gpioSet req
  | none => false

def Delivery.commandID (d : Delivery) : Option String := d.payload.map (·.commandID)

/-- The message repeats a command id of `seen`. -/
def Delivery.Repeats (seen : List String) (d : Delivery) : Prop :=
  ∃ id ∈ seen, d.commandID = some id

instance (seen : List String) (d : Delivery) : Decidable (d.Repeats seen) :=
  inferInstanceAs (Decidable (∃ id ∈ seen, d.commandID = some id))

/-- The command ids executed after a message. -/
def Delivery.addTo (m : Manager) (seen : List String) (d : Delivery) : List String :=
  if d.executes m then d.commandID.toList ++ seen else seen

/-- The deliveries without the repeats of a command already executed (`seen`). -/
def dropRepeats (m : Manager) : List String → List Delivery → List Delivery
  | _, [] => []
  | seen, d :: ds =>
    if d.Repeats seen then dropRepeats m seen ds
    else d :: dropRepeats m (d.addTo m seen) ds

/-- Two deliveries do not both execute one command id. -/
def NotTwice (m : Manager) (d e : Delivery) : Prop :=
  ¬ (d.commandID = e.commandID ∧ d.executes m = true ∧ e.executes m = true)

/-! ## The decision depends on the table only -/

/-- The same channels, gateway and mode. -/
structure SameTable (m m' : Manager) : Prop where
  cfgs : m.channels.map (·.cfg) = m'.channels.map (·.cfg)
  gatewayID : m.gatewayID = m'.gatewayID
  simulation : m.simulation = m'.simulation

section Table

variable {m m' : Manager}

theorem channel_congr (h : SameTable m m') (id : String) :
    (m.channel id).map (·.cfg) = (m'.channel id).map (·.cfg) := by
  have hmap : ∀ l : List ChannelState, (l.find? (·.cfg.channelID = id)).map (·.cfg) =
      (l.map (·.cfg)).find? (·.channelID = id) := by
    intro l
    rw [List.find?_map]
    rfl
  unfold Manager.channel
  rw [hmap, hmap, h.cfgs]

theorem check_congr (h : SameTable m m') (now : ℤ) (req : CommandRequest) :
    (check m now req).map (fun sv => (sv.1.cfg, sv.2)) =
      (check m' now req).map (fun sv => (sv.1.cfg, sv.2)) := by
  have hch := channel_congr h req.actuatorChannelID
  have hresp : newResponse m now req = newResponse m' now req := by
    unfold newResponse
    rw [h.gatewayID]
  unfold check
  dsimp only
  rw [hresp, h.gatewayID]
  split_ifs
  · rfl
  · rfl
  · split
    · rfl
    · cases hm : m.channel req.actuatorChannelID with
      | none =>
        rw [hm] at hch
        have : m'.channel req.actuatorChannelID = none := by simpa using hch.symm
        rw [this]
      | some st =>
        rw [hm] at hch
        obtain ⟨st', hm', hcfg⟩ := Option.map_eq_some_iff.1 hch.symm
        rw [hm']
        dsimp only
        split
        · rfl
        · simp [Except.map, hcfg]

/-- **What a message does depends on the channel table only**, not on the channels'
values or timers: whether it is carried out, and its effects. -/
theorem handle_congr (h : SameTable m m') (now : ℤ) (gpioSet : ℤ → ℤ → Except Hal.Err Unit)
    (req : CommandRequest) :
    Admits m now gpioSet req = Admits m' now gpioSet req ∧
      (execute m now gpioSet req).2.2 = (execute m' now gpioSet req).2.2 := by
  have hc := check_congr h now req
  unfold Admits execute
  rw [h.simulation]
  cases h1 : check m now req with
  | error r =>
    cases h2 : check m' now req with
    | error r' => exact ⟨rfl, rfl⟩
    | ok sv => rw [h1, h2] at hc; cases hc
  | ok sv =>
    obtain ⟨st, v⟩ := sv
    cases h2 : check m' now req with
    | error r' => rw [h1, h2] at hc; cases hc
    | ok sv' =>
      obtain ⟨st', v'⟩ := sv'
      rw [h1, h2] at hc
      simp only [Except.map, Except.ok.injEq, Prod.mk.injEq] at hc
      obtain ⟨hcfg, rfl⟩ := hc
      dsimp only
      rw [hcfg]
      refine ⟨rfl, ?_⟩
      split
      · rfl
      · dsimp only
        unfold effects ChannelState.locked
        rw [h.simulation, hcfg]

theorem SameTable.trans {m'' : Manager} (h : SameTable m m') (h' : SameTable m' m'') :
    SameTable m m'' :=
  ⟨h.cfgs.trans h'.cfgs, h.gatewayID.trans h'.gatewayID, h.simulation.trans h'.simulation⟩

end Table

/-- The effects of one message. -/
def effectsOf (m : Manager) (d : Delivery) : List Effect :=
  (handleCommand m d.now d.gpioSet d.payload).2.2

theorem effectsOf_congr {m m' : Manager} (h : SameTable m m') (d : Delivery) :
    effectsOf m d = effectsOf m' d := by
  unfold effectsOf handleCommand
  cases d.payload with
  | none => rfl
  | some req => exact (handle_congr h d.now d.gpioSet req).2

theorem executes_congr {m m' : Manager} (h : SameTable m m') (d : Delivery) :
    d.executes m = d.executes m' := by
  unfold Delivery.executes
  cases d.payload with
  | none => rfl
  | some req => exact (handle_congr h d.now d.gpioSet req).1

/-- A message has effects exactly when it is carried out. -/
theorem effectsOf_eq_nil {m : Manager} {d : Delivery} :
    effectsOf m d = [] ↔ d.executes m = false := by
  unfold effectsOf Delivery.executes handleCommand
  cases d.payload with
  | none => simp
  | some req =>
    rcases execute_cases m d.now d.gpioSet req with ⟨ha, resp, hx, -⟩ | ⟨ha, st, v, resp, -, hx, -⟩
    · simp [ha, hx]
    · simp [ha, hx, effects]

/-! ## Plants -/

section PlantTable

variable {off : ℤ → ℤ → Bool} {p : Plant}

theorem advance_table (now : ℤ) : SameTable p.mgr (p.advance off now).mgr := by
  refine ⟨?_, rfl, rfl⟩
  unfold Plant.advance
  dsimp only
  rw [List.map_map]
  apply List.map_congr_left
  intro st _
  exact (ChannelState.elapse_cfg off p.mgr.simulation now st).symm

theorem update_table {m : Manager} {id : String} {f : ChannelState → ChannelState}
    (hf : ∀ st, (f st).cfg = st.cfg) : SameTable m (m.update id f hf) :=
  ⟨(Manager.update_cfgs hf).symm, rfl, rfl⟩

theorem deliver_table (d : Delivery) :
    SameTable p.mgr (p.deliver d.now d.gpioSet d.payload).mgr := by
  unfold Plant.deliver handleCommand
  cases d.payload with
  | none => exact ⟨rfl, rfl, rfl⟩
  | some req =>
    rcases execute_cases p.mgr d.now d.gpioSet req with ⟨-, resp, hx, -⟩ | ⟨-, st, v, resp, -, hx, -⟩
    · simp only [hx]
      exact ⟨rfl, rfl, rfl⟩
    · simp only [hx]
      exact update_table fun st => st.locked_cfg d.now v

theorem receive_table (d : Delivery) : SameTable p.mgr (p.receive off d).mgr :=
  (advance_table d.now).trans (deliver_table d)

/-- A message that is not carried out changes nothing. -/
theorem deliver_refused {d : Delivery} (h : d.executes p.mgr = false) :
    p.deliver d.now d.gpioSet d.payload = p := by
  unfold Delivery.executes at h
  unfold Plant.deliver handleCommand
  cases hd : d.payload with
  | none => rfl
  | some req =>
    rw [hd] at h
    rcases execute_cases p.mgr d.now d.gpioSet req with ⟨-, resp, hx, -⟩ | ⟨ha, -⟩
    · simp [hx]
    · exact absurd ha (by simpa using h)

/-- The trace of a run is the effects of its messages, read off the first table. -/
theorem effectTrace_eq (ds : List Delivery) :
    ∀ {p : Plant} {m : Manager}, SameTable m p.mgr →
      p.effectTrace off ds = ds.flatMap (effectsOf m) := by
  induction ds with
  | nil => intro p m _; rfl
  | cons d ds ih =>
    intro p m h
    rw [List.flatMap_cons, ← ih (h.trans (receive_table d)),
      effectsOf_congr (h.trans (advance_table d.now)) d]
    rfl

end PlantTable

/-! ## Time composes -/

section Time

variable {off : ℤ → ℤ → Bool} {sim : Bool} {t t' : ℤ} {st : ChannelState} {p : Plant}

theorem isDue_mono (h : t ≤ t') (hd : st.isDue t = true) : st.isDue t' = true := by
  unfold ChannelState.isDue at *
  cases ht : st.maxOnTimer with
  | none => simp [ht] at hd
  | some tm =>
    simp only [ht, Bool.and_eq_true, decide_eq_true_eq] at hd ⊢
    exact ⟨hd.1, by omega⟩

/-- A timer that has gone off is not due again, and its pin write answers the same. -/
theorem elapse_facts (off : ℤ → ℤ → Bool) (sim : Bool) (t t' : ℤ) (st : ChannelState) :
    (st.elapse off sim t).isDue t' = (!st.isDue t && st.isDue t') ∧
      (st.elapse off sim t).turnsOff off = st.turnsOff off := by
  unfold ChannelState.elapse
  by_cases hd : st.isDue t = true
  · rw [if_pos hd, hd]
    cases ht : st.maxOnTimer <;> split_ifs <;>
      simp [ChannelState.isDue, ChannelState.turnsOff, ChannelState.fire, ChannelState.autoOff, ht]
  · rw [if_neg hd]
    simp [hd]

theorem elapse_elapse (h : t ≤ t') : (st.elapse off sim t).elapse off sim t' = st.elapse off sim t' := by
  obtain ⟨hdue, -⟩ := elapse_facts off sim t t' st
  by_cases hd : st.isDue t = true
  · have hd' := isDue_mono h hd
    have hno : (st.elapse off sim t).isDue t' = false := by rw [hdue, hd]; rfl
    unfold ChannelState.elapse at hno ⊢
    rw [if_pos hd] at hno ⊢
    rw [if_pos hd', if_neg (by rw [hno]; decide)]
  · have : st.elapse off sim t = st := if_neg hd
    rw [this]

/-- **Waiting in two parts** is waiting once. -/
theorem advance_advance (h : t ≤ t') : (p.advance off t).advance off t' = p.advance off t' := by
  apply Plant.ext
  · apply Manager.ext
    · simp only [Plant.advance, List.map_map]
      apply List.map_congr_left
      intro st _
      exact elapse_elapse h
    · rfl
    · rfl
  · funext pin
    simp only [Plant.advance, List.mem_map, exists_exists_and_eq_and]
    by_cases hsim : p.mgr.simulation = false
    · simp only [hsim, true_and]
      by_cases h' : ∃ st ∈ p.mgr.channels, st.isDue t' ∧ st.turnsOff off ∧ st.cfg.gpioPin = pin
      · rw [if_pos h']
        obtain ⟨st, hmem, hd', hoff, hpin⟩ := h'
        split_ifs with hlate hearly
        · rfl
        · rfl
        · -- due between `t` and `t'`: not taken away by the first wait
          obtain ⟨h1, h2⟩ := elapse_facts off false t t' st
          have h3 := ChannelState.elapse_cfg off false t st
          have hd : st.isDue t = false := by
            cases hd : st.isDue t with
            | false => rfl
            | true => exact absurd ⟨st, hmem, hd, hoff, hpin⟩ hearly
          exact absurd ⟨st, hmem, by rw [h1, hd, hd']; rfl, by rw [h2]; exact hoff,
            by rw [h3]; exact hpin⟩ hlate
      · rw [if_neg h', if_neg, if_neg]
        · rintro ⟨st, hmem, hd, hoff, hpin⟩
          exact h' ⟨st, hmem, isDue_mono h hd, hoff, hpin⟩
        · -- what is due after the first wait was due without it
          rintro ⟨st, hmem, hd, hoff, hpin⟩
          obtain ⟨h1, h2⟩ := elapse_facts off false t t' st
          have h3 := ChannelState.elapse_cfg off false t st
          rw [h1, Bool.and_eq_true] at hd
          exact h' ⟨st, hmem, hd.2, by rw [← h2]; exact hoff, by rw [← h3]; exact hpin⟩
    · simp [hsim]

/-- Waiting before messages that come later anyway makes no difference after them. -/
theorem after_advance {ds : List Delivery} {now : ℤ} (hds : ∀ d ∈ ds, t ≤ d.now) (hnow : t ≤ now) :
    (p.advance off t).after off now ds = p.after off now ds := by
  cases ds with
  | nil => exact advance_advance hnow
  | cons d ds =>
    unfold Plant.after
    rw [List.foldl_cons, List.foldl_cons]
    have : (p.advance off t).receive off d = p.receive off d := by
      unfold Plant.receive
      rw [advance_advance (hds d List.mem_cons_self)]
    rw [this]

end Time

/-! ## Removing the repeats -/

section Repeats

variable {m : Manager} {off : ℤ → ℤ → Bool} {p : Plant} {now : ℤ}

/-- No delivery of a command id in `seen` is carried out, nor is an id carried out twice. -/
def RepeatsRefused (m : Manager) (seen : List String) (ds : List Delivery) : Prop :=
  ds.Pairwise (NotTwice m) ∧ ∀ d ∈ ds, d.Repeats seen → d.executes m = false

theorem executes_commandID {d : Delivery} (h : d.executes m = true) : ∃ id, d.commandID = some id := by
  unfold Delivery.executes at h
  unfold Delivery.commandID
  cases hd : d.payload with
  | none => rw [hd] at h; cases h
  | some req => exact ⟨req.commandID, rfl⟩

theorem repeatsRefused_cons {seen : List String} {d : Delivery} {ds : List Delivery} :
    RepeatsRefused m seen (d :: ds) ↔
      (d.Repeats seen → d.executes m = false) ∧ RepeatsRefused m (d.addTo m seen) ds := by
  unfold RepeatsRefused Delivery.addTo
  rw [List.pairwise_cons, List.forall_mem_cons]
  constructor
  · rintro ⟨⟨hd, hds⟩, hseen, hseen'⟩
    refine ⟨hseen, hds, ?_⟩
    rintro e he ⟨id, hid, hide⟩
    by_cases hx : d.executes m = true
    · rw [if_pos hx, List.mem_append] at hid
      rcases hid with hid | hid
      · -- `e` repeats `d`, which was carried out
        have hdid : d.commandID = some id := by simpa using hid
        by_contra hne
        exact hd e he ⟨hdid.trans hide.symm, hx, by simpa using hne⟩
      · exact hseen' e he ⟨id, hid, hide⟩
    · rw [if_neg hx] at hid
      exact hseen' e he ⟨id, hid, hide⟩
  · rintro ⟨hseen, hds, hseen'⟩
    refine ⟨⟨?_, hds⟩, hseen, ?_⟩
    · rintro e he ⟨hide, hx, hex⟩
      obtain ⟨id, hid⟩ := executes_commandID hx
      rw [if_pos hx] at hseen'
      have := hseen' e he ⟨id, by simp [hid], by rw [← hide, hid]⟩
      rw [this] at hex
      cases hex
    · rintro e he ⟨id, hid, hide⟩
      refine hseen' e he ⟨id, ?_, hide⟩
      split_ifs
      · exact List.mem_append_right _ hid
      · exact hid

theorem dropRepeats_sublist (ds : List Delivery) :
    ∀ seen : List String, (dropRepeats m seen ds).Sublist ds := by
  induction ds with
  | nil => exact fun seen => List.Sublist.refl _
  | cons d ds ih =>
    intro seen
    unfold dropRepeats
    split
    · exact (ih seen).cons d
    · exact (ih _).cons_cons d

theorem flatMap_dropRepeats_le (seen : List String) (ds : List Delivery) :
    ((dropRepeats m seen ds).flatMap (effectsOf m)).length ≤ (ds.flatMap (effectsOf m)).length :=
  ((dropRepeats_sublist ds seen).flatMap (effectsOf m)).length_le

/-- Removing the repeats keeps the effects exactly when the repeats had none. -/
theorem flatMap_dropRepeats_iff (ds : List Delivery) :
    ∀ seen : List String, (dropRepeats m seen ds).flatMap (effectsOf m) = ds.flatMap (effectsOf m) ↔
      RepeatsRefused m seen ds := by
  induction ds with
  | nil => exact fun seen => ⟨fun _ => ⟨List.Pairwise.nil, by simp⟩, fun _ => rfl⟩
  | cons d ds ih =>
    intro seen
    rw [repeatsRefused_cons]
    unfold dropRepeats
    by_cases hr : d.Repeats seen
    · rw [if_pos hr, List.flatMap_cons]
      constructor
      · intro h
        -- the remaining messages cannot make up for the effects of `d`
        have hlen := congrArg List.length h
        have hle := flatMap_dropRepeats_le (m := m) seen ds
        rw [List.length_append] at hlen
        have hnil : effectsOf m d = [] := List.length_eq_zero_iff.1 (by omega)
        have hx := effectsOf_eq_nil.1 hnil
        rw [hnil, List.nil_append] at h
        refine ⟨fun _ => hx, ?_⟩
        unfold Delivery.addTo
        rw [if_neg (by simp [hx])]
        exact (ih seen).1 h
      · rintro ⟨hx, hds⟩
        have hno : d.executes m = false := hx hr
        unfold Delivery.addTo at hds
        rw [if_neg (by simp [hno])] at hds
        rw [effectsOf_eq_nil.2 hno, List.nil_append]
        exact (ih seen).2 hds
    · rw [if_neg hr, List.flatMap_cons, List.flatMap_cons, List.append_cancel_left_eq, ih]
      exact ⟨fun h => ⟨fun h' => absurd h' hr, h⟩, fun h => h.2⟩

/-- Repeats that are refused can be removed: channels and pins end the same. -/
theorem after_dropRepeats (ds : List Delivery) :
    ∀ {seen : List String} {p : Plant}, SameTable m p.mgr → RepeatsRefused m seen ds →
      (ds.map (·.now) ++ [now]).Pairwise (· ≤ ·) →
      p.after off now (dropRepeats m seen ds) = p.after off now ds := by
  induction ds with
  | nil => exact fun _ _ _ => rfl
  | cons d ds ih =>
    intro seen p ht href hclock
    obtain ⟨hrep, href'⟩ := repeatsRefused_cons.1 href
    rw [List.map_cons, List.cons_append, List.pairwise_cons] at hclock
    obtain ⟨hlater, hclock'⟩ := hclock
    have hcons : p.after off now (d :: ds) = (p.receive off d).after off now ds := rfl
    unfold dropRepeats
    by_cases hr : d.Repeats seen
    · -- a dropped message only let time pass, which the next ones do anyway
      have hno : d.executes m = false := hrep hr
      have hwait : p.receive off d = p.advance off d.now :=
        deliver_refused (by rw [← executes_congr (ht.trans (advance_table d.now)) d]; exact hno)
      unfold Delivery.addTo at href'
      rw [if_neg (by simp [hno])] at href'
      rw [if_pos hr, hcons, hwait, ← ih (ht.trans (advance_table d.now)) href' hclock', after_advance]
      · intro e he
        have : e.now ∈ ds.map (·.now) := List.mem_map_of_mem ((dropRepeats_sublist ds seen).subset he)
        exact hlater _ (List.mem_append_left _ this)
      · exact hlater now (by simp)
    · rw [if_neg hr, hcons]
      exact ih (ht.trans (receive_table d)) href' hclock'

end Repeats

/-- **Redelivery.** For messages in the order of the clock, up to a later time `now`,
removing the repeated deliveries of executed commands leaves the effects, and channels
and pins at `now`, the same if and only if no command id is carried out twice. -/
theorem redelivery_iff (off : ℤ → ℤ → Bool) (p : Plant) (ds : List Delivery) (now : ℤ)
    (hclock : (ds.map (·.now) ++ [now]).Pairwise (· ≤ ·)) :
    (p.effectTrace off ds = p.effectTrace off (dropRepeats p.mgr [] ds) ∧
        p.after off now ds = p.after off now (dropRepeats p.mgr [] ds)) ↔
      ds.Pairwise (NotTwice p.mgr) := by
  have hp : SameTable p.mgr p.mgr := ⟨rfl, rfl, rfl⟩
  have hnil : RepeatsRefused p.mgr [] ds ↔ ds.Pairwise (NotTwice p.mgr) :=
    ⟨fun h => h.1, fun h => ⟨h, fun d _ hr => by obtain ⟨id, hid, -⟩ := hr; cases hid⟩⟩
  rw [effectTrace_eq ds hp, effectTrace_eq _ hp, ← hnil, ← flatMap_dropRepeats_iff]
  constructor
  · exact fun h => h.1.symm
  · exact fun h => ⟨h.symm, (after_dropRepeats ds hp ((flatMap_dropRepeats_iff ds []).1 h) hclock).symm⟩

/-! `cmd-1` switches the vent ON, `cmd-2` switches it OFF, and `cmd-1` comes again before
it expires. -/

def ventPlant : Plant := ⟨singleManager (newChannelState relayVent) "gw-1", fun _ => 0⟩

def ventOnce : List Delivery :=
  [⟨0, halOk, some { ventOn with expiresAt := "1970-01-01T00:00:05Z" }⟩,
    ⟨second, halOk, some { ventOn with commandID := "cmd-2", action := "OFF" }⟩]

def ventTwice : List Delivery :=
  ventOnce ++ [⟨2 * second, halOk, some { ventOn with expiresAt := "1970-01-01T00:00:05Z" }⟩]

/-- Every timer callback switches its pin off. -/
def offOk : ℤ → ℤ → Bool := fun _ _ => true

theorem ventOnce_redelivery :
    ventPlant.effectTrace offOk ventOnce =
        ventPlant.effectTrace offOk (dropRepeats ventPlant.mgr [] ventOnce) ∧
      ventPlant.after offOk (2 * second) ventOnce =
        ventPlant.after offOk (2 * second) (dropRepeats ventPlant.mgr [] ventOnce) := by
  refine (redelivery_iff offOk ventPlant ventOnce (2 * second) ?_).2 ?_
  · simp [ventOnce, second]
  · unfold ventOnce
    rw [List.pairwise_pair]
    rintro ⟨hid, -⟩
    exact absurd hid (by decide)

/-- **The repeat reverts the newer command**: the vent ends ON instead of OFF. -/
theorem repeat_reverts_newer :
    (ventPlant.after offOk (2 * second) ventTwice).level 17 = 1 ∧
    (ventPlant.after offOk (2 * second) (dropRepeats ventPlant.mgr [] ventTwice)).level 17 = 0 ∧
    ventPlant.effectTrace offOk ventTwice ≠
      ventPlant.effectTrace offOk (dropRepeats ventPlant.mgr [] ventTwice) := by
  decide +kernel

end Gateway
