import IotGateway.Server.Restrict

/-!
# Gateways do not touch each other's data

A message on a topic of serial number `A` is handled for the gateway that is looked up for
`A`, possibly in the cache. A cached gateway may have been deleted since, but it never
becomes another serial number's.

`isolation`: **messages on the topics of one serial number change no row of another
gateway, and two databases that agree on the rows of its gateway still agree on them
afterwards**, from all caches that earlier messages have left.
-/

namespace Server

open Lts Python

variable {store : Store} {mono now : ℤ} {db db' : Database}

/-! ## The worker -/

/-- What the schema and the API see to: no two gateways have one serial number; that of a
gateway is never changed, nor its id given to another (`serialOf`); and a command refers to
a gateway. -/
structure Sound (serialOf : UUID → String) (db : Database) : Prop where
  unique : (db.gateways.rows.map (·.serialNumber)).Nodup
  named : ∀ gw ∈ db.gateways.rows, gw.serialNumber = serialOf gw.id
  references : ∀ cmd ∈ db.commands.rows, ∃ gw ∈ db.gateways.rows, gw.id = cmd.gatewayId

/-- The tables, and the caches of the worker's process. -/
structure Worker where
  db : Database
  lookups : Lookups

inductive WorkerEvent (serialOf : UUID → String) where
  | message (mono now : ℤ) (topic : Str) (payload : List UInt8)
  /-- the API and the scheduler leave the tables as `db` -/
  | change (db : Database) (sound : Sound serialOf db)

namespace Worker

/-- A message is dispatched. -/
def receive (loads : List UInt8 → Loaded) (w : Worker) (mono now : ℤ) (topic : Str) (payload : List UInt8) :
    Worker :=
  let (lookups, db) := dispatch loads w.db w.lookups mono now topic payload
  ⟨db, lookups⟩

def step {serialOf : UUID → String} (loads : List UInt8 → Loaded) (w : Worker) :
    WorkerEvent serialOf → Option Worker
  | .message mono now topic payload => some (w.receive loads mono now topic payload)
  | .change db _ => some { w with db }

/-- A worker that has just started. -/
def start (db : Database) : Worker := ⟨db, fun _ => none, fun _ => none⟩

/-- The tables and the caches after some messages, with any sound changes of the tables
before, between and after them. -/
def Reachable (loads : List UInt8 → Loaded) (serialOf : UUID → String) (w : Worker) : Prop :=
  ∃ db, Sound serialOf db ∧ ∃ es : List (WorkerEvent serialOf), run (step loads) (start db) es = some w

/-- A message on the topics `gw/A/…`. -/
structure Message where
  mono : ℤ
  now : ℤ
  rest : Str
  payload : List UInt8

/-- The messages on the topics of serial number `A`, one after the other. -/
def process (loads : List UInt8 → Loaded) (A : String) (w : Worker) (ms : List Message) : Worker :=
  ms.foldl (fun w m => w.receive loads m.mono m.now (topicOf (Str.of A) m.rest) m.payload) w

theorem process_cons (loads : List UInt8 → Loaded) (A : String) (w : Worker) (m : Message)
    (ms : List Message) : process loads A w (m :: ms) =
      process loads A (w.receive loads m.mono m.now (topicOf (Str.of A) m.rest) m.payload) ms :=
  List.foldl_cons ..

/-- The tables are sound, and a cached id is of its serial number. -/
structure Inv (serialOf : UUID → String) (w : Worker) : Prop where
  sound : Sound serialOf w.db
  cached : ∀ serial id expiresAt, w.lookups.gateways serial = some (some id, expiresAt) →
    Str.of (serialOf id) = serial

variable {serialOf : UUID → String} {loads : List UInt8 → Loaded} {w w' w₁ w₂ : Worker} {A : String}

theorem sound_of_confined {g : UUID} (hs : Sound serialOf db) (h : Confined g db db') : Sound serialOf db' := by
  have hserials : db'.gateways.rows.map (·.serialNumber) = db.gateways.rows.map (·.serialNumber) := by
    have := congrArg (List.map Prod.snd) h.serials
    simpa [List.map_map, Function.comp_def] using this
  have hmem : ∀ i n, (i, n) ∈ db'.gateways.rows.map (fun gw => (gw.id, gw.serialNumber)) ↔
      ∃ gw ∈ db.gateways.rows, gw.id = i ∧ gw.serialNumber = n := by
    intro i n
    rw [h.serials, List.mem_map]
    simp only [Prod.mk.injEq]
  refine ⟨by rw [hserials]; exact hs.unique, fun gw hgw => ?_, fun cmd hcmd => ?_⟩
  · obtain ⟨gw', hgw', hid, hserial⟩ := (hmem gw.id gw.serialNumber).1 (List.mem_map.2 ⟨gw, hgw, rfl⟩)
    rw [← hserial, ← hid]
    exact hs.named gw' hgw'
  · have hown : cmd.gatewayId ∈ db.commands.rows.map (·.gatewayId) := by
      rw [← h.owners]
      exact List.mem_map.2 ⟨cmd, hcmd, rfl⟩
    obtain ⟨cmd', hcmd', howner⟩ := List.mem_map.1 hown
    obtain ⟨gw, hgw, hid⟩ := hs.references cmd' hcmd'
    obtain ⟨gw', hgw', heq⟩ := List.mem_map.1 ((hmem gw.id gw.serialNumber).2 ⟨gw, hgw, rfl, rfl⟩)
    exact ⟨gw', hgw', (congrArg Prod.fst heq).trans (hid.trans howner)⟩

theorem scalarOneOrNone_mem {α : Type} {l : List α} {r : α} (h : (scalarOneOrNone l).toOption = some (some r)) :
    r ∈ l := by
  match l with
  | [] => cases h
  | [a] =>
    cases h
    exact List.mem_singleton.2 rfl
  | _ :: _ :: _ => cases h

theorem queryGateway_some {serial : Str} {g : UUID} (h : queryGateway store serial = some (some g)) :
    ∃ gw ∈ store.gateways.rows, gw.id = g ∧ Str.of gw.serialNumber = serial := by
  obtain ⟨gw, hgw, hid⟩ := List.mem_map.1 (scalarOneOrNone_mem h)
  obtain ⟨hmem, hserial⟩ := List.mem_filter.1 hgw
  exact ⟨gw, hmem, hid, of_decide_eq_true hserial⟩

/-- The gateway of a serial number is found. -/
theorem queryGateway_owner (hs : Sound serialOf db) {gw : Gateway} (hgw : gw ∈ db.gateways.rows) :
    queryGateway db.toStore (Str.of gw.serialNumber) = some (some gw.id) := by
  have hfilter : db.gateways.rows.filter (fun g => Str.of g.serialNumber = Str.of gw.serialNumber) = [gw] := by
    have hnodup : db.gateways.rows.Nodup := List.Nodup.of_map _ hs.unique
    apply List.perm_singleton.1
    rw [List.perm_ext_iff_of_nodup (hnodup.filter _) (List.nodup_singleton _)]
    intro g
    rw [List.mem_filter, List.mem_singleton, decide_eq_true_eq, Str.of_inj]
    constructor
    · rintro ⟨hg, hserial⟩
      exact List.inj_on_of_nodup_map hs.unique hg hgw hserial
    · rintro rfl
      exact ⟨hgw, rfl⟩
  unfold queryGateway
  rw [hfilter]
  rfl

/-- A lookup answers from the cache, or caches what the query finds. -/
theorem lookup_cases {c c' : GatewayCache} {serial : Str} {id : Option UUID}
    (h : gatewayUuidBySerial store c mono serial = some (id, c')) :
    (c' = c ∧ ∃ expiresAt, c serial = some (id, expiresAt)) ∨
      (queryGateway store serial = some id ∧ c' = Function.update c serial (some (id, mono + ttl))) := by
  unfold gatewayUuidBySerial at h
  dsimp only at h
  have hquery : ∀ {r}, (queryGateway store serial).map (fun id =>
        (id, Function.update c serial (some (id, mono + ttl)))) = some r →
      queryGateway store serial = some r.1 ∧ r.2 = Function.update c serial (some (r.1, mono + ttl)) := by
    intro r hr
    obtain ⟨id', hid, rfl⟩ := Option.map_eq_some_iff.1 hr
    exact ⟨hid, rfl⟩
  cases hc : c serial with
  | none =>
    rw [hc] at h
    exact Or.inr (hquery h)
  | some e =>
    obtain ⟨id', expiresAt⟩ := e
    rw [hc] at h
    dsimp only at h
    split_ifs at h with hexp
    · exact Or.inr (hquery h)
    · cases h
      exact Or.inl ⟨rfl, expiresAt, rfl⟩

/-- A serial number that is looked up gives its own gateway. -/
theorem lookup_serial (hw : Inv serialOf w) {c' : GatewayCache} {serial : Str} {g : UUID}
    (h : gatewayUuidBySerial w.db.toStore w.lookups.gateways mono serial = some (some g, c')) :
    Str.of (serialOf g) = serial := by
  rcases lookup_cases h with ⟨-, expiresAt, hc⟩ | ⟨hq, -⟩
  · exact hw.cached serial g expiresAt hc
  · obtain ⟨gw, hgw, rfl, hserial⟩ := queryGateway_some hq
    rw [← hw.sound.named gw hgw, hserial]

theorem lookup_cached (hw : Inv serialOf w) {c' : GatewayCache} {serial : Str} {id : Option UUID}
    (h : gatewayUuidBySerial w.db.toStore w.lookups.gateways mono serial = some (id, c')) :
    ∀ serial' g expiresAt, c' serial' = some (some g, expiresAt) → Str.of (serialOf g) = serial' := by
  intro serial' g expiresAt hc'
  rcases lookup_cases h with ⟨rfl, -⟩ | ⟨hq, rfl⟩
  · exact hw.cached serial' g expiresAt hc'
  · by_cases hk : serial' = serial
    · subst hk
      rw [Function.update_self] at hc'
      cases hc'
      exact lookup_serial hw h
    · rw [Function.update_of_ne hk] at hc'
      exact hw.cached serial' g expiresAt hc'

theorem receive_eq (w : Worker) (mono now : ℤ) (topic : Str) (payload : List UInt8) :
    w.receive loads mono now topic payload =
      match route loads w.db.toStore w.lookups.gateways mono topic payload with
      | (gateways, none) => ⟨w.db, gateways, w.lookups.sensors⟩
      | (gateways, some call) =>
        ⟨handled w.db w.lookups.sensors mono now call, gateways, (handle w.db w.lookups.sensors mono now call).1⟩ := by
  unfold receive dispatch handled
  cases route loads w.db.toStore w.lookups.gateways mono topic payload with
  | mk gateways call => cases call <;> rfl

/-- The cache of serial numbers after a message. -/
theorem route_cache (c : GatewayCache) (topic : Str) (payload : List UInt8) :
    (route loads store c mono topic payload).1 = c ∨ ∃ serial id,
      gatewayUuidBySerial store c mono serial = some (id, (route loads store c mono topic payload).1) := by
  unfold route
  cases parseTopic topic with
  | none => exact Or.inl rfl
  | some t =>
    obtain ⟨serial, kind⟩ := t
    dsimp only
    cases hl : gatewayUuidBySerial store c mono serial with
    | none => exact Or.inl rfl
    | some r =>
      obtain ⟨id, c'⟩ := r
      refine Or.inr ⟨serial, id, ?_⟩
      rw [hl]
      cases id with
      | none => rfl
      | some g =>
        dsimp only
        cases loads payload with
        | value body => cases handlerOf kind <;> rfl
        | notJson => rfl
        | raises => rfl

theorem inv_receive (hw : Inv serialOf w) (topic : Str) (payload : List UInt8) :
    Inv serialOf (w.receive loads mono now topic payload) := by
  have hcached : ∀ serial id expiresAt,
      (route loads w.db.toStore w.lookups.gateways mono topic payload).1 serial = some (some id, expiresAt) →
      Str.of (serialOf id) = serial := by
    rcases route_cache w.lookups.gateways topic payload with hsame | ⟨serial, id, hl⟩
    · rw [hsame]
      exact hw.cached
    · exact lookup_cached hw hl
  rw [receive_eq]
  generalize route loads w.db.toStore w.lookups.gateways mono topic payload = r at hcached
  obtain ⟨gateways, call⟩ := r
  cases call with
  | none => exact ⟨hw.sound, hcached⟩
  | some call =>
    obtain ⟨kind, g, body⟩ := call
    exact ⟨sound_of_confined hw.sound (handled_confined ..), hcached⟩

theorem inv_of_reachable (h : Reachable loads serialOf w) : Inv serialOf w := by
  obtain ⟨db, hdb, es, hrun⟩ := h
  have h0 : Inv serialOf (start db) := ⟨hdb, fun _ _ _ hc => by cases hc⟩
  have hstep : ∀ (w : Worker) (e : WorkerEvent serialOf) w', Inv serialOf w → step loads w e = some w' →
      Inv serialOf w' := by
    intro w e w' hw he
    cases e with
    | message mono now topic payload =>
      cases he
      exact inv_receive hw topic payload
    | change db sound =>
      cases he
      exact ⟨sound, hw.cached⟩
  exact (always_of_inv hstep h0).last hrun

/-! ## Other gateways -/

/-- The gateway has a row with serial number `A`. -/
def owned (db : Database) (A : String) (g : UUID) : Bool :=
  db.gateways.rows.any fun gw => gw.id = g && gw.serialNumber = A

/-- All other gateways. -/
def others (db : Database) (A : String) : UUID → Bool := fun g => !owned db A g

/-- Topics of serial number `A` are read as such. -/
theorem serial_of_parse (hA : Server.SlugFormat A) {rest serial kind : Str}
    (h : parseTopic (topicOf (Str.of A) rest) = some (serial, kind)) : serial = Str.of A := by
  obtain ⟨htopic, ⟨-, hserial⟩, -⟩ := parseTopic_iff.1 h
  have hsplit : ∃ tail, Str.of A ++ .scalar '/' :: rest = serial ++ .scalar '/' :: tail := by
    rcases htopic with htopic | htopic
    · rw [topicOf_eq, topicOf_eq] at htopic
      simp only [List.cons.injEq, true_and] at htopic
      exact ⟨kind, htopic⟩
    · rw [topicOf_eq, topicOf_eq] at htopic
      simp only [List.cons_append, List.cons.injEq, true_and, List.append_assoc] at htopic
      exact ⟨kind ++ [newline], htopic⟩
  obtain ⟨tail, hsplit⟩ := hsplit
  -- neither has a slash: both are what comes before the first
  have htake : ∀ s t : Str, (∀ c ∈ s, c ≠ .scalar '/') → (s ++ .scalar '/' :: t).takeWhile (· ≠ .scalar '/') = s := by
    intro s t hs
    rw [List.takeWhile_append_of_pos fun c hc => decide_eq_true (hs c hc)]
    simp
  have hA' : ∀ c ∈ Str.of A, c ≠ .scalar '/' := by
    rintro _ hc rfl
    obtain ⟨ch, hch, hslash⟩ := List.mem_map.1 hc
    cases hslash
    rcases hA.2 '/' hch with h | h | h <;> revert h <;> decide
  have hserial' : ∀ c ∈ serial, c ≠ .scalar '/' := by
    rintro _ hc rfl
    exact absurd (hserial _ hc) (by decide)
  rw [← htake serial tail hserial', ← hsplit, htake _ rest hA']

/-- A call that a message of serial number `A` leads to is for a gateway that is, or was,
`A`'s. -/
theorem route_serial (hw : Inv serialOf w) (hA : Server.SlugFormat A) {rest : Str} {payload : List UInt8}
    {gateways : GatewayCache} {kind : HandledKind} {g : UUID} {body : Json}
    (h : route loads w.db.toStore w.lookups.gateways mono (topicOf (Str.of A) rest) payload =
      (gateways, some (kind, g, body))) : serialOf g = A := by
  obtain ⟨serial, hparse, hl, -⟩ := route_eq_some h
  have hserial := lookup_serial hw hl
  rw [serial_of_parse hA hparse, Str.of_inj] at hserial
  exact hserial

/-- A call for a gateway that is not `A`'s any more finds nothing of it. -/
theorem owned_or_unknown (hs : Sound serialOf db) {g : UUID} (hg : serialOf g = A) :
    owned db A g = true ∨
      db.gateways.find? g = none ∧ ∀ cmd ∈ db.commands.rows, cmd.gatewayId ≠ g := by
  cases hfind : db.gateways.find? g with
  | some gw =>
    obtain ⟨hgw, hid⟩ := Db.Table.find?_eq_some.1 hfind
    left
    have hserial : gw.serialNumber = A := by rw [hs.named gw hgw, hid, hg]
    exact List.any_eq_true.2 ⟨gw, hgw, by simp [hid, hserial]⟩
  | none =>
    refine Or.inr ⟨rfl, fun cmd hcmd heq => ?_⟩
    obtain ⟨gw, hgw, hid⟩ := hs.references cmd hcmd
    rw [← heq, ← hid, Db.Table.find?_key hgw] at hfind
    cases hfind

theorem owned_of_confined {g : UUID} (h : Confined g db db') : owned db' A = owned db A := by
  funext g
  have : ∀ db : Database, owned db A g =
      (db.gateways.rows.map fun gw => (gw.id, gw.serialNumber)).any fun x => x.1 = g && x.2 = A := by
    intro db
    rw [List.any_map]
    rfl
  rw [this, this, h.serials]

/-- **One message** changes nothing of another gateway. -/
theorem receive_others (hw : Inv serialOf w) (hA : Server.SlugFormat A) (rest : Str) (payload : List UInt8) :
    (w.receive loads mono now (topicOf (Str.of A) rest) payload).db.restrict (others w.db A) =
        w.db.restrict (others w.db A) ∧
      owned (w.receive loads mono now (topicOf (Str.of A) rest) payload).db A = owned w.db A := by
  rw [receive_eq]
  cases hr : route loads w.db.toStore w.lookups.gateways mono (topicOf (Str.of A) rest) payload with
  | mk gateways call =>
    cases call with
    | none => exact ⟨rfl, rfl⟩
    | some call =>
      obtain ⟨kind, g, body⟩ := call
      have hconf := handled_confined w.db w.lookups.sensors mono now kind g body
      refine ⟨?_, owned_of_confined hconf⟩
      rcases owned_or_unknown hw.sound (route_serial hw hA hr) with hown | ⟨hnone, hcmds⟩
      · exact hconf.others _ (by simp [others, hown])
      · exact congrArg (·.restrict (others w.db A)) (hconf.unknown hnone hcmds)

theorem process_others (hA : Server.SlugFormat A) (ms : List Message) : ∀ w, Inv serialOf w →
    (process loads A w ms).db.restrict (others w.db A) = w.db.restrict (others w.db A) := by
  induction ms with
  | nil => exact fun _ _ => rfl
  | cons m ms ih =>
    intro w hw
    let w' := w.receive loads m.mono m.now (topicOf (Str.of A) m.rest) m.payload
    obtain ⟨hrows, howned⟩ : w'.db.restrict (others w.db A) = w.db.restrict (others w.db A) ∧
        owned w'.db A = owned w.db A := receive_others hw hA m.rest m.payload
    have hothers : others w'.db A = others w.db A := funext fun g => by simp only [others, howned]
    have hrest := ih w' (inv_receive hw _ _)
    rw [hothers] at hrest
    rw [process_cons]
    exact hrest.trans hrows

/-! ## Two databases -/

/-- The workers agree on gateway `g` of serial number `A`: on its rows, and on their cache
entries for it. -/
structure Agree (A : String) (g : UUID) (w₁ w₂ : Worker) : Prop where
  owner : ∃ gw ∈ w₁.db.gateways.rows, gw.id = g ∧ gw.serialNumber = A
  rows : w₁.db.restrict (· = g) = w₂.db.restrict (· = g)
  serial : w₁.lookups.gateways (Str.of A) = w₂.lookups.gateways (Str.of A)
  sensors : w₁.lookups.sensors.restrict (· = g) = w₂.lookups.sensors.restrict (· = g)

theorem Agree.symm {g : UUID} (h : Agree A g w₁ w₂) : Agree A g w₂ w₁ := by
  refine ⟨?_, h.rows.symm, h.serial.symm, h.sensors.symm⟩
  obtain ⟨gw, hgw, hid, hserial⟩ := h.owner
  have hmem : gw ∈ (w₁.db.restrict (· = g)).gateways.rows :=
    List.mem_filter.2 ⟨hgw, decide_eq_true hid⟩
  rw [h.rows] at hmem
  exact ⟨gw, List.mem_of_mem_filter hmem, hid, hserial⟩

/-- The lookup of `A`: from the cache, or its gateway. -/
theorem lookup_owner {g : UUID} (hw : Inv serialOf w)
    (howner : ∃ gw ∈ w.db.gateways.rows, gw.id = g ∧ gw.serialNumber = A) :
    gatewayUuidBySerial w.db.toStore w.lookups.gateways mono (Str.of A) =
      match w.lookups.gateways (Str.of A) with
      | some (id, expiresAt) =>
        if expiresAt < mono then
          some (some g, Function.update w.lookups.gateways (Str.of A) (some (some g, mono + ttl)))
        else some (id, w.lookups.gateways)
      | none => some (some g, Function.update w.lookups.gateways (Str.of A) (some (some g, mono + ttl))) := by
  obtain ⟨gw, hgw, rfl, rfl⟩ := howner
  unfold gatewayUuidBySerial
  rw [queryGateway_owner hw.sound hgw]
  rfl

/-- Both look up the same gateway, and agree on the entry afterwards. -/
theorem lookup_agree {g : UUID} (h₁ : Inv serialOf w₁) (h₂ : Inv serialOf w₂) (h : Agree A g w₁ w₂) :
    ∃ id c₁ c₂, gatewayUuidBySerial w₁.db.toStore w₁.lookups.gateways mono (Str.of A) = some (id, c₁) ∧
      gatewayUuidBySerial w₂.db.toStore w₂.lookups.gateways mono (Str.of A) = some (id, c₂) ∧
      c₁ (Str.of A) = c₂ (Str.of A) := by
  rw [lookup_owner h₁ h.owner, lookup_owner h₂ h.symm.owner, ← h.serial]
  have hquery : ∀ e, Function.update w₁.lookups.gateways (Str.of A) e (Str.of A) =
      Function.update w₂.lookups.gateways (Str.of A) e (Str.of A) := by
    intro e
    rw [Function.update_self, Function.update_self]
  cases hc : w₁.lookups.gateways (Str.of A) with
  | none => exact ⟨_, _, _, rfl, rfl, hquery _⟩
  | some e =>
    dsimp only
    split_ifs
    · exact ⟨_, _, _, rfl, rfl, hquery _⟩
    · exact ⟨_, _, _, rfl, rfl, h.serial⟩

/-- A call for another gateway than `A`'s does nothing. -/
theorem handled_former {g x : UUID} (hw : Inv serialOf w)
    (howner : ∃ gw ∈ w.db.gateways.rows, gw.id = g ∧ gw.serialNumber = A) (hx : serialOf x = A) (hne : x ≠ g)
    (cache : Cache) (kind : HandledKind) (body : Json) :
    handled w.db cache mono now (kind, x, body) = w.db ∧
      (handle w.db cache mono now (kind, x, body)).1 = cache := by
  rcases owned_or_unknown hw.sound hx with hown | ⟨hnone, hcmds⟩
  · obtain ⟨gw, hgw, hid, hserial⟩ := howner
    obtain ⟨gw', hgw', hx'⟩ := List.any_eq_true.1 hown
    simp only [Bool.and_eq_true, decide_eq_true_eq] at hx'
    have hsame := List.inj_on_of_nodup_map hw.sound.unique hgw' hgw (hx'.2.trans hserial.symm)
    exact absurd (hx'.1.symm.trans (hsame ▸ hid)) hne
  · exact ⟨(handled_confined ..).unknown hnone hcmds, handle_cache_unknown hnone⟩

/-- A call that the messages of `A` lead to keeps the agreement. -/
theorem agree_call {g x : UUID} (h₁ : Inv serialOf w₁) (h₂ : Inv serialOf w₂) (h : Agree A g w₁ w₂)
    (hx : serialOf x = A) (kind : HandledKind) (body : Json) {c₁ c₂ : GatewayCache}
    (hc : c₁ (Str.of A) = c₂ (Str.of A)) :
    Agree A g
      ⟨handled w₁.db w₁.lookups.sensors mono now (kind, x, body), c₁,
        (handle w₁.db w₁.lookups.sensors mono now (kind, x, body)).1⟩
      ⟨handled w₂.db w₂.lookups.sensors mono now (kind, x, body), c₂,
        (handle w₂.db w₂.lookups.sensors mono now (kind, x, body)).1⟩ := by
  by_cases hne : x = g
  · subst hne
    have hlocal : ∀ w : Worker,
        handled (w.db.restrict (· = x)) (w.lookups.sensors.restrict (· = x)) mono now (kind, x, body) =
            (handled w.db w.lookups.sensors mono now (kind, x, body)).restrict (· = x) ∧
          (handle (w.db.restrict (· = x)) (w.lookups.sensors.restrict (· = x)) mono now (kind, x, body)).1 =
            Cache.restrict (handle w.db w.lookups.sensors mono now (kind, x, body)).1 (· = x) :=
      fun w => handled_restrict (decide_eq_true rfl)
    obtain ⟨hdb₁, hcache₁⟩ := hlocal w₁
    obtain ⟨hdb₂, hcache₂⟩ := hlocal w₂
    rw [h.rows, h.sensors] at hdb₁ hcache₁
    refine ⟨?_, hdb₁.symm.trans hdb₂, hc, hcache₁.symm.trans hcache₂⟩
    obtain ⟨gw, hgw, hid, hserial⟩ := h.owner
    have hconf := handled_confined w₁.db w₁.lookups.sensors mono now kind x body
    have hmem : (gw.id, gw.serialNumber) ∈ w₁.db.gateways.rows.map fun gw => (gw.id, gw.serialNumber) :=
      List.mem_map.2 ⟨gw, hgw, rfl⟩
    rw [← hconf.serials] at hmem
    obtain ⟨gw', hgw', heq⟩ := List.mem_map.1 hmem
    exact ⟨gw', hgw', (congrArg Prod.fst heq).trans hid, (congrArg Prod.snd heq).trans hserial⟩
  · obtain ⟨hdb₁, hcache₁⟩ := handled_former h₁ h.owner hx hne w₁.lookups.sensors kind body
    obtain ⟨hdb₂, hcache₂⟩ := handled_former h₂ h.symm.owner hx hne w₂.lookups.sensors kind body
    rw [hdb₁, hcache₁, hdb₂, hcache₂]
    exact ⟨h.owner, h.rows, hc, h.sensors⟩

/-- **One message** keeps the agreement. -/
theorem receive_agree {g : UUID} (h₁ : Inv serialOf w₁) (h₂ : Inv serialOf w₂) (hA : Server.SlugFormat A)
    (h : Agree A g w₁ w₂) (rest : Str) (payload : List UInt8) :
    Agree A g (w₁.receive loads mono now (topicOf (Str.of A) rest) payload)
      (w₂.receive loads mono now (topicOf (Str.of A) rest) payload) := by
  obtain ⟨id, c₁, c₂, hl₁, hl₂, hc⟩ : ∃ id c₁ c₂,
      gatewayUuidBySerial w₁.db.toStore w₁.lookups.gateways mono (Str.of A) = some (id, c₁) ∧
      gatewayUuidBySerial w₂.db.toStore w₂.lookups.gateways mono (Str.of A) = some (id, c₂) ∧
      c₁ (Str.of A) = c₂ (Str.of A) := lookup_agree h₁ h₂ h
  rw [receive_eq, receive_eq]
  unfold route
  cases hparse : parseTopic (topicOf (Str.of A) rest) with
  | none => exact ⟨h.owner, h.rows, h.serial, h.sensors⟩
  | some t =>
    obtain ⟨serial, kind⟩ := t
    obtain rfl := serial_of_parse hA hparse
    dsimp only
    rw [hl₁, hl₂]
    have hquiet : Agree A g ⟨w₁.db, c₁, w₁.lookups.sensors⟩ ⟨w₂.db, c₂, w₂.lookups.sensors⟩ :=
      ⟨h.owner, h.rows, hc, h.sensors⟩
    cases id with
    | none => exact hquiet
    | some x =>
      have hx : serialOf x = A := Str.of_inj.1 (lookup_serial h₁ hl₁)
      dsimp only
      cases loads payload with
      | notJson => exact hquiet
      | raises => exact hquiet
      | value body =>
        cases handlerOf kind with
        | none => exact hquiet
        | some handler => exact agree_call h₁ h₂ h hx handler body hc

theorem process_agree {g : UUID} (hA : Server.SlugFormat A) (ms : List Message) : ∀ w₁ w₂, Inv serialOf w₁ →
    Inv serialOf w₂ → Agree A g w₁ w₂ → Agree A g (process loads A w₁ ms) (process loads A w₂ ms) := by
  induction ms with
  | nil => exact fun _ _ _ _ h => h
  | cons m ms ih =>
    intro w₁ w₂ h₁ h₂ h
    rw [process_cons, process_cons]
    exact ih _ _ (inv_receive h₁ _ _) (inv_receive h₂ _ _) (receive_agree h₁ h₂ hA h m.rest m.payload)

/-- **Gateways cannot touch each other's data.** Whatever messages and sound changes of the
tables have led to a worker's caches, and whatever payloads the messages on the topics of
serial number `A` carry: they leave all rows of all other gateways as they were, and create
none; and two databases that agree on the rows of `A`'s gateway, looked at by workers that
have cached the same for it, agree on them afterwards. -/
theorem isolation (loads : List UInt8 → Loaded) (serialOf : UUID → String) (A : String)
    (hA : Server.SlugFormat A) (ms : List Message) :
    (∀ w, Reachable loads serialOf w →
      (process loads A w ms).db.restrict (others w.db A) = w.db.restrict (others w.db A)) ∧
    ∀ w₁ w₂ g, Reachable loads serialOf w₁ → Reachable loads serialOf w₂ → Agree A g w₁ w₂ →
      (process loads A w₁ ms).db.restrict (· = g) = (process loads A w₂ ms).db.restrict (· = g) := by
  constructor
  · exact fun w hw => process_others hA ms w (inv_of_reachable hw)
  · intro w₁ w₂ g h₁ h₂ h
    exact (process_agree hA ms w₁ w₂ (inv_of_reachable h₁) (inv_of_reachable h₂) h).rows

/-! A farm with one gateway, and one with two. -/

def serials : UUID → String := fun id => if id = 7 then "GW-1" else "GW-2"

def farmOf (rows : List Gateway) (h : (rows.map (·.id)).Nodup) : Database := ⟨⟨⟨rows, h⟩, .empty, [], .empty⟩, .empty⟩

def farmOne : Database := farmOf [.registered 7 "GW-1" 3 none] (by decide)

def farmTwo : Database := farmOf [.registered 7 "GW-1" 3 none, .registered 8 "GW-2" 4 none] (by decide)

theorem reachable_start (h : Sound serialOf db) : Reachable loads serialOf (start db) :=
  ⟨db, h, [], rfl⟩

def heartbeats : List Message := [⟨0, 1777896000000000, Str.of "heartbeat", [123, 125]⟩]

/-- A heartbeat of `GW-1` leaves `GW-2` alone, and has the same effect with and without it. -/
theorem farm_isolated :
    (process loadsBraces "GW-1" (start farmTwo) heartbeats).db.restrict (others farmTwo "GW-1") =
        farmTwo.restrict (others farmTwo "GW-1") ∧
      (process loadsBraces "GW-1" (start farmOne) heartbeats).db.restrict (· = 7) =
        (process loadsBraces "GW-1" (start farmTwo) heartbeats).db.restrict (· = 7) := by
  have h1 : Sound serials farmOne := ⟨by decide, by decide, by simp [farmOne, farmOf, Db.Table.empty]⟩
  have h2 : Sound serials farmTwo := ⟨by decide, by decide, by simp [farmTwo, farmOf, Db.Table.empty]⟩
  obtain ⟨hothers, hagree⟩ := isolation loadsBraces serials "GW-1" (by decide +kernel) heartbeats
  refine ⟨hothers _ (reachable_start h2),
    hagree (start farmOne) (start farmTwo) 7 (reachable_start h1) (reachable_start h2) ?_⟩
  exact ⟨⟨_, List.mem_cons_self .., rfl, rfl⟩, rfl, rfl, rfl⟩

end Worker

end Server
