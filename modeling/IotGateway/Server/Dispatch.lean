import IotGateway.Server.Commands
import IotGateway.Server.Presence
import IotGateway.Text.Pattern

/-!
# The worker's dispatch

A message on `gw/{serial}/{kind}` is routed to a handler: the topic is matched, the serial
number looked up, through a cache of its own, and the payload decoded. Each message has a
session of its own, which an exception of the handler rolls back; the caches stay.

`parseTopic_iff`: a topic is matched if it has that form, with or without a newline behind
it.
-/

namespace Server

open Python

/-! ## Topics -/

/-- `[A-Za-z0-9_-]` -/
def serialChar : CodePoint → Bool
  | .scalar c =>
    ('A' ≤ c && c ≤ 'Z') || ('a' ≤ c && c ≤ 'z') || ('0' ≤ c && c ≤ '9') || c = '_' || c = '-'
  | .surrogate _ => false

/-- `[a-z_/]` -/
def kindChar : CodePoint → Bool
  | .scalar c => ('a' ≤ c && c ≤ 'z') || c = '_' || c = '/'
  | .surrogate _ => false

def newline : CodePoint := .scalar '\n'

/-- `_TOPIC_RE`: `^gw/(?P<serial>[A-Za-z0-9_-]+)/(?P<kind>[a-z_/]+)$` -/
def topicRe : List (Pattern.Item CodePoint) :=
  [.char (.scalar 'g'), .char (.scalar 'w'), .char (.scalar '/'), .group serialChar,
    .char (.scalar '/'), .group kindChar]

/-- `_TOPIC_RE.match(topic)`: the groups `serial` and `kind`. -/
def parseTopic (topic : Str) : Option (Str × Str) :=
  match Pattern.search newline topicRe topic with
  | some [serial, kind] => some (serial, kind)
  | _ => none

/-- The topic `gw/{serial}/{kind}`. -/
def topicOf (serial kind : Str) : Str := Str.of "gw/" ++ serial ++ Str.of "/" ++ kind

theorem topicOf_eq (serial kind : Str) : topicOf serial kind =
    .scalar 'g' :: .scalar 'w' :: .scalar '/' :: (serial ++ .scalar '/' :: kind) := by
  simp [topicOf, Str.of]

theorem topicRe_separated : Pattern.Separated newline topicRe := by
  simp only [topicRe, Pattern.Separated]
  decide

theorem spells_topicRe {gs : List Str} {t : Str} : Pattern.Spells topicRe gs t ↔
    ∃ serial kind, gs = [serial, kind] ∧ t = topicOf serial kind ∧
      (serial ≠ [] ∧ ∀ c ∈ serial, serialChar c = true) ∧ kind ≠ [] ∧ ∀ c ∈ kind, kindChar c = true := by
  constructor
  · rintro ⟨_, rfl, _, rfl, t, rfl, hgs⟩
    cases gs with
    | nil => exact hgs.elim
    | cons serial gs =>
      obtain ⟨_, rfl, hne, hall, _, rfl, hgs⟩ := hgs
      cases gs with
      | nil => exact hgs.elim
      | cons kind gs =>
        obtain ⟨_, rfl, hne', hall', hnil⟩ := hgs
        cases gs with
        | cons g gs => exact hnil.elim
        | nil =>
          obtain rfl := hnil
          refine ⟨serial, kind, rfl, ?_, ⟨hne, hall⟩, hne', hall'⟩
          rw [topicOf_eq, List.append_nil]
  · rintro ⟨serial, kind, rfl, rfl, ⟨hne, hall⟩, hne', hall'⟩
    rw [topicOf_eq]
    exact ⟨_, rfl, _, rfl, _, rfl, .scalar '/' :: kind, rfl, hne, hall, kind, rfl, [],
      (List.append_nil kind).symm, hne', hall', rfl⟩

/-- **The topics that match.** -/
theorem parseTopic_iff {topic serial kind : Str} :
    parseTopic topic = some (serial, kind) ↔
      (topic = topicOf serial kind ∨ topic = topicOf serial kind ++ [newline]) ∧
        (serial ≠ [] ∧ ∀ c ∈ serial, serialChar c = true) ∧ kind ≠ [] ∧ ∀ c ∈ kind, kindChar c = true := by
  have hsearch : parseTopic topic = some (serial, kind) ↔
      Pattern.search newline topicRe topic = some [serial, kind] := by
    unfold parseTopic
    constructor
    · intro h
      split at h
      · rename_i hs
        cases h
        exact hs
      · cases h
    · intro h
      rw [h]
  rw [hsearch, Pattern.search_iff topicRe_separated]
  constructor
  · rintro ⟨t, e, rfl, he, ht⟩
    obtain ⟨serial', kind', hgs, rfl, hserial, hkind⟩ := spells_topicRe.1 ht
    cases hgs
    refine ⟨?_, hserial, hkind⟩
    rcases he with rfl | rfl
    · exact Or.inl (List.append_nil _)
    · exact Or.inr rfl
  · rintro ⟨htopic, hserial, hkind⟩
    have ht : Pattern.Spells topicRe [serial, kind] (topicOf serial kind) :=
      spells_topicRe.2 ⟨serial, kind, rfl, rfl, hserial, hkind⟩
    rcases htopic with rfl | rfl
    · exact ⟨_, [], (List.append_nil _).symm, Or.inl rfl, ht⟩
    · exact ⟨_, [newline], rfl, Or.inr rfl, ht⟩

/-! ## Routing -/

inductive HandledKind where
  | telemetry
  | state
  | heartbeat
  | commandResponse
deriving DecidableEq, Repr

/-- The kind a handler is for. -/
def HandledKind.text : HandledKind → String
  | .telemetry => "telemetry"
  | .state => "state"
  | .heartbeat => "heartbeat"
  | .commandResponse => "command/response"

/-- The handler of a kind; the others are logged. -/
def handlerOf (kind : Str) : Option HandledKind :=
  [HandledKind.telemetry, .state, .heartbeat, .commandResponse].find? fun h => kind = Str.of h.text

/-- `_gateway_cache` -/
abbrev GatewayCache := Str → Option (Option UUID × ℤ)

/-- The worker's caches. -/
structure Lookups where
  gateways : GatewayCache
  sensors : Cache

/-- `select(Gateway.id).where(Gateway.serial_number == serial)`; `none` is an exception. -/
def queryGateway (store : Store) (serial : Str) : Option (Option UUID) :=
  (scalarOneOrNone ((store.gateways.rows.filter fun gw => Str.of gw.serialNumber = serial).map
    (·.id))).toOption

/-- `gateway_uuid_by_serial` at `time.monotonic() = mono`. -/
def gatewayUuidBySerial (store : Store) (cache : GatewayCache) (mono : ℤ) (serial : Str) :
    Option (Option UUID × GatewayCache) :=
  let query := (queryGateway store serial).map fun id =>
    (id, Function.update cache serial (some (id, mono + ttl)))
  match cache serial with
  | some (id, expiresAt) => if expiresAt < mono then query else some (id, cache)
  | none => query

/-- What `json.loads` makes of a payload. -/
inductive Loaded where
  | value (body : Json)
  /-- a `JSONDecodeError`, which is caught -/
  | notJson
  /-- any other exception, as of bytes that are no text -/
  | raises

/-- `json.loads`, of no other payload than an empty object's. -/
def loadsBraces (payload : List UInt8) : Loaded :=
  if payload = [123, 125] then .value (.obj []) else .notJson

/-- The handler that gets a message, with the gateway and the body, and the cache after the
lookup. -/
def route (loads : List UInt8 → Loaded) (store : Store) (cache : GatewayCache) (mono : ℤ) (topic : Str)
    (payload : List UInt8) : GatewayCache × Option (HandledKind × UUID × Json) :=
  match parseTopic topic with
  | none => (cache, none)
  | some (serial, kind) =>
    match gatewayUuidBySerial store cache mono serial with
    | none => (cache, none)
    | some (none, cache') => (cache', none)
    | some (some gatewayId, cache') =>
      match loads payload, handlerOf kind with
      | .value body, some handler => (cache', some (handler, gatewayId, body))
      | _, _ => (cache', none)

/-! ## Dispatch -/

/-- The tables of all handlers. -/
structure Database extends Store where
  commands : Db.Table Command (·.id)

theorem Command.apply_id (c : Changes) (cmd : Command) : (cmd.apply c).id = cmd.id := rfl

/-- `command_response.handle` on the table of commands; `none` is an exception. -/
def Database.commandResponse (db : Database) (now : ℤ) (gatewayId : UUID) (body : List (Str × Json)) :
    Option Database :=
  match namedId body with
  | none => none
  | some none => some db
  | some (some s) =>
    match Db.text s with
    | none => none
    | some id =>
      match db.commands.find? id with
      | none => some db
      | some cmd =>
        match Server.commandResponse cmd gatewayId now body with
        | none => none
        | some none => some db
        | some (some c) => some { db with
            commands := db.commands.modify id (·.apply c) (Command.apply_id c) }

/-- A handler's call: the cache of the sensor channels after it, and the committed tables;
`none` is an exception. -/
def handle (db : Database) (cache : Cache) (mono now : ℤ) :
    HandledKind × UUID × Json → Cache × Option Database
  | (handler, gatewayId, .obj body) =>
    match handler with
    | .telemetry =>
      let (cache', result) := telemetry db.toStore cache mono now gatewayId body
      (cache', result.map fun toStore => { db with toStore })
    | .state => (cache, (state db.toStore now gatewayId body).map fun toStore => { db with toStore })
    | .heartbeat => (cache, (heartbeat db.toStore now gatewayId body).map fun toStore => { db with toStore })
    | .commandResponse => (cache, db.commandResponse now gatewayId body)
  -- only a dict has `get`
  | _ => (cache, none)

/-- `dispatch` of a message in a session of its own: the caches and the tables after it. -/
def dispatch (loads : List UInt8 → Loaded) (db : Database) (l : Lookups) (mono now : ℤ) (topic : Str)
    (payload : List UInt8) : Lookups × Database :=
  match route loads db.toStore l.gateways mono topic payload with
  | (gateways, none) => (⟨gateways, l.sensors⟩, db)
  | (gateways, some call) =>
    let (sensors, result) := handle db l.sensors mono now call
    (⟨gateways, sensors⟩, result.getD db)

theorem handlerOf_eq_some {kind : Str} {h : HandledKind} : handlerOf kind = some h ↔ kind = Str.of h.text := by
  constructor
  · intro hk
    simpa using List.find?_some hk
  · rintro rfl
    cases h <;> decide

variable {loads : List UInt8 → Loaded} {store : Store} {cache cache' : GatewayCache} {mono : ℤ} {topic : Str}
  {payload : List UInt8} {handler : HandledKind} {gatewayId : UUID} {body : Json}

/-- What is known of a message that a handler gets. -/
theorem route_eq_some (h : route loads store cache mono topic payload = (cache', some (handler, gatewayId, body))) :
    ∃ serial, parseTopic topic = some (serial, Str.of handler.text) ∧
      gatewayUuidBySerial store cache mono serial = some (some gatewayId, cache') ∧
      loads payload = .value body := by
  unfold route at h
  split at h
  · cases h
  · rename_i serial kind htopic
    split at h
    · cases h
    · cases h
    · rename_i gatewayId' cache'' hserial
      split at h
      · rename_i body' handler' hbody hkind
        cases h
        rw [handlerOf_eq_some] at hkind
        exact ⟨serial, by rw [htopic, hkind], hserial, hbody⟩
      · cases h

end Server
