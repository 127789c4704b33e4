import IotGateway.Gateway.Config
import IotGateway.Server.Dispatch

/-!
# Topics between the agent and the worker

The agent publishes under `gw/%s/…` with its gateway id, which `Validate` has checked; the
worker reads the id back with a regular expression.

`topics_iff`: **every topic of a valid configuration is read back as it was written,
different ids have different topics, and a topic that is handed to a handler has exactly
that form, unless a newline stands behind it**: Python's `$` lets one pass
(`newline_handled`).
-/

namespace Topics

open Python Server

/-- The messages that the agent publishes. -/
inductive Published where
  | telemetry
  | state
  | heartbeat
  | event
  | commandResponse
deriving DecidableEq, Repr

def Published.suffix : Published → String
  | .telemetry => "telemetry"
  | .state => "state"
  | .heartbeat => "heartbeat"
  | .event => "event"
  | .commandResponse => "command/response"

/-- `fmt.Sprintf("gw/%s/…", gatewayID)` -/
def topic (gatewayID : String) (p : Published) : String := "gw/" ++ gatewayID ++ "/" ++ p.suffix

/-- A topic `gw/<serial>/<kind>` of one of the handled kinds. -/
def Exact (t : Str) : Prop :=
  ∃ serial, ∃ h : HandledKind, t = topicOf serial (Str.of h.text) ∧
    serial ≠ [] ∧ ∀ c ∈ serial, serialChar c = true

/-- `dispatch` hands messages of this topic to a handler, for some state of the tables and
the cache and some payload; `loads` is `json.loads`. -/
def Handed (loads : List UInt8 → Loaded) (t : Str) : Prop :=
  ∃ store cache mono payload call, (route loads store cache mono t payload).2 = some call

variable {loads : List UInt8 → Loaded}

theorem of_append (s t : String) : Str.of (s ++ t) = Str.of s ++ Str.of t := by
  simp [Str.of, String.toList_append]

theorem of_topic (gatewayID : String) (p : Published) :
    Str.of (topic gatewayID p) = topicOf (Str.of gatewayID) (Str.of p.suffix) := by
  simp only [topic, topicOf, of_append]

/-- The characters of a gateway id are those of a serial number. -/
theorem serialChar_of_valid {c : Gateway.Config} (h : c.Valid) :
    Str.of c.gateway.id ≠ [] ∧ ∀ x ∈ Str.of c.gateway.id, serialChar x = true := by
  constructor
  · intro hnil
    have : c.gateway.id.toList = [] := List.map_eq_nil_iff.1 hnil
    exact h.id (String.toList_eq_nil_iff.1 this)
  · intro x hx
    obtain ⟨ch, hch, rfl⟩ := List.mem_map.1 hx
    exact h.idChars ch hch

theorem kindChar_suffix (p : Published) :
    Str.of p.suffix ≠ [] ∧ ∀ x ∈ Str.of p.suffix, kindChar x = true := by
  cases p <;> decide +kernel

theorem kindChar_text (h : HandledKind) :
    Str.of h.text ≠ [] ∧ ∀ x ∈ Str.of h.text, kindChar x = true := by
  cases h <;> decide +kernel

/-- **A published topic is read back.** -/
theorem parse_topic {c : Gateway.Config} (h : c.Valid) (p : Published) :
    parseTopic (Str.of (topic c.gateway.id p)) = some (Str.of c.gateway.id, Str.of p.suffix) := by
  rw [of_topic, parseTopic_iff]
  exact ⟨Or.inl rfl, serialChar_of_valid h, kindChar_suffix p⟩

/-- A topic that is handed to a handler is exact, up to a newline. -/
theorem handed_exact {t : Str} (h : Handed loads t) : Exact t ∨ ∃ s, Exact s ∧ t = s ++ [newline] := by
  obtain ⟨store, cache, mono, payload, ⟨handler, gatewayId, body⟩, hroute⟩ := h
  obtain ⟨serial, hparse, -⟩ := route_eq_some (Prod.ext rfl hroute)
  obtain ⟨ht, hserial, -⟩ := parseTopic_iff.1 hparse
  rcases ht with rfl | rfl
  · exact Or.inl ⟨serial, handler, rfl, hserial⟩
  · exact Or.inr ⟨_, ⟨serial, handler, rfl, hserial⟩, rfl⟩

/-- A topic that is matched is handed on, where its serial number is cached. -/
theorem handed_of_parse (hloads : ∃ payload body, loads payload = .value body) {t serial : Str}
    {h : HandledKind} (hparse : parseTopic t = some (serial, Str.of h.text)) : Handed loads t := by
  obtain ⟨payload, body, hbody⟩ := hloads
  have hkind : handlerOf (Str.of h.text) = some h := handlerOf_eq_some.2 rfl
  refine ⟨⟨.empty, .empty, [], .empty⟩, fun _ => some (some 0, 0), 0, payload, (h, 0, body), ?_⟩
  simp [route, hparse, gatewayUuidBySerial, hbody, hkind]

/-- No exact topic has a newline at its end. -/
theorem not_exact_newline (s : Str) : ¬ Exact (s ++ [newline]) := by
  rintro ⟨serial, h, ht, -⟩
  have hkind : Str.of h.text ≠ [] := (kindChar_text h).1
  have hlast : newline ∈ Str.of h.text := by
    have h1 : (s ++ [newline]).getLast? = some newline := List.getLast?_concat
    rw [ht, topicOf, List.getLast?_append_of_ne_nil _ hkind] at h1
    exact List.mem_of_getLast? h1
  exact absurd ((kindChar_text h).2 _ hlast) (by decide)

/-- **Topics round-trip, and nothing else is handled but for a newline.** Each topic that
the agent publishes under an id that `Validate` accepts is matched with that id as serial
number and its suffix as kind; different ids give different topics; and all topics that
reach a handler through a given topic text are exact, if and only if the text is not an
exact topic followed by a newline. -/
theorem topics_iff (loads : List UInt8 → Loaded) (hloads : ∃ payload body, loads payload = .value body) :
    (∀ c : Gateway.Config, c.validate = .ok () → ∀ p,
      parseTopic (Str.of (topic c.gateway.id p)) = some (Str.of c.gateway.id, Str.of p.suffix)) ∧
    (∀ c c' : Gateway.Config, c.validate = .ok () → c'.validate = .ok () →
      c.gateway.id ≠ c'.gateway.id → ∀ p q, topic c.gateway.id p ≠ topic c'.gateway.id q) ∧
    ∀ t : Str, (Handed loads t → Exact t) ↔ ¬ ∃ s, Exact s ∧ t = s ++ [newline] := by
  refine ⟨fun c hc => parse_topic (Gateway.Config.validate_eq_ok.1 hc), ?_, ?_⟩
  · intro c c' hc hc' hne p q heq
    have h1 := parse_topic (Gateway.Config.validate_eq_ok.1 hc) p
    have h2 := parse_topic (Gateway.Config.validate_eq_ok.1 hc') q
    rw [heq, h2] at h1
    have hserial := congrArg Prod.fst (Option.some.inj h1)
    exact hne (Str.of_inj.1 hserial.symm)
  · intro t
    constructor
    · rintro h ⟨s, ⟨serial, handler, hs, hserial⟩, rfl⟩
      refine not_exact_newline s (h ?_)
      exact handed_of_parse hloads (parseTopic_iff.2 ⟨Or.inr (by rw [hs]), hserial, kindChar_text handler⟩)
    · intro hno hhanded
      exact (handed_exact hhanded).resolve_right hno

/-! The gateway `GW-1`. -/

def gw1 : Gateway.Config where
  gateway := ⟨"GW-1", 0, 0⟩
  mqtt := ⟨"tcp://broker:1883", 0, 0, 0⟩
  storage := ⟨"/var/lib/gateway.db", 0, 0, 0⟩
  watchdog := ⟨0, false, 0, 0⟩
  sensors := []
  actuators := []
  simulation := ⟨false, "", 0⟩

theorem gw1_topics :
    gw1.validate = .ok () ∧
      parseTopic (Str.of (topic "GW-1" .telemetry)) = some (Str.of "GW-1", Str.of "telemetry") ∧
      ((Handed loadsBraces (Str.of "gw/GW-1/event") → Exact (Str.of "gw/GW-1/event")) ↔
        ¬ ∃ s, Exact s ∧ Str.of "gw/GW-1/event" = s ++ [newline]) := by
  have hvalid : gw1.validate = .ok () := by decide +kernel
  obtain ⟨h1, -, h3⟩ := topics_iff loadsBraces ⟨[123, 125], .obj [], rfl⟩
  exact ⟨hvalid, h1 gw1 hvalid .telemetry, h3 _⟩

theorem farm_ids : ([Server.Gateway.registered 7 "GW-1" 3 none].map (·.id)).Nodup := by simp

def farm : Store := ⟨⟨[.registered 7 "GW-1" 3 none], farm_ids⟩, .empty, [], .empty⟩

/-- **A newline behind the topic**: the message is handed to the telemetry handler. -/
theorem newline_handled :
    ((route loadsBraces farm (fun _ => none) 0 (Str.of "gw/GW-1/telemetry\n") [123, 125]).2.map
        fun call => (call.1, call.2.1)) = some (HandledKind.telemetry, 7) ∧
      ¬ Exact (Str.of "gw/GW-1/telemetry\n") := by
  refine ⟨by decide +kernel, ?_⟩
  have : Str.of "gw/GW-1/telemetry\n" = Str.of "gw/GW-1/telemetry" ++ [newline] := by decide +kernel
  rw [this]
  exact not_exact_newline _

end Topics
