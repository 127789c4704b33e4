import IotGateway.Server.Latest

/-!
# Messages delivered again

The gateway gives each telemetry message a `message_id`, and sends a message again whose
publish it did not see confirmed. The worker does not read the id.

`repeats_harmless_iff`: **a sequence of messages leaves the telemetry tables as it would
with each message id once, exactly when no repeated delivery has an entry to store.** Any
entry that is stored is stored again by a second delivery (`reading_stored_twice`).
-/

namespace Server

open Newest Python

/-- The id that the gateway assigned to a message. -/
def messageId (body : List (Str × Json)) : Option Str :=
  match Json.get body "message_id" with
  | some (.str id) => some id
  | _ => none

/-- A message of one of these ids was delivered before. -/
def Delivery.Repeats (seen : List Str) (d : Delivery) : Prop := ∃ id ∈ messageId d.body, id ∈ seen

instance (seen : List Str) (d : Delivery) : Decidable (d.Repeats seen) :=
  inferInstanceAs (Decidable (∃ id ∈ messageId d.body, id ∈ seen))

/-- The first delivery of each message id. -/
def firsts (seen : List Str) : List Delivery → List Delivery
  | [] => []
  | d :: ds =>
    if d.Repeats seen then firsts seen ds
    else d :: firsts ((messageId d.body).toList ++ seen) ds

/-- The deliveries that are not the first of their message id. -/
def repeats (seen : List Str) : List Delivery → List Delivery
  | [] => []
  | d :: ds =>
    if d.Repeats seen then d :: repeats seen ds
    else repeats ((messageId d.body).toList ++ seen) ds

/-- `telemetry.handle` of each message. -/
def Ingest.processAll (gatewayId : UUID) (s : Ingest) (ds : List Delivery) : Ingest :=
  ds.foldl (·.process gatewayId) s

/-- The same rows, whatever their surrogate ids. -/
structure SameTables (store store' : Store) : Prop where
  telemetry : store.telemetry.Perm store'.telemetry
  latest : ∀ k, store.latest.find? k = store'.latest.find? k

/-- The entry has a channel that the lookup finds, and a key. -/
def Kept (store : Store) (cache : Cache) (mono : ℤ) (gatewayId : UUID) (v : Json) : Prop :=
  ∃ items slug channelId, v = .obj items ∧ slugOf items = some slug ∧
    lookup store cache mono gatewayId slug = some (some channelId) ∧
    ((Json.get items "measurement_key").getD (.text "")).truthy = true

/-- The message has a time and a known gateway, no entry raises, and one is kept. -/
def Storing (gatewayId : UUID) (s : Ingest) (d : Delivery) : Prop :=
  (messageTime d.now d.body).isSome = true ∧ (s.store.gateways.find? gatewayId).isSome = true ∧
  ∃ vs, iterate ((Json.get d.body "values").getD .null) = some vs ∧
    (∀ v ∈ vs, Harmless s.store s.cache d.mono gatewayId v) ∧
    ∃ v ∈ vs, Kept s.store s.cache d.mono gatewayId v

/-! ## What a message stores -/

section Stored

variable {store : Store} {cache : Cache} {mono ts : ℤ} {gatewayId : UUID} {gw : Gateway}
variable {s : Ingest} {d : Delivery}

/-- A harmless entry is stored exactly when it is kept. -/
theorem outcome_kept {v : Json} (h : Harmless store cache mono gw.id v) :
    (outcome store cache mono gw ts v).join.isSome = true ↔ Kept store cache mono gw.id v := by
  obtain ⟨items, rfl, hharm⟩ := h
  unfold outcome Kept
  dsimp only
  cases hslug : slugOf items with
  | none => simp [hslug]
  | some slug =>
    obtain ⟨found, hfound, hstore⟩ := hharm slug hslug
    cases found with
    | none => simp [hslug, hfound]
    | some channelId =>
      simp only [hfound, Json.obj.injEq, exists_and_left, ↓existsAndEq, hslug, Option.some.injEq,
        true_and]
      by_cases hkey : ((Json.get items "measurement_key").getD (.text "")).truthy = true
      · obtain ⟨row, latest, hrows, -⟩ := (entryRows_spec gw channelId ts hkey).1 (hstore rfl hkey)
        simp [hrows, hkey]
      · rw [entryRows_skip gw channelId ts hkey]
        simp [hkey]

theorem truthy_of_iterate {values : Json} {vs : List Json} (h : iterate values = some vs) (hne : vs ≠ []) :
    values.truthy = true := by
  unfold iterate at h
  split at h
  · cases h
    simp [Json.truthy, hne]
  · cases h
    simpa [Json.truthy] using hne
  · cases h
    simpa [Json.truthy] using hne
  · cases h

/-- **A message stores rows** exactly when its time, its gateway and its entries say so. -/
theorem storedRows_ne_nil : s.storedRows gatewayId d ≠ [] ↔ Storing gatewayId s d := by
  unfold Ingest.storedRows Ingest.toCommit
  constructor
  · intro hne
    cases hcommit : toCommit s.store s.cache d.mono d.now gatewayId d.body with
    | none => simp [hcommit] at hne
    | some result =>
      obtain ⟨ts, rows⟩ := result
      obtain ⟨-, htime, gw, vs, hgw, hvs, hharm, rfl⟩ := toCommit_eq_some.1 hcommit
      obtain ⟨-, rfl⟩ := Db.Table.find?_eq_some.1 hgw
      simp only [hcommit, Option.elim_some] at hne
      obtain ⟨r, hr⟩ := List.exists_mem_of_ne_nil _ hne
      obtain ⟨v, hv, hout⟩ := List.mem_filterMap.1 hr
      refine ⟨by rw [htime]; rfl, by rw [hgw]; rfl, vs, hvs, hharm, v, hv, ?_⟩
      exact (outcome_kept (hharm v hv)).1 (by rw [hout]; rfl)
  · rintro ⟨htime, hgw, vs, hvs, hharm, v, hv, hkept⟩
    obtain ⟨ts, hts⟩ := Option.isSome_iff_exists.1 htime
    obtain ⟨gw, hgw⟩ := Option.isSome_iff_exists.1 hgw
    obtain ⟨-, rfl⟩ := Db.Table.find?_eq_some.1 hgw
    have htruthy := truthy_of_iterate hvs (List.ne_nil_of_mem hv)
    rw [toCommit_eq_some.2 ⟨htruthy, hts, gw, vs, hgw, hvs, hharm, rfl⟩, Option.elim_some]
    obtain ⟨r, hr⟩ := Option.isSome_iff_exists.1 ((outcome_kept (hharm v hv)).2 hkept)
    exact List.ne_nil_of_mem (List.mem_filterMap.2 ⟨v, hv, hr⟩)

end Stored

/-! ## Sequences -/

section Sequences

variable {gatewayId : UUID} {s : Ingest} {ds : List Delivery}

theorem Session.addAll_append (s : Session) (rows rows' : List (Telemetry × TelemetryLatest)) :
    s.addAll (rows ++ rows') = (s.addAll rows).addAll rows' := List.foldl_append

/-- **A sequence of messages**, on a clock that does not go back, adds the rows that each of
them would store by itself. -/
theorem processAll_session : ∀ {s : Ingest}, (ds.map (·.mono)).Pairwise (· ≤ ·) →
    (s.processAll gatewayId ds).store.session =
      s.store.session.addAll (ds.flatMap (s.storedRows gatewayId)) := by
  induction ds with
  | nil => exact fun _ => rfl
  | cons d ds ih =>
    intro s hclock
    rw [List.map_cons, List.pairwise_cons] at hclock
    have hrest : ds.flatMap ((s.process gatewayId d).storedRows gatewayId) =
        ds.flatMap (s.storedRows gatewayId) := by
      refine List.flatMap_congr fun d' hd' => storedRows_process (hclock.1 _ (List.mem_map_of_mem hd'))
    rw [Ingest.processAll, List.foldl_cons, ← Ingest.processAll, ih hclock.2, hrest, process_session,
      List.flatMap_cons, Session.addAll_append]

theorem firsts_sublist (ds : List Delivery) : ∀ seen : List Str, (firsts seen ds).Sublist ds := by
  induction ds with
  | nil => exact fun seen => .refl _
  | cons d ds ih =>
    intro seen
    unfold firsts
    split
    · exact (ih seen).cons d
    · exact (ih _).cons_cons d

/-- What a sequence stores is what its first deliveries and its repeats store. -/
theorem length_flatMap_firsts {α : Type*} (f : Delivery → List α) (ds : List Delivery) :
    ∀ seen : List Str, (ds.flatMap f).length =
      ((firsts seen ds).flatMap f).length + ((repeats seen ds).flatMap f).length := by
  induction ds with
  | nil => exact fun seen => rfl
  | cons d ds ih =>
    intro seen
    unfold firsts repeats
    split
    · have := ih seen
      simp only [List.flatMap_cons, List.length_append]
      omega
    · have := ih ((messageId d.body).toList ++ seen)
      simp only [List.flatMap_cons, List.length_append]
      omega

/-- Repeats that store nothing can be left out. -/
theorem flatMap_firsts {α : Type*} {f : Delivery → List α} (ds : List Delivery) :
    ∀ seen : List Str, (∀ d ∈ repeats seen ds, f d = []) →
      (firsts seen ds).flatMap f = ds.flatMap f := by
  induction ds with
  | nil => exact fun _ _ => rfl
  | cons d ds ih =>
    intro seen h
    unfold repeats at h
    unfold firsts
    split
    · rename_i hr
      rw [if_pos hr, List.forall_mem_cons] at h
      rw [ih seen h.2, List.flatMap_cons, h.1, List.nil_append]
    · rename_i hr
      rw [if_neg hr] at h
      rw [List.flatMap_cons, List.flatMap_cons, ih _ h]

end Sequences

/-- **Redelivery.** For messages in the order of the worker's clock, the tables after them
are those after the first delivery of each message id, if and only if none of the other
deliveries has a time, a known gateway, no entry that raises, and an entry to store. -/
theorem repeats_harmless_iff (gatewayId : UUID) (s : Ingest) (ds : List Delivery)
    (hclock : (ds.map (·.mono)).Pairwise (· ≤ ·)) :
    SameTables (s.processAll gatewayId ds).store (s.processAll gatewayId (firsts [] ds)).store ↔
      ∀ d ∈ repeats [] ds, ¬ Storing gatewayId s d := by
  have hall : (s.processAll gatewayId ds).store.session = _ := processAll_session hclock
  have hclock' : ((firsts [] ds).map (·.mono)).Pairwise (· ≤ ·) :=
    hclock.sublist ((firsts_sublist ds []).map (·.mono))
  have hfirsts : (s.processAll gatewayId (firsts [] ds)).store.session = _ := processAll_session hclock'
  constructor
  · intro hsame d hd hstoring
    have hlen := hsame.telemetry.length_eq
    have htel : ∀ s' : Ingest, s'.store.telemetry = s'.store.session.telemetry := fun _ => rfl
    rw [htel, htel, hall, hfirsts, Session.addAll_telemetry, Session.addAll_telemetry] at hlen
    simp only [List.length_append, List.length_map] at hlen
    -- the rows of the repeats are too many
    have hsum := length_flatMap_firsts (s.storedRows gatewayId) ds []
    have hnone : (repeats [] ds).flatMap (s.storedRows gatewayId) = [] :=
      List.length_eq_zero_iff.1 (by omega)
    exact storedRows_ne_nil.2 hstoring (List.flatMap_eq_nil_iff.1 hnone d hd)
  · intro hnone
    have hrows : (firsts [] ds).flatMap (s.storedRows gatewayId) = ds.flatMap (s.storedRows gatewayId) :=
      flatMap_firsts ds [] fun d hd => not_not.1 (mt storedRows_ne_nil.1 (hnone d hd))
    have hsession : (s.processAll gatewayId ds).store.session =
        (s.processAll gatewayId (firsts [] ds)).store.session := by
      rw [hall, hfirsts, hrows]
    refine ⟨?_, fun k => ?_⟩
    · exact List.Perm.of_eq (congrArg Session.telemetry hsession)
    · exact congrArg (fun session : Session => session.latest.find? k) hsession

/-! The gateway publishes a message, misses the confirmation and sends it again. -/

def uplink (entries : List (List (Str × Json))) : Delivery :=
  ⟨0, 0, (Str.of "message_id", .text "0b5f2c1e-8d1f-4b77-9d3e-6a4a1c0e7f52") :: message entries⟩

/-- **The entry is stored twice.** -/
theorem reading_stored_twice :
    ¬ SameTables
      (Ingest.barnWorker.processAll 7 [uplink [reading "ammonia" 18], uplink [reading "ammonia" 18]]).store
      (Ingest.barnWorker.processAll 7
        (firsts [] [uplink [reading "ammonia" 18], uplink [reading "ammonia" 18]])).store := by
  intro hsame
  have hlen := hsame.telemetry.length_eq
  have htwice : (Ingest.barnWorker.processAll 7
      [uplink [reading "ammonia" 18], uplink [reading "ammonia" 18]]).store.telemetry.length = 2 := by
    decide +kernel
  have honce : (Ingest.barnWorker.processAll 7
      (firsts [] [uplink [reading "ammonia" 18], uplink [reading "ammonia" 18]])).store.telemetry.length = 1 := by
    decide +kernel
  omega

/-- A message without entries can come again. -/
theorem empty_twice :
    SameTables (Ingest.barnWorker.processAll 7 [uplink [], uplink []]).store
      (Ingest.barnWorker.processAll 7 (firsts [] [uplink [], uplink []])).store := by
  refine (repeats_harmless_iff 7 Ingest.barnWorker [uplink [], uplink []] (by decide)).2 fun d hd => ?_
  have hrepeat : repeats [] [uplink [], uplink []] = [uplink []] := rfl
  rw [hrepeat, List.mem_singleton] at hd
  subst hd
  rintro ⟨-, -, vs, hvs, -, v, hv, -⟩
  cases hvs
  cases hv

end Server
