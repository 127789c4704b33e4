import IotGateway.Db.Newest
import IotGateway.Lts.Run
import IotGateway.Server.Ingest

/-!
# The latest values

`telemetry_latest` has a row for each key, which an entry overwrites if it is newer.

`latest_converges`: **in every run of telemetry messages the row of each key is a newest
stored entry of that key, and its time never decreases; two runs of the same messages, in
any order and with any repetitions, end with the same rows** if different messages are of
different times and a message names a key at most once.
-/

namespace Server

open Lts Newest Python

/-- The row, as the columns of `telemetry_latest` hold it. -/
def Telemetry.toLatest (r : Telemetry) : TelemetryLatest :=
  ⟨r.gatewayId, r.sensorChannelId, Db.cut 64 r.measurementKey, r.ts, r.valueDouble, r.unit.map (Db.cut 32),
    r.quality.map (Db.cut 32)⟩

/-- The latest row of each key is a newest stored row of the key. -/
structure LatestNewest (store : Store) : Prop where
  stored : ∀ k r, store.latest.find? k = some r → ∃ row ∈ store.telemetry, row.toLatest = r
  newest : ∀ k r, store.latest.find? k = some r →
    ∀ row ∈ store.telemetry, row.toLatest.key = k → row.ts ≤ r.ts
  present : ∀ row ∈ store.telemetry, (store.latest.find? row.toLatest.key).isSome = true

/-! ## One message -/

section Rows

variable {store : Store} {cache : Cache} {mono ts : ℤ} {gw : Gateway} {v : List (Str × Json)}

/-- The two rows of an entry are the same, of the message's time. -/
theorem entryRows_latest {channelId : UUID} {row : Telemetry} {latest : TelemetryLatest}
    (h : entryRows gw channelId ts v = some (some (row, latest))) : latest = row.toLatest ∧ row.ts = ts := by
  unfold entryRows at h
  dsimp only at h
  split_ifs at h
  · cases h
  simp only [Option.bind_eq_bind, Option.bind_eq_some_iff, Option.some.injEq, Prod.mk.injEq] at h
  obtain ⟨value, -, key, hkey, unit, hunit, quality, hquality, raw, -, key', hkey', unit', hunit', quality',
    hquality', rfl, rfl⟩ := h
  refine ⟨?_, rfl⟩
  rw [Db.notNull_eq_cut hkey' hkey, Db.nullable_eq_cut hunit' hunit, Db.nullable_eq_cut hquality' hquality]
  rfl

theorem messageRows_latest {vs : List Json} {r : Telemetry × TelemetryLatest}
    (h : r ∈ messageRows store cache mono gw ts vs) : r.2 = r.1.toLatest ∧ r.1.ts = ts := by
  obtain ⟨v, -, hout⟩ := List.mem_filterMap.1 h
  have hrows := Option.join_eq_some_iff.1 hout
  unfold outcome at hrows
  split at hrows
  · split at hrows
    · cases hrows
    · split at hrows
      · cases hrows
      · cases hrows
      · exact entryRows_latest hrows
  · cases hrows

/-- Of one key, the upsert keeps the newer row. -/
theorem add_latest (s : Session) (row : Telemetry) (r : TelemetryLatest) (k : UUID × UUID × String) :
    (s.add row r).latest.find? k =
      if r.key = k then keep (·.ts) (s.latest.find? k) r else s.latest.find? k := by
  unfold Session.add
  dsimp only
  rw [Db.Table.find?_upsert]
  split_ifs with hk
  · cases hold : s.latest.find? k with
    | none => rfl
    | some old =>
      obtain ⟨-, hkey⟩ := Db.Table.find?_eq_some.1 hold
      have hsame : old.key = r.key := hkey.trans hk.symm
      simp only [TelemetryLatest.key, Prod.mk.injEq] at hsame
      obtain ⟨hgw, hch, hmk⟩ := hsame
      simp only [Option.elim_some, TelemetryLatest.overwrite, keep]
      split_ifs
      · rw [hgw, hch, hmk]
      · rfl
  · rfl

theorem addAll_latest (rows : List (Telemetry × TelemetryLatest)) (k : UUID × UUID × String) :
    ∀ s : Session, (s.addAll rows).latest.find? k =
      keepAll (·.ts) (s.latest.find? k) ((rows.map (·.2)).filter (·.key = k)) := by
  induction rows with
  | nil => exact fun s => rfl
  | cons r rows ih =>
    intro s
    rw [Session.addAll, List.foldl_cons, ← Session.addAll, ih, add_latest, List.map_cons, List.filter_cons]
    by_cases hk : r.2.key = k
    · simp [hk, keepAll]
    · simp [hk]

end Rows

/-! ## Runs -/

namespace Ingest

/-- A message whose handler does not raise. -/
def step (gatewayId : UUID) (s : Ingest) (d : Delivery) : Option Ingest :=
  if (s.handle gatewayId d).2.isSome then some (s.process gatewayId d) else none

/-- The latest values that a message has, in their order. -/
def latestRows (gatewayId : UUID) (s : Ingest) (d : Delivery) : List TelemetryLatest :=
  (s.storedRows gatewayId d).map (·.2)

/-- No latest value is replaced by an older one. -/
def LatestKept (s : Ingest) (_ : Delivery) (s' : Ingest) : Prop :=
  ∀ k r, s.store.latest.find? k = some r → ∃ r', s'.store.latest.find? k = some r' ∧ r.ts ≤ r'.ts

variable {gatewayId : UUID} {s s' t : Ingest} {d d' : Delivery} {ds : List Delivery}

theorem step_eq (h : step gatewayId s d = some s') : s' = s.process gatewayId d := by
  unfold step at h
  split_ifs at h
  exact (Option.some.inj h).symm

theorem latestRows_time {r : TelemetryLatest} (h : r ∈ s.latestRows gatewayId d) :
    messageTime d.now d.body = some r.ts := by
  unfold latestRows storedRows toCommit at h
  cases hcommit : Server.toCommit s.store s.cache d.mono d.now gatewayId d.body with
  | none => simp [hcommit] at h
  | some result =>
    obtain ⟨ts, rows⟩ := result
    obtain ⟨-, htime, gw, vs, -, -, -, rfl⟩ := toCommit_eq_some.1 hcommit
    simp only [hcommit, Option.elim_some, List.mem_map] at h
    obtain ⟨row, hrow, rfl⟩ := h
    obtain ⟨hlatest, hts⟩ := messageRows_latest hrow
    rw [htime, hlatest, ← hts]
    rfl

/-- **One message** keeps, for each key, the newest of the old row and its own. -/
theorem process_latest (k : UUID × UUID × String) : (s.process gatewayId d).store.latest.find? k =
    keepAll (·.ts) (s.store.latest.find? k) ((s.latestRows gatewayId d).filter (·.key = k)) := by
  have hsession : (s.process gatewayId d).store.session = _ := process_session
  exact (congrArg (fun session : Session => session.latest.find? k) hsession).trans
    (addAll_latest (s.storedRows gatewayId d) k s.store.session)

theorem process_latestNewest (hs : LatestNewest s.store) : LatestNewest (s.process gatewayId d).store := by
  have hlatest : ∀ k, (s.process gatewayId d).store.latest.find? k = _ := process_latest
  unfold latestRows storedRows at hlatest
  rw [process_store] at hlatest ⊢
  cases hcommit : s.toCommit gatewayId d with
  | none => exact hs
  | some result =>
    obtain ⟨ts, rows⟩ := result
    obtain ⟨-, -, gw, vs, -, -, -, hrows⟩ := toCommit_eq_some.1 hcommit
    have hsame : ∀ row ∈ rows, row.2 = row.1.toLatest := fun row hrow => by
      rw [hrows] at hrow
      exact (messageRows_latest hrow).1
    simp only [hcommit, Option.elim_some] at hlatest
    have htel : (s.store.commit gatewayId ts rows).telemetry = s.store.telemetry ++ rows.map (·.1) :=
      Session.addAll_telemetry rows _
    -- the new rows of a key are those that the latest row is chosen from
    have hnew : ∀ k, ∀ row ∈ rows, row.1.toLatest.key = k →
        row.1.toLatest ∈ (rows.map (·.2)).filter (·.key = k) := by
      intro k row hrow hk
      refine List.mem_filter.2 ⟨List.mem_map.2 ⟨row, hrow, hsame row hrow⟩, by simpa using hk⟩
    refine ⟨fun k r hr => ?_, fun k r hr row hrow hk => ?_, fun row hrow => ?_⟩
    · rw [hlatest] at hr
      rw [htel]
      rcases keepAll_mem hr with hold | hmem
      · obtain ⟨row, hrow, heq⟩ := hs.stored k r hold
        exact ⟨row, List.mem_append_left _ hrow, heq⟩
      · obtain ⟨row, hrow, rfl⟩ := List.mem_map.1 (List.mem_filter.1 hmem).1
        exact ⟨row.1, List.mem_append_right _ (List.mem_map_of_mem hrow), (hsame row hrow).symm⟩
    · rw [hlatest] at hr
      obtain ⟨hold, hle⟩ := keepAll_le hr
      rw [htel] at hrow
      rcases List.mem_append.1 hrow with hrow | hrow
      · obtain ⟨q, hq⟩ := Option.isSome_iff_exists.1 (hs.present row hrow)
        rw [hk] at hq
        exact (hs.newest k q hq row hrow hk).trans (hold q hq)
      · obtain ⟨row, hmem, rfl⟩ := List.mem_map.1 hrow
        exact hle _ (hnew k row hmem hk)
    · rw [hlatest, keepAll_isSome]
      rw [htel] at hrow
      rcases List.mem_append.1 hrow with hrow | hrow
      · exact Or.inl (hs.present row hrow)
      · obtain ⟨row, hmem, rfl⟩ := List.mem_map.1 hrow
        exact Or.inr (List.ne_nil_of_mem (hnew _ row hmem rfl))

theorem process_latestKept : LatestKept s d (s.process gatewayId d) := by
  intro k r hr
  have hlatest : (s.process gatewayId d).store.latest.find? k = _ := process_latest k
  have hsome : ((s.process gatewayId d).store.latest.find? k).isSome = true := by
    rw [hlatest, keepAll_isSome, hr]
    exact Or.inl rfl
  obtain ⟨r', hr'⟩ := Option.isSome_iff_exists.1 hsome
  rw [hlatest] at hr'
  exact ⟨r', hlatest.trans hr', (keepAll_le hr').1 r hr⟩

/-! ## Two orders -/

/-- With a coherent cache, what a message stores depends on its body and time only. -/
theorem latestRows_congr (hs : Coherent gatewayId s.store s.cache) (hs' : Coherent gatewayId s'.store s'.cache)
    (hsource : SameSource gatewayId s.store s'.store) (hbody : d'.body = d.body)
    (htime : messageTime d'.now d'.body = messageTime d.now d.body) :
    s'.latestRows gatewayId d' = s.latestRows gatewayId d := by
  unfold latestRows storedRows toCommit
  have hlookup : ∀ slug, lookup s'.store s'.cache d'.mono gatewayId slug =
      lookup s.store s.cache d.mono gatewayId slug := by
    intro slug
    rw [hs'.lookup, hs.lookup, hsource.queryChannel]
  rw [hbody] at htime ⊢
  rw [toCommit_congr hsource hlookup htime]

/-- **A whole run** keeps, for each key, the newest of the old row and all that its messages
have. -/
theorem run_latest (k : UUID × UUID × String) : ∀ {s : Ingest}, Coherent gatewayId s.store s.cache →
    run (step gatewayId) s ds = some t → t.store.latest.find? k =
      keepAll (·.ts) (s.store.latest.find? k)
        ((ds.flatMap (s.latestRows gatewayId)).filter (·.key = k)) := by
  induction ds with
  | nil =>
    intro s _ hrun
    obtain rfl := Option.some.inj hrun
    rfl
  | cons d ds ih =>
    intro s hs hrun
    obtain ⟨s', hd, hrun⟩ := run_cons_eq_some.1 hrun
    obtain rfl := step_eq hd
    have hrest : (s.process gatewayId d).latestRows gatewayId = s.latestRows gatewayId := by
      funext d'
      exact latestRows_congr hs hs.process process_source rfl rfl
    rw [ih hs.process hrun, process_latest, hrest, List.flatMap_cons, List.filter_append]
    unfold keepAll
    rw [List.foldl_append]

/-- The same messages, in any order and with any repetitions. -/
def SameMessages (ds ds' : List Delivery) : Prop :=
  ∀ body, (∃ d ∈ ds, d.body = body) ↔ ∃ d ∈ ds', d.body = body

/-- A message is of one time however often it is processed, and different messages are of
different times. -/
structure DistinctTimes (ds : List Delivery) : Prop where
  own : ∀ d ∈ ds, ∀ d' ∈ ds, d.body = d'.body → messageTime d.now d.body = messageTime d'.now d'.body
  distinct : ∀ d ∈ ds, ∀ d' ∈ ds, ∀ ts, messageTime d.now d.body = some ts →
    messageTime d'.now d'.body = some ts → d.body = d'.body

/-- No two of the message's entries have the same key. -/
def NamesOnce (gatewayId : UUID) (s : Ingest) (d : Delivery) : Prop :=
  ((s.latestRows gatewayId d).map (·.key)).Nodup

theorem mem_rows {ds' : List Delivery} (hs : Coherent gatewayId s.store s.cache)
    (hsame : SameMessages ds ds') (htimes : DistinctTimes (ds ++ ds')) {r : TelemetryLatest}
    (h : r ∈ ds.flatMap (s.latestRows gatewayId)) : r ∈ ds'.flatMap (s.latestRows gatewayId) := by
  obtain ⟨d, hd, hr⟩ := List.mem_flatMap.1 h
  obtain ⟨d', hd', hbody⟩ := (hsame d.body).1 ⟨d, hd, rfl⟩
  have htime := htimes.own d' (List.mem_append_right _ hd') d (List.mem_append_left _ hd) hbody
  refine List.mem_flatMap.2 ⟨d', hd', ?_⟩
  rw [latestRows_congr hs hs .refl hbody htime]
  exact hr

/-- Two entries of one key and one time are the same. -/
theorem rows_unique (hs : Coherent gatewayId s.store s.cache) (htimes : DistinctTimes ds)
    (honce : ∀ d ∈ ds, NamesOnce gatewayId s d) {x y : TelemetryLatest}
    (hx : x ∈ ds.flatMap (s.latestRows gatewayId)) (hy : y ∈ ds.flatMap (s.latestRows gatewayId))
    (hkey : x.key = y.key) (hts : x.ts = y.ts) : x = y := by
  obtain ⟨d, hd, hx⟩ := List.mem_flatMap.1 hx
  obtain ⟨d', hd', hy⟩ := List.mem_flatMap.1 hy
  have hbody := htimes.distinct d hd d' hd' x.ts (latestRows_time hx) (hts ▸ latestRows_time hy)
  have htime := htimes.own d hd d' hd' hbody
  -- of one time, so of one message, which has the key once
  rw [← latestRows_congr hs hs .refl hbody htime] at hy
  exact List.inj_on_of_nodup_map (honce d hd) hx hy hkey

/-- **Two orders**: the same messages lead to the same row of each key. -/
theorem run_latest_eq {ds' : List Delivery} {t' : Ingest} (hs : Coherent gatewayId s.store s.cache)
    (hrun : run (step gatewayId) s ds = some t) (hrun' : run (step gatewayId) s ds' = some t')
    (hsame : SameMessages ds ds') (htimes : DistinctTimes (ds ++ ds'))
    (honce : ∀ d ∈ ds, NamesOnce gatewayId s d) (k : UUID × UUID × String) :
    t.store.latest.find? k = t'.store.latest.find? k := by
  rw [run_latest k hs hrun, run_latest k hs hrun']
  have hsame' : SameMessages ds' ds := fun body => (hsame body).symm
  have htimes' : DistinctTimes (ds' ++ ds) := by
    refine ⟨fun d hd d' hd' => htimes.own d ?_ d' ?_, fun d hd d' hd' => htimes.distinct d ?_ d' ?_⟩ <;>
      rw [List.mem_append, or_comm, ← List.mem_append] <;> assumption
  have hleft : DistinctTimes ds :=
    ⟨fun d hd d' hd' => htimes.own d (List.mem_append_left _ hd) d' (List.mem_append_left _ hd'),
      fun d hd d' hd' => htimes.distinct d (List.mem_append_left _ hd) d' (List.mem_append_left _ hd')⟩
  refine keepAll_congr (fun r => ?_) fun x hx y hy hts => ?_
  · rw [List.mem_filter, List.mem_filter]
    exact and_congr_left' ⟨mem_rows hs hsame htimes, mem_rows hs hsame' htimes'⟩
  · obtain ⟨hx, hkx⟩ := List.mem_filter.1 hx
    obtain ⟨hy, hky⟩ := List.mem_filter.1 hy
    have hkey : x.key = y.key := by
      rw [decide_eq_true_eq] at hkx hky
      rw [hkx, hky]
    exact rows_unique hs hleft honce hx hy hkey hts

/-- **Convergence.** Along every run of telemetry messages that raise no exception, the row
of each key stays a newest stored entry of that key, and its time never decreases. Another
run of the same messages from the same state, in any order and with any repetitions, ends
with the same rows, if a message's time is its own and it names a key at most once. -/
theorem latest_converges (gatewayId : UUID) (s : Ingest) (ds : List Delivery) :
    (LatestNewest s.store → Always (step gatewayId) (fun s => LatestNewest s.store) s ds) ∧
    Along (step gatewayId) LatestKept s ds ∧
    ∀ ds' t t', run (step gatewayId) s ds = some t → run (step gatewayId) s ds' = some t' →
      Coherent gatewayId s.store s.cache → SameMessages ds ds' → DistinctTimes (ds ++ ds') →
      (∀ d ∈ ds, NamesOnce gatewayId s d) → ∀ k, t.store.latest.find? k = t'.store.latest.find? k := by
  refine ⟨fun hs => ?_, ?_, fun ds' t t' hrun hrun' hs hsame htimes honce k =>
    run_latest_eq hs hrun hrun' hsame htimes honce k⟩
  · refine always_of_inv (I := fun s : Ingest => LatestNewest s.store) ?_ hs
    intro s d s' hs hd
    rw [step_eq hd]
    exact process_latestNewest hs
  · refine along_true.imp ?_
    intro s d s' hd _
    rw [step_eq hd]
    exact process_latestKept

/-! Two messages of the ammonia sensor, a minute apart, and the empty tables. -/

def atNoon : Delivery := ⟨0, 0, message [reading "ammonia" 18]⟩

def minuteLater : Delivery where
  mono := 0
  now := 0
  body := [(Str.of "timestamp", .text "2026-05-04T12:01:00Z"),
    (Str.of "values", .arr [.obj (reading "ammonia" 20)])]

def barnWorker : Ingest := ⟨barn, fun _ => none⟩

theorem barn_times : DistinctTimes ([atNoon, minuteLater] ++ [minuteLater, atNoon, atNoon]) := by
  have hnoon : messageTime atNoon.now atNoon.body = some 1777896000000000 := by decide +kernel
  have hlater : messageTime minuteLater.now minuteLater.body = some 1777896060000000 := by decide +kernel
  have hbody : atNoon.body ≠ minuteLater.body := by
    intro h
    rw [show atNoon.now = minuteLater.now from rfl, h, hlater] at hnoon
    cases hnoon
  have hmem : ∀ d ∈ [atNoon, minuteLater] ++ [minuteLater, atNoon, atNoon], d = atNoon ∨ d = minuteLater := by
    simp
  refine ⟨fun d hd d' hd' h => ?_, fun d hd d' hd' ts hts hts' => ?_⟩
  · rcases hmem d hd with rfl | rfl <;> rcases hmem d' hd' with rfl | rfl
    · rfl
    · exact absurd h hbody
    · exact absurd h.symm hbody
    · rfl
  · rcases hmem d hd with rfl | rfl <;> rcases hmem d' hd' with rfl | rfl
    · rfl
    · rw [hnoon] at hts
      rw [hlater, ← hts] at hts'
      cases hts'
    · rw [hlater] at hts
      rw [hnoon, ← hts] at hts'
      cases hts'
    · rfl

/-- The newer message first, and the older one twice after it: the rows are the same. -/
theorem barn_converges : Always (step 7) (fun s => LatestNewest s.store) barnWorker [atNoon, minuteLater] ∧
    ∃ t t', run (step 7) barnWorker [atNoon, minuteLater] = some t ∧
      run (step 7) barnWorker [minuteLater, atNoon, atNoon] = some t' ∧
      ∀ k, t.store.latest.find? k = t'.store.latest.find? k := by
  obtain ⟨hnewest, -, horder⟩ := latest_converges 7 barnWorker [atNoon, minuteLater]
  obtain ⟨t, ht⟩ := Option.isSome_iff_exists.1
    (by decide +kernel : (run (step 7) barnWorker [atNoon, minuteLater]).isSome = true)
  obtain ⟨t', ht'⟩ := Option.isSome_iff_exists.1
    (by decide +kernel : (run (step 7) barnWorker [minuteLater, atNoon, atNoon]).isSome = true)
  refine ⟨hnewest ⟨nofun, nofun, nofun⟩, t, t', ht, ht',
    horder _ t t' ht ht' (fun _ _ _ h => by cases h) ?_ barn_times ?_⟩
  · intro body
    simp [or_comm]
  · intro d hd
    rcases List.mem_pair.1 hd with rfl | rfl
    · unfold NamesOnce
      decide +kernel
    · unfold NamesOnce
      decide +kernel

end Ingest

end Server
