import IotGateway.Db.Smallest
import IotGateway.Server.Latest
import IotGateway.Server.Mediation

/-!
# The dashboard and the time series

The latest values of a gateway and its time series are two tables, written by the worker and
read by two endpoints, between any other requests.

`dashboard_agrees`: **in every state of every run of messages and requests the two endpoints
agree. Each reading of the series has an entry of its channel and key on the dashboard that
is no older; and each entry of the dashboard that is within the hours asked for is in the
series, with its value, unit and quality, or the series is as long as it may be and
has none that is older.**
-/

namespace Server

open Lts Python Smallest

/-! ## The system -/

/-- A telemetry message of a gateway, with the rows of gateways and channels that its handler
finds. -/
structure Arrival where
  gateways : Db.Table Gateway (·.id)
  channels : Db.Table SensorChannel fun c => (c.gatewayId, c.slug)
  gatewayId : UUID
  delivery : Delivery

/-- The tables, and the worker's cache. -/
structure Backend where
  tables : Tables
  cache : Cache

inductive BackendEvent where
  | message (a : Arrival)
  | request (env : Env) (userId : UUID) (route : Route)

namespace Backend

/-- `telemetry.handle` of a message, on the two tables of readings. -/
def receive (s : Backend) (a : Arrival) : Ingest :=
  Ingest.process a.gatewayId ⟨⟨a.gateways, a.channels, s.tables.telemetry, s.tables.latest⟩, s.cache⟩
    a.delivery

def step (s : Backend) : BackendEvent → Option Backend
  | .message a => some
      { tables := { s.tables with
          telemetry := (s.receive a).store.telemetry
          latest := (s.receive a).store.latest }
        cache := (s.receive a).cache }
  | .request env userId route => some { s with tables := (s.tables.handle env userId route).2 }

/-- The tables of readings. -/
def readings (s : Backend) : Store := ⟨.empty, .empty, s.tables.telemetry, s.tables.latest⟩

end Backend

/-! ## What is seen -/

/-- The reading of the series is the dashboard's entry. -/
structure Shows (x : TelemetryRow) (r : TelemetryLatest) : Prop where
  ts : x.ts = r.ts
  key : r.measurementKey = Db.cut 64 x.measurementKey
  value : r.valueDouble = x.valueDouble
  unit : r.unit = x.unit.map (Db.cut 32)
  quality : r.quality = x.quality.map (Db.cut 32)

/-- The entry is of a key that is asked for, and that no column cuts. -/
def Asked (q : TelemetryQuery) (r : TelemetryLatest) : Prop :=
  ∀ k ∈ q.measurementKey, r.measurementKey = k ∧ k.length < 64

/-- The instant from which on readings are asked for. -/
def TelemetryQuery.since (q : TelemetryQuery) (env : Env) : ℤ := env.now - q.hours * 3600000000

/-- The dashboard and the series show the same. -/
structure Agrees (env : Env) (q : TelemetryQuery) (latest : List TelemetryLatest) (series : List TelemetryRow) :
    Prop where
  newestFirst : series.Pairwise fun x y => y.ts ≤ x.ts
  limited : series.length ≤ q.limit
  asked : ∀ x ∈ series, q.since env ≤ x.ts ∧ ∀ k ∈ q.measurementKey, x.measurementKey = k
  onDashboard : ∀ x ∈ series, ∃ r ∈ latest, r.measurementKey = Db.cut 64 x.measurementKey ∧ x.ts ≤ r.ts
  inSeries : ∀ r ∈ latest, q.since env ≤ r.ts → Asked q r →
    (∃ x ∈ series, Shows x r) ∨ series.length = q.limit ∧ ∀ x ∈ series, r.ts ≤ x.ts

section Reply

variable {db : Tables} {env : Env} {userId g : UUID} {q : TelemetryQuery} {latest : List TelemetryLatest}
  {series : List TelemetryRow}

theorem mem_getLatest (h : db.getLatest env userId g = .ok latest) {r : TelemetryLatest} :
    r ∈ latest ↔ r ∈ db.latest.rows ∧ r.gatewayId = g := by
  obtain ⟨row, -, h⟩ := Except.bind_eq_ok_iff.1 h
  cases h
  rw [List.mem_insertionSort, List.mem_filter, decide_eq_true_eq]

/-- The rows that a query selects. -/
def Selected (env : Env) (q : TelemetryQuery) (g : UUID) (row : Telemetry) : Prop :=
  row.gatewayId = g ∧ q.since env ≤ row.ts ∧ ∀ k ∈ q.measurementKey, row.measurementKey = k

/-- A row as the endpoint returns it. -/
def Telemetry.reading (row : Telemetry) : TelemetryRow :=
  ⟨row.ts, row.measurementKey, row.valueDouble, row.unit, row.quality⟩

/-- **The series** is the newest of the selected rows. -/
theorem getTelemetryRange_eq (h : db.getTelemetryRange env userId g q = .ok series) : ∃ rows : List Telemetry,
    (∀ row, row ∈ rows ↔ row ∈ db.telemetry ∧ Selected env q g row) ∧
      series = (smallest (fun row : Telemetry => OrderDual.toDual row.ts) q.limit rows).map (·.reading) := by
  obtain ⟨row, -, h⟩ := Except.bind_eq_ok_iff.1 h
  obtain ⟨key, hkey, h⟩ := Except.bind_eq_ok_iff.1 h
  have hsame : key = q.measurementKey := by
    cases hq : q.measurementKey with
    | none =>
      rw [hq] at hkey
      cases hkey
      rfl
    | some k =>
      rw [hq] at hkey
      simp only [Option.mapM_some, textColumn, Db.text_of] at hkey
      split_ifs at hkey
      · cases hkey
      · cases hkey
        rfl
  subst hsame
  cases h
  refine ⟨_, fun row => ?_, rfl⟩
  rw [List.mem_filter, decide_eq_true_eq]
  rfl

/-- A key that is not cut is the row's own. -/
theorem measurementKey_of_cut {s : String} {k : String} (h : Db.cut 64 s = k) (hlen : k.length < 64) : s = k := by
  have hlist : s.toList.take 64 = k.toList := by
    rw [← h, Db.cut, String.toList_ofList]
  have hshort : (s.toList.take 64).length < 64 := by
    rw [hlist, String.length_toList]
    exact hlen
  rw [List.length_take] at hshort
  rw [List.take_of_length_le (by omega)] at hlist
  exact String.toList_inj.1 hlist

theorem toLatest_shows (row : Telemetry) : Shows row.reading row.toLatest := ⟨rfl, rfl, rfl, rfl, rfl⟩

/-- **Two replies on the same tables agree.** -/
theorem agrees_of_latestNewest (hdb : LatestNewest ⟨.empty, .empty, db.telemetry, db.latest⟩)
    (hlatest : db.getLatest env userId g = .ok latest)
    (hseries : db.getTelemetryRange env userId g q = .ok series) : Agrees env q latest series := by
  obtain ⟨rows, hrows, rfl⟩ := getTelemetryRange_eq hseries
  have hmem : ∀ x ∈ (smallest (fun row : Telemetry => OrderDual.toDual row.ts) q.limit rows).map (·.reading),
      ∃ row ∈ db.telemetry, Selected env q g row ∧ row.reading = x := by
    intro x hx
    obtain ⟨row, hrow, rfl⟩ := List.mem_map.1 hx
    obtain ⟨hin, hselected⟩ := (hrows row).1 (mem_of_mem_smallest hrow)
    exact ⟨row, hin, hselected, rfl⟩
  refine ⟨?_, ?_, fun x hx => ?_, fun x hx => ?_, fun r hr hsince hasked => ?_⟩
  · have hsorted : (smallest (fun row : Telemetry => OrderDual.toDual row.ts) q.limit rows).Pairwise
        fun a b => OrderDual.toDual a.ts ≤ OrderDual.toDual b.ts := pairwise_smallest
    rw [List.pairwise_map]
    exact hsorted
  · rw [List.length_map, length_smallest]
    exact Nat.min_le_left _ _
  · obtain ⟨row, -, ⟨-, hsince, hkey⟩, rfl⟩ := hmem x hx
    exact ⟨hsince, hkey⟩
  · obtain ⟨row, hin, ⟨hgateway, -, -⟩, rfl⟩ := hmem x hx
    obtain ⟨r, hr⟩ := Option.isSome_iff_exists.1 (hdb.present row hin)
    obtain ⟨hrow, hkey⟩ := Db.Table.find?_eq_some.1 hr
    have hgw : r.gatewayId = g := (congrArg Prod.fst hkey).trans hgateway
    have hmk : r.measurementKey = Db.cut 64 row.measurementKey := congrArg (fun k => k.2.2) hkey
    exact ⟨r, (mem_getLatest hlatest).2 ⟨hrow, hgw⟩, hmk, hdb.newest _ r hr row hin rfl⟩
  · obtain ⟨hrow, hgw⟩ := (mem_getLatest hlatest).1 hr
    obtain ⟨row, hin, rfl⟩ := hdb.stored r.key r (Db.Table.find?_key hrow)
    -- the stored row is selected, and so is in the series or left out
    have hselected : Selected env q g row := by
      refine ⟨hgw, hsince, fun k hk => ?_⟩
      obtain ⟨hcut, hlen⟩ := hasked k hk
      exact measurementKey_of_cut hcut hlen
    have hsel : row ∈ rows := (hrows row).2 ⟨hin, hselected⟩
    by_cases htaken : row ∈ smallest (fun row : Telemetry => OrderDual.toDual row.ts) q.limit rows
    · exact Or.inl ⟨row.reading, List.mem_map_of_mem htaken, toLatest_shows row⟩
    · refine Or.inr ⟨?_, fun x hx => ?_⟩
      · rw [List.length_map, length_smallest]
        by_contra hfew
        have hall : rows.length ≤ q.limit := by omega
        refine htaken ?_
        rw [smallest, List.take_of_length_le (by rwa [List.length_insertionSort])]
        exact (List.mem_insertionSort _).2 hsel
      · obtain ⟨row', hrow', rfl⟩ := List.mem_map.1 hx
        have hnot := le_of_not_mem hrow' hsel htaken
        exact hnot

end Reply

/-! ## Runs -/

/-- No request touches the readings. -/
theorem handle_readings (db : Tables) (env : Env) (userId : UUID) (route : Route) :
    (db.handle env userId route).2.telemetry = db.telemetry ∧
      (db.handle env userId route).2.latest = db.latest := by
  have hcommit : ∀ {α : Type} {reply : α → Reply} {x : Except Failure (α × Tables)},
      (∀ a db', x = .ok (a, db') → db'.telemetry = db.telemetry ∧ db'.latest = db.latest) →
      (db.commit reply x).2.telemetry = db.telemetry ∧ (db.commit reply x).2.latest = db.latest :=
    fun h => Tables.commit_snd (Q := fun d => d.telemetry = db.telemetry ∧ d.latest = db.latest) ⟨rfl, rfl⟩ h
  have hdelete : ∀ {x : Except Failure Tables},
      (∀ db', x = .ok db' → db'.telemetry = db.telemetry ∧ db'.latest = db.latest) →
      (db.commitDelete x).2.telemetry = db.telemetry ∧ (db.commitDelete x).2.latest = db.latest :=
    fun h => Tables.commitDelete_snd (Q := fun d => d.telemetry = db.telemetry ∧ d.latest = db.latest)
      ⟨rfl, rfl⟩ h
  cases route with
  | registerGateway body =>
    refine hcommit fun row db' hx => ?_
    obtain ⟨gateways, permissions, -, -, -, rfl⟩ := Tables.registerGateway_eq_ok hx
    exact ⟨rfl, rfl⟩
  | updateGateway g body =>
    refine hcommit fun row db' hx => ?_
    obtain ⟨old, -, -, rfl⟩ := Tables.updateGateway_eq_ok hx
    exact ⟨rfl, rfl⟩
  | deleteGateway g =>
    refine hdelete fun db' hx => ?_
    obtain ⟨-, rfl⟩ := Tables.deleteGateway_eq_ok hx
    exact ⟨rfl, rfl⟩
  | issueCommand g body =>
    have hissue : (db.handle env userId (.issueCommand g body)).2 = (db.issueCommand env userId g body).2 := rfl
    rw [hissue]
    rcases Tables.issueCommand_cases db env userId g body with
      ⟨e, he⟩ | ⟨cmd, request, commands, -, -, ⟨e, he⟩ | he⟩ <;> rw [he] <;> exact ⟨rfl, rfl⟩
  | addSensorChannel g body =>
    refine hcommit fun channel db' hx => ?_
    obtain ⟨sensorChannels, -, -, rfl⟩ := Tables.addSensorChannel_eq_ok hx
    exact ⟨rfl, rfl⟩
  | addActuatorChannel g body =>
    refine hcommit fun channel db' hx => ?_
    obtain ⟨actuatorChannels, -, -, rfl⟩ := Tables.addActuatorChannel_eq_ok hx
    exact ⟨rfl, rfl⟩
  | deleteSensorChannel channelId =>
    refine hdelete fun db' hx => ?_
    obtain ⟨channel, -, rfl⟩ := Tables.deleteSensorChannel_eq_ok hx
    exact ⟨rfl, rfl⟩
  | deleteActuatorChannel channelId =>
    refine hdelete fun db' hx => ?_
    obtain ⟨channel, -, -, rfl⟩ := Tables.deleteActuatorChannel_eq_ok hx
    exact ⟨rfl, rfl⟩
  | _ => exact ⟨rfl, rfl⟩

namespace Backend

variable {s s' : Backend} {e : BackendEvent}

/-- What is known of the readings alone. -/
theorem latestNewest_congr {store store' : Store} (h : LatestNewest store)
    (ht : store'.telemetry = store.telemetry) (hl : store'.latest = store.latest) : LatestNewest store' := by
  obtain ⟨hstored, hnewest, hpresent⟩ := h
  refine ⟨?_, ?_, ?_⟩
  · rw [ht, hl]
    exact hstored
  · rw [ht, hl]
    exact hnewest
  · rw [ht, hl]
    exact hpresent

theorem latestNewest_step (hs : LatestNewest s.readings) (h : step s e = some s') : LatestNewest s'.readings := by
  cases e with
  | message a =>
    cases h
    have hbefore : LatestNewest ⟨a.gateways, a.channels, s.tables.telemetry, s.tables.latest⟩ :=
      latestNewest_congr hs rfl rfl
    have hafter : LatestNewest (s.receive a).store := Ingest.process_latestNewest hbefore
    exact latestNewest_congr hafter rfl rfl
  | request env userId route =>
    cases h
    obtain ⟨ht, hl⟩ := handle_readings s.tables env userId route
    exact latestNewest_congr hs ht hl

/-- Whoever asks both endpoints of a gateway gets replies that agree. -/
def RepliesAgree (s : Backend) : Prop :=
  ∀ env userId g q latest series, (s.tables.handle env userId (.getLatest g)).1 = .ok (.latest latest) →
    (s.tables.handle env userId (.getTelemetryRange g q)).1 = .ok (.telemetry series) →
    Agrees env q latest series

theorem repliesAgree_of_latestNewest (hs : LatestNewest s.readings) : RepliesAgree s := by
  intro env userId g q latest series hlatest hseries
  obtain ⟨latest', hl, heq⟩ := Except.map_eq_ok_iff.1 hlatest
  obtain ⟨series', hr, heq'⟩ := Except.map_eq_ok_iff.1 hseries
  cases heq
  cases heq'
  exact agrees_of_latestNewest hs hl hr

/-- **The dashboard agrees with the series**, in every state of every run from tables without
readings. -/
theorem dashboard_agrees (db : Tables) (htelemetry : db.telemetry = []) (hlatest : db.latest = .empty)
    (cache : Cache) (es : List BackendEvent) : Always step RepliesAgree ⟨db, cache⟩ es := by
  have hinit : LatestNewest (readings ⟨db, cache⟩) := by
    have hnone : ∀ k, (readings ⟨db, cache⟩).latest.find? k = none := by
      intro k
      simp only [readings, hlatest]
      rfl
    have hno : (readings ⟨db, cache⟩).telemetry = [] := htelemetry
    refine ⟨fun k r hr => ?_, fun k r hr => ?_, fun row hrow => ?_⟩
    · rw [hnone] at hr
      cases hr
    · rw [hnone] at hr
      cases hr
    · rw [hno] at hrow
      cases hrow
  have hkeep : ∀ s e s', LatestNewest (readings s) → step s e = some s' → LatestNewest (readings s') :=
    fun s e s' hs h => latestNewest_step hs h
  exact (always_of_inv hkeep hinit).imp fun s hs => repliesAgree_of_latestNewest hs

/-! The owner of gateway 7 registers it; then the ammonia sensor reports 20 ppm, and a late
message of the minute before 18 ppm. -/

def barnArrival (d : Delivery) : Arrival := ⟨barn.gateways, barn.channels, 7, d⟩

def barnDay : List BackendEvent :=
  [.request (envOf 7) 1 (.registerGateway ⟨⟨"GW-1", gw1_format, gw1_length⟩, "Barn", 3, none, none⟩),
    .message (barnArrival Ingest.minuteLater), .message (barnArrival Ingest.atNoon)]

theorem barn_agrees : Always step RepliesAgree ⟨noTables, fun _ => none⟩ barnDay :=
  dashboard_agrees noTables rfl rfl (fun _ => none) barnDay

end Backend

end Server
