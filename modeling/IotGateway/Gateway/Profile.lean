import IotGateway.Go.Unmarshal
import IotGateway.Gateway.Bus

/-!
# Sensor profiles

`sensor_profile_schema.json`, which the server checks a profile against, and `LoadProfile`,
which reads it on the gateway.

`loadProfile_eq_ok_iff`: **an accepted profile is loaded exactly when the numbers that Go
reads as an `int` are written without fraction and exponent, those it reads as a `float64`
do not overflow, and it is not nested too deep**; and then with the schema's values, a
missing number as 0 and a scale of 0 as 1.
-/

namespace Gateway

open Go

/-- `^[a-z][a-z0-9_]*$`, where `$` also matches before a final newline. -/
def keyPattern (s : String) : Bool :=
  match s.toList with
  | c :: cs =>
    let rest := cs.dropWhile fun c => c.isLower || c.isDigit || c = '_'
    c.isLower && (rest = [] || rest = [Char.ofNat 10])
  | [] => false

def anyText (_ : String) : Bool := true

def modbusSpecSchema : Schema :=
  Schema.object ["function_code", "register", "length"]
    [("function_code", Schema.integer fun n => n = 3 || n = 4),
     ("register", Schema.integer fun n => 0 ≤ n && n ≤ 65535),
     ("length", Schema.integer fun n => 1 ≤ n && n ≤ 125),
     ("endianness", Schema.string fun s => ["big", "little"].contains s)]
    false

def measurementSchema : Schema :=
  Schema.object ["key", "unit", "data_type"]
    [("key", Schema.string keyPattern),
     ("display_name", Schema.string anyText),
     ("unit", Schema.string anyText),
     ("data_type", Schema.string fun s => ["int", "uint", "float", "bool", "string"].contains s),
     ("modbus", modbusSpecSchema),
     ("scale", Schema.number),
     ("offset", Schema.number),
     ("min", Schema.number),
     ("max", Schema.number),
     ("visualization", Schema.string fun s =>
       ["line_chart", "gauge", "current_value", "toggle", "status_card", "map", "tilt_view"].contains s),
     ("display_group", Schema.string anyText),
     ("order", Schema.integer fun _ => true)]
    false

/-- `sensor_profile_schema.json` -/
def sensorProfileSchema : Schema :=
  Schema.object ["name", "protocol", "measurements"]
    [("name", Schema.string fun s => 1 ≤ s.length),
     ("vendor", Schema.string anyText),
     ("model", Schema.string anyText),
     ("description", Schema.string anyText),
     ("protocol", Schema.string fun s =>
       ["modbus_rtu", "modbus_tcp", "i2c", "spi", "uart", "analog", "digital"].contains s),
     ("interface_type", Schema.string fun s =>
       ["rs485", "rs232", "i2c", "spi", "uart", "analog_input", "digital_input"].contains s),
     ("default_polling_interval_sec", Schema.integer fun n => 1 ≤ n && n ≤ 3600),
     ("connection", Schema.object [] [] true),
     ("measurements", Schema.array 1 measurementSchema)]
    false

/-- `ModbusSpec` -/
structure ModbusSpec where
  functionCode : ℤ
  register : ℤ
  length : ℤ

def decodeModbusSpec : Option Document → Except String ModbusSpec
  | none | some .null => .ok ⟨0, 0, 0⟩
  | some (.obj members) => do
    let functionCode ← decodeInt "function_code" (field members "function_code")
    let register ← decodeInt "register" (field members "register")
    let length ← decodeInt "length" (field members "length")
    return ⟨functionCode, register, length⟩
  | some v => .error (unmarshalTypeError v "modbus" "sensor.ModbusSpec")

/-- `Measurement`; the texts that nothing reads are dropped. -/
def decodeMeasurement : Document → Except String Measurement
  | .null => .ok ⟨"", "", 0, 0, 0, 0, 0, none, none⟩
  | .obj members => do
    let key ← decodeString "key" (field members "key")
    let unit ← decodeString "unit" (field members "unit")
    let _ ← ["display_name", "data_type", "visualization"].mapM fun name =>
      decodeString name (field members name)
    let modbus ← decodeModbusSpec (field members "modbus")
    let scale ← decodeFloat "scale" (field members "scale")
    let offset ← decodeFloat "offset" (field members "offset")
    let min ← decodeFloat "min" (field members "min")
    let max ← decodeFloat "max" (field members "max")
    return ⟨key, unit, modbus.functionCode, modbus.register, modbus.length, scale.getD 0,
      offset.getD 0, min, max⟩
  | v => .error (unmarshalTypeError v "measurements" "sensor.Measurement")

def decodeMeasurements : Option Document → Except String (List Measurement)
  | none | some .null => .ok []
  | some (.arr items) => items.mapM decodeMeasurement
  | some v => .error (unmarshalTypeError v "measurements" "[]sensor.Measurement")

/-- `Profile`, of which only the measurements are used. -/
def decodeProfile : Document → Except String (List Measurement)
  | .null => .ok []
  | .obj members => do
    let _ ← ["name", "vendor", "model", "protocol", "interface_type"].mapM fun name =>
      decodeString name (field members name)
    let _ ← decodeInt "default_polling_interval_sec" (field members "default_polling_interval_sec")
    decodeMap "connection" (field members "connection")
    decodeMeasurements (field members "measurements")
  | v => .error (unmarshalTypeError v "" "sensor.Profile")

/-- The start of `LoadProfile`; `readFile` reads a file and its JSON. -/
def readProfile (readFile : String → Except String Document) (path : String) :
    Except String (List Measurement) := do
  let data ← (readFile path).mapError ("read profile: " ++ ·)
  (unmarshal decodeProfile data).mapError ("parse profile: " ++ ·)

/-! What a document says. -/

/-- A member of a measurement's `modbus` block. -/
def modbusField (m : Document) (name : String) : Option Document := (m.get "modbus").bind (·.get name)

def measurementsOf (doc : Document) : List Document := ((doc.get "measurements").map Document.items).getD []

/-- The measurement as Go holds it, a missing number being 0. -/
def measurementOf (m : Document) : Measurement where
  key := textOf (m.get "key")
  unit := textOf (m.get "unit")
  functionCode := integerOf (modbusField m "function_code")
  register := integerOf (modbusField m "register")
  length := integerOf (modbusField m "length")
  scale := (numberOf (m.get "scale")).getD 0
  offset := (numberOf (m.get "offset")).getD 0
  min := numberOf (m.get "min")
  max := numberOf (m.get "max")

/-- `LoadProfile`'s default: 0 is taken for a missing scale. -/
def Measurement.defaultScale (meas : Measurement) : Measurement :=
  if meas.scale = 0 then { meas with scale := 1 } else meas

/-- The numbers of a measurement are written as Go reads them. -/
def ReadableMeasurement (m : Document) : Bool :=
  ["function_code", "register", "length"].all (fun name => integerLiteral (modbusField m name)) &&
    ["scale", "offset", "min", "max"].all fun name => Fits (m.get name)

/-- The document is written as Go reads it. -/
def Readable (doc : Document) : Bool :=
  (decide (doc.depth ≤ maxNestingDepth) &&
    (integerLiteral (doc.get "default_polling_interval_sec") && Fits (doc.get "connection"))) &&
    (measurementsOf doc).all ReadableMeasurement

section Accepted

variable {required : List String} {properties : List (String × Schema)}
  {members : List (String × Document)}
  (h : Schema.object required properties false (.obj members) = true)
  (hfold : ∀ name ∈ properties.map Prod.fst, foldName name = name) (name : String)
include h hfold

/-- In an accepted object Go finds a field under the schema's name. -/
theorem field_of_object : field members name = (Document.obj members).get name :=
  field_eq_get (fun _ hm => hfold _ (Schema.object_names h hm)) name

theorem string_of_object {allowed : String → Bool}
    (hs : properties.lookup name = some (Schema.string allowed)) :
    decodeString name (field members name) = .ok (textOf ((Document.obj members).get name)) := by
  rw [field_of_object h hfold]
  exact decodeString_eq fun d hd => Schema.object_get h hs hd

theorem strings_of_object (names : List String)
    (hs : ∀ name ∈ names, ∃ allowed, properties.lookup name = some (Schema.string allowed)) :
    ∃ texts, names.mapM (fun name => decodeString name (field members name)) = .ok texts := by
  induction names with
  | nil => exact ⟨[], rfl⟩
  | cons name names ih =>
    obtain ⟨⟨allowed, hname⟩, hnames⟩ := List.forall_mem_cons.1 hs
    obtain ⟨texts, htexts⟩ := ih hnames
    refine ⟨textOf ((Document.obj members).get name) :: texts, ?_⟩
    rw [List.mapM_cons, string_of_object h hfold name hname, htexts]
    rfl

theorem int_of_object {allowed : ℤ → Bool}
    (hs : properties.lookup name = some (Schema.integer allowed))
    (hbound : ∀ n, allowed n = true → -2 ^ 63 ≤ n ∧ n < 2 ^ 63) {n : ℤ} :
    decodeInt name (field members name) = .ok n ↔
      integerLiteral ((Document.obj members).get name) = true ∧
        n = integerOf ((Document.obj members).get name) := by
  rw [field_of_object h hfold]
  exact decodeInt_eq_ok_iff (fun d hd => Schema.object_get h hs hd) hbound

theorem float_of_object (hs : properties.lookup name = some Schema.number) {o : Option ℚ} :
    decodeFloat name (field members name) = .ok o ↔
      Fits ((Document.obj members).get name) = true ∧ o = numberOf ((Document.obj members).get name) := by
  rw [field_of_object h hfold]
  exact decodeFloat_eq_ok_iff fun d hd => Schema.object_get h hs hd

end Accepted

/-- A required integer is one that is allowed. -/
theorem integerOf_required {required : List String} {properties : List (String × Schema)}
    {additionalProperties : Bool} {d : Document}
    (h : Schema.object required properties additionalProperties d = true) (name : String)
    (hname : name ∈ required) {allowed : ℤ → Bool}
    (hs : properties.lookup name = some (Schema.integer allowed)) :
    allowed (integerOf (d.get name)) = true := by
  obtain ⟨v, hv, hint⟩ := Schema.object_required h hname hs
  obtain ⟨x, n, rfl, hx, hallowed⟩ := Schema.numeral_of_integer hint
  have hn : integerOf (d.get name) = n := by
    simp [hv, integerOf, numberOf, Document.number?, hx]
  rwa [hn]

theorem modbusSpec_fold : ∀ name ∈ ["function_code", "register", "length", "endianness"],
    foldName name = name := by
  decide +kernel

theorem decodeModbusSpec_eq_ok_iff {v : Option Document} (h : ∀ d ∈ v, modbusSpecSchema d = true)
    {spec : ModbusSpec} :
    decodeModbusSpec v = .ok spec ↔
      (["function_code", "register", "length"].all fun name => integerLiteral (v.bind (·.get name))) = true ∧
      spec = ⟨integerOf (v.bind (·.get "function_code")), integerOf (v.bind (·.get "register")),
        integerOf (v.bind (·.get "length"))⟩ := by
  cases v with
  | none => simp [decodeModbusSpec, integerLiteral, integerOf, numberOf, eq_comm]
  | some d =>
    have hd := h d rfl
    obtain ⟨members, rfl, -⟩ := Schema.members_of_object hd
    have hcode (n : ℤ) := int_of_object hd modbusSpec_fold "function_code" rfl
      (by simp) (n := n)
    have hregister (n : ℤ) := int_of_object hd modbusSpec_fold "register" rfl
      (by simp; omega) (n := n)
    have hlength (n : ℤ) := int_of_object hd modbusSpec_fold "length" rfl
      (by simp; omega) (n := n)
    simp only [decodeModbusSpec, Except.bind_eq_ok_iff, hcode, hregister, hlength, Option.bind_some,
      List.all_cons, List.all_nil, Bool.and_true, Bool.and_eq_true]
    constructor
    · rintro ⟨_, ⟨hc, rfl⟩, _, ⟨hr, rfl⟩, _, ⟨hl, rfl⟩, hspec⟩
      exact ⟨⟨hc, hr, hl⟩, (Except.ok.inj hspec).symm⟩
    · rintro ⟨⟨hc, hr, hl⟩, rfl⟩
      exact ⟨_, ⟨hc, rfl⟩, _, ⟨hr, rfl⟩, _, ⟨hl, rfl⟩, rfl⟩

theorem measurement_fold : ∀ name ∈ ["key", "display_name", "unit", "data_type", "modbus", "scale",
    "offset", "min", "max", "visualization", "display_group", "order"], foldName name = name := by
  decide +kernel

theorem decodeMeasurement_eq_ok_iff {m : Document} (h : measurementSchema m = true)
    {meas : Measurement} :
    decodeMeasurement m = .ok meas ↔ ReadableMeasurement m = true ∧ meas = measurementOf m := by
  obtain ⟨members, rfl, -⟩ := Schema.members_of_object h
  obtain ⟨texts, htext⟩ := strings_of_object h measurement_fold
    ["display_name", "data_type", "visualization"] (by
      simp only [List.forall_mem_cons]
      exact ⟨⟨_, rfl⟩, ⟨_, rfl⟩, ⟨_, rfl⟩, by simp⟩)
  have hmodbus := @decodeModbusSpec_eq_ok_iff ((Document.obj members).get "modbus")
    fun d hd => Schema.object_get h rfl hd
  have hscale (o : Option ℚ) := float_of_object h measurement_fold "scale" rfl (o := o)
  have hoffset (o : Option ℚ) := float_of_object h measurement_fold "offset" rfl (o := o)
  have hmin (o : Option ℚ) := float_of_object h measurement_fold "min" rfl (o := o)
  have hmax (o : Option ℚ) := float_of_object h measurement_fold "max" rfl (o := o)
  simp only [decodeMeasurement, Except.bind_eq_ok_iff, string_of_object h measurement_fold "key" rfl,
    string_of_object h measurement_fold "unit" rfl, htext, field_of_object h measurement_fold "modbus",
    hmodbus, hscale, hoffset, hmin, hmax]
  simp only [ReadableMeasurement, List.all_cons, List.all_nil, Bool.and_true, Bool.and_eq_true]
  constructor
  · rintro ⟨_, hk, _, hu, _, -, _, ⟨hmod, rfl⟩, _, ⟨hs, rfl⟩, _, ⟨ho, rfl⟩, _, ⟨hn, rfl⟩, _, ⟨hx, rfl⟩, hmeas⟩
    cases hk
    cases hu
    exact ⟨⟨hmod, hs, ho, hn, hx⟩, (Except.ok.inj hmeas).symm⟩
  · rintro ⟨⟨hmod, hs, ho, hn, hx⟩, rfl⟩
    exact ⟨_, rfl, _, rfl, _, rfl, _, ⟨hmod, rfl⟩, _, ⟨hs, rfl⟩, _, ⟨ho, rfl⟩, _, ⟨hn, rfl⟩, _, ⟨hx, rfl⟩, rfl⟩

theorem profile_fold : ∀ name ∈ ["name", "vendor", "model", "description", "protocol", "interface_type",
    "default_polling_interval_sec", "connection", "measurements"], foldName name = name := by
  decide +kernel

/-- The measurements of an accepted document: at least one, each accepted. -/
theorem measurements_of_accepted {doc : Document} (h : sensorProfileSchema doc = true) :
    doc.get "measurements" = some (.arr (measurementsOf doc)) ∧ measurementsOf doc ≠ [] ∧
      ∀ m ∈ measurementsOf doc, measurementSchema m = true := by
  obtain ⟨v, hv, harr⟩ :=
    Schema.object_required h (List.mem_cons_of_mem _ (List.mem_cons_of_mem _ List.mem_cons_self)) rfl
  obtain ⟨items, rfl, hlen, hitems⟩ := Schema.items_of_array harr
  have hitemsOf : measurementsOf doc = items := by
    unfold measurementsOf
    rw [hv]
    rfl
  rw [hitemsOf]
  exact ⟨hv, List.ne_nil_of_length_pos hlen, hitems⟩

theorem decodeProfile_eq_ok_iff {doc : Document} (h : sensorProfileSchema doc = true)
    {measurements : List Measurement} :
    decodeProfile doc = .ok measurements ↔
      (integerLiteral (doc.get "default_polling_interval_sec") = true ∧
        Fits (doc.get "connection") = true) ∧
      (measurementsOf doc).all ReadableMeasurement = true ∧
      measurements = (measurementsOf doc).map measurementOf := by
  obtain ⟨hget, -, hitems⟩ := measurements_of_accepted h
  obtain ⟨members, hd, -⟩ := Schema.members_of_object h
  subst hd
  obtain ⟨texts, htext⟩ := strings_of_object h profile_fold
    ["name", "vendor", "model", "protocol", "interface_type"]
    (by simp only [List.forall_mem_cons]; exact ⟨⟨_, rfl⟩, ⟨_, rfl⟩, ⟨_, rfl⟩, ⟨_, rfl⟩, ⟨_, rfl⟩, by simp⟩)
  have hpolling (n : ℤ) := int_of_object h profile_fold "default_polling_interval_sec" rfl
    (by simp; omega) (n := n)
  have hconnection := decodeMap_eq_ok_iff "connection" (v := (Document.obj members).get "connection")
    fun d hd => Schema.object_get h rfl hd
  have hmeasurements := Except.mapM_eq_ok_map_iff
    (fun m hm meas => decodeMeasurement_eq_ok_iff (hitems m hm)) measurements
  simp only [decodeProfile, Except.bind_eq_ok_iff, htext, hpolling,
    field_of_object h profile_fold "connection", field_of_object h profile_fold "measurements", hget,
    hconnection, decodeMeasurements, hmeasurements, List.all_eq_true]
  constructor
  · rintro ⟨_, -, _, ⟨hp, -⟩, _, hc, hall, heq⟩
    exact ⟨⟨hp, hc⟩, hall, heq⟩
  · rintro ⟨⟨hp, hc⟩, hall, heq⟩
    exact ⟨_, rfl, _, ⟨hp, rfl⟩, (), hc, hall, heq⟩

/-- **When an accepted profile loads, and as what.** -/
theorem loadProfile_eq_ok_iff {readFile : String → Except String Document} {path : String}
    {doc : Document} (hfile : readFile path = .ok doc) (h : sensorProfileSchema doc = true)
    {measurements : List Measurement} :
    loadProfile (readProfile readFile) path = .ok measurements ↔
      Readable doc = true ∧
        measurements = ((measurementsOf doc).map measurementOf).map Measurement.defaultScale := by
  obtain ⟨-, hne, -⟩ := measurements_of_accepted h
  have hread (ms : List Measurement) : readProfile readFile path = .ok ms ↔
      Readable doc = true ∧ ms = (measurementsOf doc).map measurementOf := by
    have hbind : readProfile readFile path =
        (unmarshal decodeProfile doc).mapError ("parse profile: " ++ ·) := by
      unfold readProfile
      rw [hfile]
      rfl
    rw [hbind, Except.mapError_eq_ok_iff, unmarshal, Readable, Bool.and_eq_true, Bool.and_eq_true,
      Bool.and_eq_true, decide_eq_true_eq]
    split_ifs with hdepth
    · constructor
      · exact fun hms => by cases hms
      · exact fun hms => absurd hms.1.1.1 (Nat.not_le.2 hdepth)
    · rw [decodeProfile_eq_ok_iff h]
      exact ⟨fun hms => ⟨⟨⟨Nat.not_lt.1 hdepth, hms.1⟩, hms.2.1⟩, hms.2.2⟩,
        fun hms => ⟨hms.1.1.2, hms.1.2, hms.2⟩⟩
  unfold loadProfile
  rw [Except.bind_eq_ok_iff]
  simp only [hread]
  constructor
  · rintro ⟨ms, ⟨hr, rfl⟩, hms⟩
    split_ifs at hms
    exact ⟨hr, (Except.ok.inj hms).symm⟩
  · rintro ⟨hr, rfl⟩
    refine ⟨_, ⟨hr, rfl⟩, ?_⟩
    rw [if_neg (by simpa using hne)]
    rfl

end Gateway
