import Mathlib.Data.List.DropRight
import IotGateway.Text.Calendar

/-!
# Go's `time` package, as far as the agent uses it

An instant is a number of nanoseconds since the Unix epoch. A
`time.Duration` is a signed 64 bit number of nanoseconds, so the product
`time.Duration(n) * time.Second` wraps (`seconds`). `parseRFC3339` follows
`time.Parse` for the layouts `RFC3339Nano` and `RFC3339`: both accept the same
texts, since a fraction after the seconds is optional in either.
-/

namespace Gateway

open Calendar

/-- The value of an `int64` computation. -/
def wrap64 (n : ℤ) : ℤ := n.bmod (2 ^ 64)

/-- `time.Second` -/
def second : ℤ := 1000000000

/-- `time.Duration(n) * time.Second` -/
def seconds (n : ℤ) : ℤ := wrap64 (n * second)

theorem wrap64_le {n : ℤ} (hn : 0 ≤ n) : wrap64 n ≤ n := by
  unfold wrap64
  rw [Int.bmod_def]
  split <;> omega

/-- A wrapped duration is never longer than the seconds it stands for. -/
theorem seconds_le {n : ℤ} (hn : 0 ≤ n) : seconds n ≤ n * second :=
  wrap64_le (Int.mul_nonneg hn (by decide))

/-! ## Reading -/

/-- The fraction after the seconds: a point or comma and digits, cut to nine. -/
def fraction : List Char → ℕ × List Char
  | p :: c :: s =>
    if (p = '.' ∨ p = ',') ∧ c.isDigit then
      let ds := (c :: s).takeWhile Char.isDigit
      let ns := ds.take 9 ++ List.replicate (9 - ds.length) '0'
      (((takeDigits 9 ns).map Prod.fst).getD 0, (c :: s).dropWhile Char.isDigit)
    else (0, p :: c :: s)
  | s => (0, s)

/-- An hour is one or two digits: `getnum(value, false)`. -/
def hourDigits (s : List Char) : Option (ℕ × List Char) :=
  (takeDigits 2 s).orElse fun _ => takeDigits 1 s

/-- The zone: `Z` or a signed `hh:mm`, in seconds east of UTC. -/
def zone : List Char → Option ℤ
  | ['Z'] => some 0
  | sign :: s => do
    let (hr, s) ← takeDigits 2 s
    let s ← expect ':' s
    let (mm, s) ← takeDigits 2 s
    -- the range test is `>`: offsets of 24 hours or 60 minutes pass
    if s ≠ [] ∨ 24 < hr ∨ 60 < mm then none
    else if sign = '+' then some ((hr * 60 + mm) * 60 : ℕ)
    else if sign = '-' then some (-((hr * 60 + mm) * 60 : ℕ))
    else none
  | [] => none

/-- `time.Parse(time.RFC3339Nano, value)`, and the same for `time.RFC3339`. -/
def parseRFC3339 (value : String) : Option ℤ := do
  let (year, s) ← takeDigits 4 value.toList
  let s ← expect '-' s
  let (month, s) ← takeDigits 2 s
  let s ← expect '-' s
  let (day, s) ← takeDigits 2 s
  let s ← expect 'T' s
  let (hour, s) ← hourDigits s
  let s ← expect ':' s
  let (min, s) ← takeDigits 2 s
  let s ← expect ':' s
  let (sec, s) ← takeDigits 2 s
  let (nsec, s) := fraction s
  let offset ← zone s
  if validDate year month day = true ∧ hour < 24 ∧ min < 60 ∧ sec < 60 then
    some (((toDays year month day * 86400 + hour * 3600 + min * 60 + sec) - offset) * second + nsec)
  else none

/-! ## Writing -/

/-- The fraction of `RFC3339Nano`: trailing zeros and an empty fraction are dropped. -/
def showFraction (nsec : ℕ) : List Char :=
  match (showDigits 9 nsec).rdropWhile (· = '0') with
  | [] => []
  | ds => '.' :: ds

/-- `t.UTC().Format(time.RFC3339Nano)` -/
def formatRFC3339Nano (t : ℤ) : String :=
  let secs := t / second
  let (y, m, d) := ofDays (secs / 86400)
  let sod := (secs % 86400).toNat
  String.ofList (showDigits 4 y.toNat ++ '-' :: showDigits 2 m.toNat ++ '-' :: showDigits 2 d.toNat ++
    'T' :: showDigits 2 (sod / 3600) ++ ':' :: showDigits 2 (sod / 60 % 60) ++ ':' ::
    showDigits 2 (sod % 60) ++ showFraction (t % second).toNat ++ ['Z'])

example : parseRFC3339 "2026-05-04T12:00:00.5+09:00" = some 1777863600500000000 ∧
    parseRFC3339 "2026-02-29T12:00:00Z" = none := by decide
example : formatRFC3339Nano 1777863600500000000 = "2026-05-04T03:00:00.5Z" := by decide +kernel

end Gateway
