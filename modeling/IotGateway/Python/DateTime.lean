import IotGateway.Python.Json
import IotGateway.Text.Calendar

/-!
# `datetime.fromisoformat` and `isoformat`

`fromisoformat` follows CPython's `_datetime` module (3.12), which reads the UTF-8 bytes
of the text and a NUL after them. It accepts more than ISO 8601 has: any separator
between date and time, a stray byte before the offset, a colon before the fraction.

A parsed text is a wall clock time in microseconds since 1970-01-01T00:00:00, and the
offset from UTC in microseconds, if it has one.
-/

namespace Python

open Calendar

section Bytes

variable (bs : List ℕ)

/-- The byte at `i`, or the NUL at the end. -/
def byte (i : ℕ) : ℕ := bs.getD i 0

def isDigit (b : ℕ) : Bool := 48 ≤ b && b ≤ 57

/-- `parse_digits`: the number in the `n` digits from `p`. -/
def parseDigits (p : ℕ) : ℕ → Option ℕ
  | 0 => some 0
  | n + 1 => do
    let v ← parseDigits p n
    if isDigit (byte bs (p + n)) then some (v * 10 + (byte bs (p + n) - 48)) else none

/-- The first position from `p` that has no digit. -/
def skipDigits (p : ℕ) : ℕ := p + ((bs.drop p).takeWhile isDigit).length

/-- `_find_isoformat_datetime_separator`: the position after the date. -/
def findSeparator : Option ℕ :=
  let len := bs.length
  if len = 7 then some 7
  else if byte bs 4 = '-'.toNat then
    if byte bs 5 = 'W'.toNat then
      if len < 8 then none
      else if 8 < len ∧ byte bs 8 = '-'.toNat then
        if len = 9 then none
        -- `YYYY-Www-##`: taken as a week and an hour
        else if 10 < len ∧ isDigit (byte bs 10) then some 8
        else some 10
      else some 8
    else some 10
  else if byte bs 4 = 'W'.toNat then
    -- after the week and the separator, the digits come in pairs
    let pos := skipDigits bs 7
    if pos < 9 then some pos else if pos % 2 = 0 then some 7 else some 8
  else some 8

/-- `parse_isoformat_date`: the day number of the date in the first `len` bytes. -/
def parseDate (len : ℕ) : Option ℤ := do
  let y ← parseDigits bs 0 4
  let sep := byte bs 4 = '-'.toNat
  let p := if sep then 5 else 4
  if byte bs p = 'W'.toNat then
    let w ← parseDigits bs (p + 1) 2
    let p := p + 3
    let d ←
      if p < len then
        if sep then (if byte bs p = '-'.toNat then parseDigits bs (p + 1) 1 else none)
        else parseDigits bs p 1
      else some 1
    let day ← if 1 ≤ y then isoWeekDays y w d else none
    if day ≤ toDays 9999 12 31 then some day else none
  else
    let m ← parseDigits bs p 2
    let p := p + 2
    let d ←
      if sep then (if byte bs p = '-'.toNat then parseDigits bs (p + 1) 2 else none)
      else parseDigits bs p 2
    if 1 ≤ y ∧ validDate y m d then some (toDays y m d) else none

/-- The fraction in the bytes from `p` to `pEnd`, cut to six digits, and where it ends. -/
def parseFraction (p pEnd : ℕ) : Option (ℕ × ℕ) := do
  let n := min (pEnd - p) 6
  let v ← parseDigits bs p n
  some (v * 10 ^ (6 - n), skipDigits bs (p + n))

/-- `parse_hh_mm_ss_ff`: the fields read so far, `i` of them; the next starts at `p`. The
flag tells that bytes are left. -/
def parseFields (pEnd : ℕ) (sep : Bool) : ℕ → List ℕ → ℕ → Option (List ℕ × ℕ × Bool)
  | 0, fields, p => do
    let (us, q) ← parseFraction bs p pEnd
    some (fields, us, byte bs q ≠ 0)
  | n + 1, fields, p => do
    let v ← parseDigits bs p 2
    let c := byte bs (p + 2)
    let sep := if fields = [] then c = ':'.toNat else sep
    let fields := fields ++ [v]
    if pEnd ≤ p + 3 then some (fields, 0, c ≠ 0)
    else if sep ∧ c = ':'.toNat then parseFields pEnd sep n fields (p + 3)
    else if c = '.'.toNat ∨ c = ','.toNat then do
      let (us, q) ← parseFraction bs (p + 3) pEnd
      some (fields, us, byte bs q ≠ 0)
    else if sep then none
    else parseFields pEnd sep n fields (p + 2)

/-- Hours, minutes and seconds in seconds. -/
def clock (fields : List ℕ) : ℕ :=
  fields.getD 0 0 * 3600 + fields.getD 1 0 * 60 + fields.getD 2 0

/-- `parse_isoformat_time`: the time of day and the offset, in microseconds. -/
def parseTime (p : ℕ) : Option (ℤ × Option ℤ) := do
  let len := bs.length
  let isSign (b : ℕ) : Bool := b = '+'.toNat || b = '-'.toNat || b = 'Z'.toNat
  let tz := max (p + ((bs.drop p).takeWhile (!isSign ·)).length) (if isSign (byte bs p) then p else p + 1)
  let (fields, us, rest) ← parseFields bs tz true 3 [] p
  let time ←
    if fields.getD 0 0 < 24 ∧ fields.getD 1 0 < 60 ∧ fields.getD 2 0 < 60 then
      some ((clock fields * 1000000 + us : ℕ) : ℤ)
    else none
  if len ≤ tz then
    if rest then none else some (time, none)
  else if byte bs tz = 'Z'.toNat then
    if byte bs (tz + 1) = 0 then some (time, some 0) else none
  else do
    let (fields, us, rest) ← parseFields bs len true 3 [] (tz + 1)
    -- an offset without whole seconds is UTC, whatever its fraction
    let offset := if clock fields = 0 then 0 else clock fields * 1000000 + us
    if rest ∨ 86400000000 ≤ offset then none
    else some (time, some (if byte bs tz = '-'.toNat then -offset else offset : ℤ))

end Bytes

/-- `_sanitize_isoformat_str`: a surrogate is allowed as the separator only. -/
def sanitize (s : Str) : Str :=
  let isSurrogate (i : ℕ) : Bool := match s[i]? with
    | some (.surrogate _) => true
    | _ => false
  match [7, 8, 10].find? isSurrogate with
  | some i => s.set i (.scalar 'T')
  | none => s

def utf8 : CodePoint → Option (List ℕ)
  | .scalar c => some ((String.utf8EncodeChar c).map (·.toNat))
  | .surrogate _ => none

/-- `s.encode("utf-8")` -/
def encodeUtf8 (s : Str) : Option (List ℕ) := (s.mapM utf8).map List.flatten

/-- `datetime.fromisoformat(s)`; `none` is a `ValueError`. -/
def fromisoformat (s : Str) : Option (ℤ × Option ℤ) := do
  if s.length < 7 then none
  let bs ← encodeUtf8 (sanitize s)
  let sep ← findSeparator bs
  let day ← parseDate bs sep
  if bs.length ≤ sep then some (day * 86400000000, none)
  else do
    let c := byte bs sep
    let width := if c < 128 then 1 else if c / 16 = 14 then 3 else if c / 16 = 15 then 4 else 2
    let (time, offset) ← parseTime bs (sep + width)
    some (day * 86400000000 + time, offset)

/-- `t.isoformat()` of a UTC instant in microseconds. -/
def isoformat (t : ℤ) : String :=
  let (y, m, d) := ofDays (t / 86400000000)
  let sod := (t % 86400000000 / 1000000).toNat
  let us := (t % 1000000).toNat
  String.ofList (showDigits 4 y.toNat ++ '-' :: showDigits 2 m.toNat ++ '-' :: showDigits 2 d.toNat ++
    'T' :: showDigits 2 (sod / 3600) ++ ':' :: showDigits 2 (sod / 60 % 60) ++ ':' ::
    showDigits 2 (sod % 60) ++ (if us = 0 then [] else '.' :: showDigits 6 us) ++
    ['+', '0', '0', ':', '0', '0'])

example : fromisoformat (Str.of "2026-05-04T12:00:00.5+09:00") =
      some (1777896000500000, some 32400000000) ∧
    fromisoformat (Str.of "2026-W19-1") = some (1777852800000000, none) ∧
    fromisoformat (Str.of "2026-02-29") = none ∧
    isoformat 1777863600500000 = "2026-05-04T03:00:00.500000+00:00" := by
  decide +kernel

end Python
