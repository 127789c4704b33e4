import IotGateway.Python.DateTime

/-!
# Plain ISO texts are read field by field

Of the many texts that `fromisoformat` accepts, those of the form
`YYYY-MM-DDTHH:MM:SS+00:00`, with a fraction of any number of digits after the seconds.

`Reads bs p s`: the text `s` stands in the bytes from position `p` on. A position that is read
splits at the end of each field (`reads_append`), and so the parser's index arithmetic is that
of the fields' lengths.

`fromisoformat_isoText`: **such a text is the time of its fields, to the microsecond, at
offset zero.**
-/

namespace Python

open Calendar

/-! ## Bytes -/

/-- The bytes of an ASCII text. -/
def codes (s : List Char) : List ℕ := s.map Char.toNat

/-- The text stands in the bytes from position `p` on. -/
def Reads (bs : List ℕ) (p : ℕ) (s : List Char) : Prop := codes s <+: bs.drop p

section Reads

variable {bs : List ℕ} {p : ℕ} {s t : List Char} {c : Char}

theorem codes_append (s t : List Char) : codes (s ++ t) = codes s ++ codes t := List.map_append

theorem length_codes (s : List Char) : (codes s).length = s.length := List.length_map _

/-- **Field after field.** -/
theorem reads_append : Reads bs p (s ++ t) ↔ Reads bs p s ∧ Reads bs (p + s.length) t := by
  unfold Reads
  rw [codes_append, ← List.drop_drop, ← length_codes s]
  constructor
  · rintro ⟨rest, hrest⟩
    rw [← hrest, List.append_assoc, List.drop_left]
    exact ⟨List.prefix_append _ _, List.prefix_append _ _⟩
  · rintro ⟨⟨rest, hrest⟩, hnext⟩
    rw [← hrest, List.drop_left] at hnext
    rw [← hrest]
    exact (List.prefix_append_right_inj _).2 hnext

/-- One character at a time. -/
theorem reads_cons : Reads bs p (c :: s) ↔ byte bs p = c.toNat ∧ p < bs.length ∧ Reads bs (p + 1) s := by
  unfold Reads codes
  rw [List.map_cons, ← List.drop_drop]
  cases hdrop : bs.drop p with
  | nil =>
    have hlen := List.drop_eq_nil_iff.1 hdrop
    constructor
    · exact fun h => absurd h (by simp)
    · exact fun h => absurd h.2.1 (by omega)
  | cons b rest =>
    have hlt : p < bs.length := by
      by_contra hno
      rw [List.drop_eq_nil_of_le (by omega)] at hdrop
      cases hdrop
    have hbyte : byte bs p = b := by
      have hget : bs[p]? = some b := by
        rw [← List.head?_drop, hdrop]
        rfl
      rw [byte, List.getD_eq_getElem?_getD, hget]
      rfl
    rw [List.cons_prefix_cons, hbyte]
    constructor
    · rintro ⟨heq, hrest⟩
      exact ⟨heq.symm, hlt, hrest⟩
    · rintro ⟨heq, -, hrest⟩
      exact ⟨heq.symm, hrest⟩

theorem reads_codes (s : List Char) : Reads (codes s) 0 s := List.prefix_rfl

/-- **Digits are read as their number.** -/
theorem parseDigits_of_reads (n : ℕ) : ∀ {v : ℕ}, Reads bs p (showDigits n v) →
    parseDigits bs p n = some (v % 10 ^ n) := by
  have hdigit : ∀ d < 10, isDigit (Char.ofNat ('0'.toNat + d)).toNat = true ∧
      (Char.ofNat ('0'.toNat + d)).toNat - 48 = d := by
    decide
  induction n with
  | zero =>
    intro v _
    rw [parseDigits, Nat.pow_zero, Nat.mod_one]
  | succ n ih =>
    intro v h
    rw [showDigits, reads_append, length_showDigits, reads_cons] at h
    obtain ⟨hfront, hlast, -, -⟩ := h
    obtain ⟨hisDigit, hvalue⟩ := hdigit (v % 10) (Nat.mod_lt v (by decide))
    have hmod : v % 10 ^ (n + 1) = v / 10 % 10 ^ n * 10 + v % 10 := by
      rw [Nat.pow_succ, Nat.mul_comm, Nat.mod_mul]
      ring
    simp only [parseDigits, ih hfront, hlast, Option.bind_eq_bind, Option.bind_some, hisDigit, if_true, hvalue,
      hmod]

end Reads

/-! ## Texts -/

/-- A text of ASCII characters is its own bytes. -/
theorem encodeUtf8_ascii (s : List Char) (h : ∀ c ∈ s, c.toNat < 128) :
    encodeUtf8 (s.map .scalar) = some (codes s) := by
  have hchar : ∀ c : Char, c.toNat < 128 → utf8 (.scalar c) = some [c.toNat] := by
    intro c hc
    have hsize : c.utf8Size = 1 := by
      rw [Char.utf8Size]
      exact if_pos (by rw [UInt32.le_iff_toNat_le]; exact Nat.le_of_lt_succ hc)
    have hbyte : c.val.toUInt8.toNat = c.toNat := by
      have hval : c.val.toNat < 2 ^ 8 := lt_trans hc (by decide)
      rw [UInt32.toNat_toUInt8]
      exact Nat.mod_eq_of_lt hval
    rw [utf8, String.utf8EncodeChar_eq_singleton hsize, List.map_singleton, hbyte]
  unfold encodeUtf8 codes
  induction s with
  | nil => rfl
  | cons c s ih =>
    have hrest := ih fun c' hc' => h c' (List.mem_cons_of_mem _ hc')
    obtain ⟨bytes, hbytes, hflatten⟩ := Option.map_eq_some_iff.1 hrest
    rw [List.map_cons, List.mapM_cons, hchar c (h c List.mem_cons_self), hbytes, List.map_cons, ← hflatten]
    rfl

theorem sanitize_scalar (s : List Char) : sanitize (s.map .scalar) = s.map .scalar := by
  unfold sanitize
  dsimp only
  split
  · rename_i i hfind
    have hsurrogate := List.find?_some hfind
    rw [List.getElem?_map] at hsurrogate
    cases hget : s[i]? with
    | none =>
      rw [hget] at hsurrogate
      cases hsurrogate
    | some c =>
      rw [hget] at hsurrogate
      cases hsurrogate
  · rfl

/-- The fraction after the seconds: `k` digits, or nothing. -/
def fractionText (k m : ℕ) : List Char := if k = 0 then [] else '.' :: showDigits k m

def timeText (h mi s : ℕ) : List Char :=
  showDigits 2 h ++ ':' :: (showDigits 2 mi ++ ':' :: showDigits 2 s)

def dateText (y mo d : ℕ) : List Char :=
  showDigits 4 y ++ '-' :: (showDigits 2 mo ++ '-' :: showDigits 2 d)

def utcText : List Char := ['+', '0', '0', ':', '0', '0']

section Fields

variable {bs : List ℕ} {p h mi s y mo d k m : ℕ}

/-- A digit is none of the letters and signs that the parser looks for. -/
theorem digit_byte {n v : ℕ} (hread : Reads bs p (showDigits (n + 1) v)) :
    ∃ d < 10, byte bs p = 48 + d := by
  have hchar : ∀ d < 10, (Char.ofNat ('0'.toNat + d)).toNat = 48 + d := by decide
  rw [Nat.add_comm, showDigits_append, reads_append] at hread
  have hfirst := hread.1
  rw [showDigits, showDigits, List.nil_append, reads_cons] at hfirst
  exact ⟨v / 10 ^ n % 10, Nat.mod_lt _ (by decide), hfirst.1.trans (hchar _ (Nat.mod_lt _ (by decide)))⟩

theorem findSeparator_dateText (hread : Reads bs 0 (dateText y mo d)) (hlen : 10 < bs.length) :
    findSeparator bs = some 10 := by
  simp only [dateText, reads_append, reads_cons, length_showDigits] at hread
  obtain ⟨-, hsep, -, hmonth, -⟩ := hread
  have hweek : byte bs 5 ≠ 'W'.toNat := by
    obtain ⟨d₀, hd₀, hbyte⟩ := digit_byte hmonth
    have hbyte₅ : byte bs 5 = 48 + d₀ := hbyte
    have hW : 'W'.toNat = 87 := rfl
    omega
  unfold findSeparator
  dsimp only
  rw [if_neg (by omega), if_pos hsep, if_neg hweek]

theorem parseDate_dateText (hread : Reads bs 0 (dateText y mo d)) (hy : 1 ≤ y ∧ y < 10 ^ 4) (hmo : mo < 10 ^ 2)
    (hd : d < 10 ^ 2) (hvalid : validDate y mo d = true) (len : ℕ) : parseDate bs len = some (toDays y mo d) := by
  simp only [dateText, reads_append, reads_cons, length_showDigits, zero_add] at hread
  obtain ⟨hyear, hsep, -, hmonth, hsep', -, hday⟩ := hread
  have hweek : byte bs 5 ≠ 'W'.toNat := by
    obtain ⟨d₀, hd₀, hbyte⟩ := digit_byte hmonth
    have hbyte₅ : byte bs 5 = 48 + d₀ := hbyte
    have hW : 'W'.toNat = 87 := rfl
    omega
  have hyear' := parseDigits_of_reads 4 hyear
  have hmonth' := parseDigits_of_reads 2 hmonth
  have hday' := parseDigits_of_reads 2 hday
  rw [Nat.mod_eq_of_lt hy.2] at hyear'
  rw [Nat.mod_eq_of_lt hmo] at hmonth'
  rw [Nat.mod_eq_of_lt hd] at hday'
  simp only [parseDate, hyear', Option.bind_eq_bind, Option.bind_some, hsep, if_true, hweek, if_false,
    hmonth', hsep', hday', hy.1, hvalid, and_self]

/-- The microseconds of a fraction of `k` digits. -/
def micros (k m : ℕ) : ℕ := if k ≤ 6 then m * 10 ^ (6 - k) else m / 10 ^ (k - 6)

/-- A fraction is cut to six digits. -/
theorem parseFraction_digits (hread : Reads bs p (showDigits k m)) (hm : m < 10 ^ k) :
    ∃ q, parseFraction bs p (p + k) = some (micros k m, q) := by
  unfold parseFraction micros
  rw [Nat.add_sub_cancel_left]
  dsimp only
  by_cases hk : k ≤ 6
  · rw [min_eq_left hk, parseDigits_of_reads k hread, Nat.mod_eq_of_lt hm, if_pos hk]
    exact ⟨_, rfl⟩
  · -- the digits from the seventh on are skipped
    have hsplit : k = 6 + (k - 6) := by omega
    have hfront : m / 10 ^ (k - 6) < 10 ^ 6 := by
      rw [Nat.div_lt_iff_lt_mul (Nat.pow_pos (by decide)), ← Nat.pow_add, ← hsplit]
      exact hm
    have hfirst : Reads bs p (showDigits 6 (m / 10 ^ (k - 6))) := by
      rw [hsplit, showDigits_append, reads_append] at hread
      exact hread.1
    rw [min_eq_right (by omega), parseDigits_of_reads 6 hfirst, Nat.mod_eq_of_lt hfront, if_neg hk]
    exact ⟨_, congrArg some (Prod.ext (Nat.mul_one _) rfl)⟩

section OneField

variable {pEnd n v us q : ℕ} {fields : List ℕ} (hv : parseDigits bs p 2 = some v)
include hv

/-- A field with a colon behind it. -/
theorem parseFields_colon (hc : byte bs (p + 2) = ':'.toNat) (hend : p + 3 < pEnd) :
    parseFields bs pEnd true (n + 1) fields p = parseFields bs pEnd true n (fields ++ [v]) (p + 3) := by
  have hnot : ¬ pEnd ≤ p + 3 := by omega
  simp [parseFields, hv, hc, hnot]

/-- The last field. -/
theorem parseFields_last {sep : Bool} (hend : pEnd ≤ p + 3) :
    parseFields bs pEnd sep (n + 1) fields p = some (fields ++ [v], 0, decide (byte bs (p + 2) ≠ 0)) := by
  simp [parseFields, hv, hend]

/-- The seconds, with a fraction behind them. -/
theorem parseFields_point (hc : byte bs (p + 2) = '.'.toNat) (hend : p + 3 < pEnd)
    (hfraction : parseFraction bs (p + 3) pEnd = some (us, q)) :
    parseFields bs pEnd true (n + 1) fields p = some (fields ++ [v], us, decide (byte bs q ≠ 0)) := by
  have hnot : ¬ pEnd ≤ p + 3 := by omega
  simp [parseFields, hv, hc, hnot, hfraction]

end OneField

/-- Hours, minutes, seconds and a fraction. -/
theorem parseFields_time (hread : Reads bs p (timeText h mi s ++ fractionText k m))
    (hh : h < 10 ^ 2) (hmi : mi < 10 ^ 2) (hs : s < 10 ^ 2) (hm : m < 10 ^ k) :
    ∃ rest, parseFields bs (p + 8 + (fractionText k m).length) true 3 [] p =
      some ([h, mi, s], micros k m, rest) := by
  simp only [timeText, reads_append, reads_cons, length_showDigits, List.length_append, List.length_cons] at hread
  obtain ⟨⟨hhour, hcolon, -, hmin, hcolon', -, hsec⟩, hfraction⟩ := hread
  have hhour' : parseDigits bs p 2 = some h := by
    rw [parseDigits_of_reads 2 hhour, Nat.mod_eq_of_lt hh]
  have hmin' : parseDigits bs (p + 3) 2 = some mi := by
    rw [parseDigits_of_reads 2 hmin, Nat.mod_eq_of_lt hmi]
  have hsec' : parseDigits bs (p + 3 + 3) 2 = some s := by
    rw [parseDigits_of_reads 2 hsec, Nat.mod_eq_of_lt hs]
  -- the colon behind the hours makes colons the separators
  rw [parseFields_colon hhour' hcolon (by omega), parseFields_colon hmin' hcolon' (by omega)]
  unfold fractionText at hfraction ⊢
  split_ifs at hfraction ⊢ with hk
  · -- no fraction
    have hzero : micros k m = 0 := by
      rw [hk, Nat.pow_zero] at hm
      rw [micros, hk, if_pos (by decide), Nat.lt_one_iff.1 hm, Nat.zero_mul]
    rw [parseFields_last hsec' (by simp only [List.length_nil]; omega), hzero]
    exact ⟨_, rfl⟩
  · obtain ⟨hpoint, -, hdigits⟩ := reads_cons.1 hfraction
    obtain ⟨q, hq⟩ := parseFraction_digits hdigits hm
    have hend : p + 8 + ('.' :: showDigits k m).length = p + 8 + 1 + k := by
      rw [List.length_cons, length_showDigits]
      omega
    rw [hend, parseFields_point hsec' hpoint (by omega) hq]
    exact ⟨_, rfl⟩

/-- The offset `00:00`, up to the end. -/
theorem parseFields_offset (hread : Reads bs p ['0', '0', ':', '0', '0']) (hend : bs.length = p + 5) :
    parseFields bs bs.length true 3 [] p = some ([0, 0], 0, false) := by
  have hsplit : (['0', '0', ':', '0', '0'] : List Char) = showDigits 2 0 ++ ':' :: showDigits 2 0 := by decide
  rw [hsplit, reads_append, reads_cons, length_showDigits] at hread
  obtain ⟨hhour, hcolon, -, hmin⟩ := hread
  have hlast : byte bs (p + 3 + 2) = 0 := by
    rw [byte, List.getD_eq_getElem?_getD, List.getElem?_eq_none (by omega)]
    rfl
  rw [parseFields_colon (parseDigits_of_reads 2 hhour) hcolon (by omega),
    parseFields_last (parseDigits_of_reads 2 hmin) (by omega), hlast]
  rfl

/-- The bytes before the offset. -/
theorem takeWhile_timeText {q : ℕ → Bool} (hdigit : ∀ c : Char, c.isDigit = true → q c.toNat = true)
    (hcolon : q ':'.toNat = true) (hpoint : q '.'.toNat = true) (hplus : q '+'.toNat = false) :
    (codes (timeText h mi s ++ fractionText k m ++ utcText)).takeWhile q =
      codes (timeText h mi s ++ fractionText k m) := by
  have hall : ∀ c ∈ timeText h mi s ++ fractionText k m, q c.toNat = true := by
    intro c hc
    simp only [timeText, fractionText, List.mem_append, List.mem_cons] at hc
    rcases hc with (hc | rfl | hc | rfl | hc) | hc
    · exact hdigit c (isDigit_showDigits 2 _ c hc)
    · exact hcolon
    · exact hdigit c (isDigit_showDigits 2 _ c hc)
    · exact hcolon
    · exact hdigit c (isDigit_showDigits 2 _ c hc)
    · split_ifs at hc
      · cases hc
      · rcases List.mem_cons.1 hc with rfl | hc
        · exact hpoint
        · exact hdigit c (isDigit_showDigits k _ c hc)
  have hbytes : ∀ b ∈ codes (timeText h mi s ++ fractionText k m), q b = true := by
    intro b hb
    obtain ⟨c, hc, rfl⟩ := List.mem_map.1 hb
    exact hall c hc
  have hutc : codes utcText = '+'.toNat :: codes ['0', '0', ':', '0', '0'] := rfl
  rw [codes_append, List.takeWhile_append_of_pos hbytes, hutc, List.takeWhile_cons_of_neg (by rw [hplus]; decide),
    List.append_nil]

theorem length_timeText : (timeText h mi s ++ fractionText k m).length = 8 + (fractionText k m).length := by
  simp only [timeText, List.length_append, List.length_cons, length_showDigits]

/-- **The time of day and the offset.** -/
theorem parseTime_timeText (hdrop : bs.drop p = codes (timeText h mi s ++ fractionText k m ++ utcText))
    (hh : h < 24) (hmi : mi < 60) (hs : s < 60) (hm : m < 10 ^ k) :
    parseTime bs p = some ((((h * 3600 + mi * 60 + s) * 1000000 + micros k m : ℕ) : ℤ), some 0) := by
  have hread : Reads bs p (timeText h mi s ++ fractionText k m ++ utcText) := by
    unfold Reads
    rw [hdrop]
  have hlen : bs.length = p + 8 + (fractionText k m).length + 6 := by
    have hsum := congrArg List.length hdrop
    rw [List.length_drop, length_codes, List.length_append, length_timeText] at hsum
    have hutc : utcText.length = 6 := rfl
    omega
  obtain ⟨htime, hzone⟩ := reads_append.1 hread
  rw [length_timeText, ← Nat.add_assoc] at hzone
  obtain ⟨hplus, -, hoffset⟩ := reads_cons.1 hzone
  obtain ⟨rest, hfields⟩ := parseFields_time htime (by omega) (by omega) (by omega) hm
  have hoffset' := parseFields_offset hoffset (by omega)
  have hdigit : ∀ c : Char, c.isDigit = true → (!(decide (c.toNat = '+'.toNat) || decide (c.toNat = '-'.toNat) ||
      decide (c.toNat = 'Z'.toNat))) = true := by
    intro c hc
    obtain ⟨hlow, hhigh⟩ := Char.isDigit_iff_toNat.1 hc
    have hzero : '0'.toNat = 48 ∧ '9'.toNat = 57 := by decide
    have hsigns : '+'.toNat = 43 ∧ '-'.toNat = 45 ∧ 'Z'.toNat = 90 := by decide
    rw [hsigns.1, hsigns.2.1, hsigns.2.2, decide_eq_false (by omega), decide_eq_false (by omega),
      decide_eq_false (by omega)]
    rfl
  -- the offset begins at the first sign
  have htz : max (p + ((bs.drop p).takeWhile fun b => !(decide (b = '+'.toNat) || decide (b = '-'.toNat) ||
      decide (b = 'Z'.toNat))).length) (if (decide (byte bs p = '+'.toNat) || decide (byte bs p = '-'.toNat) ||
      decide (byte bs p = 'Z'.toNat)) = true then p else p + 1) = p + 8 + (fractionText k m).length := by
    rw [hdrop, takeWhile_timeText hdigit (by decide) (by decide) (by decide), length_codes, length_timeText]
    split_ifs <;> omega
  have hnotZ : ¬ '+'.toNat = 'Z'.toNat := by decide
  unfold parseTime
  dsimp only
  rw [htz, hfields]
  simp only [Option.bind_eq_bind, Option.bind_some]
  rw [if_pos ⟨hh, hmi, hs⟩]
  rw [if_neg (by omega), hplus, if_neg hnotZ, hoffset']
  rfl

/-- `YYYY-MM-DDTHH:MM:SS+00:00`, with a fraction after the seconds. -/
def isoText (y mo d h mi s k m : ℕ) : List Char :=
  dateText y mo d ++ 'T' :: (timeText h mi s ++ fractionText k m ++ utcText)

/-- Its characters are digits and signs. -/
theorem mem_isoText {c : Char} (hc : c ∈ isoText y mo d h mi s k m) :
    c.isDigit = true ∨ c ∈ ['-', 'T', ':', '.', '+'] := by
  have hdigits : ∀ {w n : ℕ}, c ∈ showDigits w n → c.isDigit = true := fun hc => isDigit_showDigits _ _ c hc
  have hfraction : c ∈ fractionText k m → c.isDigit = true ∨ c = '.' := by
    intro hc
    unfold fractionText at hc
    split_ifs at hc
    · cases hc
    · rcases List.mem_cons.1 hc with rfl | hc
      · exact Or.inr rfl
      · exact Or.inl (hdigits hc)
  have hutc : c ∈ utcText → c.isDigit = true ∨ c = '+' ∨ c = ':' := by
    intro hc
    have hall : utcText.all (fun c => c.isDigit || c = '+' || c = ':') = true := by decide
    have hone := List.all_eq_true.1 hall c hc
    rwa [Bool.or_eq_true, Bool.or_eq_true, decide_eq_true_eq, decide_eq_true_eq, or_assoc] at hone
  simp only [isoText, dateText, timeText, List.mem_append, List.mem_cons] at hc
  simp only [List.mem_cons]
  grind

/-- **A text of this form is read as its fields.** -/
theorem fromisoformat_isoText (hy : 1 ≤ y ∧ y < 10 ^ 4) (hmo : mo < 10 ^ 2) (hd : d < 10 ^ 2)
    (hvalid : validDate y mo d = true) (hh : h < 24) (hmi : mi < 60) (hs : s < 60) (hm : m < 10 ^ k) :
    fromisoformat ((isoText y mo d h mi s k m).map .scalar) =
      some (toDays y mo d * 86400000000 + (((h * 3600 + mi * 60 + s) * 1000000 + micros k m : ℕ) : ℤ), some 0) := by
  have hascii : ∀ c ∈ isoText y mo d h mi s k m, c.toNat < 128 := by
    intro c hc
    rcases mem_isoText hc with hdigit | hsign
    · have hrange := (Char.isDigit_iff_toNat.1 hdigit).2
      exact lt_of_le_of_lt hrange (by decide)
    · have hall : ['-', 'T', ':', '.', '+'].all (·.toNat < 128) = true := by decide
      exact of_decide_eq_true (List.all_eq_true.1 hall c hsign)
  have hread : Reads (codes (isoText y mo d h mi s k m)) 0 (isoText y mo d h mi s k m) := reads_codes _
  have hdate : (dateText y mo d).length = 10 := by
    simp only [dateText, List.length_append, List.length_cons, length_showDigits]
  have hlength : (isoText y mo d h mi s k m).length = 11 + (8 + (fractionText k m).length) + 6 := by
    have hutc : utcText.length = 6 := rfl
    rw [isoText, List.length_append, hdate, List.length_cons, List.length_append, length_timeText, hutc]
    omega
  have hbytes : (codes (isoText y mo d h mi s k m)).length = 11 + (8 + (fractionText k m).length) + 6 := by
    rw [length_codes, hlength]
  have hdrop : (codes (isoText y mo d h mi s k m)).drop 11 =
      codes (timeText h mi s ++ fractionText k m ++ utcText) := by
    rw [isoText, codes_append, ← List.drop_drop (i := 1) (j := 10)]
    have hten : (codes (dateText y mo d)).length = 10 := by rw [length_codes, hdate]
    rw [← hten, List.drop_left]
    rfl
  obtain ⟨hread₁, hread₂⟩ := reads_append.1 hread
  rw [hdate] at hread₂
  obtain ⟨hT, -, -⟩ := reads_cons.1 hread₂
  unfold fromisoformat
  rw [if_neg (by rw [List.length_map]; omega), sanitize_scalar, encodeUtf8_ascii _ hascii]
  simp only [Option.bind_eq_bind, Option.bind_some]
  rw [findSeparator_dateText hread₁ (by omega)]
  simp only [Option.bind_some]
  rw [parseDate_dateText hread₁ hy hmo hd hvalid]
  simp only [Option.bind_some]
  -- the separator is one byte, and the time begins behind it
  have hT' : byte (codes (isoText y mo d h mi s k m)) 10 = 84 := hT
  rw [if_neg (by omega), hT', if_pos (by decide), parseTime_timeText hdrop hh hmi hs hm]
  rfl

end Fields

end Python
