import IotGateway.Gateway.Connection
import IotGateway.Lifetime
import IotGateway.Python.IsoText

/-!
# Timestamps on the wire

The server writes instants with `isoformat`, and the gateway reads them with `time.Parse`;
the gateway writes them in the formats `RFC3339Nano` and `RFC3339`, and the server reads them
with `parse_iso8601`, which puts `+00:00` for the `Z` first.

`showFraction_eq`: a fraction without its trailing zeros is one of 0 to 9 digits, whose
microseconds are those of the instant. `timestamps_survive`: **in years 1 to 9999 the gateway
reads the instant that the server wrote, the server reads the one that the gateway wrote, cut
to the microsecond, and two instants never change their order.**
-/

namespace Timestamps

open Calendar Python Server

/-! ## Fractions -/

/-- Digits without the zeros at their end. -/
theorem rdropWhile_showDigits (w : ℕ) : ∀ n : ℕ, ∃ k ≤ w,
    (showDigits w n).rdropWhile (· = '0') = showDigits k (n / 10 ^ (w - k)) ∧ 10 ^ (w - k) ∣ n := by
  have hchar : ∀ d < 10, Char.ofNat ('0'.toNat + d) = '0' ↔ d = 0 := by decide
  induction w with
  | zero => exact fun n => ⟨0, le_rfl, by simp [showDigits], by simp⟩
  | succ w ih =>
    intro n
    have hiff := hchar (n % 10) (Nat.mod_lt n (by decide))
    rw [showDigits]
    by_cases hzero : n % 10 = 0
    · -- one more zero goes
      obtain ⟨k, hk, heq, hdvd⟩ := ih (n / 10)
      have hpow : 10 ^ (w + 1 - k) = 10 * 10 ^ (w - k) := by
        rw [Nat.succ_sub hk, Nat.pow_succ, Nat.mul_comm]
      refine ⟨k, by omega, ?_, ?_⟩
      · rw [List.rdropWhile_concat, if_pos (decide_eq_true (hiff.2 hzero)), heq, hpow, Nat.div_div_eq_div_mul]
      · have hn : n = 10 * (n / 10) := by omega
        rw [hpow, hn]
        exact Nat.mul_dvd_mul_left 10 hdvd
    · refine ⟨w + 1, le_rfl, ?_, by simp⟩
      rw [List.rdropWhile_concat, if_neg fun h => hzero (hiff.1 (of_decide_eq_true h))]
      simp [showDigits]

/-- **A fraction of nanoseconds** as a number of digits. -/
theorem showFraction_eq {nsec : ℕ} (h : nsec < 10 ^ 9) : ∃ k m, Gateway.showFraction nsec = fractionText k m ∧
    m < 10 ^ k ∧ micros k m = nsec / 1000 := by
  obtain ⟨k, hk, heq, m, rfl⟩ := rdropWhile_showDigits 9 nsec
  have hpos : 0 < 10 ^ (9 - k) := Nat.pow_pos (by decide)
  rw [Nat.mul_div_cancel_left m hpos] at heq
  have hm : m < 10 ^ k := by
    have hnine : 10 ^ (9 - k) * 10 ^ k = 10 ^ 9 := by rw [← Nat.pow_add, Nat.sub_add_cancel hk]
    rw [← hnine] at h
    exact Nat.lt_of_mul_lt_mul_left h
  refine ⟨k, m, ?_, hm, ?_⟩
  · unfold Gateway.showFraction fractionText
    rw [heq]
    cases k with
    | zero => rfl
    | succ k =>
      rw [if_neg (Nat.succ_ne_zero k)]
      cases hds : showDigits (k + 1) m with
      | nil =>
        have hlen := length_showDigits (k + 1) m
        rw [hds] at hlen
        cases hlen
      | cons c ds => rfl
  · unfold micros
    interval_cases k <;> simp <;> omega

/-! ## From the gateway to the server -/

/-- `datetime.fromisoformat(s.replace("Z", "+00:00"))` of `parse_iso8601`: the wall clock and
the offset. -/
def readReplaced (s : String) : Option (ℤ × Option ℤ) :=
  fromisoformat ((Str.of s).flatMap fun c => if c = .scalar 'Z' then Str.of "+00:00" else [c])

/-- An aware time is the one that `parse_iso8601` gives. -/
theorem parseIso8601_of_readReplaced {s : String} {u : ℤ} (h : readReplaced s = some (u, some 0)) (now : ℤ) :
    parseIso8601 now (some (.text s)) = some u := by
  have htruthy : (Json.text s).truthy ≠ false := by
    have hne : Str.of s ≠ [] := by
      intro hnil
      rw [readReplaced, hnil] at h
      cases h
    simp [Json.text, Json.truthy, hne]
  unfold readReplaced at h
  unfold parseIso8601
  dsimp only
  rw [if_neg htruthy]
  dsimp only [Json.text]
  rw [h]
  simp

/-- The `Z` at the end of a text without another is replaced. -/
theorem flatMap_replace {body : List Char} (hbody : 'Z' ∉ body) :
    ((body ++ ['Z']).map CodePoint.scalar).flatMap
        (fun c => if c = .scalar 'Z' then Str.of "+00:00" else [c]) =
      (body ++ utcText).map CodePoint.scalar := by
  have hkeep : ∀ s : List Char, 'Z' ∉ s → (s.map CodePoint.scalar).flatMap
      (fun c => if c = .scalar 'Z' then Str.of "+00:00" else [c]) = s.map CodePoint.scalar := by
    intro s
    induction s with
    | nil => exact fun _ => rfl
    | cons c s ih =>
      intro hs
      rw [List.mem_cons, not_or] at hs
      have hc : ¬ CodePoint.scalar c = .scalar 'Z' := fun h => hs.1 (CodePoint.scalar.inj h).symm
      rw [List.map_cons, List.flatMap_cons, if_neg hc, ih hs.2]
      rfl
  rw [List.map_append, List.flatMap_append, hkeep body hbody, List.map_append]
  rfl

/-- From year 1 to year 9999, with the given units in a day. -/
def InYears (perDay t : ℤ) : Prop := toDays 1 1 1 * perDay ≤ t ∧ t < toDays 10000 1 1 * perDay

theorem inYears_iff {perDay t : ℤ} : InYears perDay t ↔ -719162 * perDay ≤ t ∧ t < 2932897 * perDay := by
  have hfirst : toDays 1 1 1 = -719162 := by decide
  have hlast : toDays 10000 1 1 = 2932897 := by decide
  rw [InYears, hfirst, hlast]

/-- **The server reads what `RFC3339Nano` wrote**, to the microsecond. -/
theorem readReplaced_format {t : ℤ} (ht : InYears 86400000000000 t) :
    readReplaced (Gateway.formatRFC3339Nano t) = some (t / 1000, some 0) := by
  rw [inYears_iff] at ht
  obtain ⟨y, mo, d, hdate, hy, hmo, hd, hvalid, hday⟩ :=
    ofDays_fields (z := t / Gateway.second / 86400) (by unfold Gateway.second firstDay; omega)
      (by unfold Gateway.second; omega)
  have hnsec : (t % Gateway.second).toNat < 10 ^ 9 := by unfold Gateway.second; omega
  obtain ⟨k, m, hfraction, hm, hmicros⟩ := showFraction_eq hnsec
  generalize hsod : (t / Gateway.second % 86400).toNat = sod
  have hsod₁ : sod < 86400 := by omega
  obtain ⟨body, hbody⟩ : ∃ body, dateText y mo d ++ 'T' :: (timeText (sod / 3600) (sod / 60 % 60) (sod % 60) ++
      fractionText k m) = body := ⟨_, rfl⟩
  have hiso : isoText y mo d (sod / 3600) (sod / 60 % 60) (sod % 60) k m = body ++ utcText := by
    simp only [← hbody, isoText, List.append_assoc, List.cons_append]
  have htext : Gateway.formatRFC3339Nano t = String.ofList (body ++ ['Z']) := by
    unfold Gateway.formatRFC3339Nano
    dsimp only
    rw [hdate, hfraction, hsod, ← hbody]
    simp only [Int.toNat_natCast, dateText, timeText, List.append_assoc, List.cons_append]
  -- the only `Z` is the last character
  have hZ : 'Z' ∉ body := by
    intro hmem
    have hmem' : 'Z' ∈ isoText y mo d (sod / 3600) (sod / 60 % 60) (sod % 60) k m := by
      rw [hiso]
      exact List.mem_append_left _ hmem
    exact absurd (mem_isoText hmem') (by decide)
  have hread := fromisoformat_isoText hy hmo hd hvalid (show sod / 3600 < 24 by omega)
    (show sod / 60 % 60 < 60 by omega) (show sod % 60 < 60 by omega) hm
  have hplain : Str.of (String.ofList (body ++ ['Z'])) = (body ++ ['Z']).map CodePoint.scalar := by
    rw [Str.of, String.toList_ofList]
  have htime : t / Gateway.second / 86400 * 86400000000 + ((((sod / 3600) * 3600 + sod / 60 % 60 * 60 + sod % 60) *
      1000000 + (t % Gateway.second).toNat / 1000 : ℕ) : ℤ) = t / 1000 := by
    unfold Gateway.second at *
    push_cast
    omega
  rw [readReplaced, htext, hplain, flatMap_replace hZ, ← hiso, hread, hday, hmicros, htime]

/-- **The server reads what `RFC3339` wrote**, to the second. -/
theorem readReplaced_formatRFC3339 {t : ℤ} (ht : InYears 86400000000000 t) :
    readReplaced (Gateway.formatRFC3339 t) = some (t / Gateway.second * 1000000, some 0) := by
  have hwhole : InYears 86400000000000 (t / Gateway.second * Gateway.second) := by
    rw [inYears_iff] at ht ⊢
    unfold Gateway.second
    omega
  have htime : t / Gateway.second * Gateway.second / 1000 = t / Gateway.second * 1000000 := by
    unfold Gateway.second
    omega
  rw [Gateway.formatRFC3339, readReplaced_format hwhole, htime]

/-! ## Both ways -/

/-- Two instants are read in their order. -/
def KeepsOrder (read : ℤ → Option ℤ) (t t' : ℤ) : Prop :=
  t ≤ t' → ∃ u u', read t = some u ∧ read t' = some u' ∧ u ≤ u'

theorem keepsOrder_of_eq {read : ℤ → Option ℤ} {f : ℤ → ℤ} (hf : Monotone f) {t t' : ℤ}
    (h : read t = some (f t)) (h' : read t' = some (f t')) : KeepsOrder read t t' :=
  fun hle => ⟨_, _, h, h', hf hle⟩

/-- **Timestamps survive the wire**, in years 1 to 9999. The gateway reads exactly the instant
that the server wrote; the server reads, as an aware time in UTC, the instant that the
gateway wrote, cut to the microsecond, or to the second where that is the format; and two
instants are read in their order, in each of the three ways. -/
theorem timestamps_survive (now : ℤ) :
    (∀ t, InYears 86400000000 t → Gateway.parseRFC3339 (isoformat t) = some (t * 1000)) ∧
      (∀ t, InYears 86400000000000 t →
        readReplaced (Gateway.formatRFC3339Nano t) = some (t / 1000, some 0) ∧
        parseIso8601 now (some (.text (Gateway.formatRFC3339Nano t))) = some (t / 1000) ∧
        readReplaced (Gateway.formatRFC3339 t) = some (t / 1000000000 * 1000000, some 0) ∧
        parseIso8601 now (some (.text (Gateway.formatRFC3339 t))) = some (t / 1000000000 * 1000000)) ∧
      (∀ t t', InYears 86400000000 t → InYears 86400000000 t' →
        KeepsOrder (fun t => Gateway.parseRFC3339 (isoformat t)) t t') ∧
      ∀ t t', InYears 86400000000000 t → InYears 86400000000000 t' →
        KeepsOrder (fun t => parseIso8601 now (some (.text (Gateway.formatRFC3339Nano t)))) t t' ∧
        KeepsOrder (fun t => parseIso8601 now (some (.text (Gateway.formatRFC3339 t)))) t t' := by
  have hserver : ∀ t, InYears 86400000000 t → Gateway.parseRFC3339 (isoformat t) = some (t * 1000) := by
    intro t ht
    rw [inYears_iff] at ht
    exact Lifetime.parse_isoformat (if_pos (by omega))
  have hnano : ∀ t, InYears 86400000000000 t →
      parseIso8601 now (some (.text (Gateway.formatRFC3339Nano t))) = some (t / 1000) :=
    fun t ht => parseIso8601_of_readReplaced (readReplaced_format ht) now
  have hwhole : ∀ t, InYears 86400000000000 t →
      parseIso8601 now (some (.text (Gateway.formatRFC3339 t))) = some (t / 1000000000 * 1000000) :=
    fun t ht => parseIso8601_of_readReplaced (readReplaced_formatRFC3339 ht) now
  refine ⟨hserver, fun t ht => ⟨readReplaced_format ht, hnano t ht, readReplaced_formatRFC3339 ht, hwhole t ht⟩,
    fun t t' ht ht' => ?_, fun t t' ht ht' => ⟨?_, ?_⟩⟩
  · have hmono : Monotone fun t : ℤ => t * 1000 := fun a b hab => by dsimp only; omega
    exact keepsOrder_of_eq hmono (hserver t ht) (hserver t' ht')
  · have hmono : Monotone fun t : ℤ => t / 1000 := fun a b hab => by dsimp only; omega
    exact keepsOrder_of_eq hmono (hnano t ht) (hnano t' ht')
  · have hmono : Monotone fun t : ℤ => t / 1000000000 * 1000000 := fun a b hab => by dsimp only; omega
    exact keepsOrder_of_eq hmono (hwhole t ht) (hwhole t' ht')

example : readReplaced (Gateway.formatRFC3339Nano 1777863600500000789) = some (1777863600500000, some 0) := by
  decide +kernel

end Timestamps
