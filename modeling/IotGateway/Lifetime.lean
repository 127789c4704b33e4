import IotGateway.Protocol

/-!
# The lifetime of a command

`issue_command` adds the lifetime to its clock and writes the instant with `isoformat`;
the gateway reads it with `time.Parse` and compares it with its own clock.

`parse_isoformat`: the instant that the gateway reads is the one that the server wrote,
for every instant from year 1 to 9999. `lifetime_iff`: **a command drives its pin up to the
end of its lifetime and not after it, exactly when the lifetime is not 0**, which the
server takes for a missing one (`zero_drives`).
-/

namespace Lifetime

open Calendar Python Server

/-- A written fraction of microseconds is read back, up to what follows it. -/
theorem fraction_showDigits {us : ℕ} (hus : us < 10 ^ 6) {c : Char} (hc : c.isDigit = false) (rest : List Char) :
    Gateway.fraction ('.' :: (showDigits 6 us ++ c :: rest)) = (us * 1000, c :: rest) := by
  have hall := isDigit_showDigits 6 us
  have hlen := length_showDigits 6 us
  have htake : (showDigits 6 us ++ c :: rest).takeWhile Char.isDigit = showDigits 6 us := by
    rw [List.takeWhile_append_of_pos hall, List.takeWhile_cons_of_neg (by simp [hc]), List.append_nil]
  have hdrop : (showDigits 6 us ++ c :: rest).dropWhile Char.isDigit = c :: rest := by
    rw [List.dropWhile_append_of_pos hall, List.dropWhile_cons_of_neg (by simp [hc])]
  have hnine : takeDigits 9 (showDigits 6 us ++ List.replicate 3 '0') = some (us * 1000, []) := by
    have hread := takeDigits_showDigits 9 (us * 10 ^ 3) []
    rw [List.append_nil, showDigits_mul_pow 6 us 3] at hread
    rw [hread, Nat.mod_eq_of_lt (by omega)]
    rfl
  -- the text starts with a digit
  cases hds : showDigits 6 us with
  | nil => rw [hds] at hlen; cases hlen
  | cons c₀ s₀ =>
    have hc₀ : c₀.isDigit = true := hall c₀ (by rw [hds]; exact List.mem_cons_self)
    rw [hds] at htake hdrop hnine hlen
    rw [List.cons_append] at htake hdrop ⊢
    unfold Gateway.fraction
    simp only [true_or, hc₀, and_self, if_true, htake, hdrop, hlen]
    rw [List.take_of_length_le (by rw [hlen]; decide), hnine]
    rfl

theorem hourDigits_showDigits (h : ℕ) (s : List Char) :
    Gateway.hourDigits (showDigits 2 h ++ s) = some (h % 10 ^ 2, s) := by
  unfold Gateway.hourDigits
  rw [takeDigits_showDigits]
  rfl

/-- **What `isoformat` writes is read** as the fields that were written. -/
theorem parse_fields (y mo d h mi s us : ℕ) (hy : y < 10 ^ 4) (hmo : mo < 10 ^ 2) (hd : d < 10 ^ 2)
    (hh : h < 24) (hmi : mi < 60) (hs : s < 60) (hus : us < 10 ^ 6) (hvalid : validDate y mo d = true) :
    Gateway.parseRFC3339 (String.ofList (showDigits 4 y ++ '-' :: showDigits 2 mo ++ '-' :: showDigits 2 d ++
      'T' :: showDigits 2 h ++ ':' :: showDigits 2 mi ++ ':' :: showDigits 2 s ++
      (if us = 0 then [] else '.' :: showDigits 6 us) ++ ['+', '0', '0', ':', '0', '0'])) =
    some ((toDays y mo d * 86400 + h * 3600 + mi * 60 + s) * Gateway.second + (us * 1000 : ℕ)) := by
  have hfraction : Gateway.fraction ((if us = 0 then [] else '.' :: showDigits 6 us) ++
      ['+', '0', '0', ':', '0', '0']) = (us * 1000, ['+', '0', '0', ':', '0', '0']) := by
    by_cases hzero : us = 0
    · rw [if_pos hzero, hzero]
      rfl
    · rw [if_neg hzero]
      exact fraction_showDigits hus rfl _
  have hzone : Gateway.zone ['+', '0', '0', ':', '0', '0'] = some 0 := by decide
  have hmod : ∀ {w n : ℕ}, n < 10 ^ w → n % 10 ^ w = n := fun h => Nat.mod_eq_of_lt h
  unfold Gateway.parseRFC3339
  simp only [String.toList_ofList, List.append_assoc, List.cons_append, Option.bind_eq_bind]
  -- field by field
  rw [takeDigits_showDigits, Option.bind_some]
  dsimp only
  rw [expect_cons, Option.bind_some, takeDigits_showDigits, Option.bind_some]
  dsimp only
  rw [expect_cons, Option.bind_some, takeDigits_showDigits, Option.bind_some]
  dsimp only
  rw [expect_cons, Option.bind_some, hourDigits_showDigits, Option.bind_some]
  dsimp only
  rw [expect_cons, Option.bind_some, takeDigits_showDigits, Option.bind_some]
  dsimp only
  rw [expect_cons, Option.bind_some, takeDigits_showDigits, Option.bind_some]
  dsimp only
  rw [hfraction]
  dsimp only
  rw [hzone, Option.bind_some]
  rw [hmod hy, hmod hmo, hmod hd, hmod (by omega : h < 10 ^ 2), hmod (by omega : mi < 10 ^ 2),
    hmod (by omega : s < 10 ^ 2), if_pos ⟨hvalid, hh, hmi, hs⟩, sub_zero]

/-- **The gateway reads the instant that the server wrote.** -/
theorem parse_isoformat {t : ℤ} (ht : Db.timestamptz t = some t) :
    Gateway.parseRFC3339 (isoformat t) = some (t * 1000) := by
  have hrange : -62135596800000000 ≤ t ∧ t < 253402300800000000 := by
    unfold Db.timestamptz at ht
    by_contra hno
    rw [if_neg hno] at ht
    cases ht
  obtain ⟨y, mo, d, hdate, hy, hmo, hd, hvalid, hday⟩ :=
    ofDays_fields (z := t / 86400000000) (by unfold firstDay; omega) (by omega)
  unfold isoformat
  rw [hdate]
  dsimp only
  simp only [Int.toNat_natCast]
  have hsod : (t % 86400000000 / 1000000).toNat < 86400 := by omega
  have hparse := parse_fields y mo d ((t % 86400000000 / 1000000).toNat / 3600)
    ((t % 86400000000 / 1000000).toNat / 60 % 60) ((t % 86400000000 / 1000000).toNat % 60)
    (t % 1000000).toNat hy.2 hmo hd (by omega) (by omega) (by omega) (by omega) hvalid
  rw [hparse, hday, Option.some.injEq]
  unfold Gateway.second
  push_cast
  omega

/-! ## From the issue to the pin -/

/-- The level of an action. -/
def level : Action → ℤ
  | .ON => 1
  | .OFF => 0

/-- `execute` writes the level to the pin of the request's channel. -/
def Drives (m : Gateway.Manager) (now : ℤ) (gpioSet : ℤ → ℤ → Except Hal.Err Unit) (action : Action)
    (request : Request) : Prop :=
  ∃ st, m.channel request.actuatorChannelId = some st ∧
    Gateway.Effect.gpioSet st.cfg.gpioPin (level action) ∈
      (Gateway.execute m now gpioSet (Protocol.decode request)).2.2

section Issued

variable {api : Api} {userId gatewayId : UUID} {t₀ : ℤ} {hex : String} {body : CommandIn} {cmd : Command}
variable {request : Request} {m : Gateway.Manager} {gpioSet : ℤ → ℤ → Except Hal.Err Unit}

theorem actionToValue_text (action : Action) : Gateway.actionToValue action.text = .ok (level action) := by
  cases action <;> decide

/-- The gateway's guard on `expires_at`. -/
theorem checkExpires_isoformat {t : ℤ} (ht : Db.timestamptz t = some t) (now : ℤ)
    (resp : Gateway.CommandResponse) :
    Gateway.checkExpires now (isoformat t) resp = none ↔ now ≤ t * 1000 := by
  have hparse := parse_isoformat ht
  have hne : isoformat t ≠ "" := by
    intro hempty
    rw [hempty] at hparse
    have hnone : Gateway.parseRFC3339 "" = none := by decide
    rw [hnone] at hparse
    cases hparse
  unfold Gateway.checkExpires
  rw [if_neg hne, hparse]
  dsimp only
  split_ifs with hlate
  · exact iff_of_false nofun (by omega)
  · exact iff_of_true rfl (by omega)

/-- A request for this gateway and a channel of it is carried out unless it is late. -/
theorem drives_unless_late (req : Gateway.CommandRequest) {st : Gateway.ChannelState} {value : ℤ}
    (hid : req.commandID ≠ "") (hgateway : req.gatewayID = m.gatewayID)
    (hst : m.channel req.actuatorChannelID = some st)
    (hvalue : Gateway.actionToValue req.action = .ok value) (hreal : m.simulation = false)
    (hgpio : ∀ pin value, gpioSet pin value = .ok ()) (now : ℤ) :
    Gateway.Effect.gpioSet st.cfg.gpioPin value ∈ (Gateway.execute m now gpioSet req).2.2 ↔
      Gateway.checkExpires now req.expiresAt (Gateway.newResponse m now req) = none := by
  unfold Gateway.execute Gateway.check
  simp only [if_neg hid, if_neg fun h : _ ∧ req.gatewayID ≠ m.gatewayID => h.2 hgateway, hst, hvalue]
  cases hcheck : Gateway.checkExpires now req.expiresAt (Gateway.newResponse m now req) with
  | some resp => simp
  | none => simp [hreal, hgpio, Gateway.effects]

/-- **An issued command drives its pin** up to the instant in its request. -/
theorem drives_iff (hissue : issueCommand api userId gatewayId t₀ hex body = .ok (cmd, request))
    (hgateway : m.gatewayID = request.gatewayId) (hreal : m.simulation = false)
    (hchannel : (m.channel request.actuatorChannelId).isSome = true)
    (hgpio : ∀ pin value, gpioSet pin value = .ok ()) (t₁ : ℤ) :
    Drives m t₁ gpioSet body.action request ↔
      t₁ ≤ (t₀ + (if body.expiresInSec = 0 then api.defaultExpiresSec else body.expiresInSec) * 1000000) *
        1000 := by
  obtain ⟨gw, actuator, t, -, -, -, ht, -, rfl⟩ := Issue.issueCommand_eq_ok hissue
  obtain ⟨st, hst⟩ := Option.isSome_iff_exists.1 hchannel
  have htime := Db.timestamptz_eq ht
  rw [← htime] at ht ⊢
  have hdrives := drives_unless_late (Protocol.decode ⟨commandId t₀ hex, gw.serialNumber, actuator.slug,
    body.action.text, isoformat t, body.requireAck⟩) (Issue.commandId_ne_empty t₀ hex) hgateway.symm hst
    (actionToValue_text body.action) hreal hgpio t₁
  refine Iff.trans ?_ (hdrives.trans (checkExpires_isoformat ht t₁ _))
  constructor
  · rintro ⟨st', hst', hmem⟩
    rw [hst] at hst'
    cases hst'
    exact hmem
  · exact fun hmem => ⟨st, hst, hmem⟩

end Issued

/-- **Lifetime, end to end.** For a command issued at `t₀` (microseconds), a gateway of its
serial number with the channel, outside simulation and with a working GPIO: at every
`t₁ ≥ t₀` (nanoseconds) the pin is driven if and only if `t₁` is within the lifetime that
was asked for; this holds exactly when that lifetime is not 0, or 0 is the default too. -/
theorem lifetime_iff (api : Api) (userId gatewayId : UUID) (t₀ : ℤ) (hex : String) (body : CommandIn)
    (cmd : Command) (request : Request) (m : Gateway.Manager) (gpioSet : ℤ → ℤ → Except Hal.Err Unit)
    (hissue : issueCommand api userId gatewayId t₀ hex body = .ok (cmd, request))
    (hgateway : m.gatewayID = request.gatewayId) (hreal : m.simulation = false)
    (hchannel : (m.channel request.actuatorChannelId).isSome = true)
    (hgpio : ∀ pin value, gpioSet pin value = .ok ()) :
    (∀ t₁, t₀ * 1000 ≤ t₁ → (Drives m t₁ gpioSet body.action request ↔
        t₁ ≤ (t₀ + body.expiresInSec * 1000000) * 1000)) ↔
      body.expiresInSec ≠ 0 ∨ api.defaultExpiresSec = 0 := by
  have hdrives := drives_iff hissue hgateway hreal hchannel hgpio
  constructor
  · intro h
    by_contra hno
    push Not at hno
    obtain ⟨hzero, hdefault⟩ := hno
    have h' : ∀ t₁, t₀ * 1000 ≤ t₁ →
        (t₁ ≤ (t₀ + api.defaultExpiresSec * 1000000) * 1000 ↔ t₁ ≤ (t₀ + 0 * 1000000) * 1000) := by
      intro t₁ ht₁
      have hiff := h t₁ ht₁
      rwa [hdrives, if_pos hzero, hzero] at hiff
    rcases lt_or_gt_of_ne hdefault with hneg | hpos
    · -- a negative default refuses the command at once
      have hnow := (h' (t₀ * 1000) le_rfl).2 (by omega)
      omega
    · have hlater := (h' (t₀ * 1000 + 1) (by omega)).1 (by omega)
      omega
  · intro h t₁ _
    rw [hdrives]
    by_cases hzero : body.expiresInSec = 0
    · rw [if_pos hzero, hzero, h.resolve_left (not_not.2 hzero)]
    · rw [if_neg hzero]

/-! User 1 switches actuator 5 of gateway 7 ON, with a lifetime of 0. -/

def zeroLifetime : CommandIn := { Issue.ventOn with expiresInSec := 0 }

def issued (body : CommandIn) : Except Failure (Command × Request) :=
  issueCommand Issue.ventApi 1 7 Issue.noon "0a1b2c3d" body

def manager : Gateway.Manager := Gateway.singleManager (Gateway.newChannelState Gateway.relayVent) "GW-001"

/-- **A lifetime of 0** is the default of 5 s: two seconds after the issue the pin is driven. -/
theorem zero_drives : ∃ cmd request, issued zeroLifetime = .ok (cmd, request) ∧
    (Gateway.execute manager ((Issue.noon + 2000000) * 1000) Gateway.halOk (Protocol.decode request)).2.2.head? =
      some (.gpioSet 17 1) := by
  refine ⟨_, _, rfl, ?_⟩
  decide +kernel

/-- A lifetime of 5 s is kept. -/
theorem five_seconds : ∃ cmd request, issued Issue.ventOn = .ok (cmd, request) ∧
    ∀ t₁, Issue.noon * 1000 ≤ t₁ → (Drives manager t₁ Gateway.halOk .ON request ↔
      t₁ ≤ (Issue.noon + 5000000) * 1000) := by
  refine ⟨_, _, rfl, ?_⟩
  exact (lifetime_iff Issue.ventApi 1 7 Issue.noon "0a1b2c3d" Issue.ventOn _ _ manager Gateway.halOk rfl
    (by decide +kernel) rfl (by decide +kernel) fun _ _ => rfl).2 (Or.inl (by decide))

end Lifetime
