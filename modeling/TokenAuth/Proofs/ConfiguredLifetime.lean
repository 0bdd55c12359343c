import TokenAuth.Proofs.Expiry
import TokenAuth.Proofs.SecretReading
import TokenAuth.Settings.Basic

/-!
# Lifetimes from the settings to the tokens

The settings give lifetimes in minutes and in days. They are refused where they are read, where the
keys are made or where a token is issued, each at a bound of its own, and a lifetime that passes is
the one that tokens last, to the second. Main statement: `configured_lifetimes_hold`.
-/

namespace TokenAuth

open Outcome

/-! ### The bounds -/

/-- A number of seconds that is at most 2⁶³ − 1 milliseconds in magnitude. -/
def Span.Fits (seconds : Int) : Prop := seconds.natAbs * 1000 ≤ 0x7FFFFFFFFFFFFFFF

instance (seconds : Int) : Decidable (Span.Fits seconds) :=
  inferInstanceAs (Decidable (_ ≤ _))

/-- The last nanosecond of the last day. -/
def Instant.latest : Instant :=
  ⟨8210266876799, 999999999, by decide, by decide, by decide, by decide⟩

/-- So many seconds after an instant there are no instants any more. -/
def Instant.Passes (t : Instant) (seconds : Int) : Prop :=
  latest.unixNanos < t.unixNanos + seconds * 1000000000

instance (t : Instant) (seconds : Int) : Decidable (t.Passes seconds) :=
  inferInstanceAs (Decidable (_ < _))

variable {seconds : Int} {ttl : Span}

theorem Span.ofSeconds?_eq_some_iff :
    ofSeconds? seconds = some ttl ↔ Fits seconds ∧ ttl.nanoseconds = seconds * 1000000000 := by
  obtain ⟨nanoseconds, hlower, hupper⟩ := ttl
  rw [ofSeconds?, ofNanoseconds?]
  constructor
  · intro h
    split at h
    · next hrange =>
      obtain rfl := Span.mk.inj (Option.some.inj h)
      exact ⟨by rw [Fits]; omega, rfl⟩
    · exact nomatch h
  · rintro ⟨-, rfl⟩
    exact dif_pos ⟨hlower, hupper⟩

theorem Span.exists_ofSeconds?_iff : (∃ ttl, ofSeconds? seconds = some ttl) ↔ Fits seconds := by
  constructor
  · rintro ⟨ttl, h⟩
    exact (ofSeconds?_eq_some_iff.mp h).1
  · intro h
    rw [Fits] at h
    exact ⟨⟨seconds * 1000000000, by omega, by omega⟩, ofSeconds?_eq_some_iff.mpr ⟨h, rfl⟩⟩

example : Span.Fits (60 * 153722867280912) ∧ ¬Span.Fits (60 * 153722867280913) := by decide

theorem Instant.passes_iff {t : Instant} (hpos : 0 < ttl.nanoseconds)
    (httl : ttl.nanoseconds = seconds * 1000000000) :
    t.Passes seconds ↔ ¬InRange (t.unixNanos + ttl.nanoseconds) := by
  have hlower := t.lower
  rw [inRange_iff, httl, Passes]
  simp only [unixNanos, latest]
  omega

/-! ### Reading the settings -/

/-- What comes of reading a lifetime: a span of so many seconds, or a refusal if there is none. -/
def ReadsLifetime (result : Except SettingsError Span) (seconds : Int) (refusal : SettingsError) :
    Prop :=
  (¬Span.Fits seconds → result = .error refusal) ∧
    (Span.Fits seconds → ∃ ttl, result = .ok ttl ∧ ttl.nanoseconds = seconds * 1000000000)

theorem readsLifetime_ofSeconds? (seconds : Int) (refusal : SettingsError) :
    ReadsLifetime
      (match Span.ofSeconds? seconds with
        | some ttl => .ok ttl
        | none => .error refusal) seconds refusal := by
  constructor
  · intro h
    have hnone : Span.ofSeconds? seconds = none :=
      Option.eq_none_iff_forall_ne_some.mpr fun ttl hsome =>
        h (Span.ofSeconds?_eq_some_iff.mp hsome).1
    rw [hnone]
  · intro h
    obtain ⟨ttl, hsome⟩ := Span.exists_ofSeconds?_iff.mpr h
    rw [hsome]
    exact ⟨ttl, rfl, (Span.ofSeconds?_eq_some_iff.mp hsome).2⟩

theorem ReadsLifetime.nanoseconds_eq {result : Except SettingsError Span} {refusal : SettingsError}
    (h : ReadsLifetime result seconds refusal) (hok : result = .ok ttl) :
    ttl.nanoseconds = seconds * 1000000000 := by
  by_cases hfits : Span.Fits seconds
  · obtain ⟨read, hread, hseconds⟩ := h.2 hfits
    obtain rfl := Except.ok.inj (hok.symm.trans hread)
    exact hseconds
  · rw [h.1 hfits] at hok
    exact nomatch hok

theorem TokenSettings.readsLifetime_accessTtl (s : TokenSettings) :
    ReadsLifetime s.accessTtl (60 * s.accessTtlMinutes.toInt)
      (.lifetimeOutOfRange "jwt.access_ttl_minutes" s.accessTtlMinutes) :=
  readsLifetime_ofSeconds? _ _

theorem TokenSettings.readsLifetime_refreshTtl (s : TokenSettings) :
    ReadsLifetime s.refreshTtl (86400 * s.refreshTtlDays.toInt)
      (.lifetimeOutOfRange "jwt.refresh_ttl_days" s.refreshTtlDays) :=
  readsLifetime_ofSeconds? _ _

/-! ### Making the keys -/

namespace SigningKeys

variable {now : Instant} {accessSecret refreshSecret issuer audience : String}
variable {accessTtl refreshTtl : Span} {accessKey refreshKey : SigningSecret}

theorem check_of_keys_ne (haccess : SigningSecret.decode accessSecret = .ok accessKey)
    (hrefresh : SigningSecret.decode refreshSecret = .ok refreshKey)
    (hne : accessKey ≠ refreshKey) :
    check now accessSecret refreshSecret issuer audience accessTtl refreshTtl =
      if httl : 0 < accessTtl.nanoseconds ∧ 0 < refreshTtl.nanoseconds then
        if (now.add? accessTtl).isNone ∨ (now.add? refreshTtl).isNone then .error .ttlOutOfRange
        else
          .ok ⟨accessKey, refreshKey, issuer, audience, accessTtl, refreshTtl, hne, httl.1, httl.2⟩
      else .error .nonPositiveTtl := by
  rw [check, haccess, hrefresh]
  exact dif_neg hne

/-- **Which lifetimes keys are made with**, in seconds: positive ones after which there still is an
instant. -/
theorem check_cases (now : Instant) (issuer audience : String) {access refresh : Int}
    (haccess : SigningSecret.decode accessSecret = .ok accessKey)
    (hrefresh : SigningSecret.decode refreshSecret = .ok refreshKey) (hne : accessKey ≠ refreshKey)
    (haccessTtl : accessTtl.nanoseconds = access * 1000000000)
    (hrefreshTtl : refreshTtl.nanoseconds = refresh * 1000000000) :
    (¬(0 < access ∧ 0 < refresh) ∧
      check now accessSecret refreshSecret issuer audience accessTtl refreshTtl =
        .error .nonPositiveTtl) ∨
    (0 < access ∧ 0 < refresh) ∧
      ((now.Passes access ∨ now.Passes refresh) ∧
          check now accessSecret refreshSecret issuer audience accessTtl refreshTtl =
            .error .ttlOutOfRange ∨
        ¬(now.Passes access ∨ now.Passes refresh) ∧ ∃ keys : SigningKeys,
          check now accessSecret refreshSecret issuer audience accessTtl refreshTtl = .ok keys ∧
            keys.accessTtl = accessTtl ∧ keys.refreshTtl = refreshTtl) := by
  rw [check_of_keys_ne haccess hrefresh hne]
  split
  · next hpos =>
    have hpasses : (now.add? accessTtl).isNone = true ∨ (now.add? refreshTtl).isNone = true ↔
        now.Passes access ∨ now.Passes refresh := by
      rw [Option.isNone_iff_eq_none, Option.isNone_iff_eq_none,
        Instant.passes_iff hpos.1 haccessTtl, Instant.passes_iff hpos.2 hrefreshTtl,
        Instant.add?_eq_none_iff hpos.1, Instant.add?_eq_none_iff hpos.2]
    refine .inr ⟨by omega, ?_⟩
    split
    · next hnone => exact .inl ⟨hpasses.mp hnone, rfl⟩
    · next hsome => exact .inr ⟨mt hpasses.mpr hsome, _, rfl, rfl, rfl⟩
  · next hpos => exact .inl ⟨by omega, rfl⟩

end SigningKeys

/-! ### Issuing the tokens -/

/-- What comes of issuing a token at an instant for so many seconds: one whose times lie exactly as
far apart, or none if there are no instants any more. -/
def Mints (result : Except AuthError String) (at_ : Instant) (seconds : Int) : Prop :=
  (at_.Passes seconds → result = .error (.tokenSigning "Token expiry out of range")) ∧
  (¬at_.Passes seconds → ∃ token claims iat exp, result = .ok token ∧
    Token.claims? token = some claims ∧ claims.iat = some iat ∧ claims.exp = some exp ∧
    exp.toInt - iat.toInt = seconds)

theorem mints_of_issues {result : Except AuthError String} {at_ : Instant}
    (hpos : 0 < ttl.nanoseconds) (httl : ttl.nanoseconds = seconds * 1000000000)
    (h : Issues result at_ ttl) : Mints result at_ seconds := by
  have hpasses := Instant.passes_iff (t := at_) hpos httl
  refine ⟨fun hpass => h.2 (hpasses.mp hpass), fun hpass => ?_⟩
  obtain ⟨token, claims, hresult, hclaims, iat, exp, hiat, hexp, -, -, hlength⟩ :=
    h.1 (Decidable.not_not.mp (mt hpasses.mpr hpass))
  exact ⟨token, claims, iat, exp, hresult, hclaims, hiat, hexp, by omega⟩

/-- **Configured lifetimes never overflow.** Settings are refused exactly if a lifetime is more
milliseconds than a word holds. Keys are then made at an instant exactly if both lifetimes are
positive and there are instants after both. Every token that is issued with them names times that
lie as far apart as its lifetime, and none is issued where there are no such instants. -/
theorem configured_lifetimes_hold (s : TokenSettings) (now : Instant) :
    ReadsLifetime s.accessTtl (60 * s.accessTtlMinutes.toInt)
      (.lifetimeOutOfRange "jwt.access_ttl_minutes" s.accessTtlMinutes) ∧
    ReadsLifetime s.refreshTtl (86400 * s.refreshTtlDays.toInt)
      (.lifetimeOutOfRange "jwt.refresh_ttl_days" s.refreshTtlDays) ∧
    ∀ (accessTtl refreshTtl : Span) (accessKey refreshKey : SigningSecret)
      (result : Except SigningKeysError SigningKeys),
      s.accessTtl = .ok accessTtl → s.refreshTtl = .ok refreshTtl →
      SigningSecret.decode s.secret = .ok accessKey →
      SigningSecret.decode s.refreshSecret = .ok refreshKey → accessKey ≠ refreshKey →
      result = SigningKeys.check now s.secret s.refreshSecret s.issuer s.audience accessTtl
        refreshTtl →
        (result = .error .nonPositiveTtl ↔
          s.accessTtlMinutes.toInt ≤ 0 ∨ s.refreshTtlDays.toInt ≤ 0) ∧
        (result = .error .ttlOutOfRange ↔
          (0 < s.accessTtlMinutes.toInt ∧ 0 < s.refreshTtlDays.toInt) ∧
            (now.Passes (60 * s.accessTtlMinutes.toInt) ∨
              now.Passes (86400 * s.refreshTtlDays.toInt))) ∧
        ((∃ keys, result = .ok keys) ↔
          (0 < s.accessTtlMinutes.toInt ∧ 0 < s.refreshTtlDays.toInt) ∧
            ¬(now.Passes (60 * s.accessTtlMinutes.toInt) ∨
              now.Passes (86400 * s.refreshTtlDays.toInt))) ∧
        ∀ keys, result = .ok keys →
          keys.accessTtlSeconds.toInt = 60 * s.accessTtlMinutes.toInt ∧
          ∀ stamp id email roles,
            Mints (keys.createAccessToken stamp id email roles) stamp.now
              (60 * s.accessTtlMinutes.toInt) ∧
            Mints (keys.createRefreshToken stamp id email) stamp.now
              (86400 * s.refreshTtlDays.toInt) := by
  have hreadAccess := s.readsLifetime_accessTtl
  have hreadRefresh := s.readsLifetime_refreshTtl
  refine ⟨hreadAccess, hreadRefresh, ?_⟩
  intro accessTtl refreshTtl accessKey refreshKey result haccessTtl hrefreshTtl haccess hrefresh hne
    hresult
  have hminutes := hreadAccess.nanoseconds_eq haccessTtl
  have hdays := hreadRefresh.nanoseconds_eq hrefreshTtl
  have hcases := SigningKeys.check_cases now s.issuer s.audience haccess hrefresh hne hminutes
    hdays
  rw [← hresult] at hcases
  have hpositive : (0 < 60 * s.accessTtlMinutes.toInt ∧ 0 < 86400 * s.refreshTtlDays.toInt) ↔
      0 < s.accessTtlMinutes.toInt ∧ 0 < s.refreshTtlDays.toInt := by omega
  rw [hpositive] at hcases
  -- the three outcomes exclude each other, so each of them decides the three equivalences
  rcases hcases with ⟨hnot, rfl⟩ | ⟨hpos, ⟨hpasses, rfl⟩ | ⟨hpasses, keys, rfl, rfl, rfl⟩⟩
  · refine ⟨iff_of_true rfl (by omega), iff_of_false nofun fun h => hnot h.1,
      iff_of_false (fun ⟨_, h⟩ => nomatch h) fun h => hnot h.1, fun _ h => nomatch h⟩
  · refine ⟨iff_of_false nofun (by omega), iff_of_true rfl ⟨hpos, hpasses⟩,
      iff_of_false (fun ⟨_, h⟩ => nomatch h) fun h => h.2 hpasses, fun _ h => nomatch h⟩
  · refine ⟨iff_of_false nofun (by omega), iff_of_false nofun fun h => hpasses h.2,
      iff_of_true ⟨keys, rfl⟩ ⟨hpos, hpasses⟩, ?_⟩
    rintro _ ⟨⟩
    refine ⟨?_, fun stamp id email roles => ⟨?_, ?_⟩⟩
    · rw [SigningKeys.toInt_accessTtlSeconds, hminutes]
      omega
    · exact mints_of_issues keys.accessTtl_pos hminutes SigningKeys.issues_createAccessToken
    · exact mints_of_issues keys.refreshTtl_pos hdays SigningKeys.issues_createRefreshToken

/-- Settings of two keys that differ. -/
def sampleSettings (minutes days : Int64) : TokenSettings where
  secret := ofAscii (Base64.encode .standard .full SigningKeys.plainKey.bytes)
  refreshSecret := ofAscii (Base64.encode .standard .full SigningKeys.paddedKey.bytes)
  issuer := "auth-service"
  audience := "irisinfinity"
  accessTtlMinutes := minutes
  refreshTtlDays := days

/-- The lifetimes that stand if none are configured are accepted, and their tokens last for them. -/
theorem default_lifetimes_hold :
    ∃ keys : SigningKeys, keys.accessTtlSeconds.toInt = 900 ∧
      Mints (keys.createAccessToken SigningKeys.twinStamp SigningKeys.twinId "a@x.org" .empty)
        SigningKeys.twinStamp.now 900 ∧
      Mints (keys.createRefreshToken SigningKeys.twinStamp SigningKeys.twinId "a@x.org")
        SigningKeys.twinStamp.now 604800 := by
  obtain ⟨haccess, hrefresh, hkeys⟩ :=
    configured_lifetimes_hold (sampleSettings 15 7) SigningKeys.twinStamp.now
  obtain ⟨accessTtl, haccessTtl, -⟩ := haccess.2 (by decide)
  obtain ⟨refreshTtl, hrefreshTtl, -⟩ := hrefresh.2 (by decide)
  obtain ⟨-, -, hmade, htokens⟩ := hkeys accessTtl refreshTtl SigningKeys.plainKey
    SigningKeys.paddedKey _ haccessTtl hrefreshTtl (SigningSecret.decode_encode _)
    (SigningSecret.decode_encode _) (by decide) rfl
  obtain ⟨keys, hok⟩ := hmade.mpr (by decide)
  obtain ⟨hseconds, hmints⟩ := htokens keys hok
  obtain ⟨haccessMint, hrefreshMint⟩ :=
    hmints SigningKeys.twinStamp SigningKeys.twinId "a@x.org" .empty
  exact ⟨keys, hseconds, haccessMint, hrefreshMint⟩

end TokenAuth
