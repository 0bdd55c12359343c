import TokenAuth.Proofs.Issued
import TokenAuth.Proofs.SecretReading

/-!
# Two keys for two kinds of token

Access and refresh tokens have keys that differ as bytes. What keeps an access token from being read
as a refresh token is that the two keys make different codes for it, and different bytes may make
the same codes; a refresh token is told by its type whatever the keys.
-/

namespace TokenAuth

open Outcome

namespace Hmac

/-- A key that is shorter than a block makes the codes it makes with a zero after it. -/
theorem sha256_append_zero {key : Bytes} (h : key.length < blockSize) :
    sha256 (key ++ [0]) = sha256 key := by
  apply sha256_eq_of_blockKey_eq
  have hkey : blockKey key = key ++ List.replicate (blockSize - key.length) 0 := by
    simp [blockKey, Nat.le_of_lt h]
  have hlength : (key ++ [0]).length ≤ blockSize := by
    rw [List.length_append]
    exact h
  have hzeros : List.replicate (blockSize - key.length) (0 : UInt8) =
      0 :: List.replicate (blockSize - (key ++ [0]).length) 0 := by
    rw [← List.replicate_succ, List.length_append, List.length_singleton]
    congr 1
    omega
  rw [hkey, hzeros, blockKey, if_pos hlength, List.append_assoc]
  rfl

end Hmac

theorem Instant.toInt_seconds (t : Instant) : (Int64.ofInt t.seconds).toInt = t.seconds := by
  have hlower := t.lower
  have hupper := t.upper
  exact Int64.toInt_ofInt_of_le (by omega) (by omega)

namespace SigningKeys

variable {keys : SigningKeys} {stamp : Stamp} {expiry : Instant} {id : UserId} {email : String}
variable {roles : Roles} {extra : Json.Members} {order : Json.Listing} {now : Int}
variable {claims : Claims}

/-! ### Issued claims before readers -/

theorem live_issued_iff :
    Token.LiveAt now (keys.issued stamp expiry email extra) ↔
      0 ≤ expiry.seconds ∧ now ≤ expiry.seconds := by
  have hexact := expiry.toInt_seconds
  simp [Token.LiveAt, issued, hexact]

theorem isRefresh_issued_access :
    isRefresh (keys.issued stamp expiry email (accessExtra id roles)) = false := by
  simp [isRefresh, Claims.extraText?, issued, accessExtra, Json.Members.get?, List.lookup_cons,
    typeClaim, rolesClaim, userIdClaim]

theorem isRefresh_issued_refresh :
    isRefresh (keys.issued stamp expiry email (refreshExtra id)) = true := by
  simp [isRefresh, Claims.extraText?, issued, refreshExtra, Json.Members.get?, typeClaim,
    Json.str?]

/-- What a reader of these keys' names makes of a token with their names, in whatever order its
claims were written. -/
theorem decode_issued_iff {secret : SigningSecret} {writer : Token.Handler}
    {payload : Json} (hpayload : (keys.issued stamp expiry email extra).IsPayload payload)
    (hread : (keys.issued stamp expiry email extra).Readable) :
    (⟨secret, some keys.issuer, some keys.audience⟩ : Token.Handler).decode now
        (writer.encode payload) = .ok claims ↔
      claims = keys.issued stamp expiry email extra ∧
        Hmac.sha256 secret.bytes (Token.Handler.signedText payload) =
          Hmac.sha256 writer.secret.bytes (Token.Handler.signedText payload) ∧
        0 ≤ expiry.seconds ∧ now ≤ expiry.seconds := by
  rw [Token.Handler.decode_encode_eq_ok_iff hpayload hread, live_issued_iff]
  constructor
  · rintro ⟨rfl, hsame, hlive, -⟩
    exact ⟨rfl, hsame, hlive⟩
  · rintro ⟨rfl, hsame, hlive⟩
    exact ⟨rfl, hsame, hlive, Token.names_some_iff.mpr (.inr rfl),
      Token.names_some_iff.mpr (.inr rfl)⟩

theorem parseAccessToken_access_iff :
    keys.parseAccessToken now (keys.accessHandler.encode
        ((keys.issued stamp expiry email (accessExtra id roles)).payload order)) = .ok claims ↔
      claims = keys.issued stamp expiry email (accessExtra id roles) ∧ 0 ≤ expiry.seconds ∧
        now ≤ expiry.seconds := by
  rw [parseAccessToken_eq_ok_iff, accessHandler,
    decode_issued_iff (Claims.isPayload_payload _ _) (readable_issued_access expiry)]
  constructor
  · rintro ⟨⟨rfl, -, hlive⟩, -⟩
    exact ⟨rfl, hlive⟩
  · rintro ⟨rfl, hlive⟩
    exact ⟨⟨rfl, rfl, hlive⟩, isRefresh_issued_access⟩

theorem parseRefreshToken_refresh_iff :
    keys.parseRefreshToken now (keys.refreshHandler.encode
        ((keys.issued stamp expiry email (refreshExtra id)).payload order)) = .ok claims ↔
      claims = keys.issued stamp expiry email (refreshExtra id) ∧ 0 ≤ expiry.seconds ∧
        now ≤ expiry.seconds := by
  rw [parseRefreshToken_eq_ok_iff, refreshHandler,
    decode_issued_iff (Claims.isPayload_payload _ _) (readable_issued_refresh expiry)]
  constructor
  · rintro ⟨rfl, -, hlive⟩
    exact ⟨rfl, hlive⟩
  · rintro ⟨rfl, hlive⟩
    exact ⟨rfl, rfl, hlive⟩

/-- An access token is read as a refresh token where the two keys make the same code for it. -/
theorem parseRefreshToken_access_iff :
    keys.parseRefreshToken now (keys.accessHandler.encode
        ((keys.issued stamp expiry email (accessExtra id roles)).payload order)) = .ok claims ↔
      claims = keys.issued stamp expiry email (accessExtra id roles) ∧
        Hmac.sha256 keys.refreshKey.bytes (Token.Handler.signedText (claims.payload order)) =
          Hmac.sha256 keys.accessKey.bytes (Token.Handler.signedText (claims.payload order)) ∧
        0 ≤ expiry.seconds ∧ now ≤ expiry.seconds := by
  rw [parseRefreshToken_eq_ok_iff, refreshHandler,
    decode_issued_iff (Claims.isPayload_payload _ _) (readable_issued_access expiry)]
  constructor
  · rintro ⟨rfl, hsame, hlive⟩
    exact ⟨rfl, hsame, hlive⟩
  · rintro ⟨rfl, hsame, hlive⟩
    exact ⟨rfl, hsame, hlive⟩

theorem parseAccessToken_refresh_ne_ok :
    keys.parseAccessToken now (keys.refreshHandler.encode
        ((keys.issued stamp expiry email (refreshExtra id)).payload order)) ≠ .ok claims := by
  rw [ne_eq, parseAccessToken_eq_ok_iff, accessHandler,
    decode_issued_iff (Claims.isPayload_payload _ _) (readable_issued_refresh expiry)]
  rintro ⟨⟨rfl, -⟩, hrefresh⟩
  rw [isRefresh_issued_refresh] at hrefresh
  exact Bool.noConfusion hrefresh

/-! ### Keys that are accepted -/

/-- Secrets are refused as shared exactly if they decode to the same bytes. -/
theorem check_eq_sharedSecret_iff {created : Instant}
    {accessSecret refreshSecret issuer audience : String} {accessTtl refreshTtl : Span} :
    check created accessSecret refreshSecret issuer audience accessTtl refreshTtl =
        .error .sharedSecret ↔
      ∃ key, SigningSecret.decode accessSecret = .ok key ∧
        SigningSecret.decode refreshSecret = .ok key := by
  unfold check
  cases haccess : SigningSecret.decode accessSecret with
  | error e => simp [mapError_error, bind, Except.bind]
  | ok accessKey =>
    cases hrefresh : SigningSecret.decode refreshSecret with
    | error e => simp [mapError_ok, mapError_error, bind, Except.bind]
    | ok refreshKey =>
      by_cases hkeys : accessKey = refreshKey
      · simp [mapError_ok, bind, Except.bind, hkeys]
      · have hdiffer : ¬ ∃ key, (.ok accessKey : Except SecretError _) = .ok key ∧
            (.ok refreshKey : Except SecretError _) = .ok key := by
          rintro ⟨key, ⟨⟩, ⟨⟩⟩
          exact hkeys rfl
        simp only [mapError_ok, bind, Except.bind, hkeys, dif_neg, not_false_eq_true, hdiffer,
          iff_false]
        split
        · split <;> simp
        · simp

/-- **Where tokens of one kind are refused by the reader of the other.** An access token is refused
as a refresh token exactly if it has expired or the two keys make different codes for it. A refresh
token is always refused as an access token. Secrets are refused as shared exactly if they decode to
the same bytes, so two that make the same codes only if they are the same. -/
theorem kinds_separate_iff (keys : SigningKeys) (stamp : Stamp) (id : UserId) (email : String)
    (roles : Roles) (now : Int) (created : Instant)
    (accessSecret refreshSecret issuer audience : String) (accessTtl refreshTtl : Span) :
    ((∀ token, keys.createAccessToken stamp id email roles = .ok token →
        ∀ claims, keys.parseRefreshToken now token ≠ .ok claims) ↔
      ∀ expiry, stamp.now.add? keys.accessTtl = some expiry →
        0 ≤ expiry.seconds → now ≤ expiry.seconds →
        Hmac.sha256 keys.refreshKey.bytes (Token.Handler.signedText
            ((keys.issued stamp expiry email (accessExtra id roles)).payload stamp.order)) ≠
          Hmac.sha256 keys.accessKey.bytes (Token.Handler.signedText
            ((keys.issued stamp expiry email (accessExtra id roles)).payload stamp.order))) ∧
    (∀ token, keys.createRefreshToken stamp id email = .ok token →
      ∀ claims, keys.parseAccessToken now token ≠ .ok claims) ∧
    (check created accessSecret refreshSecret issuer audience accessTtl refreshTtl =
        .error .sharedSecret ↔
      ∃ key, SigningSecret.decode accessSecret = .ok key ∧
        SigningSecret.decode refreshSecret = .ok key) ∧
    (∀ accessKey refreshKey, SigningSecret.decode accessSecret = .ok accessKey →
      SigningSecret.decode refreshSecret = .ok refreshKey →
      ((Hmac.sha256 accessKey.bytes = Hmac.sha256 refreshKey.bytes →
          check created accessSecret refreshSecret issuer audience accessTtl refreshTtl =
            .error .sharedSecret) ↔
        (Hmac.sha256 accessKey.bytes = Hmac.sha256 refreshKey.bytes → accessKey = refreshKey))) := by
  -- The token of a stamp is one token, so its expiry and its code decide for it alone.
  refine ⟨⟨?_, ?_⟩, ?_, check_eq_sharedSecret_iff, ?_⟩
  · intro h expiry hexpiry hpos hlive hsame
    exact h _ (createAccessToken_eq_ok_iff.mpr ⟨expiry, hexpiry, rfl⟩) _
      (parseRefreshToken_access_iff.mpr ⟨rfl, hsame, hpos, hlive⟩)
  · intro h token hcreated claims hparse
    obtain ⟨expiry, hexpiry, rfl⟩ := createAccessToken_eq_ok_iff.mp hcreated
    obtain ⟨rfl, hsame, hpos, hlive⟩ := parseRefreshToken_access_iff.mp hparse
    exact h expiry hexpiry hpos hlive hsame
  · intro token hcreated claims
    obtain ⟨expiry, -, rfl⟩ := createRefreshToken_eq_ok_iff.mp hcreated
    exact parseAccessToken_refresh_ne_ok
  · intro accessKey refreshKey haccess hrefresh
    refine imp_congr_right fun _ => ?_
    rw [check_eq_sharedSecret_iff, haccess, hrefresh]
    constructor
    · rintro ⟨key, ⟨⟩, ⟨⟩⟩
      rfl
    · rintro rfl
      exact ⟨accessKey, rfl, rfl⟩

/-! ### Two secrets of one key -/

def plainKey : SigningSecret := ⟨List.replicate 32 0x61, by decide⟩

def paddedKey : SigningSecret := ⟨plainKey.bytes ++ [0], by decide⟩

/-- Keys of different bytes that make the same codes. -/
def twinKeys : SigningKeys where
  accessKey := plainKey
  refreshKey := paddedKey
  issuer := "auth-service"
  audience := "irisinfinity"
  accessTtl := ⟨900000000000, by decide, by decide⟩
  refreshTtl := ⟨604800000000000, by decide, by decide⟩
  keys_ne := by decide
  accessTtl_pos := by decide
  refreshTtl_pos := by decide

theorem twinKeys_sha256 :
    Hmac.sha256 twinKeys.refreshKey.bytes = Hmac.sha256 twinKeys.accessKey.bytes :=
  Hmac.sha256_append_zero (by decide)

/-- A stamp at one second, of no random bits and with the extra claims against their order. -/
def twinStamp : Stamp where
  order := ⟨fun members => members.entries.reverse, fun members => members.entries.reverse_perm⟩
  now := ⟨1700000000, 0, by decide, by decide, by decide, by decide⟩
  random := ⟨List.replicate 16 0, by decide⟩

def twinId : UserId := ⟨⟨List.replicate 16 0, by decide⟩⟩

/-- Two secrets of the same codes are accepted, and then an access token is read as a refresh
token. -/
theorem check_twin_secrets :
    check twinStamp.now (ofAscii (Base64.encode .standard .full plainKey.bytes))
        (ofAscii (Base64.encode .standard .full paddedKey.bytes)) "auth-service" "irisinfinity"
        twinKeys.accessTtl twinKeys.refreshTtl = .ok twinKeys ∧
      Hmac.sha256 plainKey.bytes = Hmac.sha256 paddedKey.bytes ∧
      ∃ token claims, twinKeys.createAccessToken twinStamp twinId "a@x.org" .empty = .ok token ∧
        twinKeys.parseRefreshToken 1700000000 token = .ok claims := by
  refine ⟨?_, twinKeys_sha256.symm, ?_⟩
  · have hkeys : plainKey ≠ paddedKey := by decide
    have hpos : 0 < twinKeys.accessTtl.nanoseconds ∧ 0 < twinKeys.refreshTtl.nanoseconds := by
      decide
    have hrange : ¬ ((twinStamp.now.add? twinKeys.accessTtl).isNone = true ∨
        (twinStamp.now.add? twinKeys.refreshTtl).isNone = true) := by decide
    simp only [check, SigningSecret.decode_encode, mapError_ok, bind, Except.bind, hkeys,
      hpos, hrange, dif_neg, dif_pos, if_false, not_false_eq_true, and_self]
    rfl
  · refine ⟨_, _, createAccessToken_eq_ok_iff.mpr ⟨_, rfl, rfl⟩,
      parseRefreshToken_access_iff.mpr ⟨rfl, ?_, by decide, by decide⟩⟩
    rw [twinKeys_sha256]

end SigningKeys

end TokenAuth
