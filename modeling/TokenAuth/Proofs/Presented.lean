import TokenAuth.Http.Api
import TokenAuth.Proofs.Grounds
import TokenAuth.Proofs.Separation

/-!
# What a token can be presented as

Whatever the keys, a token that entitles to a refresh opens nothing as an access token, and an
access token entitles to no refresh: both readers read the same claims, and those have one type.
-/

namespace TokenAuth

namespace Token

/-- A token that is signed and has claims is visible throughout, so it survives being sent in a
header. -/
theorem visible_of_signed {secret : SigningSecret} {token : String} {claims : Claims}
    (hsigned : Signed secret token) (hclaims : claims? token = some claims) :
    ∀ b ∈ utf8 token, 0x20 < b.toNat ∧ b.toNat < 0x7F := by
  obtain ⟨parts, header, hparts, hheader, -, hsignature⟩ := hsigned
  obtain ⟨doc, hdoc, -⟩ := Option.bind_eq_some_iff.mp hclaims
  simp only [payloadDoc?, hparts, Option.bind_eq_bind, Option.bind_some,
    Option.bind_eq_some_iff] at hdoc
  obtain ⟨payload, hpayload, -⟩ := hdoc
  have hjoin := (Compact.split?_eq_some_iff.mp hparts).1
  -- Two segments decode and the third is a code that was encoded, so all three are Base64 texts.
  obtain ⟨header', payload', signature'⟩ := parts
  obtain rfl : header' = encodeSegment header := decodeSegment?_eq_some_iff.mp hheader
  obtain rfl : payload' = encodeSegment payload := decodeSegment?_eq_some_iff.mp hpayload
  have hcode : signature' = encodeSegment _ := hsignature
  rw [hjoin, hcode]
  exact Compact.visible_join header payload _

theorem utf8_ne_nil_of_signed {secret : SigningSecret} {token : String}
    (hsigned : Signed secret token) : utf8 token ≠ [] := by
  obtain ⟨parts, header, hparts, -⟩ := hsigned
  rw [(Compact.split?_eq_some_iff.mp hparts).1, Compact.join]
  simp

end Token

/-! ### Bearers -/

namespace Http

theorem Header.text?_of_visible {s : String}
    (h : ∀ b ∈ utf8 s, 0x20 ≤ b.toNat ∧ b.toNat < 0x7F) : Header.text? (utf8 s) = some s := by
  have hall : (utf8 s).all Header.isTextByte = true := by
    rw [List.all_eq_true]
    intro b hb
    have hbyte := h b hb
    simp only [Header.isTextByte, Bool.or_eq_true, Bool.and_eq_true, decide_eq_true_eq,
      UInt8.le_iff_toNat_le]
    exact .inl ⟨hbyte.1, Nat.le_of_lt_succ hbyte.2⟩
  rw [Header.text?, if_pos hall, ofAscii_utf8 fun b hb => by have := h b hb; omega]

/-- A printable bearer is read without the blanks around it. -/
theorem Request.bearerToken_of_printable {request : Request} {text token : String}
    (hheader : request.header? "authorization" = some (utf8 ("Bearer " ++ text)))
    (hprintable : ∀ b ∈ utf8 text, 0x20 ≤ b.toNat ∧ b.toNat < 0x7F)
    (htrim : Text.trim text = token) (hne : token ≠ "") : request.bearerToken = .ok token := by
  have htext : Header.text? (utf8 ("Bearer " ++ text)) = some ("Bearer " ++ text) := by
    apply Header.text?_of_visible
    intro b hb
    rw [utf8_append, List.mem_append] at hb
    rcases hb with hb | hb
    · have hlead : ∀ b ∈ utf8 "Bearer ", 0x20 ≤ b.toNat ∧ b.toNat < 0x7F := by decide +kernel
      exact hlead b hb
    · exact hprintable b hb
  simp only [bearerToken, hheader, htext, Text.afterLead?_append, Option.map_some, htrim, hne,
    if_false]

theorem Request.bearerToken_of_signed {request : Request} {secret : SigningSecret} {token : String}
    {claims : Claims}
    (hheader : request.header? "authorization" = some (utf8 ("Bearer " ++ token)))
    (hsigned : Token.Signed secret token) (hclaims : Token.claims? token = some claims) :
    request.bearerToken = .ok token := by
  have hvisible := Token.visible_of_signed hsigned hclaims
  refine bearerToken_of_printable hheader (fun b hb => ?_) (Text.trim_of_visible hvisible) ?_
  · exact ⟨Nat.le_of_lt (hvisible b hb).1, (hvisible b hb).2⟩
  · rintro rfl
    exact Token.utf8_ne_nil_of_signed hsigned rfl

theorem Request.bearerClaims_of_bearerToken {request : Request} {keys : SigningKeys} {now : Int}
    {token : String} (h : request.bearerToken = .ok token) :
    request.bearerClaims keys now =
      (keys.parseAccessToken now token).mapError fun _ => .rejected := by
  rw [bearerClaims, h]
  rfl

theorem Api.answer_me_of_error {service : SignIn} {m : SignIn.Moment} {request : Request}
    {fault : BearerFault} (hendpoint : request.endpoint? = some .me)
    (hmethod : request.method = "GET")
    (h : request.bearerClaims service.keys m.now.seconds = .error fault) :
    answer service m request = .done fault.response.shared := by
  have hallows : Endpoint.me.allows "GET" = true := by decide
  simp only [answer, route, hendpoint, hmethod, Endpoint.handle, Endpoint.handleMe, h,
    Directory.Consult.map, Response.withAllow, hallows, if_true]
  rfl

end Http

/-! ### One kind at a time -/

namespace SigningKeys

variable {keys : SigningKeys} {token : String} {claims : Claims} {now now' : Int}

theorem isRefresh_iff : isRefresh claims = true ↔ claims.extraText? "typ" = some "refresh" :=
  beq_iff_eq

theorem signed_of_parseRefreshToken (h : keys.parseRefreshToken now token = .ok claims) :
    Token.Signed keys.refreshKey token ∧ Token.claims? token = some claims := by
  have hread := Token.Handler.decode_eq_ok_iff.mp (parseRefreshToken_eq_ok_iff.mp h)
  exact ⟨hread.1, hread.2.1⟩

theorem signed_of_parseAccessToken (h : keys.parseAccessToken now token = .ok claims) :
    Token.Signed keys.accessKey token ∧ Token.claims? token = some claims := by
  have hread := Token.Handler.decode_eq_ok_iff.mp (parseAccessToken_eq_ok_iff.mp h).1
  exact ⟨hread.1, hread.2.1⟩

theorem claims_eq_of_parse {read : Claims}
    (hrefresh : keys.parseRefreshToken now token = .ok claims)
    (haccess : keys.parseAccessToken now' token = .ok read) : claims = read := by
  have hclaims := (signed_of_parseRefreshToken hrefresh).2
  have hread := (signed_of_parseAccessToken haccess).2
  exact Option.some.inj (hclaims.symm.trans hread)

theorem parseAccessToken_of_refresh (hrefresh : keys.parseRefreshToken now token = .ok claims)
    (htype : claims.extraText? "typ" = some "refresh") (now' : Int) :
    ∃ e, keys.parseAccessToken now' token = .error e := by
  cases haccess : keys.parseAccessToken now' token with
  | error e => exact ⟨e, rfl⟩
  | ok read =>
    obtain rfl := claims_eq_of_parse hrefresh haccess
    rw [← isRefresh_iff, (parseAccessToken_eq_ok_iff.mp haccess).2] at htype
    exact Bool.noConfusion htype

theorem parseRefreshToken_eq_error {e : AuthError}
    (h : keys.parseRefreshToken now token = .error e) : ∃ reason, e = .invalidToken reason := by
  rw [parseRefreshToken] at h
  cases hdecode : keys.refreshHandler.decode now token with
  | error rejection =>
    rw [hdecode] at h
    exact ⟨_, (Except.error.inj h).symm⟩
  | ok claims =>
    rw [hdecode] at h
    simp [Outcome.mapError_ok] at h

end SigningKeys

namespace SignIn

open Directory

variable {service : SignIn} {m : Moment} {token : String}

theorem readRefreshToken_of_access {now : Int} {claims : Claims}
    (haccess : service.keys.parseAccessToken now token = .ok claims) :
    service.readRefreshToken m token = .error .notARefreshToken ∨
      ∃ reason, service.readRefreshToken m token = .error (.invalidToken reason) := by
  rw [readRefreshToken]
  cases hrefresh : service.keys.parseRefreshToken m.now.seconds token with
  | ok read =>
    obtain rfl := SigningKeys.claims_eq_of_parse hrefresh haccess
    have htype := (SigningKeys.parseAccessToken_eq_ok_iff.mp haccess).2
    exact .inl (by simp [grantOf, htype])
  | error e =>
    obtain ⟨reason, rfl⟩ := SigningKeys.parseRefreshToken_eq_error hrefresh
    cases service.keys.parseAccessToken m.later.seconds token with
    | ok _ => exact .inl rfl
    | error _ => exact .inr ⟨reason, rfl⟩

theorem bearerClaims_of_refresh {now now' : Int} {claims : Claims} {request : Http.Request}
    (hrefresh : service.keys.parseRefreshToken now token = .ok claims)
    (htype : claims.extraText? "typ" = some "refresh")
    (hheader : request.header? "authorization" = some (utf8 ("Bearer " ++ token))) :
    request.bearerClaims service.keys now' = .error .rejected := by
  obtain ⟨hsigned, hclaims⟩ := SigningKeys.signed_of_parseRefreshToken hrefresh
  obtain ⟨e, he⟩ := SigningKeys.parseAccessToken_of_refresh hrefresh htype now'
  have htoken := Http.Request.bearerToken_of_signed hheader hsigned hclaims
  rw [Http.Request.bearerClaims_of_bearerToken htoken, he, Outcome.mapError_error]

/-- **No token serves in both ways, whatever the keys.** One that is refreshed, or is read as a
refresh token and marked as one, is never read as an access token, and its bearer is turned away. One
that is ever read as an access token is never refreshed, and the directory is not asked. -/
theorem token_of_one_kind (service : SignIn) (token : String) :
    ((∃ m : Moment, (∃ (σ : Type) (directory : Service σ) (s : σ) (response : TokenResponse),
          ((service.refresh m token).run directory s).result = .ok response) ∨
        ∃ claims, service.keys.parseRefreshToken m.now.seconds token = .ok claims ∧
          claims.extraText? "typ" = some "refresh") →
      (∀ now, ∃ e, service.keys.parseAccessToken now token = .error e) ∧
      ∀ (m : Moment) (request : Http.Request), request.endpoint? = some .me →
        request.method = "GET" →
        request.header? "authorization" = some (utf8 ("Bearer " ++ token)) →
        ∃ response, Http.Api.answer service m request = .done response ∧
          response.status = .unauthorized) ∧
    ((∃ now claims, service.keys.parseAccessToken now token = .ok claims) →
      ∀ (m : Moment) (σ : Type) (directory : Service σ) (s : σ),
        ((service.refresh m token).run directory s).calls = [] ∧
        (((service.refresh m token).run directory s).result = .error .notARefreshToken ∨
          ∃ reason, ((service.refresh m token).run directory s).result =
            .error (.invalidToken reason))) := by
  constructor
  · rintro ⟨m, hpresented⟩
    have hparse : ∃ claims, service.keys.parseRefreshToken m.now.seconds token = .ok claims ∧
        claims.extraText? "typ" = some "refresh" := by
      rcases hpresented with ⟨σ, directory, s, response, hrun⟩ | hparse
      · obtain ⟨grant, hread, -⟩ := result_refresh_eq_ok_iff.mp hrun
        obtain ⟨claims, hparse, htype, -⟩ := readRefreshToken_eq_ok_iff.mp hread
        exact ⟨claims, hparse, htype⟩
      · exact hparse
    obtain ⟨claims, hrefresh, htype⟩ := hparse
    refine ⟨SigningKeys.parseAccessToken_of_refresh hrefresh htype, ?_⟩
    intro m' request hendpoint hmethod hheader
    have hclaims : request.bearerClaims service.keys m'.now.seconds = .error .rejected :=
      bearerClaims_of_refresh hrefresh htype hheader
    exact ⟨_, Http.Api.answer_me_of_error hendpoint hmethod hclaims, rfl⟩
  · rintro ⟨now, claims, haccess⟩ m σ directory s
    rcases readRefreshToken_of_access (m := m) haccess with hread | ⟨reason, hread⟩
    · rw [run_refresh_of_error hread]
      exact ⟨rfl, .inl rfl⟩
    · rw [run_refresh_of_error hread]
      exact ⟨rfl, .inr ⟨reason, rfl⟩⟩

def twinService : SignIn := ⟨SigningKeys.twinKeys, .bcrypt⟩

def twinMoment : Moment :=
  ⟨SigningKeys.twinStamp.now, SigningKeys.twinStamp.toDraw, SigningKeys.twinStamp.toDraw,
    SigningKeys.twinStamp.random⟩

theorem hashPassword_twin (password : String) :
    twinService.hashPassword twinMoment.work password =
      .ok (Password.hash .bcrypt SigningKeys.twinStamp.random password) :=
  hashPassword_eq_ok_iff.mpr ⟨rfl, _, rfl, rfl⟩

/-- The two kinds stay apart under keys that make the same codes. -/
theorem twin_tokens_of_one_kind :
    ∃ refreshToken accessToken,
      twinService.keys.createRefreshToken twinMoment.refreshStamp SigningKeys.twinId "a@x.org" =
        .ok refreshToken ∧
      (∀ now, ∃ e, twinService.keys.parseAccessToken now refreshToken = .error e) ∧
      twinService.keys.createAccessToken twinMoment.accessStamp SigningKeys.twinId "a@x.org"
        .empty = .ok accessToken ∧
      ∀ (m : Moment) (σ : Type) (directory : Service σ) (s : σ),
        ((twinService.refresh m accessToken).run directory s).calls = [] := by
  have hrefresh : twinMoment.now.add? twinService.keys.refreshTtl =
      some ⟨1700604800, 0, by decide, by decide, by decide, by decide⟩ := rfl
  have haccess : twinMoment.later.add? twinService.keys.accessTtl =
      some ⟨1700000900, 0, by decide, by decide, by decide, by decide⟩ := rfl
  refine ⟨_, _, SigningKeys.createRefreshToken_eq_ok_iff.mpr ⟨_, hrefresh, rfl⟩, ?_,
    SigningKeys.createAccessToken_eq_ok_iff.mpr ⟨_, haccess, rfl⟩, ?_⟩
  · refine ((token_of_one_kind twinService _).1 ⟨twinMoment, .inr ⟨_,
      SigningKeys.parseRefreshToken_refresh_iff.mpr ⟨rfl, ?_, ?_⟩,
      SigningKeys.isRefresh_iff.mp SigningKeys.isRefresh_issued_refresh⟩⟩).1
    · decide
    · decide
  · intro m σ directory s
    refine ((token_of_one_kind twinService _).2 ⟨1700000000, _,
      SigningKeys.parseAccessToken_access_iff.mpr ⟨rfl, ?_, ?_⟩⟩ m σ directory s).1
    · decide
    · decide

end SignIn

end TokenAuth
