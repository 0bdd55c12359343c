import TokenAuth.Proofs.Contact

/-!
# How a presented text is judged

A text that is presented as a refresh token is read by two readers, and what is answered depends on
their verdict alone: texts that both reject are turned away with the same bytes, whatever is wrong
with them. Main statement: `rejected_texts_look_alike`.
-/

namespace TokenAuth

open Outcome Directory

/-! ### Requests with a bearer -/

namespace Http

/-- A request for the caller's claims, with a printable text as its bearer. -/
structure Request.Bears (request : Request) (token : String) : Prop where
  endpoint_eq : request.endpoint? = some .me
  method_eq : request.method = "GET"
  header_eq : request.header? "authorization" = some (utf8 ("Bearer " ++ token))
  printable : ∀ b ∈ utf8 token, 0x20 ≤ b.toNat ∧ b.toNat < 0x7F
  trimmed : Text.trim token = token
  ne_empty : token ≠ ""

variable {service : SignIn} {m : SignIn.Moment} {request : Request} {token : String}

theorem Request.bearerToken_of_bears (h : request.Bears token) :
    request.bearerToken = .ok token :=
  bearerToken_of_printable h.header_eq h.printable h.trimmed h.ne_empty

theorem Api.answer_bears (h : request.Bears token) {e : AuthError}
    (hread : service.keys.parseAccessToken m.now.seconds token = .error e) :
    answer service m request = .done BearerFault.rejected.response.shared := by
  apply answer_me_of_error h.endpoint_eq h.method_eq
  rw [Request.bearerClaims_of_bearerToken (Request.bearerToken_of_bears h), hread, mapError_error]

/-! ### Requests to refresh nothing -/

/-- What is answered to a request to refresh that presents nothing: it is called a bad request only
if its body is no form, and then in plain text. -/
theorem Api.answer_of_not_presents (hendpoint : request.endpoint? = some .refresh)
    (hnone : ∀ token, ¬request.Presents token) :
    ∃ response, answer service m request = .done response ∧
      (response.status ≠ .badRequest ∨ response.headers.head? =
        some ⟨"content-type", utf8 "text/plain; charset=utf-8"⟩) := by
  by_cases hmethod : request.method = "POST"
  · cases hform : request.form Form.refreshFields with
    | error fault =>
      refine ⟨fault.response.shared, ?_, .inr rfl⟩
      rw [answer_of_post hendpoint hmethod rfl]
      simp only [Endpoint.handle, Endpoint.guarded, Endpoint.withForm, hform, hmethod]
      rfl
    | ok form =>
      have hpost : request.Posts .refresh Form.refreshFields form := ⟨hendpoint, hmethod, hform⟩
      have hblank : Text.trim (form.get "refreshToken") = "" :=
        Decidable.of_not_not fun hne => hnone _ ⟨form, hpost, rfl, hne⟩
      refine ⟨(Problem.unprocessable "Refresh token is mandatory").response.shared, ?_,
        .inl (show Status.unprocessable ≠ .badRequest by decide)⟩
      rw [answer_refresh hpost, Endpoint.handleRefresh, if_pos hblank]
      rfl
  · by_cases hoptions : request.method = "OPTIONS"
    · refine ⟨Response.preflight.withAllow .refresh "OPTIONS", ?_, .inl (by decide)⟩
      simp only [answer, hendpoint, hoptions, if_true, Consult.map]
    · have hmethods : Endpoint.refresh.allows request.method = false := by
        simp [Endpoint.allows, Endpoint.methods, hmethod]
      refine ⟨((Response.empty .methodNotAllowed).forMethod request.method).shared.withAllow
        .refresh request.method, ?_, .inl ?_⟩
      · simp only [answer, route, hendpoint, hoptions, Endpoint.handle, Endpoint.guarded, hmethods,
          Consult.map, if_false, Bool.false_eq_true]
      · rw [Response.status_withAllow, Response.status_forMethod]
        exact show Status.methodNotAllowed ≠ .badRequest by decide

end Http

namespace SignIn

/-! ### Verdicts -/

/-- What two readers make of a text that is presented as a refresh token. -/
inductive Verdict
  | proceeds
  | otherKind
  | rejected

/-- How a text is judged: by the type of what the reader of refresh tokens takes, and by the reader
of access tokens for the rest. -/
inductive Judged (service : SignIn) (m : Moment) (token : String) : Verdict → Prop
  | refresh {claims : Claims}
      (hrefresh : service.keys.parseRefreshToken m.now.seconds token = .ok claims)
      (htype : claims.extraText? "typ" = some "refresh") : Judged service m token .proceeds
  | untyped {claims : Claims}
      (hrefresh : service.keys.parseRefreshToken m.now.seconds token = .ok claims)
      (htype : claims.extraText? "typ" ≠ some "refresh") : Judged service m token .otherKind
  | access {e : AuthError} {claims : Claims}
      (hrefresh : service.keys.parseRefreshToken m.now.seconds token = .error e)
      (haccess : service.keys.parseAccessToken m.later.seconds token = .ok claims) :
      Judged service m token .otherKind
  | neither {e e' : AuthError}
      (hrefresh : service.keys.parseRefreshToken m.now.seconds token = .error e)
      (haccess : service.keys.parseAccessToken m.later.seconds token = .error e') :
      Judged service m token .rejected

/-- What a refresh ends in after a verdict. -/
def Verdict.Ends {σ : Type} (run : Run (Except AuthError TokenResponse) σ) : Verdict → Prop
  | proceeds => run.result ≠ .error .notARefreshToken ∧
      ∀ reason, run.result ≠ .error (.invalidToken reason)
  | otherKind => run.result = .error .notARefreshToken ∧ run.calls = []
  | rejected => (∃ reason, run.result = .error (.invalidToken reason)) ∧ run.calls = []

variable {service : SignIn} {m : Moment} {token : String} {verdict : Verdict}
variable {σ : Type} {directory : Service σ} {s : σ} {request : Http.Request}

theorem exists_judged (service : SignIn) (m : Moment) (token : String) :
    ∃ verdict, service.Judged m token verdict := by
  cases hrefresh : service.keys.parseRefreshToken m.now.seconds token with
  | ok claims =>
    by_cases htype : claims.extraText? "typ" = some "refresh"
    · exact ⟨_, .refresh hrefresh htype⟩
    · exact ⟨_, .untyped hrefresh htype⟩
  | error e =>
    cases haccess : service.keys.parseAccessToken m.later.seconds token with
    | ok claims => exact ⟨_, .access hrefresh haccess⟩
    | error e' => exact ⟨_, .neither hrefresh haccess⟩

theorem readRefreshToken_of_otherKind (h : service.Judged m token .otherKind) :
    service.readRefreshToken m token = .error .notARefreshToken := by
  cases h with
  | untyped hrefresh htype =>
    rw [ne_eq, ← SigningKeys.isRefresh_iff, Bool.not_eq_true] at htype
    simp only [readRefreshToken, hrefresh, grantOf, htype]
    rfl
  | access hrefresh haccess => simp only [readRefreshToken, hrefresh, haccess]

theorem readRefreshToken_of_rejected (h : service.Judged m token .rejected) :
    ∃ reason, service.readRefreshToken m token = .error (.invalidToken reason) := by
  cases h with
  | neither hrefresh haccess =>
    obtain ⟨reason, rfl⟩ := SigningKeys.parseRefreshToken_eq_error hrefresh
    exact ⟨reason, by simp only [readRefreshToken, hrefresh, haccess]⟩

theorem grantOf_of_isRefresh {claims : Claims} (h : SigningKeys.isRefresh claims = true) :
    (∃ grant, grantOf claims = .ok grant) ∨
      grantOf claims = .error .invalidRefreshTokenPayload := by
  unfold grantOf
  rw [h, Bool.not_true, if_neg Bool.false_ne_true]
  split
  · exact .inr rfl
  · split
    · exact .inr rfl
    · split
      · exact .inr rfl
      · exact .inl ⟨_, rfl⟩

theorem readRefreshToken_of_proceeds (h : service.Judged m token .proceeds) :
    (∃ grant, service.readRefreshToken m token = .ok grant) ∨
      service.readRefreshToken m token = .error .invalidRefreshTokenPayload := by
  cases h with
  | refresh hrefresh htype =>
    rw [readRefreshToken, hrefresh]
    exact grantOf_of_isRefresh (SigningKeys.isRefresh_iff.mpr htype)

theorem ends_of_judged (h : service.Judged m token verdict) (directory : Service σ) (s : σ) :
    verdict.Ends ((service.refresh m token).run directory s) := by
  cases verdict with
  | otherKind =>
    rw [run_refresh_of_error (readRefreshToken_of_otherKind h)]
    exact ⟨rfl, rfl⟩
  | rejected =>
    obtain ⟨reason, hread⟩ := readRefreshToken_of_rejected h
    rw [run_refresh_of_error hread]
    exact ⟨⟨reason, rfl⟩, rfl⟩
  | proceeds =>
    rcases readRefreshToken_of_proceeds h with ⟨grant, hread⟩ | hread
    · rw [run_refresh_of_ok hread]
      have hkind {e : AuthError} (htoken : e.OfToken) :
          service.finishRefresh m token grant (directory.find grant.email s).1 ≠ .error e :=
        fun hfinish => kind_of_finishRefresh hfinish htoken rfl
      exact ⟨hkind (.inr (.inl rfl)), fun reason => hkind (.inl ⟨reason, rfl⟩)⟩
    · rw [run_refresh_of_error hread]
      exact ⟨by simp, by simp⟩

theorem judged_unique {verdict' : Verdict} (h : service.Judged m token verdict)
    (h' : service.Judged m token verdict') : verdict = verdict' := by
  cases h <;> cases h' <;> simp_all

/-- A text of the other kind is signed under one of the keys, and has not expired. -/
theorem signed_of_otherKind (h : service.Judged m token .otherKind) : ∃ claims,
    Token.claims? token = some claims ∧
      (Token.Signed service.keys.refreshKey token ∧ Token.LiveAt m.now.seconds claims ∨
        Token.Signed service.keys.accessKey token ∧ Token.LiveAt m.later.seconds claims) := by
  cases h with
  | untyped hrefresh _ =>
    obtain ⟨hsigned, hclaims, hlive, -⟩ := Token.Handler.decode_eq_ok_iff.mp
      (SigningKeys.parseRefreshToken_eq_ok_iff.mp hrefresh)
    exact ⟨_, hclaims, .inl ⟨hsigned, hlive⟩⟩
  | access _ haccess =>
    obtain ⟨hsigned, hclaims, hlive, -⟩ := Token.Handler.decode_eq_ok_iff.mp
      (SigningKeys.parseAccessToken_eq_ok_iff.mp haccess).1
    exact ⟨_, hclaims, .inr ⟨hsigned, hlive⟩⟩

/-! ### What is answered -/

theorem run_presents_of_rejected (hpresents : request.Presents token)
    (h : service.Judged m token .rejected) :
    (Http.Api.answer service m request).run directory s =
      ⟨(AuthError.invalidToken "").refusal, [], s⟩ := by
  obtain ⟨reason, hread⟩ := readRefreshToken_of_rejected h
  rw [Http.Api.run_presents_of_error hpresents hread]
  rfl

/-- A text is called no refresh token only if it was presented and is of the other kind. -/
theorem otherKind_of_refusal (hendpoint : request.endpoint? = some .refresh)
    (hresult : ((Http.Api.answer service m request).run directory s).result =
      AuthError.notARefreshToken.refusal) :
    ∃ token, request.Presents token ∧ service.Judged m token .otherKind := by
  by_cases hnone : ∀ token, ¬request.Presents token
  · obtain ⟨response, hanswer, hplain⟩ : ∃ response,
        Http.Api.answer service m request = .done response ∧
          (response.status ≠ .badRequest ∨ response.headers.head? =
            some ⟨"content-type", utf8 "text/plain; charset=utf-8"⟩) :=
      Http.Api.answer_of_not_presents hendpoint hnone
    rw [hanswer] at hresult
    obtain rfl : response = AuthError.notARefreshToken.refusal := hresult
    rcases hplain with hstatus | hheader
    · exact absurd rfl hstatus
    · exact absurd hheader (by decide)
  · obtain ⟨token, hpresents⟩ := Classical.not_forall.mp hnone
    rw [Classical.not_not] at hpresents
    obtain ⟨verdict, hjudged⟩ := exists_judged service m token
    have hkind {e : AuthError} (h : e.refusal = AuthError.notARefreshToken.refusal) :
        e.kind = "NOT_A_REFRESH_TOKEN" := AuthError.kind_eq_of_refusal_eq h
    cases verdict with
    | otherKind => exact ⟨token, hpresents, hjudged⟩
    | rejected =>
      rw [run_presents_of_rejected hpresents hjudged] at hresult
      exact absurd (hkind hresult) (by decide)
    | proceeds =>
      rcases readRefreshToken_of_proceeds hjudged with ⟨grant, hread⟩ | hread
      · rw [Http.Api.run_presents_of_ok hpresents hread] at hresult
        obtain ⟨e, hfinish, hkind⟩ := respond_eq_refusal (by decide) hresult
        exact absurd hkind (kind_of_finishRefresh hfinish (.inr (.inl rfl)))
      · rw [Http.Api.run_presents_of_error hpresents hread] at hresult
        exact absurd (hkind hresult) (by decide)

theorem tooLarge_of_postsTooMuch (h : request.PostsTooMuch .refresh) :
    ((Http.Api.answer service m request).run directory s).result.status = .contentTooLarge ∧
      ((Http.Api.answer service m request).run directory s).calls = [] := by
  rw [Http.Api.answer_postsTooMuch rfl h]
  exact ⟨rfl, rfl⟩

theorem body_refusal_invalidToken : (AuthError.invalidToken "").refusal.body =
    utf8 ("\x7b\"status_code\":401,\"data\":\x7b\"message\":\"Invalid token\"," ++
      "\"kind\":\"INVALID_TOKEN\"\x7d\x7d") := by
  decide +kernel

theorem body_rejected : Http.BearerFault.rejected.response.shared.body =
    utf8 "\x7b\"error\":\"Invalid or expired token\"\x7d" := by
  decide +kernel

/-- Two runs that end in one and the same refusal, without a call. -/
structure TurnedAwayAlike {σ σ' : Type} (run : Run Http.Response σ) (run' : Run Http.Response σ')
    (body : String) : Prop where
  result_eq : run.result = run'.result
  status : run.result.status = .unauthorized
  body : run.result.body = utf8 body
  calls : run.calls = []
  calls' : run'.calls = []

/-- **Texts that both readers reject look alike.** Every text is judged in exactly one way, and a
refresh of it ends as it is judged. Two that are rejected are turned away with the same bytes and
without a call, as tokens to refresh and as bearers, whatever is wrong with them. A text that is
called no refresh token is signed under one of the keys and has not expired. What is in a body that
is too large does not matter. -/
theorem rejected_texts_look_alike (service : SignIn) (token token' : String) (m m' : Moment)
    {σ σ' : Type} (directory : Service σ) (directory' : Service σ') (s : σ) (s' : σ') :
    (∃ verdict, service.Judged m token verdict ∧
      ∀ verdict', service.Judged m token verdict' → verdict' = verdict) ∧
    (∀ verdict, service.Judged m token verdict →
      verdict.Ends ((service.refresh m token).run directory s)) ∧
    (Text.trim token = token → token ≠ "" →
      (presenting token).body.length ≤ Http.Request.bodyLimit →
      (presenting token).Presents token) ∧
    (∀ request request', request.Presents token → request'.Presents token' →
      service.Judged m token .rejected → service.Judged m' token' .rejected →
      TurnedAwayAlike ((Http.Api.answer service m request).run directory s)
        ((Http.Api.answer service m' request').run directory' s')
        ("\x7b\"status_code\":401,\"data\":\x7b\"message\":\"Invalid token\"," ++
          "\"kind\":\"INVALID_TOKEN\"\x7d\x7d")) ∧
    (∀ request request' e e', request.Bears token → request'.Bears token' →
      service.keys.parseAccessToken m.now.seconds token = .error e →
      service.keys.parseAccessToken m'.now.seconds token' = .error e' →
      TurnedAwayAlike ((Http.Api.answer service m request).run directory s)
        ((Http.Api.answer service m' request').run directory' s')
        "\x7b\"error\":\"Invalid or expired token\"\x7d") ∧
    (∀ request, request.endpoint? = some .refresh →
      ((Http.Api.answer service m request).run directory s).result =
        AuthError.notARefreshToken.refusal →
      ∃ token claims, request.Presents token ∧ Token.claims? token = some claims ∧
        (Token.Signed service.keys.refreshKey token ∧ Token.LiveAt m.now.seconds claims ∨
          Token.Signed service.keys.accessKey token ∧ Token.LiveAt m.later.seconds claims)) ∧
    (∀ request : Http.Request, request.PostsTooMuch .refresh →
      ((Http.Api.answer service m request).run directory s).result.status = .contentTooLarge ∧
        ((Http.Api.answer service m request).run directory s).calls = []) := by
  refine ⟨?_, fun verdict h => ends_of_judged h directory s, presents_presenting, ?_, ?_, ?_,
    fun request => tooLarge_of_postsTooMuch⟩
  · obtain ⟨verdict, hjudged⟩ := exists_judged service m token
    exact ⟨verdict, hjudged, fun verdict' h => judged_unique h hjudged⟩
  · intro request request' hpresents hpresents' h h'
    rw [run_presents_of_rejected hpresents h, run_presents_of_rejected hpresents' h']
    exact ⟨rfl, rfl, body_refusal_invalidToken, rfl, rfl⟩
  · intro request request' e e' hbears hbears' hread hread'
    rw [Http.Api.answer_bears hbears hread, Http.Api.answer_bears hbears' hread']
    exact ⟨rfl, rfl, body_rejected, rfl, rfl⟩
  · intro request hendpoint hresult
    obtain ⟨token, hpresents, hjudged⟩ := otherKind_of_refusal hendpoint hresult
    obtain ⟨claims, hclaims⟩ := signed_of_otherKind hjudged
    exact ⟨token, claims, hpresents, hclaims⟩

/-! ### Some of them -/

/-- A text without a dot is no token. -/
theorem judged_of_dotless (service : SignIn) (m : Moment)
    (h : Token.Compact.dot ∉ utf8 token) : service.Judged m token .rejected := by
  have hunsigned {secret : SigningSecret} : ¬Token.Signed secret token := by
    rintro ⟨parts, -, hparts, -⟩
    simp [Token.Compact.split?, Text.splitLast?_eq_none_iff.mpr h] at hparts
  cases hrefresh : service.keys.parseRefreshToken m.now.seconds token with
  | ok claims => exact absurd (SigningKeys.signed_of_parseRefreshToken hrefresh).1 hunsigned
  | error e =>
    cases haccess : service.keys.parseAccessToken m.later.seconds token with
    | ok claims =>
      have hdecode := (SigningKeys.parseAccessToken_eq_ok_iff.mp haccess).1
      exact absurd (Token.Handler.decode_eq_ok_iff.mp hdecode).1 hunsigned
    | error e' => exact .neither hrefresh haccess

/-- A moment after the twin tokens have expired. -/
def lateMoment : Moment :=
  { twinMoment with clock := .steady ((Instant.ofParts? 1800000000 0).get rfl) }

theorem judged_twinRefreshToken : twinService.Judged lateMoment twinRefreshToken .rejected := by
  cases hrefresh : twinService.keys.parseRefreshToken lateMoment.now.seconds twinRefreshToken with
  | ok claims =>
    obtain ⟨-, -, hlive⟩ := SigningKeys.parseRefreshToken_refresh_iff.mp hrefresh
    exact absurd hlive (by decide)
  | error e =>
    cases haccess : twinService.keys.parseAccessToken lateMoment.later.seconds
        twinRefreshToken with
    | ok claims => exact absurd haccess SigningKeys.parseAccessToken_refresh_ne_ok
    | error e' => exact .neither hrefresh haccess

def bearing (token : String) : Http.Request where
  method := "GET"
  path := "/auth/me"
  headers := [⟨"authorization", utf8 ("Bearer " ++ token)⟩]
  body := []

theorem endpoint?_bearing : (bearing token).endpoint? = some .me :=
  show Http.Endpoint.ofPath? (String.ofList
    ("/auth/me".toList.takeWhile fun c => c != '?' && c != '#')) = some .me by decide

theorem bears_bearing (hvisible : ∀ b ∈ utf8 token, 0x20 < b.toNat ∧ b.toNat < 0x7F)
    (hne : token ≠ "") : (bearing token).Bears token where
  endpoint_eq := endpoint?_bearing
  method_eq := rfl
  header_eq := rfl
  printable b hb := ⟨Nat.le_of_lt (hvisible b hb).1, (hvisible b hb).2⟩
  trimmed := Text.trim_of_visible hvisible
  ne_empty := hne

def twinAccessExpiry : Instant :=
  (SigningKeys.twinStamp.now.add? SigningKeys.twinKeys.accessTtl).get rfl

def twinAccessToken : String :=
  SigningKeys.twinKeys.accessHandler.encode (SigningKeys.twinKeys.issued SigningKeys.twinStamp
    twinAccessExpiry "a@x.org" (SigningKeys.accessExtra SigningKeys.twinId .empty)).toJson

theorem parse_twinAccessToken :
    twinService.keys.parseRefreshToken twinMoment.now.seconds twinAccessToken =
      .ok (SigningKeys.twinKeys.issued SigningKeys.twinStamp twinAccessExpiry "a@x.org"
        (SigningKeys.accessExtra SigningKeys.twinId .empty)) := by
  refine SigningKeys.parseRefreshToken_access_iff.mpr ⟨rfl, ?_, by decide, by decide⟩
  exact congrFun SigningKeys.twinKeys_sha256 _

theorem judged_twinAccessToken : twinService.Judged twinMoment twinAccessToken .otherKind := by
  refine .untyped parse_twinAccessToken fun htype => ?_
  rw [← SigningKeys.isRefresh_iff, SigningKeys.isRefresh_issued_access] at htype
  exact Bool.noConfusion htype

theorem presents_twinAccessToken : (presenting twinAccessToken).Presents twinAccessToken := by
  obtain ⟨hsigned, hclaims⟩ := SigningKeys.signed_of_parseRefreshToken parse_twinAccessToken
  apply presents_of_signed hsigned hclaims
  refine Nat.le_trans (length_presenting_le twinAccessToken) ?_
  rw [twinAccessToken, Token.Handler.length_utf8_encode]
  decide +kernel

theorem visible_twinRefreshToken :
    ∀ b ∈ utf8 twinRefreshToken, 0x20 < b.toNat ∧ b.toNat < 0x7F := by
  obtain ⟨claims, hparse, -⟩ := parse_twinRefreshToken
  obtain ⟨hsigned, hclaims⟩ := SigningKeys.signed_of_parseRefreshToken hparse
  exact Token.visible_of_signed hsigned hclaims

theorem presents_bogus : (presenting "bogus").Presents "bogus" :=
  presents_presenting (by decide) (by decide) (by decide +kernel)

theorem judged_bogus : twinService.Judged twinMoment "bogus" .rejected :=
  judged_of_dotless twinService twinMoment (by decide)

/-- A word and a refresh token that has expired, and an access token that is no refresh token. -/
theorem twin_texts_look_alike :
    TurnedAwayAlike
        ((Http.Api.answer twinService twinMoment (presenting "bogus")).run registry [])
        ((Http.Api.answer twinService lateMoment (presenting twinRefreshToken)).run registry [])
        ("\x7b\"status_code\":401,\"data\":\x7b\"message\":\"Invalid token\"," ++
          "\"kind\":\"INVALID_TOKEN\"\x7d\x7d") ∧
      TurnedAwayAlike
        ((Http.Api.answer twinService twinMoment (bearing "bogus")).run registry [])
        ((Http.Api.answer twinService lateMoment (bearing twinRefreshToken)).run registry [])
        "\x7b\"error\":\"Invalid or expired token\"\x7d" ∧
      ∃ token claims, (presenting twinAccessToken).Presents token ∧
        Token.claims? token = some claims ∧
        (Token.Signed twinService.keys.refreshKey token ∧
            Token.LiveAt twinMoment.now.seconds claims ∨
          Token.Signed twinService.keys.accessKey token ∧
            Token.LiveAt twinMoment.later.seconds claims) := by
  obtain ⟨-, -, -, hpost, hget, -⟩ := rejected_texts_look_alike twinService "bogus"
    twinRefreshToken twinMoment lateMoment registry registry [] []
  refine ⟨?_, ?_, ?_⟩
  · exact hpost _ _ presents_bogus presents_twinRefreshToken judged_bogus judged_twinRefreshToken
  · obtain ⟨-, -, -, hne⟩ := presents_twinRefreshToken
    cases judged_bogus with
    | neither _ haccess =>
      cases judged_twinRefreshToken with
      | neither _ haccess' =>
        exact hget _ _ _ _ (bears_bearing (by decide +kernel) (by decide))
          (bears_bearing visible_twinRefreshToken hne) haccess haccess'
  · obtain ⟨-, -, -, -, -, hrefusal, -⟩ := rejected_texts_look_alike twinService twinAccessToken ""
      twinMoment twinMoment registry registry [] []
    apply hrefusal (presenting twinAccessToken) Http.Request.endpoint?_ofFields
    rw [Http.Api.run_presents_of_error presents_twinAccessToken
      (readRefreshToken_of_otherKind judged_twinAccessToken)]

/-- A text that is as long as a body may be. -/
def oversized : String := ofAscii (List.replicate Http.Request.bodyLimit 0x78)

theorem utf8_oversized : utf8 oversized = List.replicate Http.Request.bodyLimit 0x78 := by
  apply utf8_ofAscii
  intro b hb
  rw [List.eq_of_mem_replicate hb]
  decide

/-- A text that both readers reject is not turned away as others are if its request is too large. -/
theorem oversized_not_alike :
    twinService.Judged twinMoment oversized .rejected ∧ Text.trim oversized = oversized ∧
      oversized ≠ "" ∧ twinService.Judged twinMoment "bogus" .rejected ∧
      ((Http.Api.answer twinService twinMoment (presenting oversized)).run registry
        []).result.status = .contentTooLarge ∧
      ((Http.Api.answer twinService twinMoment (presenting "bogus")).run registry
        []).result.status = .unauthorized := by
  have hvisible : ∀ b ∈ utf8 oversized, 0x20 < b.toNat ∧ b.toNat < 0x7F := by
    intro b hb
    rw [utf8_oversized] at hb
    rw [List.eq_of_mem_replicate hb]
    decide
  refine ⟨judged_of_dotless _ _ ?_, Text.trim_of_visible hvisible, ?_, judged_bogus, ?_, ?_⟩
  · intro hdot
    rw [utf8_oversized] at hdot
    exact absurd (List.eq_of_mem_replicate hdot) (by decide)
  · intro hempty
    have hlength := congrArg (fun s => (utf8 s).length) hempty
    simp only [utf8_oversized, List.length_replicate] at hlength
    exact absurd hlength (by decide)
  · have hsize : Http.Request.bodyLimit < (presenting oversized).body.length := by
      have hescape := Json.length_le_escape (utf8 oversized)
      have hlength : (utf8 oversized).length = Http.Request.bodyLimit := by
        rw [utf8_oversized, List.length_replicate]
      rw [length_presenting]
      omega
    have hpost : (presenting oversized).PostsTooMuch .refresh :=
      ⟨Http.Request.endpoint?_ofFields, rfl, Http.Request.hasJson_ofFields, hsize⟩
    exact (tooLarge_of_postsTooMuch hpost).1
  · rw [run_presents_of_rejected presents_bogus judged_bogus]
    rfl

end SignIn

end TokenAuth
