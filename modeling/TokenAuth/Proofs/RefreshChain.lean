import TokenAuth.Proofs.Lifetime

/-!
# Chains of refreshes

A login and the refreshes after it, each with the refresh token of the last response. The refresh
token stays the one of the login, so nothing is issued after it has expired, and what is issued
expires one access lifetime later. Main statement: `refreshing_never_extends`.
-/

namespace TokenAuth

open Outcome

/-! ### Seconds -/

namespace Span

def oneSecond : Span := ⟨1000000000, by decide, by decide⟩

/-- A positive span without a rest is one second or more. -/
theorem wholeSeconds_pos {d : Span} (hpos : 0 < d.nanoseconds) (hwhole : d.restNanoseconds = 0) :
    0 < d.wholeSeconds := by
  have hsplit := Int.mul_tdiv_add_tmod d.nanoseconds 1000000000
  simp only [restNanoseconds] at hwhole
  simp only [wholeSeconds]
  omega

end Span

namespace Instant

instance : LE Instant where
  le t u := t.seconds < u.seconds ∨ (t.seconds = u.seconds ∧ t.nanos ≤ u.nanos)

instance (t u : Instant) : Decidable (t ≤ u) :=
  inferInstanceAs (Decidable (t.seconds < u.seconds ∨ (t.seconds = u.seconds ∧ t.nanos ≤ u.nanos)))

theorem seconds_le_of_le {t u : Instant} (h : t ≤ u) : t.seconds ≤ u.seconds := by
  rcases h with h | ⟨h, -⟩
  · exact Int.le_of_lt h
  · exact Int.le_of_eq h

/-- A whole number of seconds is added to the unix second, also in a leap second. -/
theorem seconds_add?_of_whole {t u : Instant} {d : Span} (hpos : 0 < d.nanoseconds)
    (hwhole : d.restNanoseconds = 0) (h : t.add? d = some u) :
    u.seconds = t.seconds + d.wholeSeconds := by
  have hsplit := Int.mul_tdiv_add_tmod d.nanoseconds 1000000000
  rw [seconds_add? hpos h, t.seconds_eq, Span.wholeSeconds]
  rw [Span.restNanoseconds] at hwhole
  omega

/-- A full second or more lies between two instants. -/
def FullSecondBefore (t u : Instant) : Prop := ∃ next, t.add? .oneSecond = some next ∧ next ≤ u

theorem FullSecondBefore.seconds_lt {t u : Instant} (h : t.FullSecondBefore u) :
    t.seconds < u.seconds := by
  obtain ⟨next, hnext, hle⟩ := h
  have hseconds : next.seconds = t.seconds + 1 :=
    seconds_add?_of_whole (by decide) (by decide) hnext
  have hlast := seconds_le_of_le hle
  omega

end Instant

namespace SignIn

open SigningKeys

/-! ### Visits and what they issue -/

/-- A call at one instant, with what chance gives to it and the directory as it is by then. -/
structure Visit (σ : Type) where
  at_ : Instant
  accessDraw : Draw
  refreshDraw : Draw
  work : Work
  directory : Directory.Service σ
  state : σ

def Visit.moment {σ : Type} (visit : Visit σ) : Moment :=
  ⟨.steady visit.at_, visit.accessDraw, visit.refreshDraw, visit.work⟩

/-- The tokens of a response, and when they were issued. -/
structure Issue where
  at_ : Instant
  tokens : TokenResponse

variable {σ : Type}

def loginAt (service : SignIn) (visit : Visit σ) (email password : String) :
    Except AuthError TokenResponse :=
  ((service.login visit.moment email password).run visit.directory visit.state).result

def refreshAt (service : SignIn) (visit : Visit σ) (token : String) :
    Except AuthError TokenResponse :=
  ((service.refresh visit.moment token).run visit.directory visit.state).result

/-- What refreshes issue one after the other, each with the refresh token of the last response. One
that fails issues nothing and leaves its caller with the token it has. -/
def refreshes (service : SignIn) (token : String) : List (Visit σ) → List Issue
  | [] => []
  | visit :: visits =>
    match service.refreshAt visit token with
    | .ok tokens => ⟨visit.at_, tokens⟩ :: service.refreshes tokens.refreshToken visits
    | .error _ => service.refreshes token visits

variable {service : SignIn} {token : String} {visit : Visit σ} {visits : List (Visit σ)}

theorem sublist_refreshes :
    ((service.refreshes token visits).map Issue.at_).Sublist (visits.map Visit.at_) := by
  induction visits generalizing token with
  | nil => exact .slnil
  | cons visit visits ih =>
    unfold refreshes
    split
    · exact ih.cons_cons visit.at_
    · exact ih.cons visit.at_

/-! ### One issue -/

/-- The unix second that an access token names as its expiry. -/
def ExpiresAt (token : String) (second : Int) : Prop :=
  ∃ claims e, Token.claims? token = some claims ∧ claims.exp = some e ∧ e.toInt = second

/-- An issue that comes with one and the same refresh token, until a unix second. -/
structure Issue.Within (service : SignIn) (refreshToken : String) (last : Int) (issue : Issue) :
    Prop where
  refreshToken_eq : issue.tokens.refreshToken = refreshToken
  at_le : issue.at_.seconds ≤ last
  expires : ExpiresAt issue.tokens.accessToken
    (issue.at_.seconds + service.keys.accessTtl.wholeSeconds)
  refused : ∀ now, issue.at_.seconds + service.keys.accessTtl.wholeSeconds < now →
    ∃ reason, service.keys.parseAccessToken now issue.tokens.accessToken =
      .error (.invalidToken reason)

theorem access_within {stamp : Stamp} {id : UserId} {email : String} {roles : Roles}
    (hwhole : service.keys.accessTtl.restNanoseconds = 0)
    (h : service.keys.createAccessToken stamp id email roles = .ok token) :
    ExpiresAt token (stamp.now.seconds + service.keys.accessTtl.wholeSeconds) ∧
      ∀ now, stamp.now.seconds + service.keys.accessTtl.wholeSeconds < now →
        ∃ reason, service.keys.parseAccessToken now token = .error (.invalidToken reason) := by
  obtain ⟨expiry, hexpiry, rfl⟩ := createAccessToken_eq_ok_iff.mp h
  have hseconds := Instant.seconds_add?_of_whole service.keys.accessTtl_pos hwhole hexpiry
  rw [← hseconds]
  constructor
  · exact ⟨_, _, Token.Handler.claims?_encode _ (Claims.isPayload_payload _ _)
      (readable_issued_access expiry), rfl, expiry.toInt_seconds⟩
  · intro now hlate
    apply parseAccessToken_of_ne_ok
    intro claims hparse
    have hlive := (parseAccessToken_access_iff.mp hparse).2.2
    omega

/-- A refresh issues nothing after the expiry of its token, and gives the token back. -/
theorem within_of_refreshAt {stamp : Stamp} {expiry : Instant} {order : Json.Listing} {id : UserId}
    {email : String} {tokens : TokenResponse}
    (hwhole : service.keys.accessTtl.restNanoseconds = 0)
    (htoken : token = service.keys.refreshHandler.encode
      ((service.keys.issued stamp expiry email (refreshExtra id)).payload order))
    (h : service.refreshAt visit token = .ok tokens) :
    Issue.Within service token expiry.seconds ⟨visit.at_, tokens⟩ := by
  obtain ⟨grant, hread, hfinish⟩ := result_refresh_eq_ok_iff.mp h
  obtain ⟨claims, hparse, -⟩ := readRefreshToken_eq_ok_iff.mp hread
  obtain ⟨c, -, -, -, haccess, -, hsame⟩ := finishRefresh_eq_ok_iff.mp hfinish
  obtain ⟨hexpires, hrefused⟩ := access_within hwhole haccess
  rw [htoken] at hparse
  exact ⟨hsame, (parseRefreshToken_refresh_iff.mp hparse).2.2, hexpires, hrefused⟩

/-! ### All issues -/

theorem within_of_mem_refreshes {stamp : Stamp} {expiry : Instant} {order : Json.Listing}
    {id : UserId} {email : String} (hwhole : service.keys.accessTtl.restNanoseconds = 0)
    (htoken : token = service.keys.refreshHandler.encode
      ((service.keys.issued stamp expiry email (refreshExtra id)).payload order)) :
    ∀ issue ∈ service.refreshes token visits, issue.Within service token expiry.seconds := by
  -- The token that is presented is the same at every visit, since each issue gives it back.
  induction visits with
  | nil => exact fun _ h => nomatch h
  | cons visit visits ih =>
    intro issue hissue
    unfold refreshes at hissue
    split at hissue
    · next tokens hrefresh =>
      have hwithin := within_of_refreshAt hwhole htoken hrefresh
      rcases List.mem_cons.mp hissue with rfl | hissue
      · exact hwithin
      · rw [hwithin.refreshToken_eq] at hissue
        exact ih issue hissue
    · exact ih issue hissue

theorem within_of_loginAt (visits : List (Visit σ)) {email password : String} {first : TokenResponse}
    (haccess : service.keys.accessTtl.restNanoseconds = 0)
    (hrefresh : service.keys.refreshTtl.restNanoseconds = 0)
    (h : service.loginAt visit email password = .ok first) :
    ∀ issue ∈ ⟨visit.at_, first⟩ :: service.refreshes first.refreshToken visits,
      issue.Within service first.refreshToken
        (visit.at_.seconds + service.keys.refreshTtl.wholeSeconds) := by
  obtain ⟨c, id, -, -, -, -, -, haccessToken, hrefreshToken, -⟩ := finishLogin_eq_ok_iff.mp h
  obtain ⟨expiry, hexpiry, htoken⟩ := createRefreshToken_eq_ok_iff.mp hrefreshToken
  have hseconds : expiry.seconds = visit.at_.seconds + service.keys.refreshTtl.wholeSeconds :=
    Instant.seconds_add?_of_whole service.keys.refreshTtl_pos hrefresh hexpiry
  intro issue hissue
  rcases List.mem_cons.mp hissue with rfl | hissue
  · obtain ⟨hexpires, hrefused⟩ := access_within haccess haccessToken
    have hpos := Span.wholeSeconds_pos service.keys.refreshTtl_pos hrefresh
    exact ⟨rfl, by dsimp only; omega, hexpires, hrefused⟩
  · rw [← hseconds]
    exact within_of_mem_refreshes haccess htoken issue hissue

/-- **Refreshing never extends a login.** With lifetimes of whole seconds, every response after a
login carries its refresh token and comes no later than that token's expiry. Every access token is
refused once an access lifetime has passed after that, and their expiries follow the order of their
issues: strictly where these lie a full second apart. -/
theorem refreshing_never_extends (service : SignIn) (visit : Visit σ) (email password : String)
    (first : TokenResponse) (visits : List (Visit σ))
    (haccess : service.keys.accessTtl.restNanoseconds = 0)
    (hrefresh : service.keys.refreshTtl.restNanoseconds = 0)
    (hlogin : service.loginAt visit email password = .ok first)
    (hordered : (visit :: visits).Pairwise fun earlier later => earlier.at_ ≤ later.at_) :
    (∀ issue ∈ ⟨visit.at_, first⟩ :: service.refreshes first.refreshToken visits,
      issue.tokens.refreshToken = first.refreshToken ∧
      issue.at_.seconds ≤ visit.at_.seconds + service.keys.refreshTtl.wholeSeconds ∧
      ∀ now, visit.at_.seconds + service.keys.refreshTtl.wholeSeconds +
          service.keys.accessTtl.wholeSeconds < now →
        ∃ reason, service.keys.parseAccessToken now issue.tokens.accessToken =
          .error (.invalidToken reason)) ∧
    (⟨visit.at_, first⟩ :: service.refreshes first.refreshToken visits).Pairwise
      fun earlier later => ∃ e e', ExpiresAt earlier.tokens.accessToken e ∧
        ExpiresAt later.tokens.accessToken e' ∧ e ≤ e' ∧
        (earlier.at_.FullSecondBefore later.at_ → e < e') := by
  have hwithin := within_of_loginAt visits haccess hrefresh hlogin
  constructor
  · intro issue hissue
    have h := hwithin issue hissue
    refine ⟨h.refreshToken_eq, h.at_le, fun now hlate => h.refused now ?_⟩
    have hlast := h.at_le
    omega
  · have htimes : ((⟨visit.at_, first⟩ :: service.refreshes first.refreshToken visits).map
        Issue.at_).Pairwise (· ≤ ·) := by
      have hvisits : ((visit :: visits).map Visit.at_).Pairwise (· ≤ ·) :=
        List.pairwise_map.mpr hordered
      exact hvisits.sublist (sublist_refreshes.cons_cons visit.at_)
    refine List.Pairwise.imp_of_mem ?_ (List.pairwise_map.mp htimes)
    intro earlier later hearlier hlater hle
    refine ⟨_, _, (hwithin earlier hearlier).expires, (hwithin later hlater).expires, ?_, ?_⟩
    · have hseconds := Instant.seconds_le_of_le hle
      omega
    · intro hapart
      have hseconds := hapart.seconds_lt
      omega

/-! ### A chain of two refreshes, the second too late -/

def twinVisit (at_ : Instant) (c : Credentials) : Visit Unit :=
  ⟨at_, twinStamp.toDraw, twinStamp.toDraw, twinStamp.random, directoryOf c, ()⟩

/-- One second after the login, when the account has another email and other roles. -/
def nextVisit : Visit Unit :=
  twinVisit ((twinStamp.now.add? .oneSecond).get rfl)
    { twinAccount with email := "b@x.org", roles := ⟨true, true⟩ }

/-- When the refresh token of the login has been expired for a second. -/
def lateVisit : Visit Unit :=
  twinVisit ((nextVisit.at_.add? twinKeys.refreshTtl).get rfl) twinAccount

theorem refreshes_twin {first : TokenResponse}
    (h : twinService.loginAt (twinVisit twinStamp.now twinAccount) "a@x.org" "correct horse" =
      .ok first) :
    ∃ tokens, twinService.refreshes first.refreshToken [nextVisit, lateVisit] =
      [⟨nextVisit.at_, tokens⟩] := by
  obtain ⟨c, id, hfound, -, hid, -, -, -, hrefresh, -⟩ := finishLogin_eq_ok_iff.mp h
  cases hfound
  cases hid
  obtain ⟨expiry, hexpiry, htoken⟩ := createRefreshToken_eq_ok_iff.mp hrefresh
  have hseconds : expiry.seconds = 1700604800 :=
    Instant.seconds_add?_of_whole (by decide) (by decide) hexpiry
  have hnext : ∃ tokens, twinService.refreshAt nextVisit first.refreshToken = .ok tokens ∧
      tokens.refreshToken = first.refreshToken := by
    have hserves := refreshesUntil_refresh htoken (by omega) (by decide)
    obtain ⟨tokens, hok, hsame, -⟩ := hserves.refreshed nextVisit.moment Unit nextVisit.directory ()
      { twinAccount with email := "b@x.org", roles := ⟨true, true⟩ } _
      (by rw [hseconds]; decide) (by decide) rfl rfl rfl rfl
    exact ⟨tokens, hok, hsame⟩
  have hlate : ∃ e, twinService.refreshAt lateVisit first.refreshToken = .error e := by
    obtain ⟨reason, hread⟩ := readRefreshToken_of_expired (m := lateVisit.moment) htoken
      (by rw [hseconds]; decide)
    refine ⟨.invalidToken reason, ?_⟩
    rw [refreshAt, run_refresh_of_error hread]
  obtain ⟨tokens, hok, hsame⟩ := hnext
  obtain ⟨e, herror⟩ := hlate
  refine ⟨tokens, ?_⟩
  simp only [refreshes, hok, hsame, herror]

theorem twin_refreshing_never_extends :
    ∃ first tokens,
      twinService.loginAt (twinVisit twinStamp.now twinAccount) "a@x.org" "correct horse" =
        .ok first ∧
      twinService.refreshes first.refreshToken [nextVisit, lateVisit] =
        [⟨nextVisit.at_, tokens⟩] ∧
      tokens.refreshToken = first.refreshToken ∧
      ∃ e e', ExpiresAt first.accessToken e ∧ ExpiresAt tokens.accessToken e' ∧ e < e' := by
  obtain ⟨first, hlogin⟩ : ∃ first, twinService.loginAt (twinVisit twinStamp.now twinAccount)
      "a@x.org" "correct horse" = .ok first := exists_login_twin
  obtain ⟨tokens, hissues⟩ := refreshes_twin hlogin
  have hchain := refreshing_never_extends twinService (twinVisit twinStamp.now twinAccount) "a@x.org"
    "correct horse" first [nextVisit, lateVisit] (by decide) (by decide) hlogin (by decide)
  rw [hissues] at hchain
  obtain ⟨hall, hpairs⟩ := hchain
  refine ⟨first, tokens, hlogin, hissues, (hall ⟨nextVisit.at_, tokens⟩ (by simp)).1, ?_⟩
  obtain ⟨e, e', hfirst, hnext, -, hlt⟩ :=
    (List.pairwise_cons.mp hpairs).1 ⟨nextVisit.at_, tokens⟩ (by simp)
  exact ⟨e, e', hfirst, hnext, hlt ⟨nextVisit.at_, rfl, .inr ⟨rfl, Nat.le_refl _⟩⟩⟩

end SignIn

end TokenAuth
