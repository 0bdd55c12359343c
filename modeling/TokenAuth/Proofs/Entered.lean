import TokenAuth.Proofs.Grounds
import TokenAuth.Proofs.Posted
import TokenAuth.Proofs.Refused

/-!
# What is entered

A login form with both fields filled in, a refresh form with a token, a registration that holds:
what is answered to them, and which calls the directory gets. Everything else that is sent to their
endpoints is answered at once.
-/

namespace TokenAuth

open Directory (Consult)

namespace Http

namespace Request

/-- A request that posts a login form with an email, the blanks around it left off, and a
password. -/
def SignsIn (request : Request) (email password : String) : Prop :=
  ∃ form, request.Posts .login Form.loginFields form ∧ Text.trim (form.get "email") = email ∧
    form.get "password" = password ∧ email ≠ "" ∧ password ≠ ""

/-- A request that posts a refresh form with a token, the blanks around it left off. -/
def Presents (request : Request) (token : String) : Prop :=
  ∃ form, request.Posts .refresh Form.refreshFields form ∧
    Text.trim (form.get "refreshToken") = token ∧ token ≠ ""

/-- A request that posts more of JSON to an endpoint than a body may have. -/
structure PostsTooMuch (request : Request) (endpoint : Endpoint) : Prop where
  endpoint_eq : request.endpoint? = some endpoint
  method_eq : request.method = "POST"
  json : request.hasJson = true
  too_long : bodyLimit < request.body.length

/-- A request that posts a registration form that holds on a day. -/
def Registers (request : Request) (today : Int) (form : Form) (r : Registration) : Prop :=
  request.Posts .register Form.registerFields form ∧ form.registration today = .ok r

end Request

namespace Response

theorem status_forMethod (response : Response) (method : String) :
    (response.forMethod method).shared.status = response.status := by
  unfold forMethod
  split <;> rfl

theorem status_withAllow (response : Response) (endpoint : Endpoint) (method : String) :
    (response.withAllow endpoint method).status = response.status := by
  unfold withAllow
  split <;> rfl

end Response

namespace Api

variable {service : SignIn} {m : SignIn.Moment} {request : Request} {email password token : String}
variable {σ : Type} {directory : Directory.Service σ} {s : σ}

theorem answer_signsIn (h : request.SignsIn email password) :
    answer service m request = .find email fun found =>
      .done (respond .ok TokenResponse.toJson (service.finishLogin m password found)).shared := by
  obtain ⟨form, hpost, rfl, rfl, hemail, hpassword⟩ := h
  rw [answer_login hpost, Endpoint.handleLogin]
  simp only [hemail, hpassword, or_self, if_false]
  rfl

theorem run_signsIn (h : request.SignsIn email password) :
    (answer service m request).run directory s =
      ⟨(respond .ok TokenResponse.toJson
          (service.finishLogin m password (directory.find email s).1)).shared,
        [.find email], (directory.find email s).2⟩ := by
  rw [answer_signsIn h]
  rfl

theorem answer_presents (h : request.Presents token) :
    answer service m request =
      ((service.refresh m token).map (respond .ok TokenResponse.toJson)).map Response.shared := by
  obtain ⟨form, hpost, rfl, htoken⟩ := h
  rw [answer_refresh hpost, Endpoint.handleRefresh]
  simp only [htoken, if_false]

theorem run_presents_of_ok {grant : SignIn.Grant} (h : request.Presents token)
    (hread : service.readRefreshToken m token = .ok grant) :
    (answer service m request).run directory s =
      ⟨(respond .ok TokenResponse.toJson
          (service.finishRefresh m token grant (directory.find grant.email s).1)).shared,
        [.find grant.email], (directory.find grant.email s).2⟩ := by
  rw [answer_presents h, Consult.run_map, Consult.run_map, SignIn.run_refresh_of_ok hread]

theorem run_presents_of_error {e : AuthError} (h : request.Presents token)
    (hread : service.readRefreshToken m token = .error e) :
    (answer service m request).run directory s = ⟨e.refusal, [], s⟩ := by
  rw [answer_presents h, Consult.run_map, Consult.run_map, SignIn.run_refresh_of_error hread]
  rfl

theorem run_registers_of_ok {form : Form} {r : Registration} {hashed : String}
    (h : request.Registers m.now.day form r)
    (hhash : service.hashPassword m.work r.password = .ok hashed) :
    (answer service m request).run directory s =
      ⟨(respond .created RegisteredUser.toJson
          ((directory.create (.ofRegistration r hashed) s).1.mapError AuthError.ofFault)).shared,
        [.create (.ofRegistration r hashed)], (directory.create (.ofRegistration r hashed) s).2⟩ := by
  obtain ⟨hpost, hread⟩ := h
  rw [answer_register hpost, Endpoint.handleRegister_of_ok hread, Consult.run_map, Consult.run_map,
    SignIn.run_register_of_ok hhash]

theorem run_registers_of_error {form : Form} {r : Registration} {e : AuthError}
    (h : request.Registers m.now.day form r)
    (hhash : service.hashPassword m.work r.password = .error e) :
    (answer service m request).run directory s = ⟨e.refusal, [], s⟩ := by
  obtain ⟨hpost, hread⟩ := h
  rw [answer_register hpost, Endpoint.handleRegister_of_ok hread, Consult.run_map, Consult.run_map,
    SignIn.run_register_of_error hhash]
  rfl

/-- A body that is too large is refused before anything in it is looked at. -/
theorem answer_postsTooMuch {endpoint : Endpoint} (hmethods : endpoint.methods = ["POST"])
    (h : request.PostsTooMuch endpoint) :
    answer service m request = .done BodyFault.tooLarge.response.shared := by
  have hallows : endpoint.allows "POST" = true := by
    rw [Endpoint.allows, hmethods]
    rfl
  have hform (names : List String) : request.form names = .error .tooLarge := by
    simp [Request.form, h.json, h.too_long]
  rw [answer_of_post h.endpoint_eq h.method_eq hallows]
  cases endpoint with
  | health | me => exact absurd hmethods (by decide)
  | register | login | refresh =>
    simp only [Endpoint.handle, Endpoint.guarded, h.method_eq, hallows, if_true, Endpoint.withForm,
      hform]
    rfl

/-! ### Everything else -/

/-- An answer that is given at once, and not for a fault of the service. -/
def Immediate (consult : Consult Response) : Prop :=
  ∃ response, consult = .done response ∧ response.status.code < 500

theorem immediate_unprocessable (message : String) : Immediate (unprocessable message) :=
  ⟨_, rfl, show 422 < 500 by decide⟩

theorem Immediate.run {consult : Consult Response} (h : Immediate consult)
    (directory : Directory.Service σ) (s : σ) :
    (consult.run directory s).calls = [] ∧ (consult.run directory s).state = s ∧
      (consult.run directory s).result.status.code < 500 := by
  obtain ⟨response, rfl, hstatus⟩ := h
  exact ⟨rfl, rfl, hstatus⟩

theorem Immediate.map {consult : Consult Response} (h : Immediate consult) {f : Response → Response}
    (hf : ∀ response, (f response).status = response.status) : Immediate (consult.map f) := by
  obtain ⟨response, rfl, hstatus⟩ := h
  exact ⟨f response, rfl, by rwa [hf]⟩

theorem immediate_answer {endpoint : Endpoint} (hendpoint : request.endpoint? = some endpoint)
    (h : Immediate (endpoint.handle service m request)) : Immediate (answer service m request) := by
  have hallow (response : Response) := response.status_withAllow endpoint request.method
  simp only [answer, route, hendpoint]
  split
  · exact Immediate.map ⟨_, rfl, show 200 < 500 by decide⟩ hallow
  · exact (h.map fun response => response.status_forMethod request.method).map hallow

/-- An endpoint of forms looks at nothing but a form that is posted. -/
theorem posts_or_immediate {endpoint : Endpoint} (hendpoint : request.endpoint? = some endpoint)
    (hmethods : endpoint.methods = ["POST"]) (names : List String)
    (handle : Form → Consult Response) :
    (∃ form, request.Posts endpoint names form) ∨
      Immediate (endpoint.guarded request (Endpoint.withForm request names handle)) := by
  by_cases hmethod : request.method = "POST"
  · cases hform : request.form names with
    | ok form => exact .inl ⟨form, hendpoint, hmethod, hform⟩
    | error fault =>
      refine .inr ⟨fault.response, ?_, ?_⟩
      · simp [Endpoint.guarded, Endpoint.allows, hmethods, hmethod, Endpoint.withForm, hform]
      · rcases fault with _ | _ | fault
        · exact show 415 < 500 by decide
        · exact show 413 < 500 by decide
        · cases fault <;> decide
  · refine .inr ⟨.empty .methodNotAllowed, ?_, show 405 < 500 by decide⟩
    simp [Endpoint.guarded, Endpoint.allows, hmethods, hmethod]

theorem signsIn_or_immediate (h : request.endpoint? = some .login) :
    (∃ email password, request.SignsIn email password) ∨ Immediate (answer service m request) := by
  rcases posts_or_immediate h rfl Form.loginFields (Endpoint.handleLogin service m) with
    ⟨form, hpost⟩ | himmediate
  · by_cases hblank : Text.trim (form.get "email") = "" ∨ form.get "password" = ""
    · refine .inr ?_
      rw [answer_login hpost, Endpoint.handleLogin, if_pos hblank]
      exact (immediate_unprocessable _).map fun _ => rfl
    · rw [not_or] at hblank
      exact .inl ⟨_, _, form, hpost, rfl, rfl, hblank⟩
  · exact .inr (immediate_answer h himmediate)

theorem presents_or_immediate (h : request.endpoint? = some .refresh) :
    (∃ token, request.Presents token) ∨ Immediate (answer service m request) := by
  rcases posts_or_immediate h rfl Form.refreshFields (Endpoint.handleRefresh service m) with
    ⟨form, hpost⟩ | himmediate
  · by_cases hblank : Text.trim (form.get "refreshToken") = ""
    · refine .inr ?_
      rw [answer_refresh hpost, Endpoint.handleRefresh, if_pos hblank]
      exact (immediate_unprocessable _).map fun _ => rfl
    · exact .inl ⟨_, form, hpost, rfl, hblank⟩
  · exact .inr (immediate_answer h himmediate)

theorem registers_or_immediate (h : request.endpoint? = some .register) :
    (∃ form r, request.Registers m.now.day form r) ∨ Immediate (answer service m request) := by
  rcases posts_or_immediate h rfl Form.registerFields (Endpoint.handleRegister service m) with
    ⟨form, hpost⟩ | himmediate
  · cases hread : form.registration m.now.day with
    | ok r => exact .inl ⟨form, r, hpost, hread⟩
    | error e =>
      refine .inr ?_
      rw [answer_register hpost, Endpoint.handleRegister_of_error hread]
      exact (immediate_unprocessable _).map fun _ => rfl
  · exact .inr (immediate_answer h himmediate)

end Api

end Http

end TokenAuth
