import TokenAuth.Http.Bearer
import TokenAuth.Http.Form
import TokenAuth.Http.Problem
import TokenAuth.SignIn

/-! What each endpoint does with a request. -/

namespace TokenAuth.Http

open Directory (Consult)

inductive Endpoint
  | health
  | register
  | login
  | refresh
  | me
deriving DecidableEq

namespace Endpoint

def path : Endpoint → String
  | health => "/health"
  | register => "/auth/register"
  | login => "/auth/login"
  | refresh => "/auth/refresh"
  | me => "/auth/me"

def all : List Endpoint := [health, register, login, refresh, me]

def ofPath? (path : String) : Option Endpoint := all.find? fun e => e.path == path

/-- The methods that an endpoint knows. -/
def methods : Endpoint → List String
  | health | me => ["GET", "HEAD"]
  | register | login | refresh => ["POST"]

def allows (endpoint : Endpoint) (method : String) : Bool := endpoint.methods.contains method

end Endpoint

/-- Why the fields of a registration form make no registration. -/
inductive RegisterFormError
  | birthDate (fault : DateFault)
  | sex
  | registration (e : RegistrationError)
deriving DecidableEq

namespace RegisterFormError

def message : RegisterFormError → String
  | birthDate fault => s!"Birth date must be an ISO date (YYYY-MM-DD): {fault.message}"
  | sex => "Sex must be MALE or FEMALE"
  | registration e => e.message

end RegisterFormError

namespace Form

def registerFields : List String :=
  ["email", "password", "firstName", "lastName", "birthDate", "sex"]

def loginFields : List String := ["email", "password"]

def refreshFields : List String := ["refreshToken"]

/-- The registration that a form asks for on the day `today`. The date is looked at first, then
the sex, then the rest. -/
def registration (form : Form) (today : Int) : Except RegisterFormError Registration := do
  let birthDate ← (Date.read (Text.trim (form.get "birthDate"))).mapError .birthDate
  let sex ← match Text.trim (form.get "sex") with
    | "MALE" => .ok Sex.male
    | "FEMALE" => .ok Sex.female
    | _ => .error RegisterFormError.sex
  (Registration.check today ⟨form.get "email", form.get "password", form.get "firstName",
    form.get "lastName", birthDate, sex⟩).mapError .registration

end Form

/-- The response to the result of a sign-in, a refresh or a registration. -/
def respond {α : Type} (status : Status) (toJson : α → Json) : Except AuthError α → Response
  | .ok a => .json status (toJson a)
  | .error e => (Problem.ofAuthError e).response

def unprocessable (message : String) : Consult Response :=
  .done (Problem.unprocessable message).response

namespace Endpoint

def healthResponse : Response := .json .ok (.obj [("status", .str "ok")])

def handleRegister (service : SignIn) (m : SignIn.Moment) (form : Form) : Consult Response :=
  match form.registration m.now.day with
  | .error e => unprocessable e.message
  | .ok registration =>
    (service.register m registration).map (respond .created RegisteredUser.toJson)

/-- The blanks around an email do not count; those of a password do. -/
def handleLogin (service : SignIn) (m : SignIn.Moment) (form : Form) : Consult Response :=
  let email := Text.trim (form.get "email")
  let password := form.get "password"
  if email = "" ∨ password = "" then unprocessable "Email and password are mandatory"
  else (service.login m email password).map (respond .ok TokenResponse.toJson)

def handleRefresh (service : SignIn) (m : SignIn.Moment) (form : Form) : Consult Response :=
  let token := Text.trim (form.get "refreshToken")
  if token = "" then unprocessable "Refresh token is mandatory"
  else (service.refresh m token).map (respond .ok TokenResponse.toJson)

/-- Refuses a method that the endpoint does not know. -/
def guarded (endpoint : Endpoint) (request : Request) (answer : Consult Response) :
    Consult Response :=
  if endpoint.allows request.method then answer else .done (.empty .methodNotAllowed)

def withForm (request : Request) (names : List String) (handle : Form → Consult Response) :
    Consult Response :=
  match request.form names with
  | .error fault => .done fault.response
  | .ok form => handle form

/-- Shows the claims of the caller's token, the extra ones in the order that chance gives. Who the
caller is comes before the method. -/
def handleMe (service : SignIn) (m : SignIn.Moment) (request : Request) : Consult Response :=
  match request.bearerClaims service.keys m.now.seconds with
  | .error fault => .done fault.response
  | .ok claims => me.guarded request (.done (.json .ok (claims.payload m.accessDraw.order)))

def handle (endpoint : Endpoint) (service : SignIn) (m : SignIn.Moment) (request : Request) :
    Consult Response :=
  match endpoint with
  | health => health.guarded request (.done healthResponse)
  | register =>
    register.guarded request (withForm request Form.registerFields (handleRegister service m))
  | login => login.guarded request (withForm request Form.loginFields (handleLogin service m))
  | refresh =>
    refresh.guarded request (withForm request Form.refreshFields (handleRefresh service m))
  | me => handleMe service m request

end Endpoint

end TokenAuth.Http
