import TokenAuth.Http.Endpoint

/-! The service as its callers see it: every request leads to one response. -/

namespace TokenAuth.Http

open Directory (Consult)

namespace Request

/-- The path of a request without its query. -/
def resource (request : Request) : String :=
  String.ofList (request.path.toList.takeWhile fun c => c != '?' && c != '#')

def endpoint? (request : Request) : Option Endpoint := Endpoint.ofPath? request.resource

end Request

namespace Response

/-- What a response depends on, for caches. -/
def varying (response : Response) : Response :=
  response.withHeader "vary" "origin, access-control-request-method, access-control-request-headers"

/-- Lets pages of any origin read a response and its headers. -/
def shared (response : Response) : Response :=
  (response.varying.withHeader "access-control-allow-origin" "*").withHeader
    "access-control-expose-headers" "*"

/-- Tells a page of any origin that it may send any request. -/
def preflight : Response :=
  (((empty .ok).varying.withHeader "access-control-allow-origin" "*").withHeader
    "access-control-allow-methods" "*").withHeader "access-control-allow-headers" "*"

/-- Names the methods of an endpoint that was asked for another one. -/
def withAllow (endpoint : Endpoint) (method : String) (response : Response) : Response :=
  if endpoint.allows method then response
  else response.withHeader "allow" (",".intercalate endpoint.methods)

/-- A response to HEAD has no body. -/
def forMethod (method : String) (response : Response) : Response :=
  if method = "HEAD" then { response with body := [] } else response

end Response

namespace Api

/-- The response to a request before what all responses share. -/
def route (service : SignIn) (m : SignIn.Moment) (request : Request) : Consult Response :=
  match request.endpoint? with
  | none => .done (.empty .notFound)
  | some endpoint => endpoint.handle service m request

/-- The response to a request. -/
def answer (service : SignIn) (m : SignIn.Moment) (request : Request) : Consult Response :=
  let response : Consult Response :=
    if request.method = "OPTIONS" then .done .preflight
    else (route service m request).map fun r => (r.forMethod request.method).shared
  match request.endpoint? with
  | none => response
  | some endpoint => response.map (·.withAllow endpoint request.method)

end Api

end TokenAuth.Http
