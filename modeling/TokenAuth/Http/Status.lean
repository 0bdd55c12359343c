/-! Status codes. -/

namespace TokenAuth.Http

/-- A status code of three digits. -/
structure Status where
  code : Nat
  lower : 100 ≤ code := by decide
  upper : code ≤ 999 := by decide
deriving DecidableEq

namespace Status

def ofCode? (code : Nat) : Option Status :=
  if h : 100 ≤ code ∧ code ≤ 999 then some ⟨code, h.1, h.2⟩ else none

/-- The codes that have a standard reason phrase. -/
def registered : List Nat :=
  [100, 101, 102, 103, 200, 201, 202, 203, 204, 205, 206, 207, 208, 226, 300, 301, 302, 303, 304,
   305, 307, 308, 400, 401, 402, 403, 404, 405, 406, 407, 408, 409, 410, 411, 412, 413, 414, 415,
   416, 417, 418, 421, 422, 423, 424, 425, 426, 428, 429, 431, 451, 500, 501, 502, 503, 504, 505,
   506, 507, 508, 510, 511]

def isRegistered (s : Status) : Bool := registered.contains s.code

def isSuccess (s : Status) : Bool := 200 ≤ s.code && s.code < 300

/-- Whether the status reports an error of the client or of the server. -/
def isError (s : Status) : Bool := 400 ≤ s.code && s.code < 600

def ok : Status := { code := 200 }

def created : Status := { code := 201 }

def badRequest : Status := { code := 400 }

def unauthorized : Status := { code := 401 }

def notFound : Status := { code := 404 }

def methodNotAllowed : Status := { code := 405 }

def contentTooLarge : Status := { code := 413 }

def unsupportedMediaType : Status := { code := 415 }

def unprocessable : Status := { code := 422 }

def internalError : Status := { code := 500 }

def badGateway : Status := { code := 502 }

def unavailable : Status := { code := 503 }

end Status

end TokenAuth.Http
