import TokenAuth.Json.Canonical
import TokenAuth.Json.Doc
import TokenAuth.Json.Printer
import TokenAuth.Time.Instant

/-! The payload of a token: seven registered claims, and others by name. -/

namespace TokenAuth

/-- The payload of a token: the registered claims and any others by name. -/
structure Claims where
  sub : Option String
  exp : Option Int64
  iat : Option Int64
  nbf : Option Int64
  iss : Option String
  aud : Option String
  jti : Option String
  extra : Json.Members

namespace Claims

def empty : Claims := ⟨none, none, none, none, none, none, none, .empty⟩

def registeredNames : List String := ["sub", "exp", "iat", "nbf", "iss", "aud", "jti"]

/-- The claims of a token issued at an instant, which expires a span later. -/
def issued? (at_ : Instant) (ttl : Span) : Option Claims := do
  let expiry ← at_.add? ttl
  return { empty with
    iat := some (Int64.ofInt at_.seconds)
    exp := some (Int64.ofInt expiry.seconds) }

def withExtra (claims : Claims) (key : String) (value : Json) : Claims :=
  { claims with extra := claims.extra.put key value.canonical }

/-- The text of a claim that is not registered. -/
def extraText? (claims : Claims) (key : String) : Option String :=
  (claims.extra.get? key).bind Json.str?

/-- Registered claims that are present, in their fixed order. -/
def registered (claims : Claims) : List (String × Json) :=
  let text (name : String) (value : Option String) := (value.map fun s => (name, Json.str s)).toList
  let time (name : String) (value : Option Int64) := (value.map fun n => (name, Json.int n)).toList
  text "sub" claims.sub ++ time "exp" claims.exp ++ time "iat" claims.iat ++
    time "nbf" claims.nbf ++ text "iss" claims.iss ++ text "aud" claims.aud ++
    text "jti" claims.jti

/-- Claims as they are written: the registered ones in their fixed order, then the others in the
order of a listing. -/
def payload (claims : Claims) (order : Json.Listing) : Json :=
  .obj (claims.registered ++ order.list claims.extra)

/-- Claims written with the extra ones in the order of their names. -/
def toJson (claims : Claims) : Json := claims.payload .sorted

/-- No claim is both registered and an extra one. -/
def Disjoint (claims : Claims) : Prop :=
  ∀ name ∈ registeredNames, claims.extra.get? name = none

/-- Reads claims from an object. A registered claim may be absent or null and may not be given
twice; all other members are extra claims. -/
def ofDoc? : Json.Doc → Option Claims
  | .object members => do
    let fields ← Json.Doc.named? members
    if Json.Doc.distinctFields registeredNames fields then
      let sub ← fields.optional? "sub" Json.Doc.string?
      let exp ← fields.optional? "exp" Json.Doc.int64?
      let iat ← fields.optional? "iat" Json.Doc.int64?
      let nbf ← fields.optional? "nbf" Json.Doc.int64?
      let iss ← fields.optional? "iss" Json.Doc.string?
      let aud ← fields.optional? "aud" Json.Doc.string?
      let jti ← fields.optional? "jti" Json.Doc.string?
      let others := fields.filter fun field => !registeredNames.contains field.1
      let extra ← others.mapM fun (name, doc) =>
        (doc.value? (Json.Doc.maxDepth - 1)).map fun value => (name, value)
      return ⟨sub, exp, iat, nbf, iss, aud, jti, .ofList extra⟩
    else none
  | _ => none

def ofBytes? (bs : Bytes) : Option Claims := (Json.Doc.ofBytes? bs).bind ofDoc?

end Claims

end TokenAuth
