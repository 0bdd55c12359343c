import TokenAuth.Json.Doc

namespace TokenAuth.Token

/-- The signature algorithms a header can name. -/
inductive Algorithm
  | hs256
  | hs384
  | hs512
  | es256
  | es384
  | rs256
  | rs384
  | rs512
  | ps256
  | ps384
  | ps512
  | edDSA
deriving DecidableEq

namespace Algorithm

def names : List (String × Algorithm) :=
  [("HS256", hs256), ("HS384", hs384), ("HS512", hs512), ("ES256", es256), ("ES384", es384),
   ("RS256", rs256), ("RS384", rs384), ("RS512", rs512), ("PS256", ps256), ("PS384", ps384),
   ("PS512", ps512), ("EdDSA", edDSA)]

def ofDoc? (doc : Json.Doc) : Option Algorithm := doc.choice? names

end Algorithm

/-! A key in a header. Only its shape is checked. -/

namespace HeaderKey

def curves : List (String × Unit) :=
  [("P-256", ()), ("P-384", ()), ("P-521", ()), ("Ed25519", ())]

def algorithms : List (String × Unit) :=
  Algorithm.names.map (fun entry => (entry.1, ())) ++
    [("RSA1_5", ()), ("RSA-OAEP", ()), ("RSA-OAEP-256", ())]

/-- The algorithm of a key. An empty object serves as null does below its name. -/
def algorithm? : Json.Doc → Option Unit
  | .object [(raw, .object [])] => (Json.Doc.text raw).choice? algorithms
  | doc => doc.choice? algorithms

def unit? {α : Type} (read? : Json.Doc → Option α) (doc : Json.Doc) : Option Unit :=
  (read? doc).map fun _ => ()

def text? : Json.Doc → Option Unit := unit? Json.Doc.string?

/-- The members that describe a key of any type. -/
def common : List (String × (Json.Doc → Option Unit)) :=
  [("use", text?), ("key_ops", unit? fun doc => doc.items? text?), ("alg", algorithm?),
   ("kid", text?), ("x5u", text?), ("x5c", unit? fun doc => doc.items? text?), ("x5t", text?),
   ("x5t#S256", text?)]

/-- The members that a key of each type has. -/
def types : List (String × List (String × (Json.Doc → Option Unit))) :=
  [("EC", [("crv", fun doc => doc.choice? curves), ("x", text?), ("y", text?)]),
   ("RSA", [("n", text?), ("e", text?)]),
   ("oct", [("k", text?)]),
   ("OKP", [("crv", fun doc => doc.choice? curves), ("x", text?)])]

def hasType (doc : Json.Doc) (type : String × List (String × (Json.Doc → Option Unit))) : Bool :=
  match doc.objectFields? ("kty" :: type.2.map Prod.fst) with
  | none => false
  | some fields =>
    (fields.required? "kty" fun doc => doc.choice? [(type.1, ())]).isSome &&
      type.2.all fun (name, read?) => (fields.required? name read?).isSome

def ofDoc? (doc : Json.Doc) : Option Unit := do
  let _ ← doc.value? (Json.Doc.maxDepth - 1)
  let fields ← doc.objectFields? (common.map Prod.fst)
  common.forM fun (name, read?) => do
    let _ ← fields.optional? name read?
  if types.any (hasType doc) then some () else none

end HeaderKey

/-- What a header says of its token. Members without a use here are checked for their shape. -/
structure Header where
  algorithm : Algorithm
deriving DecidableEq

namespace Header

def fieldNames : List String :=
  ["typ", "alg", "cty", "jku", "jwk", "kid", "x5u", "x5c", "x5t", "x5t#S256"]

def textNames : List String := ["typ", "cty", "jku", "kid", "x5u", "x5t", "x5t#S256"]

def ofDoc? (doc : Json.Doc) : Option Header := do
  let fields ← doc.recordFields? fieldNames
  textNames.forM fun name => do
    let _ ← fields.optional? name Json.Doc.string?
  let _ ← fields.optional? "jwk" HeaderKey.ofDoc?
  let _ ← fields.optional? "x5c" fun doc => doc.items? Json.Doc.string?
  let algorithm ← fields.required? "alg" Algorithm.ofDoc?
  return ⟨algorithm⟩

def ofBytes? (bs : Bytes) : Option Header := (Json.Doc.ofBytes? bs).bind ofDoc?

end Header

end TokenAuth.Token
