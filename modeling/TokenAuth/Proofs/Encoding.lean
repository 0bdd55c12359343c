import TokenAuth.Proofs.Decoding

/-!
# What is encoded

An encoded payload is a token of three segments, signed under the key of its writer, and its payload
is read back by whoever reads it.
-/

namespace TokenAuth

namespace Json

theorem membersFloatFree_append {members more : List (String × Json)} :
    MembersFloatFree (members ++ more) ↔ MembersFloatFree members ∧ MembersFloatFree more := by
  induction members with
  | nil => simp [MembersFloatFree]
  | cons member members ih => simp [MembersFloatFree, ih, and_assoc]

theorem membersDepth_append (members more : List (String × Json)) :
    membersDepth (members ++ more) = max (membersDepth members) (membersDepth more) := by
  induction members with
  | nil => simp [membersDepth]
  | cons member members ih => simp [membersDepth, ih, Nat.max_assoc]

theorem membersDepth_optionalMember {α : Type} {name : String} {toJson : α → Json}
    (h : ∀ a, (toJson a).depth = 0) (value : Option α) :
    membersDepth (optionalMember name toJson value) = 0 := by
  cases value with
  | none => rfl
  | some a => simp [optionalMember, membersDepth, h a]

theorem membersFloatFree_optionalMember {α : Type} {name : String} {toJson : α → Json}
    (h : ∀ a, (toJson a).FloatFree) (value : Option α) :
    MembersFloatFree (optionalMember name toJson value) := by
  cases value with
  | none => trivial
  | some a => exact ⟨h a, trivial⟩

end Json

theorem Claims.floatFree_registered (claims : Claims) : Json.MembersFloatFree claims.registered := by
  have htext {name : String} (text : Option String) :
      Json.MembersFloatFree (Json.optionalMember name .str text) :=
    Json.membersFloatFree_optionalMember (fun s => show (Json.str s).FloatFree from trivial) text
  have htime {name : String} (time : Option Int64) :
      Json.MembersFloatFree (Json.optionalMember name .int time) :=
    Json.membersFloatFree_optionalMember (fun n => show (Json.int n).FloatFree from trivial) time
  simp only [registered_eq, Json.membersFloatFree_append, htext, htime, and_self]

theorem Claims.depth_registered (claims : Claims) : Json.membersDepth claims.registered = 0 := by
  have htext {name : String} (text : Option String) :
      Json.membersDepth (Json.optionalMember name .str text) = 0 :=
    Json.membersDepth_optionalMember (fun s => show (Json.str s).depth = 0 from rfl) text
  have htime {name : String} (time : Option Int64) :
      Json.membersDepth (Json.optionalMember name .int time) = 0 :=
    Json.membersDepth_optionalMember (fun n => show (Json.int n).depth = 0 from rfl) time
  simp only [registered_eq, Json.membersDepth_append, htext, htime, Nat.max_self]

namespace Claims

variable {claims : Claims} {payload : Json}

theorem IsPayload.floatFree (hpayload : claims.IsPayload payload)
    (hfree : Json.MembersFloatFree claims.extra.entries) : payload.FloatFree := by
  obtain ⟨extra, hextra, rfl⟩ := hpayload
  exact Json.membersFloatFree_append.mpr
    ⟨claims.floatFree_registered, Json.membersFloatFree_of_perm hextra hfree⟩

theorem IsPayload.depth_eq (hpayload : claims.IsPayload payload) :
    payload.depth = Json.membersDepth claims.extra.entries + 1 := by
  obtain ⟨extra, hextra, rfl⟩ := hpayload
  rw [Json.depth, Json.membersDepth_append, depth_registered, Nat.zero_max,
    Json.membersDepth_of_perm hextra]

theorem IsPayload.depth_le (hpayload : claims.IsPayload payload) (h : claims.Readable) :
    payload.depth ≤ Json.Doc.maxDepth := by
  have hextra := h.depth_le
  rw [hpayload.depth_eq]
  simp only [Json.Doc.maxDepth] at hextra ⊢
  omega

/-- What claims are written as is read back as one object, whatever the order. -/
theorem Readable.ofBytes?_payload (h : claims.Readable) (hpayload : claims.IsPayload payload) :
    Json.ofBytes? payload.render = some claims.toJson.canonical := by
  rw [Json.ofBytes?_render (hpayload.floatFree h.floatFree) (hpayload.depth_le h),
    hpayload.canonical_eq h.disjoint]

end Claims

namespace Token

open Json (fieldsOf)

/-! ### The header -/

/-- The members of the header that is written. -/
def headerMembers : List (String × Json) := [("typ", .str "JWT"), ("alg", .str "HS256")]

theorem recordFields?_headerJson :
    headerJson.doc.recordFields? Header.fieldNames = some (fieldsOf headerMembers) :=
  Json.recordFields?_obj (by decide) (by decide)

theorem Header.ofBytes?_headerJson : Header.ofBytes? headerJson.render = some ⟨.hs256⟩ := by
  have hfree : headerJson.FloatFree := by simp [headerJson, Json.FloatFree, Json.MembersFloatFree]
  have halgorithm : (fieldsOf headerMembers).required? "alg" Algorithm.ofDoc? = some .hs256 := by
    rw [Json.Fields.required?, Json.lookup_fieldsOf]
    simp [headerMembers, Json.doc, Algorithm.ofDoc?, Json.Doc.choice?, Json.textOf?_escape,
      Algorithm.names, List.lookup_cons]
  rw [Header.ofBytes?, Json.Doc.ofBytes?_render hfree, Option.bind_some]
  rw [headerMembers] at halgorithm
  simp [Header.ofDoc?, recordFields?_headerJson, halgorithm, Header.textNames,
    Json.Fields.optional?, Json.lookup_fieldsOf, headerMembers, List.lookup_cons, Json.doc,
    Json.Doc.optional?, Json.Doc.string?, Json.textOf?_escape]


namespace Handler

/-! ### The segments -/

/-- What is signed in the token of a payload, whatever the key. -/
def signedText (payload : Json) : Bytes :=
  encodeSegment headerJson.render ++ Compact.dot :: encodeSegment payload.render

/-- The segments of the token of a payload. -/
def segments (handler : Handler) (payload : Json) : Compact :=
  ⟨encodeSegment headerJson.render, encodeSegment payload.render,
    sign handler.secret.bytes (signedText payload)⟩

theorem utf8_encode (handler : Handler) (payload : Json) :
    utf8 (handler.encode payload) = (handler.segments payload).join := by
  change utf8 (ofAscii (handler.segments payload).join) = _
  apply utf8_ofAscii
  intro b hb
  have hvisible := Compact.visible_join _ _ _ b hb
  omega

/-- How long a token is depends on its payload alone. -/
theorem length_utf8_encode (handler : Handler) (payload : Json) :
    (utf8 (handler.encode payload)).length = (4 * payload.render.length + 2) / 3 + 81 := by
  have hheader : (encodeSegment headerJson.render).length = 36 := by decide +kernel
  rw [utf8_encode]
  simp only [segments, Compact.join, Compact.message, sign, List.length_append, List.length_cons,
    hheader]
  simp only [encodeSegment, Base64.length_encode_none, Hmac.length_sha256]
  omega

theorem split?_encode (handler : Handler) (payload : Json) :
    Compact.split? (utf8 (handler.encode payload)) = some (handler.segments payload) := by
  rw [utf8_encode, Compact.split?_eq_some_iff]
  exact ⟨rfl, dot_not_mem_encodeSegment _, dot_not_mem_encodeSegment _⟩

/-- The token of a payload is signed under each key that makes the same code for it. -/
theorem signed_encode_iff {handler : Handler} {payload : Json} {secret : SigningSecret} :
    Signed secret (handler.encode payload) ↔
      Hmac.sha256 secret.bytes (signedText payload) =
        Hmac.sha256 handler.secret.bytes (signedText payload) := by
  rw [Signed, split?_encode]
  constructor
  · rintro ⟨parts, header, hparts, -, -, hsignature⟩
    obtain rfl := Option.some.inj hparts
    exact (sign_eq_iff.mp hsignature).symm
  · intro hsame
    exact ⟨_, _, rfl, decodeSegment?_eq_some_iff.mpr rfl, Header.ofBytes?_headerJson,
      sign_eq_iff.mpr hsame.symm⟩

theorem signed_encode (handler : Handler) (payload : Json) :
    Signed handler.secret (handler.encode payload) :=
  signed_encode_iff.mpr rfl

/-! ### The payload -/

theorem payloadDoc?_encode (handler : Handler) {payload : Json} (hfree : payload.FloatFree) :
    payloadDoc? (handler.encode payload) = some payload.doc := by
  have hbody : decodeSegment? (handler.segments payload).payload = some payload.render :=
    decodeSegment?_eq_some_iff.mpr rfl
  simp only [payloadDoc?, split?_encode, hbody, Option.bind_eq_bind, Option.bind_some]
  exact Json.Doc.ofBytes?_render hfree

theorem payload?_encode (handler : Handler) {payload : Json} (hfree : payload.FloatFree)
    (hdepth : payload.depth ≤ Json.Doc.maxDepth) :
    payload? (handler.encode payload) = some payload.canonical := by
  rw [payload?, payloadDoc?_encode handler hfree]
  exact Json.value?_doc payload hfree _ hdepth

theorem claims?_encode (handler : Handler) {claims : Claims} {payload : Json}
    (hpayload : claims.IsPayload payload) (h : claims.Readable) :
    claims? (handler.encode payload) = some claims := by
  rw [claims?, payloadDoc?_encode handler (hpayload.floatFree h.floatFree)]
  exact hpayload.ofDoc?_doc h

/-- What a token shows of its claims does not tell in which order they were written. -/
theorem payload?_encode_of_isPayload (handler : Handler) {claims : Claims} {payload : Json}
    (hpayload : claims.IsPayload payload) (h : claims.Readable) :
    payload? (handler.encode payload) = some claims.toJson.canonical := by
  rw [payload?_encode handler (hpayload.floatFree h.floatFree) (hpayload.depth_le h),
    hpayload.canonical_eq h.disjoint]

/-- **What a reader makes of a token that was written.** It decodes to the claims it was written
with, if the reader's key makes the same code for it and they are live and name whom it expects. -/
theorem decode_encode_eq_ok_iff {reader writer : Handler} {claims read : Claims} {payload : Json}
    {now : Int} (hpayload : claims.IsPayload payload) (h : claims.Readable) :
    reader.decode now (writer.encode payload) = .ok read ↔
      read = claims ∧
        Hmac.sha256 reader.secret.bytes (signedText payload) =
          Hmac.sha256 writer.secret.bytes (signedText payload) ∧
        LiveAt now claims ∧ Names reader.issuer claims.iss ∧ Names reader.audience claims.aud := by
  rw [decode_eq_ok_iff, signed_encode_iff, claims?_encode writer hpayload h]
  constructor
  · rintro ⟨hsame, hread, hlive, hnames⟩
    obtain rfl := Option.some.inj hread
    exact ⟨rfl, hsame, hlive, hnames⟩
  · rintro ⟨rfl, hsame, hlive, hnames⟩
    exact ⟨hsame, rfl, hlive, hnames⟩

end Handler

end Token

end TokenAuth
