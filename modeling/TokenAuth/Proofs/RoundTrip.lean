import TokenAuth.Proofs.Encoding
import TokenAuth.Proofs.Names

/-!
# Round trip

A token decodes to the claims it was written with for as long as they live, and is refused as
expired from the next second on. Main statement: `decode_encode_payload`, whatever order the extra
claims were written in.
-/

namespace TokenAuth.Token

open Outcome

namespace Handler

variable {handler : Handler} {now : Int}

/-- Over a payload that is signed and can be read, only the checks of its claims are left. -/
theorem decodeAs_of_signed {α : Type} {read? : Json.Doc → Option α} {token : String}
    {doc : Json.Doc} {value : α} {standing : Standing} (hsigned : Signed handler.secret token)
    (hdoc : payloadDoc? token = some doc) (hvalue : read? doc = some value)
    (hstanding : Standing.ofDoc? doc = some standing) :
    handler.decodeAs read? now token = (handler.validate now standing).map fun _ => value := by
  obtain ⟨parts, header, hparts, hheader, hread, hsignature⟩ := hsigned
  have hsegment : handler.verifySignature (utf8 token) = .ok parts.payload :=
    verifySignature_eq_ok_iff.mpr ⟨parts, header, hparts, hheader, hread, hsignature, rfl⟩
  simp only [payloadDoc?, hparts, Option.bind_eq_bind, Option.bind_some,
    Option.bind_eq_some_iff] at hdoc
  obtain ⟨payload, hpayload, hdoc⟩ := hdoc
  simp only [decodeAs, hsegment, hpayload, hdoc, hvalue, hstanding, orReject, bind, Except.bind]
  cases handler.validate now standing <;> rfl

theorem validate_of_expiry {standing : Standing} {n : Nat} (hexpiry : standing.expiry = .value n)
    (hissuer : admits handler.issuer standing.issuers = true)
    (haudience : admits handler.audience standing.audiences = true) :
    handler.validate now standing = if now ≤ n then .ok () else .error .expired := by
  rw [validate, hexpiry]
  by_cases hlive : now ≤ (n : Int)
  · have hnot : ¬ (n : Int) < now := by omega
    simp [hlive, hnot, hissuer, haudience]
  · have hlt : (n : Int) < now := by omega
    simp [hlive, hlt]

/-- A token of claims that name whom the reader expects is refused for its expiry only. -/
theorem decode_of_signed {token : String} {doc : Json.Doc} {claims : Claims} {e : Int64}
    (hsigned : Signed handler.secret token) (hdoc : payloadDoc? token = some doc)
    (hclaims : Claims.ofDoc? doc = some claims) (hexp : claims.exp = some e) (hpos : 0 ≤ e.toInt)
    (hissuer : Names handler.issuer claims.iss) (haudience : Names handler.audience claims.aud) :
    handler.decode now token = if now ≤ e.toInt then .ok claims else .error .expired := by
  obtain ⟨standing, hstanding, hexpiry, hissuers, haudiences⟩ :=
    Standing.exists_ofDoc?_of_claims hclaims
  have hn : standing.expiry = .value e.toInt.toNat :=
    (hexpiry _).mpr ⟨e, hexp, (Int.toNat_of_nonneg hpos).symm⟩
  have hvalid : handler.validate now standing =
      if now ≤ (e.toInt.toNat : Int) then .ok () else .error .expired := by
    apply validate_of_expiry hn
    · rw [hissuers, admits_ofText?_iff]
      exact hissuer
    · rw [haudiences, admits_ofText?_iff]
      exact haudience
  rw [Int.toNat_of_nonneg hpos] at hvalid
  rw [decode, decodeAs_of_signed hsigned hdoc hclaims hstanding, hvalid]
  split <;> rfl

/-- **Round trip.** Claims without floats that name whom the handler expects, written with their
extra members in any order, decode to themselves up to the second of their expiry, and are refused
as expired at every later one. -/
theorem decode_encode_payload {claims : Claims} {e : Int64} {payload : Json}
    (hdisjoint : claims.Disjoint) (hfree : Json.MembersFloatFree claims.extra.entries)
    (hexp : claims.exp = some e) (hpos : 0 ≤ e.toInt)
    (hissuer : ∀ name, handler.issuer = some name → claims.iss = some name)
    (haudience : ∀ name, handler.audience = some name → claims.aud = some name)
    (hpayload : claims.IsPayload payload) (hdepth : payload.depth < 128) :
    handler.decode now (handler.encode payload) =
      if now ≤ e.toInt then .ok claims else .error .expired := by
  have hreadable : claims.Readable := by
    refine ⟨hdisjoint, hfree, ?_⟩
    rw [hpayload.depth_eq] at hdepth
    simp only [Json.Doc.maxDepth]
    omega
  exact decode_of_signed (signed_encode handler payload)
    (payloadDoc?_encode handler (hpayload.floatFree hfree)) (hpayload.ofDoc?_doc hreadable) hexp hpos
    (fun name hname => .inr (hissuer name hname)) (fun name hname => .inr (haudience name hname))

/-! ### Two extra claims, written against their order -/

def scopedClaims : Claims :=
  { Claims.empty with
    sub := some "A <a@b.org>"
    exp := some 4102444800
    iss := some "auth-service"
    aud := some "irisinfinity"
    extra := ⟨[("scope", .arr [.obj [("Größe \"λ\"\n", .int (-1))], .null]), ("typ", .bool true)], by
      simp only [Json.canonicalMembers, Json.addMissing, Json.canonical, Json.canonicalItems,
        Json.int, String.reduceLT, if_true]⟩ }

/-- The payload of these claims with the extra ones swapped. -/
def scopedPayload : Json :=
  .obj (scopedClaims.registered ++ scopedClaims.extra.entries.reverse)

/-- They decode at the second of their expiry and no more at the next. -/
theorem decode_encode_scoped :
    namedHandler.decode 4102444800 (namedHandler.encode scopedPayload) = .ok scopedClaims ∧
      namedHandler.decode 4102444801 (namedHandler.encode scopedPayload) = .error .expired := by
  have hdisjoint : scopedClaims.Disjoint := Claims.disjoint_of_keys
    (show ∀ name ∈ Claims.registeredNames, name ∉ ["scope", "typ"] by decide)
  have hfree : Json.MembersFloatFree scopedClaims.extra.entries := by
    simp [scopedClaims, Json.MembersFloatFree, Json.FloatFree, Json.ItemsFloatFree, Json.int]
  have hpayload : scopedClaims.IsPayload scopedPayload := ⟨_, List.reverse_perm _, rfl⟩
  have hdepth : scopedPayload.depth < 128 := by
    rw [hpayload.depth_eq]
    simp [scopedClaims, Json.membersDepth, Json.depth, Json.itemsDepth, Json.int]
  constructor
  · exact decode_encode_payload hdisjoint hfree rfl (by decide) (fun _ h => h) (fun _ h => h)
      hpayload hdepth
  · exact decode_encode_payload hdisjoint hfree rfl (by decide) (fun _ h => h) (fun _ h => h)
      hpayload hdepth

end Handler

end TokenAuth.Token
