import TokenAuth.Proofs.Names
import TokenAuth.Proofs.Split
import TokenAuth.Proofs.Trimmed

/-!
# Which texts are tokens of a key

A text decodes only if it has three segments, of which the last is the code of the others under the
key of the reader. All that is asked of the times and the names of a token is asked after that, so a
text with another last segment learns nothing about them.
-/

namespace TokenAuth.Token

open Outcome

/-- The segments of a text, with dots between them. -/
def segmentsOf (token : String) : List Bytes := Text.splitOn (· == Compact.dot) (utf8 token)

/-- The last segment of a token of a key. -/
def code (secret : SigningSecret) (header payload : Bytes) : Bytes :=
  Base64.encode .url .none (Hmac.sha256 secret.bytes (header ++ Compact.dot :: payload))

theorem code_eq_sign {secret : SigningSecret} {parts : Compact} :
    code secret parts.header parts.payload = sign secret.bytes parts.message :=
  rfl

theorem code_ne_nil (secret : SigningSecret) (header payload : Bytes) :
    code secret header payload ≠ [] := by
  rw [code, ne_eq, Base64.encode_eq_nil_iff]
  intro hnil
  have hlength := Hmac.length_sha256 secret.bytes (header ++ Compact.dot :: payload)
  rw [hnil] at hlength
  simp at hlength

theorem segmentsOf_eq_three_iff {token : String} {header payload signature : Bytes} :
    segmentsOf token = [header, payload, signature] ↔
      utf8 token = (⟨header, payload, signature⟩ : Compact).join ∧ Compact.dot ∉ header ∧
        Compact.dot ∉ payload ∧ Compact.dot ∉ signature := by
  rw [segmentsOf, Text.splitOn_eq_three_iff, Compact.join, Compact.message, List.append_assoc,
    List.cons_append]

theorem split?_of_segments {token : String} {parts : Compact}
    (h : segmentsOf token = [parts.header, parts.payload, parts.signature]) :
    Compact.split? (utf8 token) = some parts := by
  obtain ⟨hjoin, -, hpayload, hsignature⟩ := segmentsOf_eq_three_iff.mp h
  exact Compact.split?_eq_some_iff.mpr ⟨hjoin, hpayload, hsignature⟩

/-- A header that decodes has no dots, so a text that splits before it has no more segments. -/
theorem segments_of_split? {token : String} {parts : Compact} {header : Bytes}
    (h : Compact.split? (utf8 token) = some parts)
    (hheader : decodeSegment? parts.header = some header) :
    segmentsOf token = [parts.header, parts.payload, parts.signature] := by
  obtain ⟨hjoin, hpayload, hsignature⟩ := Compact.split?_eq_some_iff.mp h
  refine segmentsOf_eq_three_iff.mpr ⟨hjoin, ?_, hpayload, hsignature⟩
  rw [decodeSegment?_eq_some_iff.mp hheader]
  exact dot_not_mem_encodeSegment header

theorem signed_iff_segments {secret : SigningSecret} {token : String} :
    Signed secret token ↔ ∃ h p header, segmentsOf token = [h, p, code secret h p] ∧
      decodeSegment? h = some header ∧ Header.ofBytes? header = some ⟨.hs256⟩ := by
  constructor
  · rintro ⟨⟨h, p, signature⟩, header, hsplit, hheader, hread, hsignature⟩
    have hsegments := segments_of_split? hsplit hheader
    rw [hsignature] at hsegments
    exact ⟨h, p, header, hsegments, hheader, hread⟩
  · rintro ⟨h, p, header, hsegments, hheader, hread⟩
    exact ⟨⟨h, p, code secret h p⟩, header, split?_of_segments hsegments, hheader, hread, rfl⟩

theorem payloadDoc?_of_segments {token : String} {h p g : Bytes}
    (hsegments : segmentsOf token = [h, p, g]) :
    payloadDoc? token = (decodeSegment? p).bind Json.Doc.ofBytes? := by
  have hsplit : Compact.split? (utf8 token) = some ⟨h, p, g⟩ := split?_of_segments hsegments
  simp [payloadDoc?, hsplit]

/-- A text that was put together from three texts splits into them if it has three segments. -/
theorem segments_of_join {h p g : String} {a b c : Bytes}
    (hsegments : segmentsOf (h ++ "." ++ p ++ "." ++ g) = [a, b, c]) :
    a = utf8 h ∧ b = utf8 p ∧ c = utf8 g := by
  have hdot : utf8 "." = [Compact.dot] := rfl
  have hutf8 : utf8 (h ++ "." ++ p ++ "." ++ g) =
      utf8 h ++ Compact.dot :: (utf8 p ++ Compact.dot :: utf8 g) := by
    simp [utf8_append, hdot]
  rw [segmentsOf, hutf8] at hsegments
  -- Two dots are written, so no other stands in the three texts.
  have hcount := congrArg List.length hsegments
  simp only [Text.length_splitOn, List.countP_append, List.countP_cons, beq_self_eq_true, if_true,
    List.length_cons, List.length_nil] at hcount
  have hfree {bs : Bytes} (hbs : bs.countP (· == Compact.dot) = 0) : Compact.dot ∉ bs := by
    intro hmem
    exact List.countP_eq_zero.mp hbs _ hmem (beq_self_eq_true _)
  have hparts : Text.splitOn (· == Compact.dot)
      (utf8 h ++ Compact.dot :: (utf8 p ++ Compact.dot :: utf8 g)) = [utf8 h, utf8 p, utf8 g] :=
    Text.splitOn_eq_three_iff.mpr ⟨rfl, hfree (by omega), hfree (by omega), hfree (by omega)⟩
  rw [hparts] at hsegments
  simp only [List.cons.injEq, and_true] at hsegments
  obtain ⟨rfl, rfl, rfl⟩ := hsegments
  exact ⟨rfl, rfl, rfl⟩

namespace Handler

theorem verifySignature_eq_error {handler : Handler} {token : Bytes} {rejection : Rejection}
    (h : handler.verifySignature token = .error rejection) :
    rejection = .invalidSignature ∨ ∃ fault, rejection = .malformed fault := by
  rcases bind_eq_error_iff.mp h with hparts | ⟨parts, -, h₁⟩
  · exact .inr ⟨_, eq_malformed_of_orReject hparts⟩
  rcases bind_eq_error_iff.mp h₁ with hheader | ⟨bytes, -, h₂⟩
  · exact .inr ⟨_, eq_malformed_of_orReject hheader⟩
  rcases bind_eq_error_iff.mp h₂ with hread | ⟨header, -, h₃⟩
  · exact .inr ⟨_, eq_malformed_of_orReject hread⟩
  split at h₃
  · exact .inr ⟨_, (Except.error.inj h₃).symm⟩
  split at h₃
  · exact .inl (Except.error.inj h₃).symm
  · exact nomatch h₃

/-- Without the code of its key a text is refused before its claims are looked at. -/
theorem decode_of_not_signed {handler : Handler} {now : Int} {token : String}
    (h : ∀ h p, segmentsOf token ≠ [h, p, code handler.secret h p]) :
    ∃ rejection, handler.decode now token = .error rejection ∧
      (rejection = .invalidSignature ∨ ∃ fault, rejection = .malformed fault) := by
  cases hverify : handler.verifySignature (utf8 token) with
  | error rejection =>
    refine ⟨rejection, ?_, verifySignature_eq_error hverify⟩
    simp [decode, decodeAs, hverify, bind, Except.bind]
  | ok segment =>
    obtain ⟨parts, header, hsplit, hheader, -, hsignature, -⟩ :=
      verifySignature_eq_ok_iff.mp hverify
    have hsegments := segments_of_split? hsplit hheader
    rw [hsignature, ← code_eq_sign] at hsegments
    exact absurd hsegments (h _ _)

theorem encode_eq_append (handler : Handler) (payload : Json) :
    handler.encode payload =
      ofAscii (handler.segments payload).header ++ "." ++
        ofAscii (handler.segments payload).payload ++ "." ++
          ofAscii (handler.segments payload).signature := by
  change ofAscii (handler.segments payload).join = _
  have hdot (bs : Bytes) : ofAscii (Compact.dot :: bs) = "." ++ ofAscii bs := by
    rw [← List.singleton_append, ofAscii_append]
    rfl
  simp only [Compact.join, Compact.message, ofAscii_append, hdot, String.append_assoc]

/-- The expiry that is compared with the clock is the one that the claims have. -/
theorem validate_ok_expiry {handler : Handler} {now : Int} {doc : Json.Doc} {claims : Claims}
    {standing : Standing} (hclaims : Claims.ofDoc? doc = some claims)
    (hstanding : Standing.ofDoc? doc = some standing)
    (hvalid : handler.validate now standing = .ok ()) :
    ∃ (e : Int64) (n : Nat), claims.exp = some e ∧ standing.expiry = .value n ∧
      (n : Int) = e.toInt ∧ now ≤ e.toInt := by
  obtain ⟨n, hn, hlive, -⟩ := validate_eq_ok_iff.mp hvalid
  obtain ⟨standing', hstanding', hexpiry, -⟩ := Standing.exists_ofDoc?_of_claims hclaims
  obtain rfl : standing = standing' := Option.some.inj (hstanding.symm.trans hstanding')
  obtain ⟨e, he, hvalue⟩ := (hexpiry n).mp hn
  exact ⟨e, n, he, hn, hvalue.symm, by omega⟩

/-- A text of three segments decodes only if the last is the code of the other two. -/
theorem signature_eq_code {handler : Handler} {now : Int} {h p g : String} {claims : Claims}
    (hdecode : handler.decode now (h ++ "." ++ p ++ "." ++ g) = .ok claims) :
    utf8 g = code handler.secret (utf8 h) (utf8 p) := by
  obtain ⟨hsigned, -⟩ := decode_eq_ok_iff.mp hdecode
  obtain ⟨_, _, _, hsegments, -⟩ := signed_iff_segments.mp hsigned
  obtain ⟨rfl, rfl, hcode⟩ := segments_of_join hsegments
  exact hcode.symm

/-- **Only live tokens of the reader's own key decode.** A text decodes exactly if it has three
segments, the last is the code of the others, the header names the algorithm, and the payload reads
as the claims and holds at the second; then the expiry that was compared with the clock is that of
the claims. So no header and payload have two codes, and without the code nothing is told of the
times and the names in the payload. -/
theorem decode_ok_iff_segments (handler : Handler) (now : Int) (token : String) :
    (∀ claims, handler.decode now token = .ok claims ↔
      ∃ h p header payload doc standing e,
        segmentsOf token = [h, p, code handler.secret h p] ∧
        decodeSegment? h = some header ∧ Header.ofBytes? header = some ⟨.hs256⟩ ∧
        decodeSegment? p = some payload ∧ Json.Doc.ofBytes? payload = some doc ∧
        Claims.ofDoc? doc = some claims ∧ claims.exp = some e ∧ now ≤ e.toInt ∧
        Standing.ofDoc? doc = some standing ∧ handler.validate now standing = .ok () ∧
        ∃ n : Nat, standing.expiry = .value n ∧ (n : Int) = e.toInt) ∧
    (∀ (other : Handler) (now' : Int) (h p g g' : String) (claims claims' : Claims),
      other.secret = handler.secret →
      handler.decode now (h ++ "." ++ p ++ "." ++ g) = .ok claims →
      other.decode now' (h ++ "." ++ p ++ "." ++ g') = .ok claims' → g = g') ∧
    ((∀ h p, segmentsOf token ≠ [h, p, code handler.secret h p]) →
      ∃ rejection, handler.decode now token = .error rejection ∧
        (rejection = .invalidSignature ∨ ∃ fault, rejection = .malformed fault)) := by
  refine ⟨?_, ?_, decode_of_not_signed⟩
  · intro claims
    rw [decode, decodeAs_eq_ok_iff, signed_iff_segments]
    constructor
    · rintro ⟨⟨h, p, header, hsegments, hheader, hread⟩, doc, standing, hdoc, hclaims, hstanding,
        hvalid⟩
      rw [payloadDoc?_of_segments hsegments, Option.bind_eq_some_iff] at hdoc
      obtain ⟨payload, hpayload, hdoc⟩ := hdoc
      obtain ⟨e, n, he, hn, heq, hlive⟩ := validate_ok_expiry hclaims hstanding hvalid
      exact ⟨h, p, header, payload, doc, standing, e, hsegments, hheader, hread, hpayload, hdoc,
        hclaims, he, hlive, hstanding, hvalid, n, hn, heq⟩
    · rintro ⟨h, p, header, payload, doc, standing, e, hsegments, hheader, hread, hpayload, hdoc,
        hclaims, -, -, hstanding, hvalid, -⟩
      refine ⟨⟨h, p, header, hsegments, hheader, hread⟩, doc, standing, ?_, hclaims, hstanding,
        hvalid⟩
      rw [payloadDoc?_of_segments hsegments, hpayload, Option.bind_some, hdoc]
  · intro other now' h p g g' claims claims' hsecret hdecode hdecode'
    apply utf8_injective
    rw [signature_eq_code hdecode, signature_eq_code hdecode', hsecret]

/-- A token of a key decodes at two readers of that key, and with no other code; with its code cut
off it is refused as a text that is no token of the key. -/
theorem issuerless_segments :
    (∃ h p g : String, namedHandler.encode issuerless.toJson = h ++ "." ++ p ++ "." ++ g ∧
      namedHandler.unnamed.decode 4102444800 (h ++ "." ++ p ++ "." ++ g) = .ok issuerless ∧
      ∀ g' claims, namedHandler.unnamed.decode 4102444800 (h ++ "." ++ p ++ "." ++ g') = .ok claims →
        g = g') ∧
    ∃ rejection, namedHandler.decode 1700000000 "e30.e30." = .error rejection ∧
      (rejection = .invalidSignature ∨ ∃ fault, rejection = .malformed fault) := by
  have hnamed : namedHandler.decode 1700000000 (namedHandler.encode issuerless.toJson) =
      .ok issuerless :=
    (decode_encode_eq_ok_iff issuerless.isPayload_toJson readable_issuerless).mpr
      ⟨rfl, rfl, ⟨4102444800, rfl, by decide, by decide⟩, names_some_iff.mpr (.inl rfl),
        names_some_iff.mpr (.inr rfl)⟩
  have hunnamed : namedHandler.unnamed.decode 4102444800 (namedHandler.encode issuerless.toJson) =
      .ok issuerless :=
    (decode_encode_eq_ok_iff issuerless.isPayload_toJson readable_issuerless).mpr
      ⟨rfl, rfl, ⟨4102444800, rfl, by decide, by decide⟩, names_none _, names_none _⟩
  rw [encode_eq_append] at hnamed hunnamed
  refine ⟨⟨_, _, _, encode_eq_append _ _, hunnamed, ?_⟩, ?_⟩
  · intro g' claims hother
    have hsecret : namedHandler.unnamed.secret = namedHandler.secret := rfl
    exact (decode_ok_iff_segments namedHandler 1700000000 "").2.1 namedHandler.unnamed _ _ _ _ _ _ _
      hsecret hnamed hother
  · refine (decode_ok_iff_segments namedHandler 1700000000 "e30.e30.").2.2 ?_
    intro h p hsegments
    have hcut : segmentsOf "e30.e30." = [utf8 "e30", utf8 "e30", []] := rfl
    rw [hcut] at hsegments
    simp only [List.cons.injEq, and_true] at hsegments
    exact code_ne_nil _ _ _ hsegments.2.2.symm

end Handler

end TokenAuth.Token
