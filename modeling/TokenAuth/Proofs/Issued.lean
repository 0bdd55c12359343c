import TokenAuth.Proofs.Encoding
import TokenAuth.SignIn

/-!
# What tokens are issued with

The payload of a new token, member by member. Main statements: when a token is created and which
one (`createAccessToken_eq_ok_iff`, `createRefreshToken_eq_ok_iff`), and that its claims and its
payload are read back from it.
-/

namespace TokenAuth

open Outcome

theorem Roles.canonical_toJson (roles : Roles) : roles.toJson.canonical = roles.toJson := by
  obtain ⟨user, admin⟩ := roles
  cases user <;> cases admin <;> rfl

theorem Roles.toJson_eq (roles : Roles) :
    roles.toJson = .arr ((if roles.user then [.str "USER"] else []) ++
      if roles.admin then [.str "ADMIN"] else []) := by
  obtain ⟨user, admin⟩ := roles
  cases user <;> cases admin <;> rfl

theorem Roles.floatFree_toJson (roles : Roles) : roles.toJson.FloatFree := by
  obtain ⟨user, admin⟩ := roles
  cases user <;> cases admin <;>
    simp [toJson, toList, Json.FloatFree, Json.ItemsFloatFree]

theorem Roles.depth_toJson_le (roles : Roles) : roles.toJson.depth ≤ 1 := by
  obtain ⟨user, admin⟩ := roles
  cases user <;> cases admin <;> decide

namespace SigningKeys

variable {keys : SigningKeys} {stamp : Stamp} {id : UserId} {email : String} {roles : Roles}

/-! ### Claims -/

/-- What every token of an account is issued with: who it is for, by whom and for how long. -/
def issued (keys : SigningKeys) (stamp : Stamp) (expiry : Instant) (email : String)
    (extra : Json.Members) : Claims where
  sub := some email
  exp := some (Int64.ofInt expiry.seconds)
  iat := some (Int64.ofInt stamp.now.seconds)
  nbf := none
  iss := some keys.issuer
  aud := some keys.audience
  jti := some (Uuid.ofRandom stamp.random).text
  extra := extra

def accessExtra (id : UserId) (roles : Roles) : Json.Members :=
  ⟨[(rolesClaim, roles.toJson), (userIdClaim, .str id.text)], by
    simp only [Json.canonicalMembers, Json.addMissing, rolesClaim, userIdClaim, Json.canonical,
      Roles.canonical_toJson, String.reduceLT, if_true]⟩

def refreshExtra (id : UserId) : Json.Members :=
  ⟨[(typeClaim, .str refreshType), (userIdClaim, .str id.text)], by
    simp only [Json.canonicalMembers, Json.addMissing, typeClaim, userIdClaim, Json.canonical,
      String.reduceLT, if_true]⟩

theorem baseClaims_eq_ok_iff {ttl : Span} {claims : Claims} :
    keys.baseClaims stamp ttl id email = .ok claims ↔
      ∃ expiry, stamp.now.add? ttl = some expiry ∧
        claims = keys.issued stamp expiry email ⟨[(userIdClaim, .str id.text)], rfl⟩ := by
  rw [baseClaims, Claims.issued?]
  cases hexpiry : stamp.now.add? ttl with
  | none => simp
  | some expiry =>
    simp only [Option.bind_eq_bind, Option.bind_some, Option.pure_def, Except.ok.injEq,
      Option.some.injEq, exists_eq_left']
    exact eq_comm

theorem accessClaims_eq_ok_iff {claims : Claims} :
    keys.accessClaims stamp id email roles = .ok claims ↔
      ∃ expiry, stamp.now.add? keys.accessTtl = some expiry ∧
        claims = keys.issued stamp expiry email (accessExtra id roles) := by
  have hput (expiry : Instant) :
      (keys.issued stamp expiry email ⟨[(userIdClaim, .str id.text)], rfl⟩).withExtra rolesClaim
        roles.toJson = keys.issued stamp expiry email (accessExtra id roles) := by
    simp only [Claims.withExtra, issued, Json.Members.put, Json.Members.ofList, accessExtra,
      Json.canonicalMembers, Json.addMissing, Json.canonical, userIdClaim, rolesClaim,
      Roles.canonical_toJson, List.cons_append, List.nil_append, String.reduceLT, String.reduceEq,
      if_false]
  rw [accessClaims, map_eq_ok_iff_exists fun _ => baseClaims_eq_ok_iff]
  simp only [hput]

theorem refreshClaims_eq_ok_iff {claims : Claims} :
    keys.refreshClaims stamp id email = .ok claims ↔
      ∃ expiry, stamp.now.add? keys.refreshTtl = some expiry ∧
        claims = keys.issued stamp expiry email (refreshExtra id) := by
  have hput (expiry : Instant) :
      (keys.issued stamp expiry email ⟨[(userIdClaim, .str id.text)], rfl⟩).withExtra typeClaim
        (.str refreshType) = keys.issued stamp expiry email (refreshExtra id) := by
    simp only [Claims.withExtra, issued, Json.Members.put, Json.Members.ofList, refreshExtra,
      Json.canonicalMembers, Json.addMissing, Json.canonical, userIdClaim, typeClaim,
      List.cons_append, List.nil_append, String.reduceLT, String.reduceEq, if_false]
  rw [refreshClaims, map_eq_ok_iff_exists fun _ => baseClaims_eq_ok_iff]
  simp only [hput]

/-! ### Tokens -/

theorem createAccessToken_eq_ok_iff {token : String} :
    keys.createAccessToken stamp id email roles = .ok token ↔
      ∃ expiry, stamp.now.add? keys.accessTtl = some expiry ∧
        token = keys.accessHandler.encode
          ((keys.issued stamp expiry email (accessExtra id roles)).payload stamp.order) := by
  rw [createAccessToken]
  exact map_eq_ok_iff_exists fun _ => accessClaims_eq_ok_iff

theorem createRefreshToken_eq_ok_iff {token : String} :
    keys.createRefreshToken stamp id email = .ok token ↔
      ∃ expiry, stamp.now.add? keys.refreshTtl = some expiry ∧
        token = keys.refreshHandler.encode
          ((keys.issued stamp expiry email (refreshExtra id)).payload stamp.order) := by
  rw [createRefreshToken]
  exact map_eq_ok_iff_exists fun _ => refreshClaims_eq_ok_iff

theorem exists_createAccessToken_iff :
    (∃ token, keys.createAccessToken stamp id email roles = .ok token) ↔
      ∃ expiry, stamp.now.add? keys.accessTtl = some expiry := by
  simp only [createAccessToken_eq_ok_iff]
  constructor
  · rintro ⟨_, expiry, hexpiry, -⟩
    exact ⟨expiry, hexpiry⟩
  · rintro ⟨expiry, hexpiry⟩
    exact ⟨_, expiry, hexpiry, rfl⟩

theorem exists_createRefreshToken_iff :
    (∃ token, keys.createRefreshToken stamp id email = .ok token) ↔
      ∃ expiry, stamp.now.add? keys.refreshTtl = some expiry := by
  simp only [createRefreshToken_eq_ok_iff]
  constructor
  · rintro ⟨_, expiry, hexpiry, -⟩
    exact ⟨expiry, hexpiry⟩
  · rintro ⟨expiry, hexpiry⟩
    exact ⟨_, expiry, hexpiry, rfl⟩

theorem readable_issued_access (expiry : Instant) :
    (keys.issued stamp expiry email (accessExtra id roles)).Readable where
  disjoint := Claims.disjoint_of_keys
    (show ∀ name ∈ Claims.registeredNames, name ∉ [rolesClaim, userIdClaim] by decide)
  floatFree := ⟨roles.floatFree_toJson, trivial, trivial⟩
  depth_le := by
    have hroles := roles.depth_toJson_le
    simp only [issued, accessExtra, Json.membersDepth, Json.depth, Json.Doc.maxDepth]
    omega

theorem readable_issued_refresh (expiry : Instant) :
    (keys.issued stamp expiry email (refreshExtra id)).Readable where
  disjoint := Claims.disjoint_of_keys
    (show ∀ name ∈ Claims.registeredNames, name ∉ [typeClaim, userIdClaim] by decide)
  floatFree := ⟨trivial, trivial, trivial⟩
  depth_le := by simp [issued, refreshExtra, Json.membersDepth, Json.depth, Json.Doc.maxDepth]

theorem claims?_createAccessToken {token : String}
    (h : keys.createAccessToken stamp id email roles = .ok token) :
    ∃ expiry, stamp.now.add? keys.accessTtl = some expiry ∧
      Token.claims? token = some (keys.issued stamp expiry email (accessExtra id roles)) := by
  obtain ⟨expiry, hexpiry, rfl⟩ := createAccessToken_eq_ok_iff.mp h
  exact ⟨expiry, hexpiry,
    Token.Handler.claims?_encode _ (Claims.isPayload_payload _ _) (readable_issued_access expiry)⟩

theorem claims?_createRefreshToken {token : String}
    (h : keys.createRefreshToken stamp id email = .ok token) :
    ∃ expiry, stamp.now.add? keys.refreshTtl = some expiry ∧
      Token.claims? token = some (keys.issued stamp expiry email (refreshExtra id)) := by
  obtain ⟨expiry, hexpiry, rfl⟩ := createRefreshToken_eq_ok_iff.mp h
  exact ⟨expiry, hexpiry,
    Token.Handler.claims?_encode _ (Claims.isPayload_payload _ _) (readable_issued_refresh expiry)⟩

theorem userId_issued_access (expiry : Instant) :
    (keys.issued stamp expiry email (accessExtra id roles)).extraText? "userId" = some id.text := by
  simp [Claims.extraText?, issued, accessExtra, Json.Members.get?, List.lookup_cons, rolesClaim,
    userIdClaim, Json.str?]

theorem userId_issued_refresh (expiry : Instant) :
    (keys.issued stamp expiry email (refreshExtra id)).extraText? "userId" = some id.text := by
  simp [Claims.extraText?, issued, refreshExtra, Json.Members.get?, List.lookup_cons, typeClaim,
    userIdClaim, Json.str?]

/-! ### Payloads -/

/-- The payload of an access token. It has no type, and its roles stand in their fixed order. -/
def accessPayload (keys : SigningKeys) (stamp : Stamp) (expiry : Instant) (id : UserId)
    (email : String) (roles : Roles) : Json :=
  .obj [("aud", .str keys.audience), ("exp", .int (Int64.ofInt expiry.seconds)),
    ("iat", .int (Int64.ofInt stamp.now.seconds)), ("iss", .str keys.issuer),
    ("jti", .str (Uuid.ofRandom stamp.random).text),
    ("roles", .arr ((if roles.user then [.str "USER"] else []) ++
      if roles.admin then [.str "ADMIN"] else [])),
    ("sub", .str email), ("userId", .str id.text)]

/-- The payload of a refresh token. It has no roles. -/
def refreshPayload (keys : SigningKeys) (stamp : Stamp) (expiry : Instant) (id : UserId)
    (email : String) : Json :=
  .obj [("aud", .str keys.audience), ("exp", .int (Int64.ofInt expiry.seconds)),
    ("iat", .int (Int64.ofInt stamp.now.seconds)), ("iss", .str keys.issuer),
    ("jti", .str (Uuid.ofRandom stamp.random).text), ("sub", .str email),
    ("typ", .str "refresh"), ("userId", .str id.text)]

theorem toJson_issued (expiry : Instant) (extra : Json.Members) :
    (keys.issued stamp expiry email extra).toJson =
      .obj ([("sub", .str email), ("exp", .int (Int64.ofInt expiry.seconds)),
        ("iat", .int (Int64.ofInt stamp.now.seconds)), ("iss", .str keys.issuer),
        ("aud", .str keys.audience), ("jti", .str (Uuid.ofRandom stamp.random).text)] ++
        extra.entries) :=
  rfl

theorem canonical_issued_access (expiry : Instant) :
    (keys.issued stamp expiry email (accessExtra id roles)).toJson.canonical =
      keys.accessPayload stamp expiry id email roles := by
  rw [accessPayload, ← Roles.toJson_eq, toJson_issued]
  simp only [accessExtra, Json.canonical, Json.canonicalMembers, Json.addMissing, Json.int,
    Roles.canonical_toJson, rolesClaim, userIdClaim, List.cons_append, List.nil_append,
    String.reduceLT, String.reduceEq, if_true, if_false]

theorem canonical_issued_refresh (expiry : Instant) :
    (keys.issued stamp expiry email (refreshExtra id)).toJson.canonical =
      keys.refreshPayload stamp expiry id email := by
  rw [refreshPayload, toJson_issued]
  simp only [refreshExtra, Json.canonical, Json.canonicalMembers, Json.addMissing, Json.int,
    typeClaim, refreshType, userIdClaim, List.cons_append, List.nil_append, String.reduceLT,
    String.reduceEq, if_true, if_false]

theorem payload?_createAccessToken {token : String}
    (h : keys.createAccessToken stamp id email roles = .ok token) :
    ∃ expiry, stamp.now.add? keys.accessTtl = some expiry ∧
      Token.payload? token = some (keys.accessPayload stamp expiry id email roles) := by
  obtain ⟨expiry, hexpiry, rfl⟩ := createAccessToken_eq_ok_iff.mp h
  refine ⟨expiry, hexpiry, ?_⟩
  rw [Token.Handler.payload?_encode_of_isPayload _ (Claims.isPayload_payload _ _)
    (readable_issued_access expiry), canonical_issued_access]

theorem payload?_createRefreshToken {token : String}
    (h : keys.createRefreshToken stamp id email = .ok token) :
    ∃ expiry, stamp.now.add? keys.refreshTtl = some expiry ∧
      Token.payload? token = some (keys.refreshPayload stamp expiry id email) := by
  obtain ⟨expiry, hexpiry, rfl⟩ := createRefreshToken_eq_ok_iff.mp h
  refine ⟨expiry, hexpiry, ?_⟩
  rw [Token.Handler.payload?_encode_of_isPayload _ (Claims.isPayload_payload _ _)
    (readable_issued_refresh expiry), canonical_issued_refresh]

end SigningKeys

end TokenAuth
