import TokenAuth.Crypto.Sha256

/-! HMAC with SHA-256. Keys that fill to the same block make the same codes. -/

namespace TokenAuth.Hmac

def blockSize : Nat := 64

/-- The key as one block: hashed when it is longer, then filled up with zeros. -/
def blockKey (key : Bytes) : Bytes :=
  let short := if key.length ≤ blockSize then key else Sha256.digest key
  short ++ List.replicate (blockSize - short.length) 0

/-- The HMAC-SHA256 code of a message. -/
def sha256 (key message : Bytes) : Bytes :=
  let k := blockKey key
  Sha256.digest (k.map (· ^^^ 0x5C) ++ Sha256.digest (k.map (· ^^^ 0x36) ++ message))

theorem length_sha256 (key message : Bytes) : (sha256 key message).length = 32 :=
  Sha256.length_digest _

theorem sha256_eq_of_blockKey_eq {key₁ key₂ : Bytes} (h : blockKey key₁ = blockKey key₂) :
    sha256 key₁ = sha256 key₂ := by
  funext message
  simp only [sha256, h]

end TokenAuth.Hmac
