import TokenAuth.Base64
import TokenAuth.Crypto.Bcrypt
import TokenAuth.Text.Digits
import TokenAuth.Text.Split

/-! Hashes in the modular format of bcrypt: a letter, a cost, a salt and a digest. -/

namespace TokenAuth.Password

/-- Why a stored bcrypt hash cannot be checked. -/
inductive BcryptFault
  | shape (hash : String)
  | marker (found : String)
  | cost (found : String)
  | costRange (found : Nat)
  | base64 (fault : Base64.Fault)
deriving DecidableEq

namespace BcryptFault

def message : BcryptFault → String
  | shape hash => s!"Invalid hash: {hash}"
  | marker found => s!"Invalid Prefix: {found}"
  | cost found => s!"Invalid Cost: {found}"
  | costRange found => s!"Cost needs to be between 4 and 31, got {found}"
  | base64 fault => s!"Base64 error: {fault.message}"

end BcryptFault

/-- A bcrypt hash: its cost, the salt and the digest. -/
structure BcryptHash where
  cost : Nat
  salt : Bytes
  digest : Bytes
deriving DecidableEq

namespace BcryptHash

/-- The version letters that name the same hash. -/
def markers : List String := ["2a", "2b", "2x", "2y"]

def minCost : Nat := 4

def maxCost : Nat := 31

def encodeBase64 (bs : Bytes) : String := ofAscii (Base64.encode .bcrypt .none bs)

def text (h : BcryptHash) : String :=
  "$2b$" ++ Digits.text (Digits.padded 2 h.cost) ++ "$" ++ encodeBase64 h.salt ++
    encodeBase64 h.digest

/-- The parts between dollar signs that are not empty. -/
def parts (hash : String) : List String :=
  ((Text.splitOn (· == '$') hash.toList).filter fun part => !part.isEmpty).map String.ofList

/-- A number below 2³², which a plus sign may precede. -/
def readCost? (s : String) : Option Nat :=
  let digits := match s.toList with
    | '+' :: rest => rest
    | cs => cs
  (Digits.nat? digits).filter fun n => n < 0x100000000

/-- A salt of 22 bytes of text and a digest of 31. -/
def splitBody? (body : String) : Option (Bytes × Bytes) :=
  let bytes := utf8 body
  let salt := bytes.take 22
  if bytes.length = 53 ∧ (ofUtf8? salt).isSome then some (salt, bytes.drop 22) else none

def decodeBase64 (bs : Bytes) : Except BcryptFault Bytes :=
  (Base64.decode .bcrypt .none bs).mapError .base64

/-- Reads a stored hash. The salt is decoded before the cost is judged, the digest after it. -/
def read (hash : String) : Except BcryptFault BcryptHash :=
  match parts hash with
  | [marker, cost, body] =>
    if !markers.contains marker then .error (.marker marker)
    else
      match readCost? cost with
      | none => .error (.cost cost)
      | some cost =>
        match splitBody? body with
        | none => .error (.shape hash)
        | some (salt, digest) => do
          let salt ← decodeBase64 salt
          if cost < minCost ∨ maxCost < cost then .error (.costRange cost)
          let digest ← decodeBase64 digest
          return ⟨cost, salt, digest⟩
  | _ => .error (.shape hash)

def compute (cost : Nat) (salt : Bytes) (password : String) : BcryptHash :=
  ⟨cost, salt, Bcrypt.core cost salt (Bcrypt.key (utf8 password))⟩

def accepts (h : BcryptHash) (password : String) : Bool :=
  (compute h.cost h.salt password).digest == h.digest

end BcryptHash

end TokenAuth.Password
