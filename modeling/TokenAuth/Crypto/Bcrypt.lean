import TokenAuth.Crypto.Blowfish
import TokenAuth.Crypto.Sha256

/-! The digest of a password under a salt and a cost. -/

namespace TokenAuth.Bcrypt

/-- The bytes of a key that count. -/
def maxKeyLength : Nat := 72

/-- The key of a password: its bytes and a zero byte, as far as they count. -/
def key (password : Bytes) : Bytes := (password ++ [0]).take maxKeyLength

/-- The byte at a place of a key that is repeated without end. -/
def cycled (key : Bytes) (i : Nat) : UInt8 := key.getD (i % key.length) 0

/-- The eighteen words of a key that is repeated to fill them. -/
def keyWords (key : Bytes) : Subkeys :=
  Vector.ofFn fun i =>
    (Sha256.words ((List.range 4).map fun j => cycled key (4 * i.val + j))).headD 0

def saltOf (salt : Bytes) : Blowfish.Salt :=
  let ws := Sha256.words salt
  ⟨ws.getD 0 0, ws.getD 1 0, ws.getD 2 0, ws.getD 3 0⟩

/-- Takes the key and the salt into the schedule in turn, `count` times each. -/
def stretch (keyWords saltWords : Subkeys) : (count : Nat) → Blowfish → Blowfish
  | 0, c => c
  | count + 1, c =>
    stretch keyWords saltWords count ((c.expand keyWords .zero).expand saltWords .zero)

def encipherTimes (c : Blowfish) : (count : Nat) → UInt32 × UInt32 → UInt32 × UInt32
  | 0, block => block
  | count + 1, block => encipherTimes c count (c.encipher block.1 block.2)

/-- The text that is enciphered with the stretched key, as three blocks. -/
def blocks : List (UInt32 × UInt32) :=
  [(0x4F727068, 0x65616E42), (0x65686F6C, 0x64657253), (0x63727944, 0x6F756274)]

/-- The 23 bytes of the hash of a key under a cost and a salt of sixteen bytes. -/
def core (cost : Nat) (salt key : Bytes) : Bytes :=
  let words := keyWords key
  let c := Blowfish.initial.expand words (saltOf salt)
  let c := stretch words (keyWords salt) (1 <<< cost) c
  (blocks.flatMap fun block =>
    let (left, right) := encipherTimes c 64 block
    Sha256.wordBytes left ++ Sha256.wordBytes right).take 23

end TokenAuth.Bcrypt
