import TokenAuth.Crypto.Pi

/-! Blowfish with a key schedule that a password and a salt set up at a cost. -/

namespace TokenAuth

abbrev Subkeys := Vector UInt32 18

abbrev SBox := Vector UInt32 256

/-- The key schedule of the Blowfish cipher. -/
structure Blowfish where
  subkeys : Subkeys
  box0 : SBox
  box1 : SBox
  box2 : SBox
  box3 : SBox

namespace Blowfish

def initialWords : Array UInt32 := Pi.words (18 + 4 * 256)

/-- The schedule before any key: the fraction of π, word by word. -/
def initial : Blowfish :=
  let box (n : Nat) : SBox := Vector.ofFn fun i => initialWords.getD (18 + 256 * n + i.val) 0
  ⟨Vector.ofFn fun i => initialWords.getD i.val 0, box 0, box 1, box 2, box 3⟩

/-- The word of a box at a byte. -/
@[inline]
def look (box : SBox) (b : UInt8) : UInt32 :=
  box.toArray.uget b.toUSize (by
    have h := b.toNat_lt
    have hsize := box.size_toArray
    rw [UInt8.toNat_toUSize, hsize]
    exact h)

/-- The substitution of one round. -/
@[inline]
def mix (box0 box1 box2 box3 : SBox) (x : UInt32) : UInt32 :=
  ((look box0 (x >>> 24).toUInt8 + look box1 (x >>> 16).toUInt8) ^^^
    look box2 (x >>> 8).toUInt8) + look box3 x.toUInt8

/-- Eight double rounds, then the two words change places. The last `2 n + 2` subkeys are still to
be used. -/
def rounds (subkeys : Subkeys) (box0 box1 box2 box3 : SBox) :
    (n : Nat) → n ≤ 8 → (left right : UInt32) → UInt32 × UInt32
  | 0, _, left, right => (right ^^^ subkeys[17], left ^^^ subkeys[16])
  | n + 1, h, left, right =>
    let left := left ^^^ subkeys[14 - 2 * n]
    let right := right ^^^ mix box0 box1 box2 box3 left ^^^ subkeys[15 - 2 * n]
    let left := left ^^^ mix box0 box1 box2 box3 right
    rounds subkeys box0 box1 box2 box3 n (by omega) left right

/-- Enciphers a block of two words. -/
def encipher (c : Blowfish) (left right : UInt32) : UInt32 × UInt32 :=
  rounds c.subkeys c.box0 c.box1 c.box2 c.box3 8 (by omega) left right

/-- Two halves of a salt, which take turns. -/
structure Salt where
  left : UInt32
  right : UInt32
  nextLeft : UInt32
  nextRight : UInt32

def Salt.zero : Salt := ⟨0, 0, 0, 0⟩

def Salt.turn (s : Salt) : Salt := ⟨s.nextLeft, s.nextRight, s.left, s.right⟩

/-- What a pass over the schedule carries from one block to the next. -/
structure Feed where
  left : UInt32
  right : UInt32
  salt : Salt

/-- Replaces the last `n` pairs of subkeys, each pair by the next block. -/
def refillSubkeys (box0 box1 box2 box3 : SBox) :
    (n : Nat) → n ≤ 9 → Subkeys → Feed → Subkeys × Feed
  | 0, _, subkeys, feed => (subkeys, feed)
  | n + 1, h, subkeys, feed =>
    let (left, right) := rounds subkeys box0 box1 box2 box3 8 (by omega)
      (feed.left ^^^ feed.salt.left) (feed.right ^^^ feed.salt.right)
    let subkeys := (subkeys.set (16 - 2 * n) left).set (17 - 2 * n) right
    refillSubkeys box0 box1 box2 box3 n (by omega) subkeys ⟨left, right, feed.salt.turn⟩

/-- Replaces the last `n` pairs of a box; `encipher` reads the schedule with that box in it. -/
@[specialize]
def refillBox (encipher : SBox → UInt32 → UInt32 → UInt32 × UInt32) :
    (n : Nat) → n ≤ 128 → SBox → Feed → SBox × Feed
  | 0, _, box, feed => (box, feed)
  | n + 1, h, box, feed =>
    let (left, right) :=
      encipher box (feed.left ^^^ feed.salt.left) (feed.right ^^^ feed.salt.right)
    let box := (box.set (254 - 2 * n) left).set (255 - 2 * n) right
    refillBox encipher n (by omega) box ⟨left, right, feed.salt.turn⟩

/-- Takes a key of eighteen words and a salt into the schedule. -/
def expand (c : Blowfish) (key : Subkeys) (salt : Salt) : Blowfish :=
  let ⟨subkeys, box0, box1, box2, box3⟩ := c
  let subkeys := subkeys.zipWith (· ^^^ ·) key
  let (subkeys, feed) := refillSubkeys box0 box1 box2 box3 9 (by omega) subkeys ⟨0, 0, salt⟩
  let (box0, feed) := refillBox
    (fun box l r => rounds subkeys box box1 box2 box3 8 (by omega) l r) 128 (by omega) box0 feed
  let (box1, feed) := refillBox
    (fun box l r => rounds subkeys box0 box box2 box3 8 (by omega) l r) 128 (by omega) box1 feed
  let (box2, feed) := refillBox
    (fun box l r => rounds subkeys box0 box1 box box3 8 (by omega) l r) 128 (by omega) box2 feed
  let (box3, _) := refillBox
    (fun box l r => rounds subkeys box0 box1 box2 box 8 (by omega) l r) 128 (by omega) box3 feed
  ⟨subkeys, box0, box1, box2, box3⟩

end Blowfish

end TokenAuth
