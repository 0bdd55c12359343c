import TokenAuth.Crypto.Argon2Block

/-! Argon2 of all three kinds: memory is filled pass by pass, slice by slice and lane by lane. -/

namespace TokenAuth.Argon2

inductive Variant
  | d
  | i
  | id
deriving DecidableEq

namespace Variant

def code : Variant → Nat
  | d => 0
  | i => 1
  | id => 2

end Variant

inductive Version
  | v16
  | v19
deriving DecidableEq

namespace Version

def code : Version → Nat
  | v16 => 16
  | v19 => 19

end Version

/-- The costs of a hash: kibibytes of memory, passes and lanes. -/
structure Params where
  memory : Nat
  passes : Nat
  lanes : Nat
  outputLength : Nat
  data : Bytes
deriving DecidableEq

namespace Params

/-- The costs that a hash can have. -/
def isValid (p : Params) : Bool :=
  8 ≤ p.memory && 8 * p.lanes ≤ p.memory && 1 ≤ p.passes && 1 ≤ p.lanes && p.lanes ≤ 0xFFFFFF &&
    4 ≤ p.outputLength

end Params

def word32 (n : Nat) : Bytes :=
  [UInt8.ofNat n, UInt8.ofNat (n / 256), UInt8.ofNat (n / 65536), UInt8.ofNat (n / 16777216)]

def counted (bs : Bytes) : Bytes := word32 bs.length ++ bs

def chain (size : Nat) : (links : Nat) → Bytes → Bytes
  | 0, v => Blake2b.digest size v
  | links + 1, v =>
    let next := Blake2b.digest 64 v
    next.take 32 ++ chain size links next

/-- A hash of any length: halves of chained hashes, and a last one that fills up the rest. -/
def longDigest (size : Nat) (message : Bytes) : Bytes :=
  let message := word32 size ++ message
  if size ≤ 64 then Blake2b.digest size message
  else
    let links := (size + 31) / 32 - 2
    chain (size - 32 * links) links message

/-- The hash of all that is given. -/
def seed (variant : Variant) (version : Version) (p : Params) (password salt : Bytes) : Bytes :=
  Blake2b.digest 64 (word32 p.lanes ++ word32 p.outputLength ++ word32 p.memory ++
    word32 p.passes ++ word32 version.code ++ word32 variant.code ++ counted password ++
    counted salt ++ counted [] ++ counted p.data)

/-- The blocks of one lane in a quarter of a pass. -/
def segmentLength (p : Params) : Nat := p.memory / (4 * p.lanes)

def laneLength (p : Params) : Nat := 4 * segmentLength p

def blockOfBytes (bs : Bytes) : Block := Block.ofList (Blake2b.words bs)

/-- The memory with the first two blocks of every lane set. -/
def start (p : Params) (seed : Bytes) : Array Block :=
  let lane := laneLength p
  (List.range p.lanes).foldl
    (fun memory l =>
      let block (n : Nat) : Block :=
        blockOfBytes (longDigest 1024 (seed ++ word32 n ++ word32 l))
      (memory.setIfInBounds (lane * l) (block 0)).setIfInBounds (lane * l + 1) (block 1))
    (Array.replicate (lane * p.lanes) Block.zero)

/-- Where a segment stands: the pass, the quarter of it, and the lane. -/
structure Position where
  pass : Nat
  slice : Nat
  lane : Nat

/-- Whether the places to refer to are chosen without regard to the memory. -/
def independent (variant : Variant) (pos : Position) : Bool :=
  match variant with
  | .d => false
  | .i => true
  | .id => pos.pass == 0 && pos.slice < 2

/-- The words that choose 128 places to refer to. -/
def addresses (variant : Variant) (p : Params) (pos : Position) (counter : Nat) :
    Array UInt64 :=
  let input := Block.ofList
    ([pos.pass, pos.lane, pos.slice, laneLength p * p.lanes, p.passes, variant.code,
      counter].map UInt64.ofNat ++ List.replicate 121 0)
  ((Block.zero.compress (Block.zero.compress input)).toList).toArray

/-- The block that the word `j` refers to from place `index` of a segment. -/
def reference (p : Params) (pos : Position) (index : Nat) (j : UInt64) : Nat :=
  let segment := segmentLength p
  let lane := laneLength p
  let other := (j >>> 32).toNat % p.lanes
  let refLane := if pos.pass = 0 ∧ pos.slice = 0 then pos.lane else other
  let finished := if pos.pass = 0 then pos.slice * segment else lane - segment
  let size :=
    if refLane = pos.lane then finished + index - 1
    else if index = 0 then finished - 1
    else finished
  let j1 := (j &&& 0xFFFFFFFF).toNat
  let x := (j1 * j1) >>> 32
  let back := (size * x) >>> 32
  let first := if pos.pass = 0 ∨ pos.slice = 3 then 0 else (pos.slice + 1) * segment
  refLane * lane + (first + (size - 1 - back)) % lane

/-- The word that chooses the reference of a place: from the addresses, or from the block before
it. -/
def choice (independent : Bool) (table : Array UInt64) (index : Nat) (previous : Block) : UInt64 :=
  if independent then table.getD (index % 128) 0 else previous.r0.w0

/-- Fills the last `count` places of a segment. -/
def fillFrom (variant : Variant) (version : Version) (p : Params) (pos : Position) :
    (count : Nat) → Array UInt64 → Array Block → Array Block
  | 0, _, memory => memory
  | count + 1, table, memory =>
    let segment := segmentLength p
    let lane := laneLength p
    let index := segment - (count + 1)
    let free := independent variant pos
    let table :=
      if free ∧ (index % 128 = 0 ∨ table.isEmpty) then
        addresses variant p pos (index / 128 + 1)
      else table
    let column := pos.slice * segment + index
    let current := pos.lane * lane + column
    let before := pos.lane * lane + (column + lane - 1) % lane
    let previous := memory.getD before Block.zero
    let j := choice free table index previous
    let block := previous.compress (memory.getD (reference p pos index j) Block.zero)
    let block :=
      if 0 < pos.pass ∧ version = .v19 then block.xor (memory.getD current Block.zero) else block
    fillFrom variant version p pos count table (memory.setIfInBounds current block)

/-- Fills a segment; its first two places are set before the first pass. -/
def fillSegment (variant : Variant) (version : Version) (p : Params) (memory : Array Block)
    (pos : Position) : Array Block :=
  let skipped := if pos.pass = 0 ∧ pos.slice = 0 then 2 else 0
  fillFrom variant version p pos (segmentLength p - skipped) #[] memory

/-- The segments in the order they are filled. -/
def positions (p : Params) : List Position :=
  (List.range p.passes).flatMap fun pass => (List.range 4).flatMap fun slice =>
    (List.range p.lanes).map fun lane => ⟨pass, slice, lane⟩

/-- The hash of a password under a salt. -/
def core (variant : Variant) (version : Version) (p : Params) (password salt : Bytes) : Bytes :=
  let memory := start p (seed variant version p password salt)
  let memory := (positions p).foldl (fillSegment variant version p) memory
  let lane := laneLength p
  let last := (List.range p.lanes).foldl
    (fun block l => block.xor (memory.getD (l * lane + lane - 1) Block.zero)) Block.zero
  longDigest p.outputLength (last.toList.flatMap Blake2b.wordBytes)

end TokenAuth.Argon2
