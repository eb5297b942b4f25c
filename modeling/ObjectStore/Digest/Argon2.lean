import ObjectStore.Digest.Blake2b

/-!
# Argon2id

The password hash of RFC 9106, version 19, in its mixed form: a memory of blocks
of 1024 bytes is filled lane by lane, and each block is made from the one before
it in its lane and from another one. In the first half of the first pass the
other one is chosen by position alone, afterwards by what the memory holds.
-/

namespace ObjectStore.Digest.Argon2

/-- Sixteen words of a block. -/
structure Row where
  /-- The words in order. -/
  (w0 w1 w2 w3 w4 w5 w6 w7 w8 w9 w10 w11 w12 w13 w14 w15 : UInt64)

/-- A block of 1024 bytes: eight rows of sixteen words. -/
structure Block where
  /-- The rows in order. -/
  (r0 r1 r2 r3 r4 r5 r6 r7 : Row)

/-- Four words that are worked into each other. -/
structure Quarter where
  /-- The words in order. -/
  (a b c d : UInt64)

/-- The sum of two words and of twice the product of their lower halves. -/
@[inline] def blend (x y : UInt64) : UInt64 :=
  x + y + 2 * (x &&& 0xffffffff) * (y &&& 0xffffffff)

/-- Work four words into each other. -/
@[inline] def mix (a b c d : UInt64) : Quarter :=
  let a := blend a b
  let d := Blake2b.rotateRight (d ^^^ a) 32
  let c := blend c d
  let b := Blake2b.rotateRight (b ^^^ c) 24
  let a := blend a b
  let d := Blake2b.rotateRight (d ^^^ a) 16
  let c := blend c d
  let b := Blake2b.rotateRight (b ^^^ c) 63
  ⟨a, b, c, d⟩

namespace Row

/-- Work sixteen words into each other: as a square of four by four, columns first, then diagonals. -/
def permute (r : Row) : Row :=
  let p := mix r.w0 r.w4 r.w8 r.w12
  let q := mix r.w1 r.w5 r.w9 r.w13
  let s := mix r.w2 r.w6 r.w10 r.w14
  let t := mix r.w3 r.w7 r.w11 r.w15
  let k := mix p.a q.b s.c t.d
  let l := mix q.a s.b t.c p.d
  let m := mix s.a t.b p.c q.d
  let n := mix t.a p.b q.c s.d
  ⟨k.a, l.a, m.a, n.a, n.b, k.b, l.b, m.b, m.c, n.c, k.c, l.c, l.d, m.d, n.d, k.d⟩

/-- The words of two rows, added without carry. -/
def xor (x y : Row) : Row :=
  ⟨x.w0 ^^^ y.w0, x.w1 ^^^ y.w1, x.w2 ^^^ y.w2, x.w3 ^^^ y.w3, x.w4 ^^^ y.w4, x.w5 ^^^ y.w5,
    x.w6 ^^^ y.w6, x.w7 ^^^ y.w7, x.w8 ^^^ y.w8, x.w9 ^^^ y.w9, x.w10 ^^^ y.w10, x.w11 ^^^
    y.w11, x.w12 ^^^ y.w12, x.w13 ^^^ y.w13, x.w14 ^^^ y.w14, x.w15 ^^^ y.w15⟩

/-- The row of sixteen words. -/
def ofFn (word : Nat → UInt64) : Row :=
  ⟨word 0, word 1, word 2, word 3, word 4, word 5, word 6, word 7, word 8, word 9, word 10,
    word 11, word 12, word 13, word 14, word 15⟩

/-- The words in order. -/
def toList (r : Row) : List UInt64 :=
  [r.w0, r.w1, r.w2, r.w3, r.w4, r.w5, r.w6, r.w7, r.w8, r.w9, r.w10, r.w11, r.w12, r.w13,
    r.w14, r.w15]

/-- The word at a place below 16. -/
def word (r : Row) : Nat → UInt64
  | 0 => r.w0
  | 1 => r.w1
  | 2 => r.w2
  | 3 => r.w3
  | 4 => r.w4
  | 5 => r.w5
  | 6 => r.w6
  | 7 => r.w7
  | 8 => r.w8
  | 9 => r.w9
  | 10 => r.w10
  | 11 => r.w11
  | 12 => r.w12
  | 13 => r.w13
  | 14 => r.w14
  | _ => r.w15

end Row

namespace Block

/-- The rows of two blocks, combined one by one. -/
@[inline] def zipWith (f : Row → Row → Row) (x y : Block) : Block :=
  ⟨f x.r0 y.r0, f x.r1 y.r1, f x.r2 y.r2, f x.r3 y.r3, f x.r4 y.r4, f x.r5 y.r5, f x.r6 y.r6,
    f x.r7 y.r7⟩

/-- The blocks added without carry. -/
def xor (x y : Block) : Block := zipWith Row.xor x y

/-- Each row worked into itself. -/
def permuteRows (b : Block) : Block :=
  ⟨b.r0.permute, b.r1.permute, b.r2.permute, b.r3.permute, b.r4.permute, b.r5.permute, b.r6.permute,
    b.r7.permute⟩

/-- The block as a square of eight by eight pairs of words, turned over its diagonal. -/
def transpose (b : Block) : Block :=
  ⟨
    ⟨b.r0.w0, b.r0.w1, b.r1.w0, b.r1.w1, b.r2.w0, b.r2.w1, b.r3.w0, b.r3.w1, b.r4.w0,
      b.r4.w1, b.r5.w0, b.r5.w1, b.r6.w0, b.r6.w1, b.r7.w0, b.r7.w1⟩,
    ⟨b.r0.w2, b.r0.w3, b.r1.w2, b.r1.w3, b.r2.w2, b.r2.w3, b.r3.w2, b.r3.w3, b.r4.w2,
      b.r4.w3, b.r5.w2, b.r5.w3, b.r6.w2, b.r6.w3, b.r7.w2, b.r7.w3⟩,
    ⟨b.r0.w4, b.r0.w5, b.r1.w4, b.r1.w5, b.r2.w4, b.r2.w5, b.r3.w4, b.r3.w5, b.r4.w4,
      b.r4.w5, b.r5.w4, b.r5.w5, b.r6.w4, b.r6.w5, b.r7.w4, b.r7.w5⟩,
    ⟨b.r0.w6, b.r0.w7, b.r1.w6, b.r1.w7, b.r2.w6, b.r2.w7, b.r3.w6, b.r3.w7, b.r4.w6,
      b.r4.w7, b.r5.w6, b.r5.w7, b.r6.w6, b.r6.w7, b.r7.w6, b.r7.w7⟩,
    ⟨b.r0.w8, b.r0.w9, b.r1.w8, b.r1.w9, b.r2.w8, b.r2.w9, b.r3.w8, b.r3.w9, b.r4.w8,
      b.r4.w9, b.r5.w8, b.r5.w9, b.r6.w8, b.r6.w9, b.r7.w8, b.r7.w9⟩,
    ⟨b.r0.w10, b.r0.w11, b.r1.w10, b.r1.w11, b.r2.w10, b.r2.w11, b.r3.w10, b.r3.w11,
      b.r4.w10, b.r4.w11, b.r5.w10, b.r5.w11, b.r6.w10, b.r6.w11, b.r7.w10, b.r7.w11⟩,
    ⟨b.r0.w12, b.r0.w13, b.r1.w12, b.r1.w13, b.r2.w12, b.r2.w13, b.r3.w12, b.r3.w13,
      b.r4.w12, b.r4.w13, b.r5.w12, b.r5.w13, b.r6.w12, b.r6.w13, b.r7.w12, b.r7.w13⟩,
    ⟨b.r0.w14, b.r0.w15, b.r1.w14, b.r1.w15, b.r2.w14, b.r2.w15, b.r3.w14, b.r3.w15,
      b.r4.w14, b.r4.w15, b.r5.w14, b.r5.w15, b.r6.w14, b.r6.w15, b.r7.w14, b.r7.w15⟩⟩

/-- The block that two blocks give: their sum, with its rows and then its columns worked into themselves. -/
def compress (x y : Block) : Block :=
  let sum := xor x y
  xor sum sum.permuteRows.transpose.permuteRows.transpose

/-- The block of 128 words. -/
def ofFn (word : Nat → UInt64) : Block :=
  let row (i : Nat) := Row.ofFn fun j => word (16 * i + j)
  ⟨row 0, row 1, row 2, row 3, row 4, row 5, row 6, row 7⟩

/-- The block of zeros. -/
def zero : Block := ofFn fun _ => 0

instance : Inhabited Block := ⟨zero⟩

/-- The rows in order. -/
def row (b : Block) : Nat → Row
  | 0 => b.r0
  | 1 => b.r1
  | 2 => b.r2
  | 3 => b.r3
  | 4 => b.r4
  | 5 => b.r5
  | 6 => b.r6
  | _ => b.r7

/-- The word at a place below 128. -/
def word (b : Block) (i : Nat) : UInt64 := (b.row (i / 16)).word (i % 16)

/-- The block that 1024 bytes write. -/
def ofBytes (bytes : List UInt8) : Block :=
  let array := bytes.toArray
  ofFn fun i => Blake2b.word ((List.range 8).map fun k => array.getD (8 * i + k) 0)

/-- The bytes of a block. -/
def toBytes (b : Block) : List UInt8 :=
  (List.range 8).flatMap fun i => (b.row i).toList.flatMap Blake2b.bytes

end Block

/-- What the effort of a hash is made of. -/
structure Cost where
  /-- The size of the memory in KiB. -/
  memory : Nat
  /-- How often the memory is filled. -/
  passes : Nat
  /-- The number of lanes. -/
  lanes : Nat
  deriving DecidableEq, Repr

namespace Cost

/-- The number of blocks of a lane that are filled in one slice, a quarter of a pass. -/
def segment (cost : Cost) : Nat := cost.memory / (4 * cost.lanes)

/-- The number of blocks of a lane. -/
def lane (cost : Cost) : Nat := 4 * cost.segment

end Cost

/-- Four bytes of a number, lowest first. -/
def bytes32 (n : Nat) : List UInt8 :=
  [UInt8.ofNat n, UInt8.ofNat (n / 256), UInt8.ofNat (n / 65536), UInt8.ofNat (n / 16777216)]

/-- The digests that follow a first one, of which all but the last give their first half. -/
def chain (length : Nat) (digest : List UInt8) : List UInt8 :=
  if length ≤ 64 then digest.take 32 ++ Blake2b.digest length digest
  else digest.take 32 ++ chain (length - 32) (Blake2b.digest 64 digest)
termination_by length

/-- A digest of any length. -/
def longDigest (length : Nat) (message : List UInt8) : List UInt8 :=
  let message := bytes32 length ++ message
  if length ≤ 64 then Blake2b.digest length message
  else chain (length - 32) (Blake2b.digest 64 message)

/-- The digest of all that goes into the hash. -/
def seed (cost : Cost) (length : Nat) (password salt : List UInt8) : List UInt8 :=
  Blake2b.digest 64 <|
    bytes32 cost.lanes ++ bytes32 length ++ bytes32 cost.memory ++ bytes32 cost.passes ++
    bytes32 19 ++ bytes32 2 ++ bytes32 password.length ++ password ++ bytes32 salt.length ++ salt ++
    bytes32 0 ++ bytes32 0

/-- A part of the memory that is filled in one go. -/
structure Segment where
  /-- The pass, from 0. -/
  pass : Nat
  /-- The quarter of the pass, from 0. -/
  slice : Nat
  /-- The lane. -/
  lane : Nat

/-- Whether the blocks of a segment are chosen by position alone. -/
def Segment.isIndependent (s : Segment) : Bool := s.pass = 0 && s.slice < 2

/-- The choices of 128 blocks of a segment; `count` numbers the groups of 128 from 1. -/
def choices (cost : Cost) (s : Segment) (count : Nat) : Block :=
  let input := Block.ofFn fun i =>
    match i with
    | 0 => UInt64.ofNat s.pass
    | 1 => UInt64.ofNat s.lane
    | 2 => UInt64.ofNat s.slice
    | 3 => UInt64.ofNat (cost.lanes * cost.lane)
    | 4 => UInt64.ofNat cost.passes
    | 5 => 2
    | 6 => UInt64.ofNat count
    | _ => 0
  Block.compress .zero (Block.compress .zero input)

/-- The place of the other block from which the block at `index` of a segment is made. -/
def reference (cost : Cost) (s : Segment) (index : Nat) (choice : UInt64) : Nat :=
  let lane :=
    if s.pass = 0 ∧ s.slice = 0 then s.lane else (choice >>> 32).toNat % cost.lanes
  let before := if s.pass = 0 then s.slice * cost.segment else cost.lane - cost.segment
  let available :=
    if lane = s.lane then before + index - 1 else if index = 0 then before - 1 else before
  let low := choice &&& 0xffffffff
  let distance := (UInt64.ofNat available * ((low * low) >>> 32)) >>> 32
  let oldest := if s.pass = 0 then 0 else (s.slice + 1) * cost.segment
  lane * cost.lane + (oldest + (available - 1 - distance.toNat)) % cost.lane

/-- Fill the last `left` blocks of a segment; `group` holds the choices made by position. -/
def fillRest (cost : Cost) (s : Segment) : Nat → Block → Array Block → Array Block
  | 0, _, memory => memory
  | left + 1, group, memory =>
    let index := cost.segment - (left + 1)
    let group :=
      if s.isIndependent && index % 128 = 0 then choices cost s (index / 128 + 1) else group
    let place := s.slice * cost.segment + index
    let base := s.lane * cost.lane
    let previous := memory.getD (base + (place + cost.lane - 1) % cost.lane) .zero
    let choice := if s.isIndependent then group.word (index % 128) else previous.word 0
    let other := memory.getD (reference cost s index choice) .zero
    let block := previous.compress other
    let block := if s.pass = 0 then block else block.xor (memory.getD (base + place) .zero)
    fillRest cost s left group (memory.setIfInBounds (base + place) block)

/-- Fill a segment; the first two blocks of each lane are there before the first pass. -/
def fill (cost : Cost) (memory : Array Block) (s : Segment) : Array Block :=
  if s.pass = 0 ∧ s.slice = 0 then fillRest cost s (cost.segment - 2) (choices cost s 1) memory
  else fillRest cost s cost.segment .zero memory

/-- The segments in the order in which they are filled. -/
def segments (cost : Cost) : List Segment :=
  (List.range cost.passes).flatMap fun pass => (List.range 4).flatMap fun slice =>
    (List.range cost.lanes).map fun lane => ⟨pass, slice, lane⟩

/-- The memory before the first pass: the first two blocks of each lane, and zeros. -/
def initialMemory (cost : Cost) (seed : List UInt8) : Array Block :=
  (List.range cost.lanes).foldl
    (fun memory lane =>
      let block (i : Nat) := Block.ofBytes (longDigest 1024 (seed ++ bytes32 i ++ bytes32 lane))
      (memory.setIfInBounds (lane * cost.lane) (block 0)).setIfInBounds (lane * cost.lane + 1) (block 1))
    (Array.replicate (cost.lanes * cost.lane) .zero)

/-- The hash of a password. -/
def hash (cost : Cost) (length : Nat) (password salt : List UInt8) : List UInt8 :=
  let memory := (segments cost).foldl (fill cost) (initialMemory cost (seed cost length password salt))
  let lasts := (List.range cost.lanes).map fun lane =>
    memory.getD (lane * cost.lane + (cost.lane - 1)) .zero
  longDigest length (lasts.foldl Block.xor .zero).toBytes

end ObjectStore.Digest.Argon2
