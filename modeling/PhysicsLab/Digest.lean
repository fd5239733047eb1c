/-!
# Digests

The BLAKE3 hash function in its plain mode.  The input is cut into chunks of 1024 bytes, and a chunk
into blocks of 64.  A block is compressed with the chaining value of the one before it.  The chunks
are the leaves of a binary tree whose left subtrees are complete; the digest is the compression of
its root.

A `Node` is a compression that has not been carried out yet, because only at the end is it known
which one is the root.

## Main definitions

* `compress` — the compression function
* `Node` — a pending compression
* `digest` — the digest of bytes, `digestHex` in hexadecimal
-/

namespace PhysicsLab.Digest

/-! ## §1 Words -/

/-- The words of a chaining value. -/
abbrev Chain := Vector UInt32 8

/-- The words of a block or of the state of a compression. -/
abbrev Block := Vector UInt32 16

/-- The word of four bytes, the lowest first. -/
def word (a b c d : UInt8) : UInt32 :=
  a.toUInt32 ||| (b.toUInt32 <<< 8) ||| (c.toUInt32 <<< 16) ||| (d.toUInt32 <<< 24)

/-- The words of bytes; the last one is filled up with zeros. -/
def words : List UInt8 → List UInt32
  | [] => []
  | [a] => [word a 0 0 0]
  | [a, b] => [word a b 0 0]
  | [a, b, c] => [word a b c 0]
  | a :: b :: c :: d :: rest => word a b c d :: words rest

/-- The block of at most 64 bytes, filled up with zeros. -/
def blockOf (bytes : List UInt8) : Block :=
  let ws := (words bytes).toArray
  Vector.ofFn fun i => ws.getD i.val 0

/-- The four bytes of a word, the lowest first. -/
def wordBytes (w : UInt32) : List UInt8 :=
  [w.toUInt8, (w >>> 8).toUInt8, (w >>> 16).toUInt8, (w >>> 24).toUInt8]

/-- A word turned to the right. -/
def rotateRight (w n : UInt32) : UInt32 := (w >>> n) ||| (w <<< (32 - n))

/-! ## §2 Compression -/

/-- The first words of the state, which are also the chaining value that a tree starts from. -/
def initial : Chain := #v[
  0x6A09E667, 0xBB67AE85, 0x3C6EF372, 0xA54FF53A, 0x510E527F, 0x9B05688C, 0x1F83D9AB, 0x5BE0CD19]

/-- Mixes two message words into four words of the state. -/
def mix (s : Block) (a b c d : Fin 16) (x y : UInt32) : Block :=
  -- Two half rounds, each with a word of the message.
  let va := s[a] + s[b] + x
  let vd := rotateRight (s[d] ^^^ va) 16
  let vc := s[c] + vd
  let vb := rotateRight (s[b] ^^^ vc) 12
  let va := va + vb + y
  let vd := rotateRight (vd ^^^ va) 8
  let vc := vc + vd
  let vb := rotateRight (vb ^^^ vc) 7
  (((s.set a va).set b vb).set c vc).set d vd

/-- Mixes a message into the columns and then into the diagonals of the state. -/
def mixAll (s m : Block) : Block :=
  let s := mix s 0 4 8 12 m[0] m[1]
  let s := mix s 1 5 9 13 m[2] m[3]
  let s := mix s 2 6 10 14 m[4] m[5]
  let s := mix s 3 7 11 15 m[6] m[7]
  let s := mix s 0 5 10 15 m[8] m[9]
  let s := mix s 1 6 11 12 m[10] m[11]
  let s := mix s 2 7 8 13 m[12] m[13]
  mix s 3 4 9 14 m[14] m[15]

/-- The order of the message words in the next round. -/
def permute (m : Block) : Block := #v[
  m[2], m[6], m[3], m[10], m[7], m[0], m[4], m[13],
  m[1], m[11], m[12], m[5], m[9], m[14], m[15], m[8]]

/-- A number of rounds. -/
def rounds : Nat → Block → Block → Block
  | 0, s, _ => s
  | n + 1, s, m => rounds n (mixAll s m) (permute m)

/-- Compresses a block under a chaining value. -/
def compress (chain : Chain) (block : Block) (counter : UInt64) (length flags : UInt32) : Block :=
  let start : Block := #v[
    chain[0], chain[1], chain[2], chain[3], chain[4], chain[5], chain[6], chain[7],
    initial[0], initial[1], initial[2], initial[3],
    counter.toUInt32, (counter >>> 32).toUInt32, length, flags]
  let s := rounds 7 start block
  #v[s[0] ^^^ s[8], s[1] ^^^ s[9], s[2] ^^^ s[10], s[3] ^^^ s[11],
    s[4] ^^^ s[12], s[5] ^^^ s[13], s[6] ^^^ s[14], s[7] ^^^ s[15],
    s[8] ^^^ chain[0], s[9] ^^^ chain[1], s[10] ^^^ chain[2], s[11] ^^^ chain[3],
    s[12] ^^^ chain[4], s[13] ^^^ chain[5], s[14] ^^^ chain[6], s[15] ^^^ chain[7]]

/-! ## §3 The tree -/

/-- Marks the first block of a chunk. -/
def chunkStart : UInt32 := 1

/-- Marks the last block of a chunk. -/
def chunkEnd : UInt32 := 2

/-- Marks a block of two chaining values. -/
def parent : UInt32 := 4

/-- Marks the root of the tree. -/
def root : UInt32 := 8

/-- A compression that has not been carried out yet. -/
structure Node where
  chain : Chain
  block : Block
  counter : UInt64
  length : UInt32
  flags : UInt32

/-- The chaining value of a node. -/
def Node.value (n : Node) : Chain :=
  let out := compress n.chain n.block n.counter n.length n.flags
  #v[out[0], out[1], out[2], out[3], out[4], out[5], out[6], out[7]]

/-- The 32 bytes of the digest of a root. -/
def Node.rootBytes (n : Node) : List UInt8 :=
  let out := compress n.chain n.block n.counter n.length (n.flags ||| root)
  (out.toList.take 8).flatMap wordBytes

/-- The node over the blocks of a chunk, within a number of steps. -/
def chunkFrom (counter : UInt64) : Nat → Chain → UInt32 → List UInt8 → Node
  | 0, chain, flags, bytes =>
    ⟨chain, blockOf bytes, counter, bytes.length.toUInt32, flags ||| chunkEnd⟩
  | steps + 1, chain, flags, bytes =>
    let block := blockOf (bytes.take 64)
    match bytes.drop 64 with
    | [] => ⟨chain, block, counter, bytes.length.toUInt32, flags ||| chunkEnd⟩
    | b :: rest =>
      let out := Node.value ⟨chain, block, counter, 64, flags⟩
      chunkFrom counter steps out 0 (b :: rest)

/-- The node of a chunk with its number. -/
def chunkNode (counter : Nat) (bytes : List UInt8) : Node :=
  chunkFrom counter.toUInt64 15 initial chunkStart bytes

/-- The chunks of bytes, within a number of steps; no bytes at all are one empty chunk. -/
def chunksFrom : Nat → Nat → List UInt8 → List Node
  | 0, counter, bytes => [chunkNode counter bytes]
  | steps + 1, counter, bytes =>
    let node := chunkNode counter (bytes.take 1024)
    match bytes.drop 1024 with
    | [] => [node]
    | b :: rest => node :: chunksFrom steps (counter + 1) (b :: rest)

/-- The node above two chaining values. -/
def parentNode (left right : Chain) : Node := ⟨initial, left ++ right, 0, 64, parent⟩

/-- The largest power of two below a number greater than one. -/
def leftSize (n : Nat) : Nat := Nat.pow 2 (n - 1).log2

/-- The tree over chunks, within a number of levels. -/
def treeOver : Nat → List Node → Node
  | _, [] => chunkNode 0 []
  | _, [n] => n
  | 0, n :: _ => n
  | levels + 1, nodes =>
    -- The left subtree is complete and holds at least half of the chunks.
    let size := leftSize nodes.length
    parentNode (treeOver levels (nodes.take size)).value (treeOver levels (nodes.drop size)).value

/-! ## §4 Digests -/

/-- The digest of bytes. -/
def digest (bytes : List UInt8) : List UInt8 :=
  let chunks := chunksFrom (bytes.length / 1024) 0 bytes
  (treeOver chunks.length chunks).rootBytes

/-- Two hexadecimal digits. -/
def hexByte (b : UInt8) : List Char := [Nat.digitChar (b.toNat / 16), Nat.digitChar (b.toNat % 16)]

/-- The digest of bytes in hexadecimal. -/
def digestHex (bytes : List UInt8) : String := String.ofList ((digest bytes).flatMap hexByte)

/-- The bytes of a text in UTF-8. -/
def textBytes (s : String) : List UInt8 := s.toUTF8.toList

end PhysicsLab.Digest
