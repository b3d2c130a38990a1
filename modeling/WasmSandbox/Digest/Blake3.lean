import WasmSandbox.Bytes.Space

/-!
Contract: the BLAKE3 digest of a byte string, 32 bytes long.

Owns:
- the compression function on sixteen 32-bit words;
- chunks of 1024 bytes in blocks of 64, and the left-heavy binary tree over them;
- the digest, and its text.

Does not own: keyed digests, key derivation, or outputs of another length.
-/

namespace WasmSandbox.Blake3

open WasmSandbox

/-- Eight words: a chaining value. -/
abbrev Chain := Vector UInt32 8

/-- Sixteen words: a block, or the state of a compression. -/
abbrev Block := Vector UInt32 16

/-- The chaining value every chunk and every inner node starts from. -/
def initial : Chain :=
  #v[0x6A09E667, 0xBB67AE85, 0x3C6EF372, 0xA54FF53A,
     0x510E527F, 0x9B05688C, 0x1F83D9AB, 0x5BE0CD19]

/-- The marks that keep the uses of the compression function apart. -/
def chunkStart : UInt32 := 1

/-- The mark of a chunk's last block. -/
def chunkEnd : UInt32 := 2

/-- The mark of an inner node. -/
def parentMark : UInt32 := 4

/-- The mark of the last compression of a digest. -/
def rootMark : UInt32 := 8

/-- The word with its bits moved right around the end. -/
def rotateRight (word count : UInt32) : UInt32 :=
  (word >>> count) ||| (word <<< (32 - count))

def mix (state : Block) (a b c d : Fin 16) (x y : UInt32) : Block :=
  let va := state[a] + state[b] + x
  let vd := rotateRight (state[d] ^^^ va) 16
  let vc := state[c] + vd
  let vb := rotateRight (state[b] ^^^ vc) 12
  let va := va + vb + y
  let vd := rotateRight (vd ^^^ va) 8
  let vc := vc + vd
  let vb := rotateRight (vb ^^^ vc) 7
  (((state.set a va).set b vb).set c vc).set d vd

/-- A round mixes the columns of the state and then its diagonals. -/
def round (state block : Block) : Block :=
  let state := mix state 0 4 8 12 block[0] block[1]
  let state := mix state 1 5 9 13 block[2] block[3]
  let state := mix state 2 6 10 14 block[4] block[5]
  let state := mix state 3 7 11 15 block[6] block[7]
  let state := mix state 0 5 10 15 block[8] block[9]
  let state := mix state 1 6 11 12 block[10] block[11]
  let state := mix state 2 7 8 13 block[12] block[13]
  mix state 3 4 9 14 block[14] block[15]

/-- The order of the message words in the next round. -/
def permute (block : Block) : Block :=
  #v[block[2], block[6], block[3], block[10], block[7], block[0], block[4], block[13],
     block[1], block[11], block[12], block[5], block[9], block[14], block[15], block[8]]

/-- As many further rounds, each on the permuted message. -/
def rounds : Nat → Block → Block → Block
  | 0, state, _ => state
  | count + 1, state, block => rounds count (round state block) (permute block)

/-- One use of the compression function, with everything it depends on. -/
structure Node where
  chain : Chain
  block : Block
  counter : UInt64
  length : UInt32
  marks : UInt32

/-- The chaining value a node hands on, with further marks. -/
def Node.compress (node : Node) (marks : UInt32) : Chain :=
  let chain := node.chain
  let start : Block :=
    #v[chain[0], chain[1], chain[2], chain[3], chain[4], chain[5], chain[6], chain[7],
       initial[0], initial[1], initial[2], initial[3],
       node.counter.toUInt32, (node.counter >>> 32).toUInt32, node.length, node.marks ||| marks]
  let state := rounds 7 start node.block
  #v[state[0] ^^^ state[8], state[1] ^^^ state[9], state[2] ^^^ state[10],
     state[3] ^^^ state[11], state[4] ^^^ state[12], state[5] ^^^ state[13],
     state[6] ^^^ state[14], state[7] ^^^ state[15]]

/-- The chaining value a node hands on inside the tree. -/
def Node.chainingValue (node : Node) : Chain := node.compress 0

/-- The words of at most 64 bytes, little-endian, with zeros at the end. -/
def blockOf (bytes : List UInt8) : Block :=
  Vector.ofFn fun index : Fin 16 =>
    UInt32.ofNat (Bytes.ofLittleEndian ((bytes.drop (4 * index)).take 4))

/-- The list cut into pieces of `size`, the last one as long as what is left.
`count` bounds the number of pieces. -/
def pieces (size : Nat) : Nat → List UInt8 → List (List UInt8)
  | 0, _ => []
  | count + 1, bytes =>
      if bytes.length ≤ size then [bytes]
      else bytes.take size :: pieces size count (bytes.drop size)

/-- The last node of a chunk whose first blocks are given in order. -/
def chunkFrom (chain : Chain) (counter : UInt64) (marks : UInt32) : List (List UInt8) → Node
  | [] => ⟨chain, blockOf [], counter, 0, marks ||| chunkEnd⟩
  | [last] => ⟨chain, blockOf last, counter, UInt32.ofNat last.length, marks ||| chunkEnd⟩
  | bytes :: rest =>
      let node : Node := ⟨chain, blockOf bytes, counter, UInt32.ofNat bytes.length, marks⟩
      chunkFrom node.chainingValue counter 0 rest

/-- The node of a chunk of at most 1024 bytes. -/
def chunk (counter : Nat) (bytes : List UInt8) : Node :=
  chunkFrom initial (UInt64.ofNat counter) chunkStart (pieces 64 16 bytes)

def parent (left right : Node) : Node :=
  let l := left.chainingValue
  let r := right.chainingValue
  ⟨initial,
    #v[l[0], l[1], l[2], l[3], l[4], l[5], l[6], l[7],
       r[0], r[1], r[2], r[3], r[4], r[5], r[6], r[7]],
    0, 64, parentMark⟩

/-- The tree over a list of chunks, the first of which has number `counter`.
The left subtree holds the greatest power of two below the number of chunks.
`depth` bounds the height of the tree. -/
def tree : (depth counter : Nat) → List (List UInt8) → Node
  | 0, counter, chunks => chunk counter (chunks.headD [])
  | depth + 1, counter, chunks =>
      if chunks.length ≤ 1 then chunk counter (chunks.headD [])
      else
        let half := 1 <<< (chunks.length - 1).log2
        parent (tree depth counter (chunks.take half))
          (tree depth (counter + half) (chunks.drop half))

def digest (bytes : List UInt8) : List UInt8 :=
  let chunks := pieces 1024 (bytes.length / 1024 + 1) bytes
  let root := tree chunks.length 0 chunks
  (root.compress rootMark).toList.flatMap fun word => Bytes.toLittleEndian 4 word.toNat

end WasmSandbox.Blake3
