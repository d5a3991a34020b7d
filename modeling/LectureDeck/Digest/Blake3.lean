/-!
# The BLAKE3 hash

A text of bytes is cut into chunks of 1024 bytes, each chunk into blocks of 64 bytes. The blocks
of a chunk are compressed one after the other; the results of the chunks are joined pairwise in a
tree whose left parts are full.
-/

namespace LectureDeck.Blake3

/-- Eight words carried from one compression to the next. -/
abbrev Chain := Vector UInt32 8

/-- The sixteen words of a block, and the sixteen words that are mixed with it. -/
abbrev Block := Vector UInt32 16

/-- The chain before the first block. -/
def initial : Chain :=
  #v[0x6A09E667, 0xBB67AE85, 0x3C6EF372, 0xA54FF53A, 0x510E527F, 0x9B05688C, 0x1F83D9AB, 0x5BE0CD19]

/-- Where each word of a block moves between rounds. -/
def permutation : Vector (Fin 16) 16 := #v[2, 6, 3, 10, 7, 0, 4, 13, 1, 11, 12, 5, 9, 14, 15, 8]

/-- Marks the first block of a chunk. -/
def chunkStart : UInt32 := 1

/-- Marks the last block of a chunk. -/
def chunkEnd : UInt32 := 2

/-- Marks a block of two chains. -/
def parent : UInt32 := 4

/-- Marks the last compression of all. -/
def root : UInt32 := 8

/-- A word turned to the right by a number of bits. -/
def turnRight (word count : UInt32) : UInt32 := (word >>> count) ||| (word <<< (32 - count))

/-- Mix two words of a block into four words of the state. -/
def mix (state : Block) (a b c d : Fin 16) (x y : UInt32) : Block :=
  let a₁ := state[a] + state[b] + x
  let d₁ := turnRight (state[d] ^^^ a₁) 16
  let c₁ := state[c] + d₁
  let b₁ := turnRight (state[b] ^^^ c₁) 12
  let a₂ := a₁ + b₁ + y
  let d₂ := turnRight (d₁ ^^^ a₂) 8
  let c₂ := c₁ + d₂
  let b₂ := turnRight (b₁ ^^^ c₂) 7
  (((state.set a a₂).set b b₂).set c c₂).set d d₂

/-- Mix a block into the columns and then into the diagonals of the state. -/
def round (state block : Block) : Block :=
  let state := mix state 0 4 8 12 block[0] block[1]
  let state := mix state 1 5 9 13 block[2] block[3]
  let state := mix state 2 6 10 14 block[4] block[5]
  let state := mix state 3 7 11 15 block[6] block[7]
  let state := mix state 0 5 10 15 block[8] block[9]
  let state := mix state 1 6 11 12 block[10] block[11]
  let state := mix state 2 7 8 13 block[12] block[13]
  mix state 3 4 9 14 block[14] block[15]

/-- The block in the order of the next round. -/
def permute (block : Block) : Block := permutation.map fun i => block[i]

/-- A number of rounds, each with its permuted block. -/
def rounds (state block : Block) : Nat → Block
  | 0 => state
  | count + 1 => rounds (round state block) (permute block) count

/-- What one compression reads. -/
structure Node where
  chain : Chain
  block : Block
  counter : UInt64
  size : UInt32
  flags : UInt32

/-- The eight words that a compression yields. -/
def Node.compress (node : Node) : Chain :=
  let start : Block :=
    #v[node.chain[0], node.chain[1], node.chain[2], node.chain[3],
      node.chain[4], node.chain[5], node.chain[6], node.chain[7],
      initial[0], initial[1], initial[2], initial[3],
      node.counter.toUInt32, (node.counter >>> 32).toUInt32, node.size, node.flags]
  let state := rounds start node.block 7
  #v[state[0] ^^^ state[8], state[1] ^^^ state[9], state[2] ^^^ state[10], state[3] ^^^ state[11],
    state[4] ^^^ state[12], state[5] ^^^ state[13], state[6] ^^^ state[14], state[7] ^^^ state[15]]

/-- The word of four bytes, the lowest first. -/
def wordOfBytes (bytes : List UInt8) : UInt32 :=
  bytes.foldr (fun byte word => (word <<< 8) ||| byte.toUInt32) 0

/-- The words of up to 64 bytes, filled up with zeros. -/
def blockOfBytes (bytes : List UInt8) : Block :=
  Vector.ofFn fun i : Fin 16 => wordOfBytes ((bytes.drop (4 * i.val)).take 4)

/-- The last compression of a chunk, given what its earlier blocks yielded. -/
def chunkNode (counter : UInt64) (chain : Chain) (flags : UInt32) (bytes : List UInt8) : Node :=
  if bytes.length ≤ 64 then
    ⟨chain, blockOfBytes bytes, counter, UInt32.ofNat bytes.length, flags ||| chunkEnd⟩
  else
    let first : Node := ⟨chain, blockOfBytes (bytes.take 64), counter, 64, flags⟩
    chunkNode counter first.compress 0 (bytes.drop 64)
termination_by bytes.length
decreasing_by simp only [List.length_drop]; omega

/-- The joining of two parts of a text. -/
def joinNode (left right : Chain) : Node := ⟨initial, left ++ right, 0, 64, parent⟩

/-- The largest power of two of chunks that is shorter than a text of `count` bytes. -/
def leftChunks (count : Nat) : Nat := Nat.pow 2 (Nat.log2 ((count - 1) / 1024))

/-- The last compression of a text that starts at a given chunk. -/
def textNode (counter : Nat) (bytes : List UInt8) : Node :=
  if single : bytes.length ≤ 1024 then
    chunkNode (UInt64.ofNat counter) initial chunkStart bytes
  else
    let chunks := leftChunks bytes.length
    if inside : 0 < chunks ∧ chunks * 1024 < bytes.length then
      let left := textNode counter (bytes.take (chunks * 1024))
      let right := textNode (counter + chunks) (bytes.drop (chunks * 1024))
      joinNode left.compress right.compress
    else chunkNode (UInt64.ofNat counter) initial chunkStart bytes
termination_by bytes.length
decreasing_by
  · simp only [List.length_take]; omega
  · simp only [List.length_drop]; omega

/-- The bytes of a word, the lowest first. -/
def bytesOfWord (word : UInt32) : List UInt8 :=
  [word.toUInt8, (word >>> 8).toUInt8, (word >>> 16).toUInt8, (word >>> 24).toUInt8]

def hash (bytes : List UInt8) : List UInt8 :=
  let node := textNode 0 bytes
  let last : Node := { node with flags := node.flags ||| root }
  last.compress.toList.flatMap bytesOfWord

end LectureDeck.Blake3
