import BrokerWiring.Crypto.KeyDerivation

/-!
# Keys that take memory

`scrypt` stretches a password to lanes, mixes each lane with a table of its own earlier states, and
stretches the password once more with what comes out. A lane is a list of blocks of sixteen words in
little-endian order; its number of blocks is twice the block size, and the table has as many states
as the cost says.
-/

namespace BrokerWiring.Crypto.Scrypt

/-- Sixteen words. -/
abbrev Block := Array UInt32

/-! ## Blocks -/

/-- One step on four places of a block: the first of them takes in the sum of two others, turned. -/
def quarterStep (x : Block) (into first second : Nat) (turn : UInt32) : Block :=
  let sum := x.getD first 0 + x.getD second 0
  x.setIfInBounds into (x.getD into 0 ^^^ rotateLeft sum turn)

/-- The steps of a round on four places. -/
def quarterRound (x : Block) (places : Nat × Nat × Nat × Nat) : Block :=
  let (a, b, c, d) := places
  let x := quarterStep x b a d 7
  let x := quarterStep x c b a 9
  let x := quarterStep x d c b 13
  quarterStep x a d c 18

/-- The places of a double round: the columns, then the rows, each from its diagonal on. -/
def doubleRound : List (Nat × Nat × Nat × Nat) :=
  [(0, 4, 8, 12), (5, 9, 13, 1), (10, 14, 2, 6), (15, 3, 7, 11),
    (0, 1, 2, 3), (5, 6, 7, 4), (10, 11, 8, 9), (15, 12, 13, 14)]

/-- Blocks added word by word. -/
def addBlocks (a b : Block) : Block := Array.zipWith (· + ·) a b

/-- Exclusive or of blocks, word by word. -/
def xorBlocks (a b : Block) : Block := Array.zipWith (· ^^^ ·) a b

/-- The image of a block: four double rounds, and the block itself added. -/
def scramble (x : Block) : Block :=
  addBlocks x ((List.replicate 4 doubleRound).flatten.foldl quarterRound x)

/-! ## Lanes -/

/-- The images of blocks one after another, each mixed with the one before it. -/
def scrambleFrom (before : Block) : List Block → List Block
  | [] => []
  | x :: rest =>
    let image := scramble (xorBlocks before x)
    image :: scrambleFrom image rest

/-- The items at even places and those at odd ones. -/
def unzip {α : Type} : List α → List α × List α
  | a :: b :: rest => (a :: (unzip rest).1, b :: (unzip rest).2)
  | rest => (rest, [])

/-- The next state of a lane: the image of each block, those at even places first. -/
def nextState (lane : List Block) : List Block :=
  let (even, odd) := unzip (scrambleFrom (lane.getLastD #[]) lane)
  even ++ odd

/-- A lane `n` states later, with the states before, last one first. -/
def fill : Nat → List Block → List (List Block) → List Block × List (List Block)
  | 0, lane, table => (lane, table)
  | n + 1, lane, table => fill n (nextState lane) (lane :: table)

/-- The number that a lane shows: the first word of its last block. -/
def shownNumber (lane : List Block) : Nat := ((lane.getLastD #[]).getD 0 0).toNat

/-- A lane `n` states later, mixed before each step with the state of the table that it shows. -/
def blend (table : Array (List Block)) : Nat → List Block → List Block
  | 0, lane => lane
  | n + 1, lane =>
    let state := table.getD (shownNumber lane % table.size) []
    blend table n (nextState (List.zipWith xorBlocks lane state))

/-- The words of bytes, lowest byte first; up to three bytes at the end are not looked at. -/
def littleWords (bytes : List UInt8) : List UInt32 :=
  words ((blocks 4 bytes).flatMap List.reverse)

/-- The blocks of a lane. -/
def laneOf (bytes : List UInt8) : List Block :=
  (blocks 64 bytes).map fun block => (littleWords block).toArray

/-- The bytes of a lane. -/
def laneBytes (lane : List Block) : List UInt8 :=
  lane.flatMap fun block => block.toList.flatMap fun w => (wordBytes w).reverse

/-- A lane mixed with a table of `cost` states. -/
def mixLane (cost : Nat) (bytes : List UInt8) : List UInt8 :=
  let (lane, table) := fill cost (laneOf bytes) []
  laneBytes (blend table.reverse.toArray cost lane)

/-! ## Keys -/

/-- How much work a key takes. -/
structure Work where
  /-- The number of states in a table, a power of two. -/
  cost : Nat
  /-- Half the number of blocks in a lane. -/
  blockSize : Nat
  lanes : Nat
  deriving Repr, DecidableEq

/-- Whether the work is within the bounds that the method sets: a cost that is a power of two and
below the number of values of an eighth of a lane, and not too many lanes. -/
def Work.isSound (work : Work) : Bool :=
  let exponent := work.cost.log2
  0 < work.blockSize && 0 < work.lanes && Nat.pow 2 exponent = work.cost &&
    exponent < 16 * work.blockSize && work.blockSize * work.lanes < 0x40000000

/-- A key of `length` bytes from a password. -/
def key (digest : Digest) (password salt : List UInt8) (work : Work) (length : Nat) : List UInt8 :=
  let size := 128 * work.blockSize
  let lanes := blocks size (stretched digest password salt 1 (size * work.lanes))
  stretched digest password (lanes.flatMap (mixLane work.cost)) 1 length

end BrokerWiring.Crypto.Scrypt
