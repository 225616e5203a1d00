/-!
# Words, blocks and padding

What the digests share: words of thirty-two and sixty-four bits in big-endian order, the split of a
message into blocks, and the padding that makes the split come out even and ends in the length of
the message.
-/

namespace BrokerWiring.Crypto

/-! ## Words -/

/-- The bits of a word moved left, those that fall out coming back on the right. -/
def rotateLeft (x n : UInt32) : UInt32 := (x <<< n) ||| (x >>> (32 - n))

/-- The bits of a word moved right, those that fall out coming back on the left. -/
def rotateRight (x n : UInt32) : UInt32 := (x >>> n) ||| (x <<< (32 - n))

/-- The bits of a long word moved right, those that fall out coming back on the left. -/
def rotateLongRight (x n : UInt64) : UInt64 := (x >>> n) ||| (x <<< (64 - n))

/-- The words of a byte string; up to three bytes at its end are not looked at. -/
def words : List UInt8 → List UInt32
  | a :: b :: c :: d :: rest =>
    ((a.toUInt32 <<< 24) ||| (b.toUInt32 <<< 16) ||| (c.toUInt32 <<< 8) ||| d.toUInt32) ::
      words rest
  | _ => []

/-- The four bytes of a word. -/
def wordBytes (w : UInt32) : List UInt8 :=
  [(w >>> 24).toUInt8, (w >>> 16).toUInt8, (w >>> 8).toUInt8, w.toUInt8]

/-- The long words of a list of words; an odd word at its end is not looked at. -/
def longWords : List UInt32 → List UInt64
  | high :: low :: rest => ((high.toUInt64 <<< 32) ||| low.toUInt64) :: longWords rest
  | _ => []

/-- The eight bytes of a long word. -/
def longWordBytes (w : UInt64) : List UInt8 :=
  wordBytes (w >>> 32).toUInt32 ++ wordBytes w.toUInt32

/-- The lowest `width` bytes of a number, highest first. -/
def bigEndian (n : Nat) : Nat → List UInt8
  | 0 => []
  | width + 1 => bigEndian (n / 256) width ++ [n.toUInt8]

/-- The number that bytes spell, highest first. -/
def ofBigEndian (bytes : List UInt8) : Nat := bytes.foldl (fun n b => n * 256 + b.toNat) 0

theorem length_bigEndian (n width : Nat) : (bigEndian n width).length = width := by
  induction width generalizing n with
  | zero => rfl
  | succ width ih => simp [bigEndian, ih]

/-- Exclusive or, byte by byte, as far as both go. -/
def xorBytes (a b : List UInt8) : List UInt8 := List.zipWith (· ^^^ ·) a b

/-! ## Blocks -/

/-- The pieces of `size` bytes; the last one may be shorter. A size of zero gives none. -/
def blocks (size : Nat) (bytes : List UInt8) : List (List UInt8) :=
  if size = 0 ∨ bytes = [] then []
  else bytes.take size :: blocks size (bytes.drop size)
termination_by bytes.length
decreasing_by
  rename_i h
  have : 0 < bytes.length := List.length_pos_iff.mpr fun hb => h (.inr hb)
  have : 0 < size := Nat.pos_of_ne_zero fun hs => h (.inl hs)
  simp only [List.length_drop]
  omega

/-- Nothing is lost: the blocks one behind the other are the bytes. -/
theorem flatten_blocks {size : Nat} (h : size ≠ 0) (bytes : List UInt8) :
    (blocks size bytes).flatten = bytes := by
  fun_induction blocks size bytes with
  | case1 bytes hb => exact (hb.resolve_left h).symm ▸ rfl
  | case2 bytes hb ih => rw [List.flatten_cons, ih, List.take_append_drop]

/-- Bytes that come out even give full blocks. -/
theorem length_of_mem_blocks {size : Nat} {bytes : List UInt8} (h : bytes.length % size = 0) :
    ∀ block ∈ blocks size bytes, block.length = size := by
  fun_induction blocks size bytes with
  | case1 bytes _ =>
    intro block hblock
    cases hblock
  | case2 bytes hsplit ih =>
    have filled : 0 < bytes.length := by
      apply List.length_pos_iff.mpr
      intro empty
      exact hsplit (.inr empty)
    have enough : size ≤ bytes.length := Nat.le_of_dvd filled (Nat.dvd_of_mod_eq_zero h)
    intro block hblock
    rcases List.mem_cons.mp hblock with rfl | behind
    · exact List.length_take_of_le enough
    · refine ih ?_ block behind
      rw [List.length_drop, ← Nat.mod_eq_sub_mod enough]
      exact h

/-- A message with a one bit, zeros, and its length in bits behind it. The length takes an eighth of
a block, and as many zeros stand in front of it as make the last block full. -/
def padded (blockSize : Nat) (message : List UInt8) : List UInt8 :=
  let width := blockSize / 8
  let zeros := (2 * blockSize - 1 - width - message.length % blockSize) % blockSize
  message ++ [0x80] ++ List.replicate zeros 0 ++ bigEndian (8 * message.length) width

/-- A padded message is made of whole blocks, whatever their size. -/
theorem length_padded_mod {blockSize : Nat} (h : blockSize ≠ 0) (message : List UInt8) :
    (padded blockSize message).length % blockSize = 0 := by
  have whole := Nat.div_add_mod message.length blockSize
  have rest := Nat.mod_lt message.length (Nat.pos_of_ne_zero h)
  -- The zeros are counted up to whole blocks, so the count need not be reduced.
  have unreduced : message.length + (1 + blockSize / 8) +
      (2 * blockSize - 1 - blockSize / 8 - message.length % blockSize) =
        blockSize * (message.length / blockSize + 2) := by
    rw [Nat.mul_add]
    omega
  calc (padded blockSize message).length % blockSize
    _ = (message.length + (1 + blockSize / 8) +
          (2 * blockSize - 1 - blockSize / 8 - message.length % blockSize) % blockSize) %
            blockSize := by
        simp only [padded, List.length_append, List.length_cons, List.length_nil,
          List.length_replicate, length_bigEndian]
        congr 1
        omega
    _ = 0 := by rw [Nat.add_mod_mod, unreduced, Nat.mul_mod_right]

/-- All blocks of a padded message are full. -/
theorem length_of_mem_blocks_padded {blockSize : Nat} (h : blockSize ≠ 0) (message : List UInt8) :
    ∀ block ∈ blocks blockSize (padded blockSize message), block.length = blockSize :=
  length_of_mem_blocks (length_padded_mod h message)

/-! ## Digests -/

/-- A digest with the size of the blocks that it works on and the size of its results. -/
structure Digest where
  blockSize : Nat
  size : Nat
  hash : List UInt8 → List UInt8

end BrokerWiring.Crypto
