import Localization.Text.Digit

/-!
# Blocks of bytes

Both digests of this library work on blocks of sixteen 32-bit words. A message is closed by a byte
`0x80`, filled up with zeros, and ends in its length in bits; the two digests differ in the order
of the bytes within a word and within the length.
-/

namespace Localization.Digest

/-- The order of the bytes of a word. -/
inductive ByteOrder where
  | bigEndian
  | littleEndian

/-- The bytes of a number, the least significant first. -/
def bytesOf : (count : Nat) → Nat → List UInt8
  | 0, _ => []
  | count + 1, n => n.toUInt8 :: bytesOf count (n / 256)

/-- The bytes of a number in an order. -/
def ByteOrder.write (order : ByteOrder) (count n : Nat) : List UInt8 :=
  match order with
  | .bigEndian => (bytesOf count n).reverse
  | .littleEndian => bytesOf count n

/-- The word made of four bytes. -/
def ByteOrder.word (order : ByteOrder) (bytes : List UInt8) : UInt32 :=
  let inOrder :=
    match order with
    | .bigEndian => bytes
    | .littleEndian => bytes.reverse
  inOrder.foldl (fun acc b => acc * 256 + b.toUInt32) 0

/-- A list cut into pieces of a size; the last one may be shorter. The fuel bounds the number of
pieces. -/
def pieces {α : Type} (size : Nat) : Nat → List α → List (List α)
  | 0, _ => []
  | _, [] => []
  | fuel + 1, items => items.take size :: pieces size fuel (items.drop size)

/-- The message with its closing byte, zeros and length: a whole number of blocks. -/
def padded (order : ByteOrder) (message : List UInt8) : List UInt8 :=
  let zeros := (55 + 64 - message.length % 64) % 64
  message ++ 0x80 :: List.replicate zeros 0 ++ order.write 8 (8 * message.length)

/-- The blocks of a message, each as its sixteen words. -/
def blocks (order : ByteOrder) (message : List UInt8) : List (List UInt32) :=
  let bytes := padded order message
  (pieces 64 (bytes.length / 64) bytes).map fun block => (pieces 4 16 block).map order.word

/-- A word rotated to the left. -/
def rotate (word : UInt32) (count : UInt32) : UInt32 :=
  (word <<< count) ||| (word >>> (32 - count))

/-- Words as hexadecimal digits, each byte in two. -/
def hexOf (order : ByteOrder) (digest : List UInt32) : Text :=
  (digest.flatMap fun w => order.write 4 w.toNat).flatMap fun b => Text.hex 2 b.toNat

end Localization.Digest
