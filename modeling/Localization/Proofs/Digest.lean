import Localization.Digest.Block

/-!
# Digits of digests

A digest is written byte by byte, each byte in two digits of base sixteen. So how long its written
form is depends on the number of its words alone, and all of it are such digits.
-/

namespace Localization.Digest

/-- The digits of base sixteen. -/
def hexDigits : Text := "0123456789abcdef"

/-- A byte is written in two digits. -/
theorem hex_byte (b : UInt8) :
    (Text.hex 2 b.toNat).length = 2 ∧ ∀ c ∈ Text.hex 2 b.toNat, c ∈ hexDigits := by
  have hall : ∀ n < 256, (Text.hex 2 n).length = 2 ∧ ∀ c ∈ Text.hex 2 n, c ∈ hexDigits := by
    decide +kernel
  exact hall b.toNat b.toNat_lt

/-- A number is written in as many bytes as asked for. -/
theorem length_bytesOf (count n : Nat) : (bytesOf count n).length = count := by
  induction count generalizing n with
  | zero => rfl
  | succ count ih => rw [bytesOf, List.length_cons, ih]

/-- A number is written in as many bytes as asked for, in either order. -/
theorem length_write (order : ByteOrder) (count n : Nat) :
    (order.write count n).length = count := by
  cases order with
  | bigEndian => rw [ByteOrder.write, List.length_reverse, length_bytesOf]
  | littleEndian => rw [ByteOrder.write, length_bytesOf]

/-- A word is written in eight digits. -/
theorem length_hexOf (order : ByteOrder) (digest : List UInt32) :
    (hexOf order digest).length = digest.length * 8 := by
  have hlength : ∀ b : UInt8, (Text.hex 2 b.toNat).length = 2 := fun b => (hex_byte b).1
  simp only [hexOf, List.length_flatMap, hlength, length_write, List.map_const',
    List.sum_replicate_nat, Nat.mul_assoc]

/-- A digest is written in hexadecimal digits. -/
theorem mem_hexOf {order : ByteOrder} {digest : List UInt32} {c : CodePoint}
    (h : c ∈ hexOf order digest) : c ∈ hexDigits := by
  obtain ⟨b, -, hc⟩ := List.mem_flatMap.1 h
  exact (hex_byte b).2 c hc

end Localization.Digest
