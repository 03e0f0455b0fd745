import PortRedirect.Text.Utf8

namespace PortRedirect.Text

/-! Numbers as a fixed count of bytes in network order. -/

def bigEndian : Nat → Nat → Bytes
  | 0, _ => []
  | width + 1, number => bigEndian width (number / 256) ++ [UInt8.ofNat number]

def readBigEndian (bytes : Bytes) : Nat :=
  bytes.foldl (fun number byte => number * 256 + byte.toNat) 0

@[simp] theorem length_bigEndian (width number : Nat) :
    (bigEndian width number).length = width := by
  induction width generalizing number with
  | zero => rfl
  | succ width ih => rw [bigEndian, List.length_append, ih, List.length_singleton]

theorem readBigEndian_bigEndian {width number : Nat} (fits : number < 256 ^ width) :
    readBigEndian (bigEndian width number) = number := by
  induction width generalizing number with
  | zero =>
      have zero : number = 0 := by simpa using fits
      rw [zero]
      rfl
  | succ width ih =>
      have quotient : number / 256 < 256 ^ width := by
        apply Nat.div_lt_of_lt_mul
        rwa [Nat.mul_comm, ← Nat.pow_succ]
      have high : readBigEndian (bigEndian width (number / 256)) = number / 256 :=
        ih quotient
      rw [readBigEndian] at high
      rw [bigEndian, readBigEndian, List.foldl_append, high, List.foldl_cons, List.foldl_nil,
        UInt8.toNat_ofNat']
      omega

end PortRedirect.Text
