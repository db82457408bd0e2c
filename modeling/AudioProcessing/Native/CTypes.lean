import Mathlib

/-! # The C++ scalar types of the audio processing header

WebRTC builds `audio_processing.h` for targets where `int` is 32-bit two's complement
and `size_t` is 64 bits wide. We model `int` as `BitVec 32`, read as a number through
`BitVec.toInt`, and `size_t` as `BitVec 64`, read through `BitVec.toNat`.

`BitVec` multiplication wraps. For `size_t` that is the C++ semantics. For `int` a
product outside `[-2^31, 2^31)` is undefined behaviour in C++: the model takes the
two's-complement wrap, and `CInt.MulOverflows` marks exactly the inputs where this
happens, so that a statement about such inputs can say so; `CInt.mul?` is the product as
C++ defines it, `none` on those inputs. C++ `/` on `int` truncates
toward zero, as `BitVec.sdiv` does, and `static_cast<size_t>` of an `int` keeps its
value modulo `2^64`, as `BitVec.signExtend 64` does.

The lemmas below read these operations back as exact arithmetic on `Int` and `Nat`,
so that later proofs never unfold a `BitVec` operation.
-/

namespace Webrtc

/-- C++ `int`. -/
abbrev CInt := BitVec 32

/-- C++ `size_t`. -/
abbrev SizeT := BitVec 64

namespace CInt

/-- The exact product `a * b` of two `int`s leaves the range of `int`: signed overflow. -/
def MulOverflows (a b : CInt) : Prop :=
  ¬(-2 ^ 31 ≤ a.toInt * b.toInt ∧ a.toInt * b.toInt < 2 ^ 31)

instance (a b : CInt) : Decidable (MulOverflows a b) :=
  inferInstanceAs (Decidable (¬_))

/-- `a * b` in `int` as C++ defines it: `none` where the product overflows. -/
def mul? (a b : CInt) : Option CInt := if MulOverflows a b then none else some (a * b)

@[simp] theorem mul?_eq_none {a b : CInt} : mul? a b = none ↔ MulOverflows a b := by
  simp [mul?]

theorem mul?_of_not_mulOverflows {a b : CInt} (h : ¬MulOverflows a b) :
    mul? a b = some (a * b) :=
  if_neg h

/-- `static_cast<size_t>` of an `int`. -/
def toSizeT (a : CInt) : SizeT := a.signExtend 64

/-- Every `int` lies in `[-2^31, 2^31)`. -/
theorem toInt_range (a : CInt) : -2 ^ 31 ≤ a.toInt ∧ a.toInt < 2 ^ 31 := by
  have := a.isLt
  rw [BitVec.toInt_eq_toNat_cond]
  split <;> omega

/-- A product that does not overflow is the exact product. -/
theorem toInt_mul_of_not_mulOverflows {a b : CInt} (h : ¬MulOverflows a b) :
    (a * b).toInt = a.toInt * b.toInt := by
  rw [MulOverflows, not_not] at h
  rw [BitVec.toInt_mul, Int.bmod_def]
  split <;> omega

/-- Division by a positive `int` truncates toward zero. -/
theorem toInt_sdiv_of_pos (a b : CInt) (hb : 0 < b.toInt) :
    (a.sdiv b).toInt = a.toInt.tdiv b.toInt := by
  have han := a.isLt
  rw [BitVec.toInt_eq_toNat_cond b] at hb ⊢
  split at hb
  · have hbm : b.msb = false := by simp [BitVec.msb_eq_decide]; omega
    rw [if_pos ‹_›, BitVec.sdiv_eq, hbm, BitVec.toInt_eq_toNat_cond a]
    rcases ham : a.msb
    · -- a non-negative dividend: unsigned division
      have ha : a.toNat < 2 ^ 31 := by simpa [BitVec.msb_eq_decide] using ham
      have hq : (a.udiv b).toNat = a.toNat / b.toNat := BitVec.toNat_udiv
      have hle := Nat.div_le_self a.toNat b.toNat
      rw [BitVec.toInt_eq_toNat_cond, hq, if_pos (by omega), if_pos (by omega), Int.ofNat_tdiv]
    · -- a negative dividend: the quotient of its magnitude, negated
      have ha : 2 ^ 31 ≤ a.toNat := by simpa [BitVec.msb_eq_decide] using ham
      have hq : ((-a).udiv b).toNat = (2 ^ 32 - a.toNat) / b.toNat := by
        show ((-a) / b).toNat = _
        rw [BitVec.toNat_udiv, BitVec.toNat_neg, Nat.mod_eq_of_lt (by omega)]
      have hle := Nat.div_le_self (2 ^ 32 - a.toNat) b.toNat
      have hneg : (a.toNat : Int) - (2 ^ 32 : Nat) = -((2 ^ 32 - a.toNat : Nat) : Int) := by
        omega
      rw [if_neg (by omega), BitVec.toInt_eq_toNat_cond, BitVec.toNat_neg, hq, hneg,
        Int.neg_tdiv, ← Int.ofNat_tdiv]
      generalize (2 ^ 32 - a.toNat) / b.toNat = q at hle
      split <;> omega
  · omega

/-- `static_cast<size_t>` keeps the value of an `int` modulo `2^64`. -/
@[simp] theorem toNat_toSizeT (a : CInt) : a.toSizeT.toNat = (a.toInt % 2 ^ 64).toNat := by
  simp [toSizeT, BitVec.signExtend]

end CInt

end Webrtc
