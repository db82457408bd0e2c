import AudioProcessing.Native.StreamConfig

/-! # The frame count of a 10 ms chunk

`calculate_frames` computes `kChunkSizeMs * sample_rate_hz / 1000` in `int`. The product
fits in `int` exactly when `|sample_rate_hz| ≤ 214748364`, that is `INT_MAX / 10`; on that
range the frame count is the sample rate divided by 100, truncated toward zero, and kept
modulo `2^64` by the cast to `size_t`. Above it the product overflows and
`calculate_frames` is undefined: neither the constructor nor `set_sample_rate_hz` checks
the rate.

## Key results

- `calculateFrames_toNat`: the frame count of every rate whose product fits
- `numFrames_eq_rate_div_100`: for a rate `r ≥ 0`, `calculate_frames` is undefined exactly
  when `r > 214748364`, and below that `num_frames()` is its value `r / 100`
- `calculateFrames_overflows_at_214748365`: the least non-negative rate that overflows
- `numFrames_of_negative_rate`: a negative rate gives a frame count near `2^64`
-/

namespace Webrtc

open AudioProcessing

namespace StreamConfig

@[simp] theorem kChunkSizeMs_toInt : kChunkSizeMs.toInt = 10 := by decide

/-- `kChunkSizeMs * r` overflows `int` exactly outside `[-214748364, 214748364]`. -/
theorem mulOverflows_kChunkSizeMs_iff (r : CInt) :
    CInt.MulOverflows kChunkSizeMs r ↔ r.toInt < -214748364 ∨ 214748364 < r.toInt := by
  have := CInt.toInt_range r
  simp only [CInt.MulOverflows, kChunkSizeMs_toInt]
  omega

/-- Scaling by `kChunkSizeMs` and dividing by 1000 is dividing by 100, for truncating
division too. -/
private theorem tdiv_chunk (x : Int) : (10 * x).tdiv 1000 = x.tdiv 100 := by
  rcases Int.le_total 0 x with hx | hx
  · rw [Int.tdiv_eq_ediv (by omega) (by decide), Int.tdiv_eq_ediv hx (by decide)]
    omega
  · obtain ⟨y, rfl⟩ : ∃ y, x = -y := ⟨-x, (neg_neg x).symm⟩
    rw [Int.mul_neg, Int.neg_tdiv, Int.neg_tdiv, Int.tdiv_eq_ediv (by omega) (by decide),
      Int.tdiv_eq_ediv (by omega) (by decide)]
    omega

/-- The frame count of every rate whose product with `kChunkSizeMs` fits in `int`: the
rate divided by 100, truncated toward zero, modulo `2^64`. -/
theorem calculateFrames_toNat {r : CInt} (h : ¬CInt.MulOverflows kChunkSizeMs r) :
    ((calculateFrames r).toNat : Int) = r.toInt.tdiv 100 % 2 ^ 64 := by
  have h1000 : (1000 : CInt).toInt = 1000 := by decide
  rw [calculateFrames, CInt.toNat_toSizeT, CInt.toInt_sdiv_of_pos _ _ (by omega),
    CInt.toInt_mul_of_not_mulOverflows h, kChunkSizeMs_toInt, h1000, tdiv_chunk]
  exact Int.toNat_of_nonneg (Int.emod_nonneg _ (by decide))

/-- A non-negative rate up to `INT_MAX / 10` has `r / 100` frames per chunk. -/
theorem calculateFrames_of_nonneg {r : CInt} (h0 : 0 ≤ r.toInt) (h : r.toInt ≤ 214748364) :
    ((calculateFrames r).toNat : Int) = r.toInt / 100 := by
  rw [calculateFrames_toNat ((mulOverflows_kChunkSizeMs_iff r).not.mpr (by omega)),
    Int.tdiv_eq_ediv h0 (by decide)]
  omega

/-- For every `int` rate `r ≥ 0`, `calculate_frames(r)` overflows, so is undefined,
exactly when `r > 214748364`; up to there, the constructor and `set_sample_rate_hz` both
store its value, and `num_frames()` is `r / 100`, rounded down. -/
theorem numFrames_eq_rate_div_100 (r : CInt) (h0 : 0 ≤ r.toInt) :
    (calculateFrames? r = none ↔ 214748364 < r.toInt) ∧
      (r.toInt ≤ 214748364 → ∀ (n : SizeT) (k : Bool) (c : StreamConfig),
        calculateFrames? r = some (new r n k).numFrames ∧
          ((new r n k).numFrames.toNat : Int) = r.toInt / 100 ∧
          ((c.setSampleRateHz r).numFrames.toNat : Int) = r.toInt / 100) := by
  refine ⟨by rw [calculateFrames?_eq_none, mulOverflows_kChunkSizeMs_iff]; omega,
    fun h n k c => ?_⟩
  have hfit : ¬CInt.MulOverflows kChunkSizeMs r :=
    (mulOverflows_kChunkSizeMs_iff r).not.mpr (by omega)
  simp only [new_numFrames, setSampleRateHz_numFrames, calculateFrames?_of_not_mulOverflows hfit,
    calculateFrames_of_nonneg h0 h, and_self]

theorem numFrames_eq_rate_div_100_at_48kHz :
    0 ≤ (48000 : CInt).toInt ∧
      ((calculateFrames? 48000 = none ↔ 214748364 < (48000 : CInt).toInt) ∧
        ((48000 : CInt).toInt ≤ 214748364 → ∀ (n : SizeT) (k : Bool) (c : StreamConfig),
          calculateFrames? 48000 = some (new 48000 n k).numFrames ∧
            ((new 48000 n k).numFrames.toNat : Int) = (48000 : CInt).toInt / 100 ∧
            ((c.setSampleRateHz 48000).numFrames.toNat : Int) = (48000 : CInt).toInt / 100)) :=
  ⟨by decide, numFrames_eq_rate_div_100 48000 (by decide)⟩

/-- At the non-negative rate `214748365` the product `kChunkSizeMs * r` overflows `int`:
`calculate_frames` is undefined there. -/
theorem calculateFrames_overflows_at_214748365 :
    0 ≤ (214748365 : CInt).toInt ∧ calculateFrames? 214748365 = none := by
  decide

/-- A negative rate reaches the frame count unchecked: down to `-214748364`, where the
product still fits, `num_frames()` is `0` above `-100`, and from `-100` down it is
`2^64 - ⌊-r / 100⌋`, above `2^64 - 2^22`. -/
theorem numFrames_of_negative_rate (r : CInt) (hr : -214748364 ≤ r.toInt ∧ r.toInt < 0)
    (n : SizeT) (k : Bool) :
    ((new r n k).numFrames.toNat : Int) =
      if -100 < r.toInt then 0 else 2 ^ 64 - -r.toInt / 100 := by
  rw [new_numFrames, calculateFrames_toNat ((mulOverflows_kChunkSizeMs_iff r).not.mpr (by omega))]
  obtain ⟨y, hy⟩ : ∃ y, r.toInt = -y := ⟨-r.toInt, (neg_neg _).symm⟩
  rw [hy, Int.neg_tdiv, Int.tdiv_eq_ediv (by omega) (by decide), neg_neg]
  split <;> omega

theorem numFrames_of_negative_rate_at_minus_16kHz :
    (-214748364 ≤ (-16000 : CInt).toInt ∧ (-16000 : CInt).toInt < 0) ∧
      ((new (-16000) 1 false).numFrames.toNat : Int) =
        if -100 < (-16000 : CInt).toInt then 0 else 2 ^ 64 - -(-16000 : CInt).toInt / 100 :=
  ⟨by decide, numFrames_of_negative_rate (-16000) (by decide) 1 false⟩

end StreamConfig

end Webrtc
