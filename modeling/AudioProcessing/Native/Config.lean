import Mathlib

/-! # `AudioProcessing::Config::operator=`

`Config` is copied as raw memory: its assignment operator calls
`memcpy(this, &config, sizeof(*this))`, but only when `this != &config`. `memcpy` on
overlapping memory is undefined behaviour, and a self-assignment makes the two regions
coincide; the header gives memory sanitizer complaints on self-assignment as the reason
for the check. `memcpy_spec` says what a copy between disjoint regions does; the
assignment over sequences of objects is treated in `AudioProcessing.Spec.ConfigAssignRuns`.

Memory is a map from addresses to bytes, and a `Config` object is the `sizeof(Config)`
bytes from its address. The layout of `Config`, so its size, is not modelled: `size` is a
parameter.
-/

namespace Webrtc

/-- Bytes at addresses. -/
abbrev Memory := Nat → UInt8

/-- The regions `[dst, dst + n)` and `[src, src + n)` share a byte. -/
def RegionsOverlap (dst src n : Nat) : Prop := dst < src + n ∧ src < dst + n

instance (dst src n : Nat) : Decidable (RegionsOverlap dst src n) :=
  inferInstanceAs (Decidable (_ ∧ _))

/-- `memcpy(dst, src, n)`; `none` when the regions overlap, which C leaves undefined. -/
def memcpy (m : Memory) (dst src n : Nat) : Option Memory :=
  if RegionsOverlap dst src n then none
  else some fun a => if dst ≤ a ∧ a < dst + n then m (src + (a - dst)) else m a

/-- A `memcpy` between disjoint regions copies the source region into the destination
region and leaves every other byte as it was. -/
theorem memcpy_spec (m : Memory) {dst src n : Nat} (h : ¬RegionsOverlap dst src n) :
    ∃ m', memcpy m dst src n = some m' ∧ (∀ i < n, m' (dst + i) = m (src + i)) ∧
      ∀ a, a < dst ∨ dst + n ≤ a → m' a = m a := by
  refine ⟨_, if_neg h, fun i hi => ?_, fun a ha => ?_⟩
  · -- a byte of the destination: the source byte at the same offset
    simp only [if_pos (show dst ≤ dst + i ∧ dst + i < dst + n by omega),
      Nat.add_sub_cancel_left]
  · simp only [if_neg (show ¬(dst ≤ a ∧ a < dst + n) by omega)]

namespace AudioProcessing.Config

/-- `Config::operator=(const Config& config)`, with `this` at `dst` and `config` at `src`:
`if (this != &config) memcpy(this, &config, sizeof(*this));`. -/
def assign (size : Nat) (m : Memory) (dst src : Nat) : Option Memory :=
  if dst ≠ src then memcpy m dst src size else some m

end AudioProcessing.Config

end Webrtc
