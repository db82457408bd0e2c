import AudioProcessing.Native.CTypes

/-! # `StreamConfig`

`StreamConfig` describes one audio stream: its sample rate, its number of channels (not
counting a keyboard channel), whether a keyboard channel follows them, and the number of
frames in one 10 ms chunk. The frame count is a cache: the constructor and
`set_sample_rate_hz` recompute it from the rate with `calculate_frames`, the other two
setters leave it alone, and `operator==` does not compare it.

`calculate_frames` multiplies in `int`, which C++ leaves undefined on overflow.
`calculateFrames?` is the function as C++ defines it, `none` there. `calculateFrames`, the
value the constructor and `set_sample_rate_hz` store, takes the product modulo `2^32`
instead, and the two agree wherever `calculateFrames?` is defined
(`calculateFrames?_of_not_mulOverflows`).

The file also holds `AudioProcessing::kChunkSizeMs`, the chunk length `calculate_frames`
reads.
-/

namespace Webrtc

namespace AudioProcessing

/-- `AudioProcessing::kChunkSizeMs`: audio is processed in chunks of 10 ms. -/
def kChunkSizeMs : CInt := 10

end AudioProcessing

/-- `StreamConfig`. The fields are the private members `sample_rate_hz_`, `num_channels_`,
`has_keyboard_` and `num_frames_`; the getters `sample_rate_hz()`, `num_channels()`,
`has_keyboard()` and `num_frames()` return them as they are. -/
structure StreamConfig where
  sampleRateHz : CInt
  numChannels : SizeT
  hasKeyboard : Bool
  numFrames : SizeT
  deriving Repr

namespace StreamConfig

/-- `StreamConfig::calculate_frames`: `kChunkSizeMs * sample_rate_hz / 1000` evaluated in
`int`, then `static_cast<size_t>`; the product wraps where it overflows. -/
def calculateFrames (sampleRateHz : CInt) : SizeT :=
  CInt.toSizeT ((AudioProcessing.kChunkSizeMs * sampleRateHz).sdiv 1000)

/-- `StreamConfig::calculate_frames` as C++ defines it: `none` where the product
`kChunkSizeMs * sample_rate_hz` overflows `int`. -/
def calculateFrames? (sampleRateHz : CInt) : Option SizeT :=
  (CInt.mul? AudioProcessing.kChunkSizeMs sampleRateHz).map fun p => CInt.toSizeT (p.sdiv 1000)

@[simp] theorem calculateFrames?_eq_none {r : CInt} :
    calculateFrames? r = none ↔ CInt.MulOverflows AudioProcessing.kChunkSizeMs r := by
  simp [calculateFrames?]

/-- Where `calculate_frames` is defined, the model's `calculateFrames` is its value. -/
theorem calculateFrames?_of_not_mulOverflows {r : CInt}
    (h : ¬CInt.MulOverflows AudioProcessing.kChunkSizeMs r) :
    calculateFrames? r = some (calculateFrames r) := by
  rw [calculateFrames?, CInt.mul?_of_not_mulOverflows h]
  rfl

/-- The constructor `StreamConfig(sample_rate_hz, num_channels, has_keyboard)`. Its
default arguments `0`, `0` and `false` give the `Inhabited` instance below. -/
@[simps] def new (sampleRateHz : CInt) (numChannels : SizeT) (hasKeyboard : Bool) :
    StreamConfig :=
  ⟨sampleRateHz, numChannels, hasKeyboard, calculateFrames sampleRateHz⟩

instance : Inhabited StreamConfig := ⟨new 0 0 false⟩

/-- `set_sample_rate_hz`: stores the rate and recomputes the frame count. -/
@[simps] def setSampleRateHz (c : StreamConfig) (value : CInt) : StreamConfig :=
  { c with sampleRateHz := value, numFrames := calculateFrames value }

/-- `set_num_channels`. -/
@[simps] def setNumChannels (c : StreamConfig) (value : SizeT) : StreamConfig :=
  { c with numChannels := value }

/-- `set_has_keyboard`. -/
@[simps] def setHasKeyboard (c : StreamConfig) (value : Bool) : StreamConfig :=
  { c with hasKeyboard := value }

/-- `num_samples()`: `num_channels_ * num_frames_`, a `size_t` product. -/
def numSamples (c : StreamConfig) : SizeT := c.numChannels * c.numFrames

/-- `operator==`: the rate, the channel count and the keyboard flag agree. The cached
frame count is not compared. -/
protected def beq (a b : StreamConfig) : Bool :=
  a.sampleRateHz == b.sampleRateHz && a.numChannels == b.numChannels &&
    a.hasKeyboard == b.hasKeyboard

instance : BEq StreamConfig := ⟨StreamConfig.beq⟩

/-- `operator!=`: `!(*this == other)`. -/
protected def bne (a b : StreamConfig) : Bool := !(a == b)

theorem beq_iff {a b : StreamConfig} :
    (a == b) = true ↔ a.sampleRateHz = b.sampleRateHz ∧ a.numChannels = b.numChannels ∧
      a.hasKeyboard = b.hasKeyboard := by
  show StreamConfig.beq a b = true ↔ _
  simp [StreamConfig.beq, and_assoc]

@[simp] theorem bne_eq (a b : StreamConfig) : a.bne b = !(a == b) := rfl

end StreamConfig

end Webrtc
