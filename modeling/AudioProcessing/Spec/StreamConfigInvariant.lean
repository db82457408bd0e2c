import AudioProcessing.Spec.Frames

/-! # The frame-count cache of `StreamConfig`

A program builds a `StreamConfig` with its constructor and then changes it with the three
setters. Every value built this way keeps its cache, `num_frames_` equal to
`calculate_frames(sample_rate_hz_)`, and the values that keep it are exactly the reachable
ones.

Above the class sits its abstract meaning, a `Geometry`: the three values a user sets.
The abstraction forgets the cache. Each setter acts on the geometry as a field update,
`operator==` is equality of geometries, and on reachable values every getter is a
function of the geometry. So `operator==`, which never looks at `num_frames_`, is sound
for every getter, and on reachable values it is plain equality.

On a reachable value with a rate the frame count handles exactly, `num_samples()` is the
channel count times `rate / 100`, reduced modulo `2^64` by the `size_t` product, and it
does not wrap below `2^42` channels.
-/

namespace Webrtc.StreamConfig

/-- One call of a `StreamConfig` setter. -/
inductive Setter
  | setSampleRateHz (value : CInt)
  | setNumChannels (value : SizeT)
  | setHasKeyboard (value : Bool)
  deriving DecidableEq, Repr

/-- The effect of a setter call. -/
def Setter.apply : Setter → StreamConfig → StreamConfig
  | .setSampleRateHz v, c => c.setSampleRateHz v
  | .setNumChannels v, c => c.setNumChannels v
  | .setHasKeyboard v, c => c.setHasKeyboard v

/-- The values a program can hold: built by the constructor, then changed by any number
of setter calls. A copy, by the implicit copy constructor or assignment, copies all four
fields, so it is the same value and needs no rule of its own. -/
inductive Reachable : StreamConfig → Prop
  | new (r : CInt) (n : SizeT) (k : Bool) : Reachable (new r n k)
  | step {c : StreamConfig} (op : Setter) : Reachable c → Reachable (op.apply c)

/-- The cache invariant: `num_frames_ == calculate_frames(sample_rate_hz_)`. -/
def FramesCached (c : StreamConfig) : Prop :=
  c.numFrames = calculateFrames c.sampleRateHz

instance : DecidablePred FramesCached := fun c =>
  inferInstanceAs (Decidable (c.numFrames = calculateFrames c.sampleRateHz))

/-! ### The invariant along a run -/

theorem framesCached_new (r : CInt) (n : SizeT) (k : Bool) : FramesCached (new r n k) := rfl

/-- One setter call keeps the cache: `set_sample_rate_hz` recomputes it, the other two
touch neither the rate nor the cache. -/
theorem framesCached_apply {c : StreamConfig} (op : Setter) (h : FramesCached c) :
    FramesCached (op.apply c) := by
  cases op with
  | setSampleRateHz v => rfl
  | setNumChannels v => exact h
  | setHasKeyboard v => exact h

/-- Every reachable value keeps the cache. -/
theorem Reachable.framesCached {c : StreamConfig} (h : Reachable c) : FramesCached c := by
  induction h with
  | new r n k => exact framesCached_new r n k
  | step op _ ih => exact framesCached_apply op ih

/-! ### The abstract geometry -/

/-- What a `StreamConfig` describes: the three values its user sets. -/
structure Geometry where
  sampleRateHz : CInt
  numChannels : SizeT
  hasKeyboard : Bool
  deriving DecidableEq, Repr

namespace Geometry

/-- The frames of one 10 ms chunk, a function of the rate. -/
def numFrames (g : Geometry) : SizeT := calculateFrames g.sampleRateHz

/-- The samples of one chunk over all channels. -/
def numSamples (g : Geometry) : SizeT := g.numChannels * g.numFrames

/-- A setter call, as an update of the geometry. -/
def apply : Setter → Geometry → Geometry
  | .setSampleRateHz v, g => { g with sampleRateHz := v }
  | .setNumChannels v, g => { g with numChannels := v }
  | .setHasKeyboard v, g => { g with hasKeyboard := v }

end Geometry

/-- The abstraction: forget the cached frame count. -/
def toGeometry (c : StreamConfig) : Geometry := ⟨c.sampleRateHz, c.numChannels, c.hasKeyboard⟩

/-- The value the constructor builds for a geometry. -/
def ofGeometry (g : Geometry) : StreamConfig := new g.sampleRateHz g.numChannels g.hasKeyboard

/-- Every setter call simulates its abstract update. -/
theorem toGeometry_apply (op : Setter) (c : StreamConfig) :
    (op.apply c).toGeometry = Geometry.apply op c.toGeometry := by
  cases op <;> rfl

/-- `operator==` is equality of geometries, for every two values. -/
theorem beq_iff_toGeometry_eq {a b : StreamConfig} :
    (a == b) = true ↔ a.toGeometry = b.toGeometry := by
  rw [beq_iff]
  cases a; cases b
  simp [toGeometry]

/-- A value keeps the cache exactly when the constructor rebuilds it from its geometry. -/
theorem framesCached_iff_eq_ofGeometry {c : StreamConfig} :
    FramesCached c ↔ c = ofGeometry c.toGeometry := by
  cases c
  simp [FramesCached, ofGeometry, toGeometry, new, eq_comm]

/-- On values that keep the cache, `operator==` is equality of all four fields. -/
theorem beq_iff_eq_of_framesCached {a b : StreamConfig} (ha : FramesCached a)
    (hb : FramesCached b) : (a == b) = true ↔ a = b := by
  rw [beq_iff_toGeometry_eq]
  refine ⟨fun h => ?_, congrArg toGeometry⟩
  rw [framesCached_iff_eq_ofGeometry.mp ha, framesCached_iff_eq_ofGeometry.mp hb, h]

/-- `StreamConfig` refines `Geometry`: the constructor builds the value of its geometry,
each setter call simulates its abstract update, `operator==` is equality of geometries,
and on every reachable value `num_frames()` and `num_samples()` are the geometry's. -/
theorem toGeometry_refinement :
    (∀ r n k, (new r n k).toGeometry = ⟨r, n, k⟩) ∧
      (∀ op c, (op.apply c).toGeometry = Geometry.apply op c.toGeometry) ∧
      (∀ a b : StreamConfig, (a == b) = true ↔ a.toGeometry = b.toGeometry) ∧
      ∀ c, Reachable c → c.numFrames = c.toGeometry.numFrames ∧
        c.numSamples = c.toGeometry.numSamples :=
  ⟨fun _ _ _ => rfl, toGeometry_apply, fun _ _ => beq_iff_toGeometry_eq, fun _ h =>
    have hc : _ = _ := h.framesCached
    ⟨hc, congrArg (_ * ·) hc⟩⟩

/-- The reachable values are exactly the values that keep the cache. -/
theorem reachable_iff_framesCached {c : StreamConfig} : Reachable c ↔ FramesCached c :=
  ⟨Reachable.framesCached, fun h => framesCached_iff_eq_ofGeometry.mp h ▸ .new _ _ _⟩

/-- On reachable values `operator==` is equality of all four fields. -/
theorem Reachable.beq_iff_eq {a b : StreamConfig} (ha : Reachable a) (hb : Reachable b) :
    (a == b) = true ↔ a = b :=
  beq_iff_eq_of_framesCached ha.framesCached hb.framesCached

theorem Reachable.beq_iff_eq_at_16kHz :
    Reachable (StreamConfig.new 16000 1 false) ∧
      Reachable (((StreamConfig.new 8000 2 false).setSampleRateHz 16000).setNumChannels 1) ∧
      (StreamConfig.new 16000 1 false ==
          ((StreamConfig.new 8000 2 false).setSampleRateHz 16000).setNumChannels 1) = true ∧
      ((StreamConfig.new 16000 1 false ==
          ((StreamConfig.new 8000 2 false).setSampleRateHz 16000).setNumChannels 1) = true ↔
        StreamConfig.new 16000 1 false =
          ((StreamConfig.new 8000 2 false).setSampleRateHz 16000).setNumChannels 1) :=
  have hb : Reachable (((StreamConfig.new 8000 2 false).setSampleRateHz 16000).setNumChannels 1) :=
    .step (.setNumChannels 1) (.step (.setSampleRateHz 16000) (.new _ _ _))
  ⟨.new _ _ _, hb, by decide, Reachable.beq_iff_eq (.new _ _ _) hb⟩

/-- On every reachable value with a rate in `[0, INT_MAX / 10]`, `num_samples()` is the
channel count times `rate / 100`, modulo `2^64`; below `2^42` channels the product does
not wrap. -/
theorem Reachable.numSamples_toNat {c : StreamConfig} (hc : Reachable c)
    (h0 : 0 ≤ c.sampleRateHz.toInt) (h : c.sampleRateHz.toInt ≤ 214748364) :
    (c.numSamples.toNat : Int) = c.numChannels.toNat * (c.sampleRateHz.toInt / 100) % 2 ^ 64 ∧
      (c.numChannels.toNat < 2 ^ 42 →
        (c.numSamples.toNat : Int) = c.numChannels.toNat * (c.sampleRateHz.toInt / 100)) := by
  have hframes : (c.numFrames.toNat : Int) = c.sampleRateHz.toInt / 100 := by
    rw [hc.framesCached]
    exact calculateFrames_of_nonneg h0 h
  have hsamples : (c.numSamples.toNat : Int) =
      c.numChannels.toNat * (c.sampleRateHz.toInt / 100) % 2 ^ 64 := by
    rw [numSamples, BitVec.toNat_mul, ← hframes]
    norm_cast
  refine ⟨hsamples, fun hn => ?_⟩
  -- at most `2^42 * 2147483 < 2^64` samples
  have hprod := Int.mul_le_mul_of_nonneg_left
    (show c.sampleRateHz.toInt / 100 ≤ 2147483 by omega) (Int.ofNat_nonneg c.numChannels.toNat)
  rw [hsamples, Int.emod_eq_of_lt (Int.mul_nonneg (by omega) (by omega)) (by omega)]

theorem Reachable.numSamples_toNat_at_48kHz_stereo :
    Reachable (StreamConfig.new 48000 2 false) ∧
      0 ≤ (StreamConfig.new 48000 2 false).sampleRateHz.toInt ∧
      (StreamConfig.new 48000 2 false).sampleRateHz.toInt ≤ 214748364 ∧
      (((StreamConfig.new 48000 2 false).numSamples.toNat : Int) =
          (StreamConfig.new 48000 2 false).numChannels.toNat *
            ((StreamConfig.new 48000 2 false).sampleRateHz.toInt / 100) % 2 ^ 64 ∧
        ((StreamConfig.new 48000 2 false).numChannels.toNat < 2 ^ 42 →
          ((StreamConfig.new 48000 2 false).numSamples.toNat : Int) =
            (StreamConfig.new 48000 2 false).numChannels.toNat *
              ((StreamConfig.new 48000 2 false).sampleRateHz.toInt / 100))) :=
  ⟨.new _ _ _, by decide, by decide,
    Reachable.numSamples_toNat (.new _ _ _) (by decide) (by decide)⟩

/-- For reachable values, the cache holds, and `a == b` makes every getter agree:
`sample_rate_hz()`, `num_channels()`, `has_keyboard()`, `num_frames()` and
`num_samples()`. -/
theorem reachable_numFrames_cached_beq_sound {a b : StreamConfig} (ha : Reachable a)
    (hb : Reachable b) :
    a.numFrames = calculateFrames a.sampleRateHz ∧ b.numFrames = calculateFrames b.sampleRateHz ∧
      ((a == b) = true → a.sampleRateHz = b.sampleRateHz ∧ a.numChannels = b.numChannels ∧
        a.hasKeyboard = b.hasKeyboard ∧ a.numFrames = b.numFrames ∧
          a.numSamples = b.numSamples) := by
  refine ⟨ha.framesCached, hb.framesCached, fun h => ?_⟩
  obtain rfl := (beq_iff_eq_of_framesCached ha.framesCached hb.framesCached).mp h
  exact ⟨rfl, rfl, rfl, rfl, rfl⟩

theorem reachable_numFrames_cached_beq_sound_at_16kHz :
    Reachable (new 16000 1 false) ∧ Reachable ((new 8000 1 false).setSampleRateHz 16000) ∧
      ((new 16000 1 false).numFrames = calculateFrames (new 16000 1 false).sampleRateHz ∧
        ((new 8000 1 false).setSampleRateHz 16000).numFrames =
          calculateFrames ((new 8000 1 false).setSampleRateHz 16000).sampleRateHz ∧
        ((new 16000 1 false == (new 8000 1 false).setSampleRateHz 16000) = true →
          (new 16000 1 false).sampleRateHz =
              ((new 8000 1 false).setSampleRateHz 16000).sampleRateHz ∧
            (new 16000 1 false).numChannels =
              ((new 8000 1 false).setSampleRateHz 16000).numChannels ∧
            (new 16000 1 false).hasKeyboard =
              ((new 8000 1 false).setSampleRateHz 16000).hasKeyboard ∧
            (new 16000 1 false).numFrames =
              ((new 8000 1 false).setSampleRateHz 16000).numFrames ∧
            (new 16000 1 false).numSamples =
              ((new 8000 1 false).setSampleRateHz 16000).numSamples)) :=
  have hb : Reachable ((new 8000 1 false).setSampleRateHz 16000) :=
    .step (.setSampleRateHz 16000) (.new _ _ _)
  ⟨.new _ _ _, hb, reachable_numFrames_cached_beq_sound (.new _ _ _) hb⟩

end Webrtc.StreamConfig
