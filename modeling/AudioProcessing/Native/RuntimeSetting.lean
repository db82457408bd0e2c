import AudioProcessing.Native.CTypes

/-! # `AudioProcessing::RuntimeSetting`

A runtime setting is a type tag next to an untagged union of a `float` and an `int`. The
factories pick the tag and write one member of the union: `CreatePlayoutVolumeChange` the
`int`, every other factory and the default constructor the `float`. The getters
`GetFloat` and `GetInt` read a member whatever the tag. Reading the member that was not
written last is type punning, which C++ leaves undefined; the model gives it no value.

The factories check their argument with `RTC_DCHECK`, which stops a debug build; the model
follows the debug build and returns `none` there. The header stores `float` values,
compares them in these checks and converts one `int` to `float`, and does nothing else
with them, so `float` is a parameter `F` of the model.
-/

namespace Webrtc.AudioProcessing

namespace RuntimeSetting

/-- `RuntimeSetting::Type`; Lean reserves the word `Type`. -/
inductive SettingType
  | kNotSpecified
  | kCapturePreGain
  | kCaptureCompressionGain
  | kCaptureFixedPostGain
  | kPlayoutVolumeChange
  | kCustomRenderProcessingRuntimeSetting
  deriving DecidableEq, Repr

/-- The union `RuntimeSetting::U`, as the member written last. -/
inductive U (F : Type)
  | floatValue (value : F)
  | intValue (value : CInt)
  deriving DecidableEq, Repr

end RuntimeSetting

/-- `RuntimeSetting`: the tag `type_` and the union `value_`. -/
structure RuntimeSetting (F : Type) where
  type : RuntimeSetting.SettingType
  value : RuntimeSetting.U F
  deriving DecidableEq, Repr

namespace RuntimeSetting

variable {F : Type}

/-- The default constructor: `type_(Type::kNotSpecified), value_(0.f)`. -/
def new [OfNat F 0] : RuntimeSetting F := ⟨.kNotSpecified, .floatValue 0⟩

/-- `CreateCapturePreGain`: `RTC_DCHECK_GE(gain, 1.f)`, "Attenuation is not allowed." -/
def createCapturePreGain [LE F] [DecidableRel (· ≤ · : F → F → Prop)] [OfNat F 1]
    (gain : F) : Option (RuntimeSetting F) :=
  if 1 ≤ gain then some ⟨.kCapturePreGain, .floatValue gain⟩ else none

/-- `CreateCompressionGainDb`: `RTC_DCHECK_GE(gain_db, 0)` and `RTC_DCHECK_LE(gain_db, 90)`,
then the `float` member holds `static_cast<float>(gain_db)`. -/
def createCompressionGainDb [IntCast F] (gainDb : CInt) : Option (RuntimeSetting F) :=
  if 0 ≤ gainDb.toInt ∧ gainDb.toInt ≤ 90 then
    some ⟨.kCaptureCompressionGain, .floatValue (gainDb.toInt : F)⟩
  else none

/-- `CreateCaptureFixedPostGain`: `RTC_DCHECK_GE(gain_db, 0.f)` and
`RTC_DCHECK_LE(gain_db, 90.f)`. -/
def createCaptureFixedPostGain [LE F] [DecidableRel (· ≤ · : F → F → Prop)] [OfNat F 0]
    [OfNat F 90] (gainDb : F) : Option (RuntimeSetting F) :=
  if 0 ≤ gainDb ∧ gainDb ≤ 90 then some ⟨.kCaptureFixedPostGain, .floatValue gainDb⟩
  else none

/-- `CreatePlayoutVolumeChange`: the one factory that writes the `int` member. -/
def createPlayoutVolumeChange (volume : CInt) : RuntimeSetting F :=
  ⟨.kPlayoutVolumeChange, .intValue volume⟩

/-- `CreateCustomRenderSetting`. -/
def createCustomRenderSetting (payload : F) : RuntimeSetting F :=
  ⟨.kCustomRenderProcessingRuntimeSetting, .floatValue payload⟩

/-- `GetFloat`: the `float` member, if it is the one written. -/
def getFloat (s : RuntimeSetting F) : Option F :=
  match s.value with
  | .floatValue v => some v
  | .intValue _ => none

/-- `GetInt`: the `int` member, if it is the one written. -/
def getInt (s : RuntimeSetting F) : Option CInt :=
  match s.value with
  | .floatValue _ => none
  | .intValue v => some v

end RuntimeSetting

end Webrtc.AudioProcessing
