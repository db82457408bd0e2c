import AudioProcessing.Native.StreamConfig

/-! # `ProcessingConfig`

The four stream slots of the audio processing module: the capture stream's input and
output, and the reverse (render) stream's input and output. `operator==` walks the slots
in index order and returns `false` at the first pair that differs by
`StreamConfig::operator!=`.
-/

namespace Webrtc

/-- `ProcessingConfig::StreamName`, without its last enumerator `kNumStreamNames`, which
counts the others. -/
inductive ProcessingConfig.StreamName
  | kInputStream
  | kOutputStream
  | kReverseInputStream
  | kReverseOutputStream
  deriving DecidableEq, Repr

namespace ProcessingConfig

/-- `ProcessingConfig::kNumStreamNames`. -/
def kNumStreamNames : Nat := 4

/-- The value of each enumerator, an index into `streams`. -/
def StreamName.toFin : StreamName → Fin kNumStreamNames
  | .kInputStream => ⟨0, by decide⟩
  | .kOutputStream => ⟨1, by decide⟩
  | .kReverseInputStream => ⟨2, by decide⟩
  | .kReverseOutputStream => ⟨3, by decide⟩

end ProcessingConfig

/-- `ProcessingConfig`: the public array `StreamConfig streams[kNumStreamNames]`. -/
structure ProcessingConfig where
  streams : Fin ProcessingConfig.kNumStreamNames → StreamConfig

namespace ProcessingConfig

/-- The implicit default constructor: every slot is `StreamConfig()`. -/
instance : Inhabited ProcessingConfig := ⟨⟨fun _ => default⟩⟩

/-- `streams[name]`, the slot every accessor of `name` refers to. -/
def stream (p : ProcessingConfig) (name : StreamName) : StreamConfig := p.streams name.toFin

/-- `input_stream()`. -/
def inputStream (p : ProcessingConfig) : StreamConfig := p.stream .kInputStream

/-- `output_stream()`. -/
def outputStream (p : ProcessingConfig) : StreamConfig := p.stream .kOutputStream

/-- `reverse_input_stream()`. -/
def reverseInputStream (p : ProcessingConfig) : StreamConfig := p.stream .kReverseInputStream

/-- `reverse_output_stream()`. -/
def reverseOutputStream (p : ProcessingConfig) : StreamConfig := p.stream .kReverseOutputStream

/-- A write through one of the non-const accessors, which return `StreamConfig&`: the slot
`name` becomes `f` of its old value, and the other slots stay as they are. -/
def modifyStream (p : ProcessingConfig) (name : StreamName) (f : StreamConfig → StreamConfig) :
    ProcessingConfig :=
  ⟨Function.update p.streams name.toFin (f (p.stream name))⟩

/-- The loop of `operator==` from index `i` on:
`for (int i = 0; i < kNumStreamNames; ++i)` returns `false` at the first `i` with
`this->streams[i] != other.streams[i]`, and the function returns `true` after the loop. -/
def beqFrom (p q : ProcessingConfig) (i : Nat) : Bool :=
  if h : i < kNumStreamNames then
    if (p.streams ⟨i, h⟩).bne (q.streams ⟨i, h⟩) then false else p.beqFrom q (i + 1)
  else true
termination_by kNumStreamNames - i

/-- `operator==`: the loop from index `0`. -/
protected def beq (p q : ProcessingConfig) : Bool := p.beqFrom q 0

instance : BEq ProcessingConfig := ⟨ProcessingConfig.beq⟩

/-- `operator!=`: `!(*this == other)`. -/
protected def bne (p q : ProcessingConfig) : Bool := !(p == q)

@[simp] theorem stream_modifyStream_self (p : ProcessingConfig) (name : StreamName)
    (f : StreamConfig → StreamConfig) :
    (p.modifyStream name f).stream name = f (p.stream name) := by
  simp [modifyStream, stream]

theorem StreamName.toFin_injective : Function.Injective StreamName.toFin := by
  intro a b h
  cases a <;> cases b <;> first | rfl | exact absurd (congrArg Fin.val h) (by decide)

@[simp] theorem stream_modifyStream_ne (p : ProcessingConfig) {name other : StreamName}
    (f : StreamConfig → StreamConfig) (h : other ≠ name) :
    (p.modifyStream name f).stream other = p.stream other := by
  simp [modifyStream, stream, Function.update_noteq (StreamName.toFin_injective.ne h)]

/-- Every index of `streams` is the value of one enumerator. -/
theorem StreamName.exists_toFin (i : Fin kNumStreamNames) :
    ∃ name : StreamName, name.toFin = i := by
  match i with
  | ⟨0, _⟩ => exact ⟨.kInputStream, rfl⟩
  | ⟨1, _⟩ => exact ⟨.kOutputStream, rfl⟩
  | ⟨2, _⟩ => exact ⟨.kReverseInputStream, rfl⟩
  | ⟨3, _⟩ => exact ⟨.kReverseOutputStream, rfl⟩

end ProcessingConfig

end Webrtc
