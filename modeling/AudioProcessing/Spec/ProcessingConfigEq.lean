import AudioProcessing.Native.ProcessingConfig
import AudioProcessing.Spec.StreamConfigInvariant

/-! # Equality of processing configs

`ProcessingConfig::operator==` is an early-return loop over the four slots. We show that
it returns `true` exactly when every slot agrees on its rate, channel count and keyboard
flag, so that it is the equality of the four slots' geometries: an equivalence, with
`operator!=` its negation. This comparison is what detects a change of stream geometry
between frames.

A program changes a `ProcessingConfig` through the non-const accessors, by a setter call
on a slot or by assigning a whole `StreamConfig` to it. A sequence of such writes acts on
the slots' geometries as the same writes on geometries, so comparing the result with the
config before by `operator!=` detects exactly the sequences that changed some slot's
geometry. Every config reachable this way keeps the frame-count cache in all four slots,
and on such configs `operator==` is plain equality, so two configs it calls equal agree on
every getter of every slot.

## Key results

- `beqFrom_eq_true_iff`: the loop from index `i` on
- `beq_iff_slots_agree`: `operator==` compares the slots' geometries, and is an equivalence
- `runAccesses_refines_runGeometry`: runs of writes through the accessors refine runs on
  geometries, and `operator!=` detects exactly the runs that change a geometry
- `Reachable.cached_beq_iff_eq`: reachable configs keep the cache in every slot, and on
  them `operator==` is equality
-/

namespace Webrtc.ProcessingConfig

/-! ### The loop of `operator==` -/

/-- The loop from index `i` on returns `true` exactly when every slot from `i` on agrees. -/
theorem beqFrom_eq_true_iff (p q : ProcessingConfig) (i : Nat) :
    p.beqFrom q i = true ↔ ∀ j (h : j < kNumStreamNames), i ≤ j →
      (p.streams ⟨j, h⟩ == q.streams ⟨j, h⟩) = true := by
  induction i using beqFrom.induct p q with
  | case1 i h hne =>
    -- slot `i` differs: the loop returns `false`, and slot `i` refutes the right side
    rw [beqFrom, dif_pos h, if_pos hne]
    simp only [StreamConfig.bne_eq, Bool.not_eq_true'] at hne
    exact ⟨nofun, fun hall => by simpa [hne] using hall i h le_rfl⟩
  | case2 i h heq ih =>
    rw [beqFrom, dif_pos h, if_neg heq, ih]
    simp only [StreamConfig.bne_eq, Bool.not_eq_true', Bool.not_eq_false] at heq
    refine ⟨fun hall j hj hij => ?_, fun hall j hj hij => hall j hj (by omega)⟩
    rcases Nat.eq_or_lt_of_le hij with rfl | hlt
    · exact heq
    · exact hall j hj hlt
  | case3 i h =>
    rw [beqFrom, dif_neg h]
    exact ⟨fun _ j hj hij => absurd (Nat.lt_of_le_of_lt hij hj) h, fun _ => rfl⟩

/-- `operator==` holds exactly when every slot agrees by `StreamConfig::operator==`. -/
theorem beq_iff_forall_stream (p q : ProcessingConfig) :
    (p == q) = true ↔ ∀ name, (p.stream name == q.stream name) = true := by
  show p.beqFrom q 0 = true ↔ _
  rw [beqFrom_eq_true_iff]
  refine ⟨fun h name => h _ name.toFin.isLt (Nat.zero_le _), fun h j hj _ => ?_⟩
  obtain ⟨name, hname⟩ := StreamName.exists_toFin ⟨j, hj⟩
  simpa [stream, hname] using h name

/-! ### The abstract geometry of the four slots -/

/-- The geometry of every slot. -/
def toGeometry (p : ProcessingConfig) (name : StreamName) : StreamConfig.Geometry :=
  (p.stream name).toGeometry

/-- `operator==` is equality of the four slots' geometries. -/
theorem beq_iff_toGeometry_eq {p q : ProcessingConfig} :
    (p == q) = true ↔ p.toGeometry = q.toGeometry := by
  simp only [beq_iff_forall_stream, StreamConfig.beq_iff_toGeometry_eq, funext_iff, toGeometry]

/-- For every two configs, `p == q` holds exactly when each of the four slots agrees on
`sample_rate_hz`, `num_channels` and `has_keyboard`; so `operator==` is an equivalence,
and `p != q` is its negation. -/
theorem beq_iff_slots_agree :
    (∀ p q : ProcessingConfig, (p == q) = true ↔ ∀ name : StreamName,
      (p.stream name).sampleRateHz = (q.stream name).sampleRateHz ∧
        (p.stream name).numChannels = (q.stream name).numChannels ∧
        (p.stream name).hasKeyboard = (q.stream name).hasKeyboard) ∧
    Equivalence (fun p q : ProcessingConfig => (p == q) = true) ∧
    ∀ p q : ProcessingConfig, p.bne q = !(p == q) := by
  refine ⟨fun p q => by simp only [beq_iff_forall_stream, StreamConfig.beq_iff], ?_,
    fun _ _ => rfl⟩
  simp only [beq_iff_toGeometry_eq]
  exact ⟨fun _ => rfl, Eq.symm, Eq.trans⟩

/-- The geometry after a write to slot `name`: that slot's changes, the others stay. -/
theorem toGeometry_modifyStream (p : ProcessingConfig) (name : StreamName)
    (f : StreamConfig → StreamConfig) (other : StreamName) :
    (p.modifyStream name f).toGeometry other =
      if other = name then (f (p.stream name)).toGeometry else p.toGeometry other := by
  split
  · subst other
    simp only [toGeometry, stream_modifyStream_self]
  · simp only [toGeometry, stream_modifyStream_ne _ _ ‹_›]

/-! ### Runs of writes through the accessors -/

/-- One write through a non-const accessor: a setter call on a slot, or the assignment of a
whole `StreamConfig` to it. -/
inductive Access
  | set (name : StreamName) (op : StreamConfig.Setter)
  | assign (name : StreamName) (c : StreamConfig)

/-- The effect of a write. -/
def Access.apply : Access → ProcessingConfig → ProcessingConfig
  | .set name op, p => p.modifyStream name op.apply
  | .assign name c, p => p.modifyStream name fun _ => c

/-- The effect of a write on the geometries of the slots. -/
def Access.applyGeometry :
    Access → (StreamName → StreamConfig.Geometry) → StreamName → StreamConfig.Geometry
  | .set name op, g => Function.update g name (StreamConfig.Geometry.apply op (g name))
  | .assign name c, g => Function.update g name c.toGeometry

/-- A sequence of writes, first to last. -/
def runAccesses (p : ProcessingConfig) (as : List Access) : ProcessingConfig :=
  as.foldl (fun p a => a.apply p) p

/-- The same sequence on the geometries of the slots. -/
def runGeometry (g : StreamName → StreamConfig.Geometry) (as : List Access) :
    StreamName → StreamConfig.Geometry :=
  as.foldl (fun g a => a.applyGeometry g) g

/-- One write simulates its effect on geometries. -/
theorem Access.toGeometry_apply (a : Access) (p : ProcessingConfig) :
    (a.apply p).toGeometry = a.applyGeometry p.toGeometry := by
  funext other
  cases a with
  | set name op =>
    rw [apply, applyGeometry, toGeometry_modifyStream, Function.update_apply,
      StreamConfig.toGeometry_apply]
    rfl
  | assign name c => rw [apply, applyGeometry, toGeometry_modifyStream, Function.update_apply]

/-- Every run of writes simulates the same run on geometries. -/
theorem toGeometry_runAccesses (p : ProcessingConfig) (as : List Access) :
    (runAccesses p as).toGeometry = runGeometry p.toGeometry as := by
  induction as generalizing p with
  | nil => rfl
  | cons a as ih => rw [runAccesses, List.foldl_cons, ← runAccesses, ih, a.toGeometry_apply]; rfl

/-- Every sequence of writes through the accessors acts on the slots' geometries as the
same writes on geometries. So its result compares `!=` to the start exactly when the
writes changed the geometry of some slot, whatever the writes in between undid, and two
configs that `operator==` calls equal stay equal under the same writes. -/
theorem runAccesses_refines_runGeometry (p q : ProcessingConfig) (as : List Access) :
    (runAccesses p as).toGeometry = runGeometry p.toGeometry as ∧
      ((runAccesses p as).bne p = true ↔ runGeometry p.toGeometry as ≠ p.toGeometry) ∧
      ((p == q) = true → (runAccesses p as == runAccesses q as) = true) := by
  refine ⟨toGeometry_runAccesses p as, ?_, fun h => ?_⟩
  · rw [ProcessingConfig.bne, Bool.not_eq_true', ← Bool.not_eq_true, beq_iff_toGeometry_eq,
      toGeometry_runAccesses]
  · rw [beq_iff_toGeometry_eq] at h ⊢
    rw [toGeometry_runAccesses, toGeometry_runAccesses, h]

/-! ### Configs reachable through the accessors -/

/-- The configs a program can hold: the default one, a brace-initialised one of reachable
slots, and what a setter call on a slot, or the assignment of a reachable `StreamConfig`
to a slot, makes of a reachable config. -/
inductive Reachable : ProcessingConfig → Prop
  | init : Reachable default
  | brace {streams : Fin kNumStreamNames → StreamConfig} :
      (∀ i, StreamConfig.Reachable (streams i)) → Reachable ⟨streams⟩
  | set {p : ProcessingConfig} (name : StreamName) (op : StreamConfig.Setter) :
      Reachable p → Reachable (p.modifyStream name op.apply)
  | assign {p : ProcessingConfig} (name : StreamName) {c : StreamConfig} :
      StreamConfig.Reachable c → Reachable p → Reachable (p.modifyStream name fun _ => c)

/-- The cache invariant, in every slot. -/
def AllCached (p : ProcessingConfig) : Prop := ∀ name, (p.stream name).FramesCached

/-- A write to one slot that keeps its cache keeps the invariant. -/
theorem allCached_modifyStream {p : ProcessingConfig} {name : StreamName}
    {f : StreamConfig → StreamConfig} (h : p.AllCached) (hf : (f (p.stream name)).FramesCached) :
    (p.modifyStream name f).AllCached := by
  intro other
  by_cases ho : other = name
  · subst ho
    rwa [stream_modifyStream_self]
  · rw [stream_modifyStream_ne _ _ ho]
    exact h other

/-- Every reachable config keeps the cache in all four slots. -/
theorem Reachable.allCached {p : ProcessingConfig} (h : p.Reachable) : p.AllCached := by
  induction h with
  | init => exact fun _ => StreamConfig.framesCached_new 0 0 false
  | brace hs => exact fun name => (hs name.toFin).framesCached
  | set name op _ ih =>
    exact allCached_modifyStream ih (StreamConfig.framesCached_apply op (ih name))
  | assign name hc _ ih => exact allCached_modifyStream ih hc.framesCached

/-- Every reachable config keeps `num_frames_ == calculate_frames(sample_rate_hz_)` in all
four slots, and on reachable configs `operator==` is equality: two configs it calls equal
agree on every getter of every slot. -/
theorem Reachable.cached_beq_iff_eq {p q : ProcessingConfig} (hp : p.Reachable)
    (hq : q.Reachable) :
    (∀ name,
      (p.stream name).numFrames = StreamConfig.calculateFrames (p.stream name).sampleRateHz ∧
        (q.stream name).numFrames = StreamConfig.calculateFrames (q.stream name).sampleRateHz) ∧
      ((p == q) = true ↔ p = q) := by
  refine ⟨fun name => ⟨hp.allCached name, hq.allCached name⟩,
    fun h => ?_, fun h => h ▸ beq_iff_toGeometry_eq.mpr rfl⟩
  rw [beq_iff_forall_stream] at h
  cases p; cases q
  congr 1
  funext i
  obtain ⟨name, rfl⟩ := StreamName.exists_toFin i
  exact (StreamConfig.beq_iff_eq_of_framesCached (hp.allCached name) (hq.allCached name)).mp
    (h name)

theorem Reachable.cached_beq_iff_eq_input_16kHz :
    (modifyStream default .kInputStream fun c => c.setSampleRateHz 16000).Reachable ∧
      (modifyStream default .kInputStream fun _ => .new 16000 0 false).Reachable ∧
      ((modifyStream default .kInputStream fun c => c.setSampleRateHz 16000) ==
          modifyStream default .kInputStream fun _ => .new 16000 0 false) = true ∧
      ((∀ name,
          ((modifyStream default .kInputStream fun c => c.setSampleRateHz 16000).stream
              name).numFrames =
            StreamConfig.calculateFrames
              ((modifyStream default .kInputStream fun c => c.setSampleRateHz 16000).stream
                name).sampleRateHz ∧
          ((modifyStream default .kInputStream fun _ => .new 16000 0 false).stream
              name).numFrames =
            StreamConfig.calculateFrames
              ((modifyStream default .kInputStream fun _ => .new 16000 0 false).stream
                name).sampleRateHz) ∧
        (((modifyStream default .kInputStream fun c => c.setSampleRateHz 16000) ==
            modifyStream default .kInputStream fun _ => .new 16000 0 false) = true ↔
          (modifyStream default .kInputStream fun c => c.setSampleRateHz 16000) =
            modifyStream default .kInputStream fun _ => .new 16000 0 false)) :=
  have hp : (modifyStream default .kInputStream fun c => c.setSampleRateHz 16000).Reachable :=
    .set .kInputStream (.setSampleRateHz 16000) .init
  have hq := Reachable.assign .kInputStream (.new 16000 0 false) .init
  ⟨hp, hq, (Reachable.cached_beq_iff_eq hp hq).2.mpr rfl, Reachable.cached_beq_iff_eq hp hq⟩

end Webrtc.ProcessingConfig
