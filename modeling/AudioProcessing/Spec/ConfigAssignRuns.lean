import AudioProcessing.Native.Config

/-! # Sequences of `Config` assignments

A program holds several `Config` objects and copies them into one another with
`operator=`. In memory each assignment is the guarded `memcpy` of `Config.assign`; on
values, the assignment `x_d = x_s;` gives `x_d` the value of `x_s`. We show that the first
implements the second over every sequence of assignments, self-assignments included, as
long as distinct objects do not overlap, which C++ guarantees for distinct complete
objects: every assignment is defined, every object ends with the value the sequence on
values gives it, and no byte outside the objects changes.
-/

namespace Webrtc.AudioProcessing.Config

variable {ι : Type} [DecidableEq ι] {size : Nat} {addr : ι → Nat}

/-- The bytes of the object at `a`. -/
def objectBytes (m : Memory) (size a : Nat) (i : Fin size) : UInt8 := m (a + i)

/-- The value of every named object. -/
def values (m : Memory) (size : Nat) (addr : ι → Nat) (j : ι) : Fin size → UInt8 :=
  objectBytes m size (addr j)

/-- The assignments `x_d = x_s;` of a sequence, one after another; `none` from the first
that is undefined on. -/
def assignRun (size : Nat) (addr : ι → Nat) : List (ι × ι) → Memory → Option Memory
  | [], m => some m
  | (d, s) :: rest, m => (assign size m (addr d) (addr s)).bind (assignRun size addr rest)

/-- The same sequence on values. -/
def valueRun : List (ι × ι) → (ι → Fin size → UInt8) → ι → Fin size → UInt8
  | [], v => v
  | (d, s) :: rest, v => valueRun rest (Function.update v d (v s))

/-- Distinct objects do not overlap. -/
def Separated (size : Nat) (addr : ι → Nat) : Prop :=
  ∀ i j, i ≠ j → ¬RegionsOverlap (addr i) (addr j) size

/-- The byte at `a` belongs to no object. -/
def OutsideAll (size : Nat) (addr : ι → Nat) (a : Nat) : Prop :=
  ∀ i, a < addr i ∨ addr i + size ≤ a

/-- One assignment between separated objects: defined, the destination takes the source's
value, every other object keeps its value, and no byte outside the objects changes. -/
theorem assign_values (hsep : Separated size addr) (m : Memory) (d s : ι) :
    ∃ m', assign size m (addr d) (addr s) = some m' ∧
      values m' size addr = Function.update (values m size addr) d (values m size addr s) ∧
      ∀ a, OutsideAll size addr a → m' a = m a := by
  by_cases ha : addr d = addr s
  · -- the guard skips the copy: the two names denote the same bytes
    refine ⟨m, if_neg (not_not.mpr ha), ?_, fun _ _ => rfl⟩
    rw [show values m size addr s = values m size addr d by simp [values, ha],
      Function.update_eq_self]
  · have hds : d ≠ s := fun h => ha (congrArg addr h)
    obtain ⟨m', hm, hcopy, hframe⟩ := memcpy_spec m (hsep d s hds)
    refine ⟨m', by rw [assign, if_pos ha, hm], funext fun j => funext fun i => ?_,
      fun a hout => hframe a (hout d)⟩
    by_cases hj : j = d
    · subst hj
      simp only [Function.update_same, values, objectBytes]
      exact hcopy i i.isLt
    · -- the bytes of `j` lie outside the destination
      have hov := hsep j d hj
      simp only [Function.update_noteq hj, values, objectBytes]
      exact hframe _ (by unfold RegionsOverlap at hov; omega)

/-- Every sequence of assignments between separated `Config` objects is defined, leaves
each object with the value the same sequence gives on values, and changes no byte outside
the objects. -/
theorem assignRun_refines_valueRun (hsep : Separated size addr) (ops : List (ι × ι))
    (m : Memory) :
    ∃ m', assignRun size addr ops m = some m' ∧
      values m' size addr = valueRun ops (values m size addr) ∧
      ∀ a, OutsideAll size addr a → m' a = m a := by
  induction ops generalizing m with
  | nil => exact ⟨m, rfl, rfl, fun _ _ => rfl⟩
  | cons op ops ih =>
    obtain ⟨d, s⟩ := op
    obtain ⟨m₁, h₁, hv₁, hf₁⟩ := assign_values hsep m d s
    obtain ⟨m₂, h₂, hv₂, hf₂⟩ := ih m₁
    refine ⟨m₂, by simp only [assignRun, h₁, Option.some_bind, h₂], ?_,
      fun a ha => (hf₂ a ha).trans (hf₁ a ha)⟩
    rw [hv₂, hv₁]
    rfl

theorem assignRun_refines_valueRun_two_objects :
    Separated 8 (fun b : Bool => if b then 0 else 8) ∧
      ∃ m', assignRun 8 (fun b : Bool => if b then 0 else 8)
          [(true, false), (false, false), (false, true)] (fun a => a.toUInt8) = some m' ∧
        values m' 8 (fun b : Bool => if b then 0 else 8) =
          valueRun [(true, false), (false, false), (false, true)]
            (values (fun a => a.toUInt8) 8 (fun b : Bool => if b then 0 else 8)) ∧
        ∀ a, OutsideAll 8 (fun b : Bool => if b then 0 else 8) a →
          m' a = (fun a : Nat => a.toUInt8) a :=
  have hsep : Separated 8 (fun b : Bool => if b then 0 else 8) := by
    unfold Separated
    decide
  ⟨hsep, assignRun_refines_valueRun hsep _ _⟩

end Webrtc.AudioProcessing.Config
