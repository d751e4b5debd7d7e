import TypeHost.Proofs.Host.CheckedAccess
import TypeHost.Proofs.Host.Header
import TypeHost.Proofs.Host.WellFormed

/-!
Sizes of instances in unbounded numbers. Reading a negative size as zero changes nothing, as no
live type has one, and the header of a live instance lies within its memory. Both hold of every
reachable host, also of one with more objects than handles.
-/
namespace TypeHost

variable {host : Host} {h ty : Handle} {t : RegisteredType} {i : Instance} {object : HostObject}

namespace RegisteredType

def need (t : RegisteredType) (nitems : UInt64) : Int :=
  t.basicsize.toInt + t.itemsize.toInt * nitems.toNat

def structNeed (t : RegisteredType) (nitems : UInt64) : Int :=
  if t.legacy then max (t.need nitems) 16 else t.need nitems

def totalNeed (t : RegisteredType) (nitems : UInt64) : Int :=
  if t.legacy then max (t.need nitems) 16 else t.need nitems + 16

def Sized (t : RegisteredType) : Prop := 0 ≤ t.basicsize ∧ 0 ≤ t.itemsize

theorem Sized.payload (sized : t.Sized) (nitems : UInt64) :
    (t.payload nitems : Int) = t.need nitems := by
  obtain ⟨basic, item⟩ := sized
  rw [Int32.le_iff_toInt_le, Int32.toInt_zero] at basic item
  rw [RegisteredType.payload, need, Int.natCast_add, Int.natCast_mul, Int.toNat_of_nonneg basic,
    Int.toNat_of_nonneg item]

theorem Sized.allocation (sized : t.Sized) (nitems : UInt64) :
    (t.allocation nitems : Int) = t.totalNeed nitems := by
  have whole := sized.payload nitems
  rw [RegisteredType.allocation, totalNeed, ← whole, headSize]
  split <;> omega

theorem Sized.struct (sized : t.Sized) (nitems : UInt64) :
    ((t.allocation nitems - (LayoutMode.ofLegacy t.legacy).structOffset : Nat) : Int)
      = t.structNeed nitems := by
  have whole := sized.payload nitems
  rw [structNeed, RegisteredType.allocation, ← whole, headSize]
  cases t.legacy with
  | true =>
      simp only [if_true, LayoutMode.ofLegacy, LayoutMode.structOffset]
      omega
  | false =>
      simp only [Bool.false_eq_true, if_false, LayoutMode.ofLegacy, LayoutMode.structOffset,
        headSize]
      omega

theorem structOffset_le_allocation (t : RegisteredType) (nitems : UInt64) :
    (LayoutMode.ofLegacy t.legacy).structOffset ≤ t.allocation nitems := by
  rw [RegisteredType.allocation]
  cases t.legacy with
  | true => exact Nat.zero_le _
  | false => exact Nat.le_add_right _ _

end RegisteredType

namespace Host

/-- What holds of every object as it is made, and does not look at the bytes of instances, holds of
every live object. -/
theorem Reachable.object_induct {motive : HostObject → Prop}
    (root : motive (.type (BuiltinType.register { name := "object" } [])))
    (made : ∀ host call object, Makes host call object → motive object)
    (written : ∀ old object, old.blank = object.blank → motive old → motive object)
    (reachable : host.Reachable) (found : host.get? h = some object) : motive object := by
  obtain ⟨gcMode, builtins, start, actions, created, rfl⟩ := reachable
  have new : ∀ h object, start.get? h = some object → motive object := by
    refine create_induct (motive := fun host => ∀ h object, host.get? h = some object →
      motive object) ?_ ?_ created
    · intro gcMode h object found
      rcases get?_of_store found with rfl | before
      · exact root
      · simp [get?, Heap.get?, Heap.slot?] at before
    · intro host b makes before h object found
      rcases get?_of_store found with rfl | found
      · exact made host _ _ makes
      · exact before h object found
  clear created
  induction actions generalizing start with
  | nil => exact new h object found
  | cons action rest ih =>
      refine ih (start.step action) found ?_
      intro h object found
      rcases start.step_cases action with fades | ⟨call, last, -, makes, stored⟩
      · obtain ⟨old, before, same⟩ := fades.objects h object found
        exact written old object same (new h old before)
      · rw [stored] at found
        rcases get?_of_store found with rfl | before
        · exact made start call object makes
        · exact new h object before

theorem Reachable.sized (reachable : host.Reachable) (found : host.type? ty = some t) :
    t.Sized := by
  refine reachable.object_induct (motive := fun object => ∀ t, object = .type t → t.Sized)
    ?_ ?_ ?_ (type?_eq_some.1 found) t rfl
  · rintro t ⟨⟩
    exact ⟨by decide, by decide⟩
  · rintro host call object makes t rfl
    exact ⟨makes.wellFormed.basicsize_nonneg, makes.wellFormed.itemsize_nonneg⟩
  · rintro old object same sized t rfl
    exact sized t (HostObject.blank_eq_type.1 same)

end Host
end TypeHost
