import TypeHost.Host.Object

/-!
Sizes of instances. The host computes them in words and checks every step for overflow.
Main statement: the result is the size in unbounded numbers, as far as there is an allocation of
that size, and without one there is no result.
-/
namespace TypeHost

section Words

variable {a b c : UInt64}

def checkedMul (a b : UInt64) : Option UInt64 :=
  if a.toNat * b.toNat < UInt64.size then some (a * b) else none

def checkedAdd (a b : UInt64) : Option UInt64 :=
  if a.toNat + b.toNat < UInt64.size then some (a + b) else none

theorem checkedMul_eq_some : checkedMul a b = some c ↔ c.toNat = a.toNat * b.toNat := by
  rw [checkedMul]
  split
  · rename_i small
    rw [Option.some.injEq, eq_comm, ← UInt64.toNat_inj, UInt64.toNat_mul, Nat.mod_eq_of_lt small]
  · rename_i large
    simp only [reduceCtorEq, false_iff]
    intro same
    exact large (same ▸ c.toNat_lt)

theorem checkedAdd_eq_some : checkedAdd a b = some c ↔ c.toNat = a.toNat + b.toNat := by
  rw [checkedAdd]
  split
  · rename_i small
    rw [Option.some.injEq, eq_comm, ← UInt64.toNat_inj, UInt64.toNat_add, Nat.mod_eq_of_lt small]
  · rename_i large
    simp only [reduceCtorEq, false_iff]
    intro same
    exact large (same ▸ c.toNat_lt)

theorem toNat_max (a b : UInt64) : (max a b).toNat = max a.toNat b.toNat := by
  change (if a ≤ b then b else a).toNat = _
  split
  · rename_i le
    exact (Nat.max_eq_right (UInt64.le_iff_toNat_le.1 le)).symm
  · rename_i above
    rw [UInt64.le_iff_toNat_le] at above
    omega

/-- A size as a word; a negative one counts as zero. -/
def sizeWord (size : Int32) : UInt64 := UInt64.ofNat size.toInt.toNat

theorem toNat_sizeWord (size : Int32) : (sizeWord size).toNat = size.toInt.toNat := by
  have bound := size.toInt_lt
  rw [sizeWord, UInt64.toNat_ofNat']
  omega

end Words

namespace RegisteredType

variable {t : RegisteredType} {nitems size : UInt64}

def payload (t : RegisteredType) (nitems : UInt64) : Nat :=
  t.basicsize.toInt.toNat + t.itemsize.toInt.toNat * nitems.toNat

/-- Bytes of the whole instance: the struct of a legacy type holds the header, that of a pure type
follows it. -/
def allocation (t : RegisteredType) (nitems : UInt64) : Nat :=
  if t.legacy then max (t.payload nitems) headSize else headSize + t.payload nitems

def payload? (t : RegisteredType) (nitems : UInt64) : Option UInt64 :=
  (checkedMul (sizeWord t.itemsize) nitems).bind fun items =>
    checkedAdd items (sizeWord t.basicsize)

/-- `none` also for a word that is no size of an allocation. -/
def allocation? (t : RegisteredType) (nitems : UInt64) : Option UInt64 :=
  ((t.payload? nitems).bind fun payload =>
    if t.legacy then some (max payload (.ofNat headSize))
    else checkedAdd payload (.ofNat headSize)).filter (·.toNat ≤ largestAllocation)

theorem payload?_eq_some : t.payload? nitems = some size ↔ size.toNat = t.payload nitems := by
  simp only [payload?, Option.bind_eq_some_iff, checkedMul_eq_some, checkedAdd_eq_some,
    toNat_sizeWord, payload]
  constructor
  · rintro ⟨items, product, sum⟩
    rw [sum, product, Nat.add_comm]
  · intro whole
    have bound := size.toNat_lt
    refine ⟨.ofNat (t.itemsize.toInt.toNat * nitems.toNat), ?_, ?_⟩
    all_goals
      rw [UInt64.toNat_ofNat']
      omega

theorem payload_le_allocation (t : RegisteredType) (nitems : UInt64) :
    t.payload nitems ≤ t.allocation nitems := by
  rw [allocation]
  split
  · exact Nat.le_max_left _ _
  · exact Nat.le_add_left _ _

theorem allocation?_eq_some : t.allocation? nitems = some size ↔
    size.toNat = t.allocation nitems ∧ t.allocation nitems ≤ largestAllocation := by
  have with_head (payload : UInt64) (whole : payload.toNat = t.payload nitems) :
      (if t.legacy then some (max payload (.ofNat headSize))
        else checkedAdd payload (.ofNat headSize)) = some size ↔
      size.toNat = t.allocation nitems := by
    have head : (UInt64.ofNat headSize).toNat = headSize := rfl
    rw [allocation]
    split
    · rw [Option.some.injEq, ← UInt64.toNat_inj, toNat_max, head, whole, eq_comm]
    · rw [checkedAdd_eq_some, head, whole, Nat.add_comm]
  simp only [allocation?, Option.filter_eq_some_iff, Option.bind_eq_some_iff, payload?_eq_some,
    decide_eq_true_eq]
  constructor
  · rintro ⟨⟨payload, whole, sum⟩, small⟩
    have same := (with_head payload whole).1 sum
    exact ⟨same, same ▸ small⟩
  · rintro ⟨same, small⟩
    -- What fits an allocation fits a word, so no step on the way overflows.
    have le := t.payload_le_allocation nitems
    have whole : (UInt64.ofNat (t.payload nitems)).toNat = t.payload nitems := by
      have limit : largestAllocation < 2 ^ 64 := by decide
      rw [UInt64.toNat_ofNat']
      omega
    exact ⟨⟨_, whole, (with_head _ whole).2 same⟩, same ▸ small⟩

theorem allocation?_eq_none :
    t.allocation? nitems = none ↔ largestAllocation < t.allocation nitems := by
  rw [Option.eq_none_iff_forall_ne_some, ← Nat.not_le]
  simp only [ne_eq, allocation?_eq_some, not_and]
  constructor
  · intro refused small
    have limit : largestAllocation < 2 ^ 64 := by decide
    refine refused (.ofNat (t.allocation nitems)) ?_ small
    rw [UInt64.toNat_ofNat']
    omega
  · intro large size _ small
    exact large small

end RegisteredType
end TypeHost
