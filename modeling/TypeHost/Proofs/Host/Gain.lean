import TypeHost.Proofs.Host.Fade

/-! What a new object changes. It takes a handle that was never given out before, and apart from the
counts of what it refers to everything else stays. -/
namespace TypeHost

namespace Host

variable {host before after : Host} {object : HostObject} {h other : Handle}

theorem eq_retainAll {β : Type} (view : Heap HostObject → β)
    (keep : ∀ heap h, view (heap.addRef h) = view heap) (host : Host) (handles : List Handle) :
    view (host.retainAll handles).heap = view host.heap := by
  induction handles generalizing host with
  | nil => rfl
  | cons a rest ih =>
      exact (ih { host with heap := host.heap.addRef a }).trans (keep host.heap a)

theorem get?_retainAll (host : Host) (handles : List Handle) (h : Handle) :
    (host.retainAll handles).get? h = host.get? h :=
  eq_retainAll (·.get? h) (fun heap a => heap.get?_addRef a h) host handles

theorem age_retainAll (host : Host) (handles : List Handle) (i : Nat) :
    (host.retainAll handles).heap.age i = host.heap.age i :=
  eq_retainAll (·.age i) (fun heap a => heap.age_addRef a i) host handles

theorem occupied_retainAll (host : Host) (handles : List Handle) (i : Nat) :
    (host.retainAll handles).heap.occupied i = host.heap.occupied i :=
  eq_retainAll (·.occupied i) (fun heap a => heap.occupied_addRef a i) host handles

theorem total_retainAll (host : Host) (handles : List Handle) (weight : HostObject → Nat) :
    (host.retainAll handles).heap.total weight = host.heap.total weight :=
  eq_retainAll (·.total weight) (Heap.total_addRef weight) host handles

theorem free_retainAll (host : Host) (handles : List Handle) :
    (host.retainAll handles).heap.free = host.heap.free :=
  eq_retainAll (·.free) Heap.free_addRef host handles

theorem slot?_retainAll (host : Host) (handles : List Handle) (h : Handle) :
    (host.retainAll handles).heap.slot? h = (host.heap.slot? h).map fun s =>
      { s with refCount := Heap.countUpBy s.refCount (handles.count h) } := by
  induction handles generalizing host with
  | nil =>
      simp only [List.count_nil, Heap.countUpBy_zero]
      exact Option.map_id'.symm
  | cons a rest ih =>
      refine (ih { host with heap := host.heap.addRef a }).trans ?_
      by_cases same : h = a
      · subst same
        simp only [Heap.slot?_addRef_self, Option.map_map, List.count_cons_self]
        congr 1
        funext s
        simp only [Function.comp_apply, Heap.countUpBy_countUp]
      · simp only [Heap.slot?_addRef_of_ne same, List.count_cons_of_ne (Ne.symm same)]

structure Gains (before after : Host) (object : HostObject) (h : Handle) : Prop where
  sound : after.heap.Sound
  fresh : ¬ before.heap.Issued h
  issued : ∀ other, before.heap.Issued other → after.heap.Issued other
  age : ∀ i, after.heap.age i = before.heap.age i
  occupied : ∀ i, before.heap.occupied i → after.heap.occupied i
  total : ∀ weight, after.heap.total weight = before.heap.total weight + weight object
  placed : ∃ generation, after.heap.slot? h = some ⟨generation, 1, some object⟩
  others : ∀ other, other ≠ h →
    after.heap.slot? other = (before.retainAll object.references).heap.slot? other

theorem slotCount_retainAll (host : Host) (handles : List Handle) :
    (host.retainAll handles).heap.slotCount = host.heap.slotCount :=
  (host.fades_retainAll handles).wanes.size

theorem slotCount_le_store (host : Host) (object : HostObject) :
    host.heap.slotCount ≤ (host.store object).2.heap.slotCount := by
  rw [← slotCount_retainAll host object.references]
  exact Heap.slotCount_le_allocate _ object

theorem slotCount_store_le (host : Host) (object : HostObject) :
    (host.store object).2.heap.slotCount ≤ host.heap.slotCount + 1 := by
  rw [← slotCount_retainAll host object.references]
  exact Heap.slotCount_allocate_le _ object

theorem gains_store_of_le (sound : host.heap.Sound)
    (room : (host.store object).2.heap.slotCount ≤ 0xFFFFFFFF) :
    host.Gains (host.store object).2 object (host.store object).1 := by
  have fades := host.fades_retainAll object.references
  have kept := fades.sound sound
  have older (i : Nat) := UInt32.le_of_eq (age_retainAll host object.references i).symm
  obtain ⟨index, generation, placed⟩ := kept.allocate_placed object room
  refine ⟨kept.allocate object, ?_, ?_, ?_, ?_, ?_, ⟨generation, placed.slot?_self⟩,
    fun other ne => placed.slot?_of_ne ne⟩
  · intro issued
    exact placed.not_issued (issued.wanes fades.wanes older)
  · intro other issued
    exact placed.issued (issued.wanes fades.wanes older)
  · intro i
    exact (placed.age i).trans (age_retainAll host object.references i)
  · intro i full
    exact placed.occupied (by rwa [occupied_retainAll])
  · intro weight
    exact (kept.total_allocate object weight).trans
      (congrArg (· + weight object) (total_retainAll host object.references weight))

theorem gains_store (sound : host.heap.Sound) (room : host.heap.slotCount < 0xFFFFFFFF)
    (object : HostObject) : host.Gains (host.store object).2 object (host.store object).1 :=
  gains_store_of_le sound (Nat.le_trans (host.slotCount_store_le object) room)

theorem store_gains (sound : host.heap.Sound)
    (room : (host.store object).2.heap.slotCount < 0xFFFFFFFF) :
    host.Gains (host.store object).2 object (host.store object).1 :=
  gains_store_of_le sound (Nat.le_of_lt room)

namespace Gains

theorem missing (gains : before.Gains after object h) : before.heap.slot? h = none := by
  cases found : before.heap.slot? h with
  | none => rfl
  | some s => exact absurd (Heap.issued_of_slot? found) gains.fresh

theorem get?_before (gains : before.Gains after object h) : before.get? h = none := by
  rw [get?, Heap.get?, gains.missing, Option.bind_none]

theorem get?_self (gains : before.Gains after object h) : after.get? h = some object := by
  obtain ⟨generation, found⟩ := gains.placed
  rw [get?, Heap.get?, found, Option.bind_some]

theorem get?_of_ne (gains : before.Gains after object h) (ne : other ≠ h) :
    after.get? other = before.get? other := by
  rw [← get?_retainAll before object.references, get?, get?, Heap.get?, Heap.get?,
    gains.others other ne]

theorem get?_of_get? (gains : before.Gains after object h) {old : HostObject}
    (found : before.get? other = some old) : after.get? other = some old := by
  have ne : other ≠ h := by
    rintro rfl
    rw [gains.get?_before] at found
    cases found
  rw [gains.get?_of_ne ne, found]

theorem type?_of_issued (gains : before.Gains after object h) (issued : before.heap.Issued other) :
    after.type? other = before.type? other := by
  have ne : other ≠ h := fun eq => gains.fresh (eq ▸ issued)
  rw [type?, type?, gains.get?_of_ne ne]

theorem get?_cases (gains : before.Gains after object h) {last : HostObject}
    (found : after.get? other = some last) : object = last ∨ before.get? other = some last := by
  by_cases same : other = h
  · subst same
    exact .inl (Option.some.inj (gains.get?_self.symm.trans found))
  · exact .inr ((gains.get?_of_ne same).symm.trans found)

theorem type?_cases (gains : before.Gains after object h) {t : RegisteredType}
    (found : after.type? other = some t) : object = .type t ∨ before.type? other = some t :=
  (gains.get?_cases (type?_eq_some.1 found)).imp_right type?_eq_some.2

theorem instance?_cases (gains : before.Gains after object h) {i : Instance}
    (found : after.instance? other = some i) : object = .inst i ∨ before.instance? other = some i :=
  (gains.get?_cases (instance?_eq_some.1 found)).imp_right instance?_eq_some.2

end Gains

/-- Ranks of handles, with a new one above all that it links to. -/
def rankOver (rank : Handle → Nat) (h : Handle) (links : List Handle) (other : Handle) : Nat :=
  if other = h then tally rank links + 1 else rank other

/-- As long as nothing leads to the new handle, links lead down. -/
theorem rankOver_lt {rank : Handle → Nat} {links : List Handle} {r : Handle} (apart : r ≠ h)
    (new : other = h → r ∈ links) (old : other ≠ h → rank r < rank other) :
    rankOver rank h links r < rankOver rank h links other := by
  rw [rankOver, if_neg apart, rankOver]
  split
  · rename_i same
    exact Nat.lt_succ_of_le (le_tally rank (new same))
  · rename_i differ
    exact old differ

end Host
end TypeHost
