import TypeHost.Proofs.Host.Balance
import TypeHost.Proofs.Host.Lasting
import TypeHost.Proofs.Host.Plan

/-! Hosts whose references are settled: they balance, and none of them runs ahead of the handles
that were given out. A new host is settled by one claim of its own on each of its types. -/
namespace TypeHost

namespace Host

variable {host before after start : Host} {h : Handle} {object : HostObject} {call : HostCall}
  {claims : Handle → Nat}

/-- Live objects refer to nothing that is still to come. -/
def Known (host : Host) : Prop := ∀ h object, host.get? h = some object →
  ∀ r ∈ object.references, r = .null ∨ host.heap.Issued r

theorem Known.occurrences_eq_zero (known : host.Known) (room : host.heap.slotCount < 0xFFFFFFFF)
    (fresh : ¬ host.heap.Issued h) (real : h ≠ .null) : host.occurrences h = 0 := by
  refine Nat.eq_zero_of_not_pos ?_
  intro pos
  obtain ⟨other, object, found, mem⟩ := exists_of_occurrences_pos room pos
  rcases known other object found h mem with null | issued
  · exact real null
  · exact fresh issued

structure Settled (host : Host) (claims : Handle → Nat) : Prop where
  sound : host.heap.Sound
  balanced : host.Balanced claims []
  known : host.Known

theorem Settled.fade {claims' : Handle → Nat} (settled : before.Settled claims)
    (fades : before.Fades after) (older : ∀ i, before.heap.age i ≤ after.heap.age i)
    (balanced : after.Balanced claims' []) : after.Settled claims' := by
  refine ⟨fades.sound settled.sound, balanced, ?_⟩
  intro h object found r mem
  obtain ⟨old, found', same⟩ := fades.objects h object found
  rw [← object.references_blank, ← same, old.references_blank] at mem
  exact (settled.known h old found' r mem).imp_right fun issued => issued.wanes fades.wanes older

theorem Gains.ne_null (gains : before.Gains after object h) : h ≠ .null := by
  rintro rfl
  obtain ⟨generation, placed⟩ := gains.placed
  cases placed

theorem Settled.gain (settled : before.Settled claims) (gains : before.Gains after object h)
    (small : before.heap.slotCount < 0xFFFFFFFF)
    (known : ∀ r ∈ object.references, r = .null ∨ before.heap.Issued r)
    (founded : ∀ base ∈ object.foundations, before.isType base = true)
    (room : ∀ other s, before.heap.slot? other = some s →
      s.refCount.toNat + object.references.count other ≤ 0xFFFFFFFF) :
    after.Settled fun other => claims other + if other = h then 1 else 0 := by
  have unused := settled.known.occurrences_eq_zero small gains.fresh gains.ne_null
  have apart : h ∉ object.references := fun mem =>
    (known h mem).elim gains.ne_null gains.fresh
  refine ⟨gains.sound, settled.balanced.gain gains unused apart founded room, ?_⟩
  intro other made found r mem
  by_cases same : other = h
  · subst same
    cases gains.get?_self.symm.trans found
    exact (known r mem).imp_right (gains.issued r)
  · rw [gains.get?_of_ne same] at found
    exact (settled.known other made found r mem).imp_right (gains.issued r)

theorem Makes.founded (makes : host.Makes call object) (root : host.isType objectType = true)
    (base : Handle) (mem : base ∈ object.foundations) : host.isType base = true := by
  cases makes with
  | builtin sizes unnamed =>
      have same : base = objectType := List.mem_singleton.1 mem
      exact same ▸ root
  | type planned => exact isType_of_plan planned mem
  | @inst ty nitems t found small =>
      have same : base = ty := List.mem_singleton.1 mem
      exact same ▸ isType_iff.2 ⟨_, type?_eq_some.1 found⟩
  | tuple => cases mem

theorem issued_of_isType (was : host.isType h = true) : host.heap.Issued h :=
  let ⟨_, found⟩ := Option.isSome_iff_exists.1 (live_of_isType was)
  Heap.issued_of_slot? found

/-- One claim on each live object: that of the host, while it is new. -/
def living (host : Host) (h : Handle) : Nat := if host.heap.contains h then 1 else 0

theorem Gains.living (gains : before.Gains after object h) (other : Handle) :
    after.living other = before.living other + if other = h then 1 else 0 := by
  unfold Host.living Heap.contains
  by_cases same : other = h
  · obtain ⟨generation, placed⟩ := gains.placed
    rw [same, placed, gains.missing, if_pos (rfl : h = h)]
    rfl
  · have live : (after.heap.slot? other).isSome = (before.heap.slot? other).isSome := by
      rw [← isSome_get?, gains.get?_of_ne same, isSome_get?]
    rw [live, if_neg same, Nat.add_zero]

theorem settled_empty (gcMode : GcMode) : Settled { gcMode } (living { gcMode }) := by
  have missing (h : Handle) : (Host.mk gcMode {} ∅).heap.slot? h = none := by simp [Heap.slot?]
  refine ⟨Heap.sound_empty, ⟨?_, ?_, ?_⟩, ?_⟩
  · intro h s found
    cases (missing h).symm.trans found
  · intro h claim
    simp [living, Heap.contains, missing] at claim
  · intro h object found
    simp [get?, Heap.get?, missing] at found
  · intro h object found
    simp [get?, Heap.get?, missing] at found

theorem Settled.own (settled : host.Settled host.living) {t : RegisteredType}
    (founded : ∀ base ∈ t.bases, host.isType base = true)
    (small : (host.store (.type t)).2.heap.slotCount < 0xFFFFFFFF)
    (within : ∀ h, ((host.store (.type t)).2.heap.slot? h).isSome →
      1 + (host.store (.type t)).2.occurrences h ≤ 0xFFFFFFFF) :
    (host.store (.type t)).2.Settled (host.store (.type t)).2.living := by
  have gains := store_gains settled.sound small
  have occurrences (other : Handle) :
      (host.store (.type t)).2.occurrences other = host.occurrences other + t.bases.count other :=
    gains.total _
  have room (other : Handle) (s : HeapSlot HostObject) (found : host.heap.slot? other = some s) :
      s.refCount.toNat + t.bases.count other ≤ 0xFFFFFFFF := by
    have bound := within other (gains.live (found ▸ rfl))
    have counted := settled.balanced.counted other s found
    have one : host.living other = 1 := by
      rw [living, Heap.contains, found]
      rfl
    rw [occurrences] at bound
    rw [one, List.count_nil] at counted
    omega
  rw [funext gains.living]
  exact settled.gain gains (Nat.lt_of_le_of_lt (host.slotCount_le_store _) small)
    (fun r mem => .inr (issued_of_isType (founded r mem))) founded room

theorem settled_of_create {gcMode : GcMode} {builtins : List BuiltinType}
    (created : create gcMode builtins = .ok start) (small : start.heap.slotCount < 0xFFFFFFFF)
    (within : ∀ h, (start.heap.slot? h).isSome → 1 + start.occurrences h ≤ 0xFFFFFFFF) :
    start.isType objectType = true ∧ start.Settled start.living := by
  refine create_induct_gains (motive := fun host =>
    (∀ h, (host.heap.slot? h).isSome → 1 + host.occurrences h ≤ 0xFFFFFFFF) →
      host.isType objectType = true ∧ host.Settled host.living) ?_ ?_ created small within
  · intro gcMode object made small gains within
    exact ⟨rfl, (settled_empty gcMode).own (fun base mem => nomatch mem) small within⟩
  · intro host b object made makes small gains holds within
    obtain ⟨root, settled⟩ := holds fun h live =>
      Nat.le_trans (Nat.add_le_add_left (Nat.le.intro (gains.total _).symm) 1)
        (within h (gains.live live))
    have founded : ∀ base ∈ (BuiltinType.register b [objectType]).bases, host.isType base = true :=
      fun base mem => List.mem_singleton.1 mem ▸ root
    exact ⟨gains.isType root, settled.own founded small within⟩

end Host
end TypeHost
