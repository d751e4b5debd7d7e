import TypeHost.Proofs.Host.Gain

/-! The balance of references. Every live object is counted once for each claim from outside, once
for each handle that is pending and once for each place where a live object refers to it. -/
namespace TypeHost

/-- What the object cannot be without: its bases for a type, its type for an instance. -/
def HostObject.foundations : HostObject → List Handle
  | .type t => t.bases
  | .tuple _ => []
  | .inst i => [i.type]

theorem HostObject.foundations_subset (object : HostObject) :
    object.foundations ⊆ object.references := by
  cases object with
  | type t => exact List.Subset.refl _
  | tuple items => exact List.nil_subset _
  | inst i => exact List.Subset.refl _

@[simp] theorem HostObject.foundations_blank (object : HostObject) :
    object.blank.foundations = object.foundations := by
  cases object <;> rfl

namespace Heap

theorem toNat_countUp_of_lt {n : UInt32} (below : n.toNat < 0xFFFFFFFF) :
    (countUp n).toNat = n.toNat + 1 := by
  rw [toNat_countUp]
  omega

theorem toNat_countDown (n : UInt32) : (countDown n).toNat = n.toNat - 1 := by
  unfold countDown
  split
  · rename_i zero
    rw [zero]
    rfl
  · rename_i more
    have : n.toNat ≠ 0 := fun eq => more (UInt32.toNat_inj.1 eq)
    rw [UInt32.toNat_sub_of_le _ _ (by rw [UInt32.le_iff_toNat_le, UInt32.toNat_one]; omega)]
    rfl

theorem countDown_eq_zero {n : UInt32} : countDown n = 0 ↔ n.toNat ≤ 1 := by
  rw [← UInt32.toNat_inj, toNat_countDown, UInt32.toNat_zero]
  omega

variable {α : Type} {heap : Heap α} {h : Handle}

theorem weight_le_total (weight : α → Nat) {a : α} (found : heap.get? h = some a) :
    weight a ≤ heap.total weight := by
  obtain ⟨s, hslot, full⟩ := Option.bind_eq_some_iff.1 found
  obtain ⟨index, -, slot, -⟩ := slot?_eq_some hslot
  have mem : s ∈ heap.slots.toList := Array.mem_toList_iff.2 (Array.mem_of_getElem? slot)
  have := le_tally (fun slot => slot.value.elim 0 weight) mem
  simp only [full, Option.elim_some] at this
  exact this

end Heap

namespace Host

variable {host before after : Host} {h other : Handle} {pending : List Handle}
  {claims : Handle → Nat}

def occurrences (host : Host) (h : Handle) : Nat :=
  host.heap.total fun object => object.references.count h

theorem occurrences_pos {object : HostObject} (found : host.get? h = some object)
    (mem : other ∈ object.references) : 0 < host.occurrences other :=
  Nat.lt_of_lt_of_le (List.count_pos_iff.2 mem)
    (Heap.weight_le_total (fun object => object.references.count other) found)

theorem exists_of_occurrences_pos (room : host.heap.slotCount < 0xFFFFFFFF)
    (pos : 0 < host.occurrences other) :
    ∃ h object, host.get? h = some object ∧ other ∈ object.references := by
  obtain ⟨h, object, found, counted⟩ := Heap.exists_of_total_pos room pos
  exact ⟨h, object, found, List.count_pos_iff.1 counted⟩

theorem occurrences_dropOne (host : Host) (h other : Handle) :
    (host.dropOne h).1.occurrences other + (host.dropOne h).2.count other
      = host.occurrences other :=
  total_dropOne (List.count other) List.count_nil (fun _ => List.count_reverse) host h

theorem occurrences_turns_le (n : Nat) (host : Host) (pending : List Handle) (other : Handle) :
    (turns n host pending).1.occurrences other + (turns n host pending).2.count other
      ≤ host.occurrences other + pending.count other := by
  induction n generalizing host pending with
  | zero => exact Nat.le_refl _
  | succ n ih =>
      cases pending with
      | nil => exact Nat.le_refl _
      | cons h pending =>
          have later := ih (host.dropOne h).1 ((host.dropOne h).2 ++ pending)
          have moved := host.occurrences_dropOne h other
          have fewer : pending.count other ≤ (h :: pending).count other := List.count_le_count_cons
          rw [List.count_append] at later
          rw [turns]
          omega

theorem occurrences_addRef (host : Host) (h other : Handle) :
    ({ host with heap := host.heap.addRef h } : Host).occurrences other = host.occurrences other :=
  Heap.total_addRef _ host.heap h

theorem occurrences_update {f : HostObject → HostObject}
    (same : ∀ object, host.get? h = some object → (f object).blank = object.blank)
    (other : Handle) :
    ({ host with heap := host.heap.update h f } : Host).occurrences other
      = host.occurrences other := by
  unfold occurrences
  cases found : host.heap.slot? h with
  | none => rw [Heap.update_of_none found]
  | some s =>
      obtain ⟨object, full⟩ := Option.isSome_iff_exists.1 (Heap.isSome_of_slot? found)
      have here : host.get? h = some object := by
        rw [get?, Heap.get?, found]
        exact full
      have references : (f object).references = object.references := by
        rw [← HostObject.references_blank, same object here, HostObject.references_blank]
      have total := Heap.total_setSlot (fun object => object.references.count other)
        (t := { s with value := s.value.map f }) found
      simp only [full, Option.map_some, Option.elim_some, references] at total
      rw [Heap.update_of_slot? found, full]
      exact Nat.add_right_cancel total

theorem occurrences_syncHead (host : Host) (h other : Handle) :
    (host.syncHead h).occurrences other = host.occurrences other := by
  unfold syncHead
  split
  · exact occurrences_update (fun object _ => HostObject.blank_syncHead _ object) other
  · rfl

structure Balanced (host : Host) (claims : Handle → Nat) (pending : List Handle) : Prop where
  counted : ∀ h s, host.heap.slot? h = some s →
    s.refCount.toNat = claims h + pending.count h + host.occurrences h
  claimed : ∀ h, 0 < claims h → (host.heap.slot? h).isSome
  founded : ∀ h object, host.get? h = some object →
    ∀ base ∈ object.foundations, host.isType base = true

theorem isSome_slot?_syncHead (host : Host) (h other : Handle) :
    ((host.syncHead h).heap.slot? other).isSome = (host.heap.slot? other).isSome := by
  unfold syncHead
  split
  · exact Heap.isSome_slot?_update host.heap h other _
  · rfl

theorem isType_iff : host.isType h = true ↔ ∃ t, host.get? h = some (.type t) := by
  unfold isType type?
  split <;> simp_all

theorem Fades.isType (fades : before.Fades after) (live : (after.heap.slot? h).isSome)
    (was : before.isType h = true) : after.isType h = true := by
  obtain ⟨t, found⟩ := isType_iff.1 was
  exact isType_iff.2 ⟨t, type?_eq_some.1 (fades.type?_of_live live (type?_eq_some.2 found))⟩

theorem Gains.isType {object : HostObject} (gains : before.Gains after object h)
    (was : before.isType other = true) : after.isType other = true := by
  obtain ⟨t, found⟩ := isType_iff.1 was
  exact isType_iff.2 ⟨t, gains.get?_of_get? found⟩

theorem live_of_isType (was : host.isType h = true) : (host.heap.slot? h).isSome := by
  obtain ⟨t, found⟩ := isType_iff.1 was
  rw [← isSome_get?, found]
  rfl

theorem Gains.live {object : HostObject} (gains : before.Gains after object h)
    (live : (before.heap.slot? other).isSome) : (after.heap.slot? other).isSome := by
  rw [← isSome_get?] at live ⊢
  obtain ⟨old, found⟩ := Option.isSome_iff_exists.1 live
  rw [gains.get?_of_get? found]
  rfl

namespace Balanced

theorem shift {claims' : Handle → Nat} {pending' : List Handle}
    (balanced : host.Balanced claims pending)
    (same : ∀ h, (host.heap.slot? h).isSome →
      claims' h + pending'.count h = claims h + pending.count h)
    (claimed : ∀ h, 0 < claims' h → (host.heap.slot? h).isSome) :
    host.Balanced claims' pending' := by
  refine ⟨?_, claimed, balanced.founded⟩
  intro h s found
  rw [balanced.counted h s found, same h (found ▸ rfl)]

theorem forget (balanced : host.Balanced claims (h :: pending))
    (missing : host.heap.slot? h = none) : host.Balanced claims pending := by
  refine balanced.shift ?_ balanced.claimed
  intro other live
  have ne : h ≠ other := by
    rintro rfl
    rw [missing] at live
    cases live
  rw [List.count_cons_of_ne ne]

theorem claim (balanced : host.Balanced claims (h :: pending))
    (live : (host.heap.slot? h).isSome) :
    host.Balanced (fun other => claims other + if other = h then 1 else 0) pending := by
  refine balanced.shift ?_ ?_
  · intro other _
    simp only [List.count_cons, beq_iff_eq, eq_comm (a := h)]
    omega
  · intro other claimed
    by_cases same : other = h
    · exact same ▸ live
    · rw [if_neg same] at claimed
      exact balanced.claimed other claimed

/-- Foundations hold as long as nothing that is referred to was freed. -/
theorem founded_of_fades (balanced : before.Balanced claims pending) (fades : before.Fades after)
    (keep : ∀ h, 0 < after.occurrences h → (before.heap.slot? h).isSome →
      (after.heap.slot? h).isSome)
    (h : Handle) (object : HostObject) (found : after.get? h = some object) (base : Handle)
    (mem : base ∈ object.foundations) : after.isType base = true := by
  obtain ⟨old, found', same⟩ := fades.objects h object found
  have was : before.isType base = true := by
    refine balanced.founded h old found' base ?_
    rwa [← old.foundations_blank, same, object.foundations_blank]
  have used := occurrences_pos found (object.foundations_subset mem)
  exact fades.isType (keep base used (live_of_isType was)) was

/-- Something that is wanted beside the pending reference is not freed. -/
theorem live_dropOne (balanced : host.Balanced claims (h :: pending))
    (wanted : 0 < claims other + ((host.dropOne h).2 ++ pending).count other
      + (host.dropOne h).1.occurrences other)
    (live : (host.heap.slot? other).isSome) : ((host.dropOne h).1.heap.slot? other).isSome := by
  by_cases same : other = h
  · subst same
    obtain ⟨s, found⟩ := Option.isSome_iff_exists.1 live
    have counted := balanced.counted other s found
    have moved := host.occurrences_dropOne other other
    rw [List.count_append] at wanted
    rw [List.count_cons_self] at counted
    rw [slot?_dropOne_self found, if_neg (by rw [Heap.countDown_eq_zero]; omega)]
    rfl
  · rwa [slot?_dropOne_of_ne same]

theorem dropOne (balanced : host.Balanced claims (h :: pending)) :
    (host.dropOne h).1.Balanced claims ((host.dropOne h).2 ++ pending) := by
  have moved := host.occurrences_dropOne h
  refine ⟨?_, ?_, ?_⟩
  · intro other s found
    have := moved other
    rw [List.count_append]
    by_cases same : other = h
    · subst same
      cases found' : host.heap.slot? other with
      | none =>
          rw [dropOne_of_none found', found'] at found
          cases found
      | some s' =>
          have counted := balanced.counted other s' found'
          rw [List.count_cons_self] at counted
          rw [slot?_dropOne_self found'] at found
          split at found
          · cases found
          · cases found
            simp only [HeapSlot.recount, Heap.toNat_countDown]
            omega
    · rw [slot?_dropOne_of_ne same] at found
      have counted := balanced.counted other s found
      rw [List.count_cons_of_ne (Ne.symm same)] at counted
      omega
  · intro other claim
    exact balanced.live_dropOne (by omega) (balanced.claimed other claim)
  · exact balanced.founded_of_fades (host.fades_dropOne h)
      fun other used live => balanced.live_dropOne (by omega) live

/-- In the midst of a cascade the pending references make up for what was already freed. -/
theorem turns (balanced : host.Balanced claims pending) (n : Nat) :
    (host.turns n pending).1.Balanced claims (host.turns n pending).2 := by
  induction n generalizing host pending with
  | zero => exact balanced
  | succ n ih =>
      cases pending with
      | nil => exact balanced
      | cons h pending => exact ih balanced.dropOne

theorem live_turns (balanced : host.Balanced claims pending) (n : Nat)
    (wanted : 0 < claims other + (host.turns n pending).2.count other
      + (host.turns n pending).1.occurrences other)
    (live : (host.heap.slot? other).isSome) :
    ((host.turns n pending).1.heap.slot? other).isSome := by
  induction n generalizing host pending with
  | zero => exact live
  | succ n ih =>
      cases pending with
      | nil => exact live
      | cons h pending =>
          have fewer := occurrences_turns_le n (host.dropOne h).1 ((host.dropOne h).2 ++ pending)
            other
          rw [Host.turns] at wanted ⊢
          apply ih balanced.dropOne wanted
          apply balanced.live_dropOne _ live
          omega

theorem dropFirst (first rest : List Handle) (balanced : host.Balanced claims (first ++ rest)) :
    (host.drop first).Balanced claims rest := by
  obtain ⟨n, reached⟩ := host.exists_turns first rest
  have after := balanced.turns n
  rwa [reached] at after

theorem live_dropFirst (first rest : List Handle) (balanced : host.Balanced claims (first ++ rest))
    (wanted : 0 < claims other + rest.count other + (host.drop first).occurrences other)
    (live : (host.heap.slot? other).isSome) :
    ((host.drop first).heap.slot? other).isSome := by
  obtain ⟨n, reached⟩ := host.exists_turns first rest
  have after := balanced.live_turns n (by rw [reached]; exact wanted) live
  rwa [reached] at after

theorem drop (balanced : host.Balanced claims pending) :
    (host.drop pending).Balanced claims [] := by
  apply dropFirst pending []
  rwa [List.append_nil]

theorem addRef (balanced : host.Balanced claims pending)
    (room : ∀ s, host.heap.slot? h = some s → s.refCount.toNat < 0xFFFFFFFF) :
    ({ host with heap := host.heap.addRef h } : Host).Balanced claims (h :: pending) := by
  refine ⟨?_, ?_, ?_⟩
  · intro other s found
    rw [occurrences_addRef]
    by_cases same : other = h
    · subst same
      obtain ⟨old, found', rfl⟩ :=
        Option.map_eq_some_iff.1 ((Heap.slot?_addRef_self host.heap other).symm.trans found)
      have counted := balanced.counted other old found'
      rw [List.count_cons_self]
      simp only [Heap.toNat_countUp_of_lt (room old found')]
      omega
    · rw [List.count_cons_of_ne (Ne.symm same)]
      exact balanced.counted other s ((Heap.slot?_addRef_of_ne same).symm.trans found)
  · intro other claim
    rw [Heap.isSome_slot?_addRef]
    exact balanced.claimed other claim
  · exact balanced.founded_of_fades (host.fades_addRef h) fun other _ live =>
      (Heap.isSome_slot?_addRef host.heap h other).trans live

theorem retainAll (balanced : host.Balanced claims pending) (handles : List Handle)
    (room : ∀ h s, host.heap.slot? h = some s →
      s.refCount.toNat + handles.count h ≤ 0xFFFFFFFF) :
    (host.retainAll handles).Balanced claims (handles ++ pending) := by
  induction handles generalizing host pending with
  | nil => exact balanced
  | cons a rest ih =>
      have one := balanced.addRef (h := a) fun s found => by
        have := room a s found
        rw [List.count_cons_self] at this
        omega
      have all := ih one fun h s found => by
        by_cases same : h = a
        · subst same
          obtain ⟨old, found', rfl⟩ :=
            Option.map_eq_some_iff.1 ((Heap.slot?_addRef_self host.heap h).symm.trans found)
          have := room h old found'
          rw [List.count_cons_self] at this
          simp only [Heap.toNat_countUp_of_lt (n := old.refCount) (by omega)]
          omega
        · have := room h s ((Heap.slot?_addRef_of_ne same).symm.trans found)
          rwa [List.count_cons_of_ne (Ne.symm same)] at this
      exact all.shift (fun h _ => by simp only [List.count_append, List.count_cons]; omega)
        all.claimed

theorem update (balanced : host.Balanced claims pending) {f : HostObject → HostObject}
    (same : ∀ object, host.get? h = some object → (f object).blank = object.blank) :
    ({ host with heap := host.heap.update h f } : Host).Balanced claims pending := by
  refine ⟨?_, ?_, ?_⟩
  · intro other s found
    have count := Heap.map_refCount_slot?_update host.heap h other f
    rw [found, Option.map_some] at count
    obtain ⟨old, found', count⟩ := Option.map_eq_some_iff.1 count.symm
    rw [occurrences_update same, ← count]
    exact balanced.counted other old found'
  · intro other claim
    rw [Heap.isSome_slot?_update]
    exact balanced.claimed other claim
  · exact balanced.founded_of_fades (host.fades_update h f same) fun other _ live =>
      (Heap.isSome_slot?_update host.heap h other f).trans live

theorem syncHead (balanced : host.Balanced claims pending) (h : Handle) :
    (host.syncHead h).Balanced claims pending := by
  unfold Host.syncHead
  split
  · exact balanced.update fun object _ => HostObject.blank_syncHead _ object
  · exact balanced

theorem write (balanced : host.Balanced claims pending) (h : Handle) (start : Nat)
    (bytes : List UInt8) : (host.step (.write h start bytes)).Balanced claims pending := by
  rcases host.write_cases h start bytes with same | ⟨f, same, written⟩
  · rwa [same]
  · rw [written]
    exact balanced.update same

theorem gain {object : HostObject} (balanced : before.Balanced claims [])
    (gains : before.Gains after object h) (unused : before.occurrences h = 0)
    (apart : h ∉ object.references)
    (founded : ∀ base ∈ object.foundations, before.isType base = true)
    (room : ∀ other s, before.heap.slot? other = some s →
      s.refCount.toNat + object.references.count other ≤ 0xFFFFFFFF) :
    after.Balanced (fun other => claims other + if other = h then 1 else 0) [] := by
  have kept := balanced.retainAll object.references room
  have occurrences (other : Handle) :
      after.occurrences other = before.occurrences other + object.references.count other :=
    gains.total _
  -- Nobody can hold a handle that was never given out.
  have unclaimed : claims h = 0 := by
    refine Nat.eq_zero_of_not_pos ?_
    intro claim
    have live := balanced.claimed h claim
    rw [gains.missing] at live
    cases live
  refine ⟨?_, ?_, ?_⟩
  · intro other s found
    rw [List.count_nil, occurrences]
    by_cases same : other = h
    · subst same
      obtain ⟨generation, placed⟩ := gains.placed
      cases placed.symm.trans found
      simp only [if_pos, unclaimed, unused, List.count_eq_zero.2 apart, UInt32.toNat_one]
    · have counted := kept.counted other s ((gains.others other same).symm.trans found)
      have unchanged : (before.retainAll object.references).occurrences other
          = before.occurrences other := total_retainAll before object.references _
      rw [List.append_nil, unchanged] at counted
      rw [if_neg same]
      omega
  · intro other claim
    by_cases same : other = h
    · obtain ⟨generation, placed⟩ := gains.placed
      rw [same, placed]
      rfl
    · rw [if_neg same] at claim
      rw [gains.others other same]
      exact kept.claimed other claim
  · intro other made found base mem
    by_cases same : other = h
    · subst same
      cases gains.get?_self.symm.trans found
      exact gains.isType (founded base mem)
    · rw [gains.get?_of_ne same] at found
      exact gains.isType (balanced.founded other made found base mem)

end Balanced

end Host
end TypeHost
