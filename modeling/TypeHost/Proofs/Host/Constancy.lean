import TypeHost.Proofs.Host.Freshness

/-! What an object keeps over a run. It is what it was made as for as long as it lives, bytes in
memory apart, because its handle is never given to another one; the record of a type never changes. -/
namespace TypeHost

namespace Host

variable {host start : Host} {h other : Handle} {t : RegisteredType} {object : HostObject}
  {call : HostCall} {actions first rest : List HostAction}

theorem blank_run (sound : host.heap.Sound) (room : (host.run actions).heap.slotCount < 0xFFFFFFFF)
    (young : ∀ i, (host.heap.age i).toNat + host.frees actions i < 0x100000000)
    (found : host.get? h = some object) {later : HostObject}
    (still : (host.run actions).get? h = some later) : later.blank = object.blank := by
  have ends := run_induct
    (motive := fun host _ => host.heap.Issued h ∧
      ∀ later, host.get? h = some later → later.blank = object.blank) ?_ sound room young ?_
  · exact ends.2 later still
  · rintro host action rest steady ⟨issued, same⟩
    refine ⟨issued_step steady issued, ?_⟩
    intro later still
    obtain ⟨old, found, same'⟩ := get?_of_step steady issued still
    rw [← same', same old found]
  · refine ⟨issued_of_get? found, ?_⟩
    intro later again
    rw [Option.some.inj (again.symm.trans found)]

theorem type?_run (sound : host.heap.Sound)
    (room : (host.run actions).heap.slotCount < 0xFFFFFFFF)
    (young : ∀ i, (host.heap.age i).toNat + host.frees actions i < 0x100000000)
    (found : host.type? h = some t) (live : ((host.run actions).heap.slot? h).isSome) :
    (host.run actions).type? h = some t := by
  obtain ⟨later, still⟩ := exists_get? live
  have same := blank_run sound room young (type?_eq_some.1 found) still
  rw [type?_eq_some, still, HostObject.blank_eq_type.1 same]

theorem get?_of_made (sound : host.heap.Sound)
    (room : (host.perform call).2.heap.slotCount < 0xFFFFFFFF)
    (made : (host.perform call).1 = .made h) (found : host.get? other = some object) :
    (host.perform call).2.get? other = some object := by
  obtain ⟨placed, -, -, stored⟩ := store_of_made made
  rw [stored] at room ⊢
  exact (store_gains sound room).get?_of_get? found

theorem run_call (start : Host) (first : List HostAction) (call : HostCall)
    (rest : List HostAction) : start.run (first ++ .call call :: rest)
      = ((start.run first).perform call).2.run rest := by
  rw [run_append]
  rfl

theorem made_run (sound : start.heap.Sound)
    (room : (start.run (first ++ .call call :: rest)).heap.slotCount < 0xFFFFFFFF)
    (young : ∀ i, (start.heap.age i).toNat
      + start.frees (first ++ .call call :: rest) i < 0x100000000)
    (made : ((start.run first).perform call).1 = .made h) :
    ∃ object, (start.run first).Makes call object ∧
      ((start.run first).perform call).2.get? h = some object ∧
      ∀ later, (start.run (first ++ .call call :: rest)).get? h = some later →
        later.blank = object.blank := by
  obtain ⟨object, makes, rfl, stored⟩ := store_of_made made
  have split : first ++ .call call :: rest = first ++ [.call call] ++ rest := List.append_cons ..
  have young_after := young_rest sound (split ▸ room) (split ▸ young)
  rw [run_call, stored] at room
  rw [run_call, run, List.foldl_nil, stored] at young_after
  have gains := store_gains (sound_run sound first) (room_of_run room)
  refine ⟨object, makes, stored ▸ gains.get?_self, ?_⟩
  intro later still
  rw [run_call, stored] at still
  exact blank_run gains.sound room young_after gains.get?_self still

theorem instance_of_made {ty : Handle} {nitems : UInt64} (sound : start.heap.Sound)
    (room : (start.run (first ++ .call (.newInstance ty nitems) :: rest)).heap.slotCount
      < 0xFFFFFFFF)
    (young : ∀ i, (start.heap.age i).toNat
      + start.frees (first ++ .call (.newInstance ty nitems) :: rest) i < 0x100000000)
    (found : (start.run first).type? ty = some t)
    (made : ((start.run first).perform (.newInstance ty nitems)).1 = .made h)
    (live : ((start.run (first ++ .call (.newInstance ty nitems) :: rest)).heap.slot? h).isSome) :
    ∃ i, (start.run (first ++ .call (.newInstance ty nitems) :: rest)).instance? h = some i ∧
      i.type = ty ∧ i.mode = .ofLegacy t.legacy ∧
      i.memory.size = (Instance.fresh ty t.legacy (t.allocation nitems)).memory.size := by
  obtain ⟨object, makes, -, kept⟩ := made_run sound room young made
  cases makes with | inst found' small =>
  cases found.symm.trans found'
  obtain ⟨last, still⟩ := exists_get? live
  obtain ⟨i, rfl, alike⟩ := HostObject.blank_eq_inst.1 (kept last still)
  exact ⟨i, instance?_eq_some.2 still, alike⟩

end Host
end TypeHost
