import TypeHost.Host.Release
import TypeHost.Proofs.Heap.Generation

/-! One turn of a cascade: a pending handle loses one reference, and what the last reference held
becomes pending in turn. -/
namespace TypeHost

def HostObject.name? : HostObject → Option String
  | .type t => some t.name
  | _ => none

namespace HeapSlot

def recount (s : HeapSlot HostObject) (count : UInt32) : HeapSlot HostObject :=
  ⟨s.generation, count, s.value.map (HostObject.syncHead count)⟩

/-- The object that goes with the next reference dropped, if that is the last one. -/
def parting (s : HeapSlot HostObject) : Option HostObject :=
  if Heap.countDown s.refCount = 0 then s.value else none

theorem parting_eq_some {s : HeapSlot HostObject} {object : HostObject} :
    s.parting = some object ↔ Heap.countDown s.refCount = 0 ∧ s.value = some object := by
  unfold parting
  split <;> simp_all

def lessOne (s : HeapSlot HostObject) : HeapSlot HostObject :=
  if Heap.countDown s.refCount = 0 then ⟨s.generation + 1, 0, none⟩
  else s.recount (Heap.countDown s.refCount)

theorem lessOne_generation {s : HeapSlot HostObject} (full : s.lessOne.value.isSome) :
    s.lessOne.generation = s.generation := by
  unfold lessOne at full ⊢
  split
  · rename_i none_left
    rw [if_pos none_left] at full
    cases full
  · rfl

end HeapSlot

namespace Host

variable {host : Host} {h other : Handle} {s : HeapSlot HostObject}

def namesWithout (names : Std.ExtTreeMap String Handle) (h : Handle) :
    Option HostObject → Std.ExtTreeMap String Handle
  | some (.type t) => if names[t.name]? = some h then names.erase t.name else names
  | _ => names

/-- Only the name of the freed type goes, and only if it led to that type. -/
theorem getElem?_namesWithout (names : Std.ExtTreeMap String Handle) (h : Handle)
    (object : Option HostObject) (name : String) :
    (namesWithout names h object)[name]? =
      if object.bind (·.name?) = some name ∧ names[name]? = some h then none
      else names[name]? := by
  rcases object with _ | t | items | i
  · simp [namesWithout]
  · simp only [namesWithout, Option.bind_some, HostObject.name?, Option.some.injEq]
    by_cases same : t.name = name
    · subst same
      split <;> simp_all
    · split <;> simp [Std.ExtTreeMap.getElem?_erase, same]
  · simp [namesWithout, HostObject.name?]
  · simp [namesWithout, HostObject.name?]

/-- The host after one turn, and the handles that the turn leaves pending. -/
def dropOne (host : Host) (h : Handle) : Host × List Handle :=
  match host.heap.release h with
  | (none, heap) => ({ host with heap }.syncHead h, [])
  | (some object, heap) => ({ host with heap }.forgetName h object, object.references.reverse)

theorem drop_nil (host : Host) : host.drop [] = host := by rw [drop]

theorem drop_cons (host : Host) (h : Handle) (pending : List Handle) :
    host.drop (h :: pending) = (host.dropOne h).1.drop ((host.dropOne h).2 ++ pending) := by
  rw [drop, dropOne]
  split <;> rename_i released <;> rw [released]
  rfl

/-- Cascades by the turns they take. -/
theorem drop_induct {motive : Host → List Handle → Prop} (nil : ∀ host, motive host [])
    (cons : ∀ host h pending, motive (host.dropOne h).1 ((host.dropOne h).2 ++ pending) →
      motive host (h :: pending)) : ∀ host pending, motive host pending := by
  intro host pending
  fun_induction drop host pending with
  | case1 host => exact nil host
  | case2 host h pending heap released ih =>
      apply cons
      rw [dropOne, released]
      exact ih
  | case3 host h pending object heap released ih =>
      apply cons
      rw [dropOne, released]
      exact ih

theorem drop_append (host : Host) (first rest : List Handle) :
    host.drop (first ++ rest) = (host.drop first).drop rest := by
  induction host, first using drop_induct with
  | nil host => rw [drop_nil, List.nil_append]
  | cons host h pending ih => rw [List.cons_append, drop_cons, drop_cons, ← List.append_assoc, ih]

/-- A cascade cut off after a number of turns; it can be evaluated. -/
def turns : Nat → Host → List Handle → Host × List Handle
  | 0, host, pending => (host, pending)
  | _ + 1, host, [] => (host, [])
  | n + 1, host, h :: pending => turns n (host.dropOne h).1 ((host.dropOne h).2 ++ pending)

theorem drop_turns (n : Nat) (host : Host) (pending : List Handle) :
    (turns n host pending).1.drop (turns n host pending).2 = host.drop pending := by
  induction n generalizing host pending with
  | zero => rfl
  | succ n ih =>
      cases pending with
      | nil => rfl
      | cons h pending =>
          rw [drop_cons, turns]
          exact ih _ _

theorem drop_eq_turns (n : Nat) {host : Host} {pending : List Handle}
    (ended : (turns n host pending).2 = []) : host.drop pending = (turns n host pending).1 := by
  rw [← drop_turns n, ended, drop_nil]

/-- What is pending first is dropped first, with all that follows. -/
theorem exists_turns (host : Host) (first rest : List Handle) :
    ∃ n, turns n host (first ++ rest) = (host.drop first, rest) := by
  induction host, first using drop_induct with
  | nil host => exact ⟨0, by rw [turns, drop_nil, List.nil_append]⟩
  | cons host h pending ih =>
      obtain ⟨n, reached⟩ := ih
      refine ⟨n + 1, ?_⟩
      rw [List.cons_append, turns, drop_cons, ← List.append_assoc]
      exact reached

/-- What a turn takes out of the heap it leaves pending, however lists of references are weighed. -/
theorem total_dropOne (weight : List Handle → Nat) (empty : weight [] = 0)
    (reverse : ∀ l, weight l.reverse = weight l) (host : Host) (h : Handle) :
    (host.dropOne h).1.heap.total (fun object => weight object.references)
        + weight (host.dropOne h).2
      = host.heap.total fun object => weight object.references := by
  have total := Heap.total_release (fun object => weight object.references) host.heap h
  unfold dropOne
  split
  · rename_i heap released
    rw [released] at total
    rw [← total, Option.elim_none, empty]
    unfold syncHead
    split
    · exact Heap.total_update _ _ _ fun object => by simp
    · rfl
  · rename_i object heap released
    rw [released] at total
    rw [← total, heap_forgetName, reverse, Option.elim_some]

/-- Every turn takes as many references out of the heap as it leaves pending. -/
theorem heldReferences_dropOne (host : Host) (h : Handle) :
    (host.dropOne h).1.heldReferences + (host.dropOne h).2.length = host.heldReferences :=
  total_dropOne List.length rfl (fun _ => List.length_reverse) host h

theorem forgetName_eq (host : Host) (h : Handle) (object : HostObject) :
    host.forgetName h object
      = { host with names := namesWithout host.names h (some object) } := by
  cases object with
  | type t =>
      rw [forgetName, namesWithout, lookup]
      split <;> rfl
  | tuple items => rfl
  | inst i => rfl

theorem syncHead_of_none (missing : host.heap.slot? h = none) : host.syncHead h = host := by
  simp only [syncHead, refCount?, Heap.refCount?, missing, Option.map_none]

theorem syncHead_setSlot (found : host.heap.slot? h = some s) (count : UInt32) :
    ({ host with heap := host.heap.setSlot h { s with refCount := count } }.syncHead h)
      = { host with heap := host.heap.setSlot h (s.recount count) } := by
  have again : (host.heap.setSlot h { s with refCount := count }).slot? h
      = some { s with refCount := count } :=
    Heap.slot?_setSlot_self found rfl (Heap.isSome_of_slot? found :)
  simp only [syncHead, refCount?, Heap.refCount?, again, Option.map_some,
    Heap.update_of_slot? again, Heap.setSlot_setSlot, HeapSlot.recount]

theorem dropOne_of_none (missing : host.heap.slot? h = none) : host.dropOne h = (host, []) := by
  have released := Heap.release_cases host.heap h
  unfold dropOne
  generalize host.heap.release h = result at released ⊢
  cases released with
  | dead => exact congrArg (·, []) (syncHead_of_none missing)
  | shared found => cases missing.symm.trans found
  | last found => cases missing.symm.trans found

theorem dropOne_of_slot? {index : UInt32} (found : host.heap.slot? h = some s)
    (unpack : h.unpack? = some (index, s.generation)) :
    host.dropOne h =
      ({ host with
          heap := { slots := (host.heap.setSlot h s.lessOne).slots
                    free := (s.parting.elim [] fun _ => [index]) ++ host.heap.free }
          names := namesWithout host.names h s.parting },
        s.parting.elim [] (·.references.reverse)) := by
  have released := Heap.release_cases host.heap h
  unfold dropOne
  generalize host.heap.release h = result at released ⊢
  cases released with
  | dead missing => cases missing.symm.trans found
  | shared found' more =>
      cases found.symm.trans found'
      have some_left : Heap.countDown s.refCount ≠ 0 := (UInt32.ne_of_lt more).symm
      dsimp only
      rw [syncHead_setSlot found, HeapSlot.lessOne, if_neg some_left, HeapSlot.parting,
        if_neg some_left, Option.elim_none, List.nil_append,
        ← Heap.free_setSlot (h := h) (t := s.recount (Heap.countDown s.refCount))]
      rfl
  | last found' none_left hvalue unpack' =>
      cases found.symm.trans found'
      cases unpack.symm.trans unpack'
      dsimp only
      rw [forgetName_eq, HeapSlot.lessOne, if_pos none_left, HeapSlot.parting,
        if_pos none_left, hvalue]
      rfl

theorem pending_dropOne (found : host.heap.slot? h = some s) :
    (host.dropOne h).2 = s.parting.elim [] (·.references.reverse) := by
  obtain ⟨index, unpack, -, -⟩ := Heap.slot?_eq_some found
  rw [dropOne_of_slot? found unpack]

theorem release_eq_drop (host : Host) (h : Handle) : (host.release h).2 = host.drop [h] := by
  unfold release
  split
  · rfl
  · rename_i missing
    have : host.heap.slot? h = none := by simpa [Heap.contains] using missing
    rw [drop_cons, dropOne_of_none this, List.nil_append, drop_nil]

theorem slot?_dropOne_of_ne (ne : other ≠ h) :
    (host.dropOne h).1.heap.slot? other = host.heap.slot? other := by
  cases found : host.heap.slot? h with
  | none => rw [dropOne_of_none found]
  | some s =>
      obtain ⟨index, unpack, -, -⟩ := Heap.slot?_eq_some found
      rw [dropOne_of_slot? found unpack]
      exact Heap.slot?_setSlot_of_ne found HeapSlot.lessOne_generation ne

theorem slot?_dropOne_self (found : host.heap.slot? h = some s) :
    (host.dropOne h).1.heap.slot? h =
      if Heap.countDown s.refCount = 0 then none
      else some (s.recount (Heap.countDown s.refCount)) := by
  obtain ⟨index, unpack, -, full⟩ := Heap.slot?_eq_some found
  rw [dropOne_of_slot? found unpack]
  change (host.heap.setSlot h s.lessOne).slot? h = _
  unfold HeapSlot.lessOne
  split
  · exact Heap.slot?_setSlot_empty found rfl
  · exact Heap.slot?_setSlot_self found rfl (by simpa [HeapSlot.recount] using full)

end Host
end TypeHost
