import Mathlib.Data.List.Induction
import TypeHost.Proofs.Host.Header

/-! The bytes of an instance. Behind its count every byte is what the extension wrote there last, or
what it was when the instance was made. The host rewrites the count alone, and only of an instance
that a call names or that a cascade comes to. -/
namespace TypeHost

namespace HostAction

def byteAt (h : Handle) (size k : Nat) : HostAction → Option UInt8
  | .write other start bytes =>
    if other = h ∧ start + bytes.length ≤ size ∧ start ≤ k then bytes[k - start]? else none
  | .call _ => none

def lastByte (actions : List HostAction) (h : Handle) (size k : Nat) : Option UInt8 :=
  actions.reverse.findSome? (·.byteAt h size k)

theorem lastByte_append (actions : List HostAction) (action : HostAction) (h : Handle)
    (size k : Nat) :
    lastByte (actions ++ [action]) h size k
      = (action.byteAt h size k).or (lastByte actions h size k) := by
  rw [lastByte, List.reverse_append, List.reverse_singleton, List.singleton_append,
    List.findSome?_cons]
  cases action.byteAt h size k <;> rfl

end HostAction

/-- What an instance starts with behind its count: the handle of its type and then zeros. -/
def firstByte (type : Handle) (k : Nat) : UInt8 :=
  if 8 ≤ k ∧ k < headSize then (Memory.wordBytes type.bits).getD (k - 8) 0 else 0

theorem byte_fresh (type : Handle) (legacy : Bool) (size : Nat) {k : Nat} (behind : 8 ≤ k) :
    (Instance.fresh type legacy size).memory.byte k = firstByte type k := by
  have length := Memory.length_wordBytes
  have zero : Memory.byte { size } k = 0 := by simp [Memory.byte]
  rw [Instance.fresh, Memory.writeType, Memory.byte_write, Memory.writeRefCount,
    Memory.byte_write_of_apart (.inr (by rwa [length])), zero, length, firstByte, headSize]

namespace Host

variable {host start : Host} {h : Handle} {i j : Instance} {action : HostAction}
  {actions : List HostAction} {call : HostCall} {gcMode : GcMode} {builtins : List BuiltinType}

structure Spares (host : Host) (call : HostCall) (h : Handle) (i j : Instance) : Prop where
  lasts : i.Lasts j
  bytes : ∀ k, j.memory.byte k ≠ i.memory.byte k → k < 8 ∧ host.Syncs (.call call) h

theorem Spares.refl (host : Host) (call : HostCall) (h : Handle) (i : Instance) :
    host.Spares call h i i :=
  ⟨.refl i, fun _ changed => absurd rfl changed⟩

theorem Spares.behind (spares : host.Spares call h i j) {k : Nat} (behind : 8 ≤ k) :
    j.memory.byte k = i.memory.byte k := by
  by_contra changed
  have := (spares.bytes k changed).1
  omega

theorem instance?_of_call (sound : host.heap.Sound)
    (found : (host.perform call).2.instance? h = some j) :
    (host.instance? h = none ∧ ∃ ty nitems, ∃ t : RegisteredType, call = .newInstance ty nitems ∧
      (host.perform call).1 = .made h ∧ j = .fresh ty t.legacy (t.allocation nitems)) ∨
    ∃ i, host.instance? h = some i ∧ host.Spares call h i j := by
  obtain ⟨t, slot, value⟩ := Option.bind_eq_some_iff.1 (instance?_eq_some.1 found)
  have touched : host.Touched (.call call) h t := touched_step slot
  cases touched with
  | made call object generation same makes answer missing new =>
      cases same
      cases new
      cases value
      cases makes with
      | @inst ty nitems t typed small =>
          refine .inl ⟨?_, ty, nitems, t, rfl, answer, rfl⟩
          rw [instance?, get?, Heap.get?, missing sound, Option.bind_none]
  | synced s before syncs synced =>
      obtain ⟨i, value', recounted⟩ := synced j value
      refine .inr ⟨i, instance?_of_slot? before value', recounted.lasts, ?_⟩
      intro k changed
      refine ⟨?_, syncs⟩
      by_contra behind
      exact changed (recounted.behind k (by omega))
  | counted s before silent same count =>
      rw [same] at value
      exact .inr ⟨j, instance?_of_slot? before value, .refl host call h j⟩
  | written s i place bytes same before value' new => cases same

/-- The memory of an instance after a write in range of it; other writes do nothing to it. -/
structure Overwritten (action : HostAction) (h : Handle) (i j : Instance) : Prop where
  lasts : i.Lasts j
  bytes : ∀ k, j.memory.byte k = (action.byteAt h i.memory.size k).getD (i.memory.byte k)

theorem overwritten_of_out {other : Handle} {place : Nat} {bytes : List UInt8}
    (out : ¬ (other = h ∧ place + bytes.length ≤ i.memory.size)) :
    Overwritten (.write other place bytes) h i i := by
  refine ⟨.refl i, ?_⟩
  intro k
  rw [HostAction.byteAt, if_neg fun within => out ⟨within.1, within.2.1⟩]
  rfl

theorem overwritten_of_within {place : Nat} {bytes : List UInt8}
    (within : place + bytes.length ≤ i.memory.size) :
    Overwritten (.write h place bytes) h i { i with memory := i.memory.write place bytes } := by
  refine ⟨⟨rfl, rfl, Memory.size_write ..⟩, ?_⟩
  intro k
  rw [Memory.byte_write, HostAction.byteAt]
  by_cases hit : place ≤ k ∧ k < place + bytes.length
  · have inside : k - place < bytes.length := by omega
    rw [if_pos hit, if_pos ⟨rfl, within, hit.1⟩, List.getD_eq_getElem?_getD,
      List.getElem?_eq_getElem inside]
    rfl
  · rw [if_neg hit]
    split
    · rw [List.getElem?_eq_none (by omega)]
      rfl
    · rfl

theorem instance?_of_write {other : Handle} {place : Nat} {bytes : List UInt8}
    (found : (host.step (.write other place bytes)).instance? h = some j) :
    ∃ i, host.instance? h = some i ∧ Overwritten (.write other place bytes) h i j := by
  rw [step, writeMemory] at found
  cases here : host.instance? other with
  | none =>
      rw [here] at found
      refine ⟨j, found, overwritten_of_out ?_⟩
      rintro ⟨rfl, -⟩
      cases here.symm.trans found
  | some i =>
      rw [here] at found
      dsimp only at found
      by_cases within : place + bytes.length ≤ i.memory.size
      · rw [if_pos within] at found
        dsimp only at found
        by_cases same : h = other
        · subst same
          rw [instance?_eq_some, get?, Heap.get?_update_self] at found
          obtain ⟨object, -, written⟩ := Option.map_eq_some_iff.1 found
          cases written
          exact ⟨i, here, overwritten_of_within within⟩
        · rw [instance?_eq_some, get?, Heap.get?_update_of_ne same] at found
          exact ⟨j, instance?_eq_some.2 found, overwritten_of_out fun both => same both.1.symm⟩
      · rw [if_neg within] at found
        refine ⟨j, found, overwritten_of_out ?_⟩
        rintro ⟨rfl, fits⟩
        cases here.symm.trans found
        exact within fits

/-- The instance was made after `first` and lives to the end of `rest`. Behind its count it holds
what was written in `rest`, and where nothing was written what it was made with. -/
structure WrittenSince (start : Host) (h : Handle) (first : List HostAction) (ty : Handle)
    (nitems : UInt64) (rest : List HostAction) (i : Instance) : Prop where
  made : ((start.run first).perform (.newInstance ty nitems)).1 = .made h
  typed : i.type = ty
  lived : ∀ early late, rest = early ++ late → ∃ j,
    (start.run (first ++ .call (.newInstance ty nitems) :: early)).instance? h = some j ∧ i.Lasts j
  bytes : ∀ k, 8 ≤ k → i.memory.byte k =
    (HostAction.lastByte rest h i.memory.size k).getD (firstByte ty k)

theorem WrittenSince.next {first rest : List HostAction} {ty : Handle} {nitems : UInt64}
    (since : start.WrittenSince h first ty nitems rest i)
    (found : (start.run (first ++ .call (.newInstance ty nitems) :: (rest ++ [action]))).instance? h
      = some j) (lasts : i.Lasts j)
    (bytes : ∀ k, 8 ≤ k →
      j.memory.byte k = (action.byteAt h i.memory.size k).getD (i.memory.byte k)) :
    start.WrittenSince h first ty nitems (rest ++ [action]) j where
  made := since.made
  typed := lasts.type.trans since.typed
  lived early late split := by
    -- A prefix of the longer run is all of it, or a prefix of the shorter one.
    rcases List.eq_nil_or_concat late with rfl | ⟨late, last, rfl⟩
    · rw [List.append_nil] at split
      exact ⟨j, split ▸ found, .refl j⟩
    · rw [List.concat_eq_append, ← List.append_assoc] at split
      obtain ⟨split, -⟩ := List.append_inj' split rfl
      obtain ⟨k, there, lasts'⟩ := since.lived early late split
      exact ⟨k, there, lasts.symm.trans lasts'⟩
  bytes k behind := by
    rw [bytes k behind, since.bytes k behind, HostAction.lastByte_append, lasts.size]
    cases action.byteAt h i.memory.size k <;> rfl

def Written (start : Host) (h : Handle) (actions : List HostAction) (i : Instance) : Prop :=
  ∃ first ty nitems rest, actions = first ++ .call (.newInstance ty nitems) :: rest ∧
    start.WrittenSince h first ty nitems rest i

theorem Written.next (written : start.Written h actions i)
    (found : (start.run (actions ++ [action])).instance? h = some j) (lasts : i.Lasts j)
    (bytes : ∀ k, 8 ≤ k →
      j.memory.byte k = (action.byteAt h i.memory.size k).getD (i.memory.byte k)) :
    start.Written h (actions ++ [action]) j := by
  obtain ⟨first, ty, nitems, rest, rfl, since⟩ := written
  rw [List.append_assoc, List.cons_append] at found ⊢
  exact ⟨first, ty, nitems, rest ++ [action], rfl, since.next found lasts bytes⟩

theorem written_run (created : create gcMode builtins = .ok start)
    (found : (start.run actions).instance? h = some i) : start.Written h actions i := by
  -- On the last action: the run up to it is the one that the instance was written in so far.
  induction actions using List.reverseRecOn generalizing i with
  | nil => exact absurd (instance?_eq_some.1 found) (no_instance_of_create created h i)
  | append_singleton actions action ih =>
      have here := found
      rw [run_append] at here
      cases action with
      | write other place bytes =>
          obtain ⟨before, there, overwritten⟩ := instance?_of_write here
          exact (ih there).next found overwritten.lasts fun k _ => overwritten.bytes k
      | call call =>
          have sound := sound_run (sound_of_create created) actions
          rcases instance?_of_call sound here with
            ⟨-, ty, nitems, t, rfl, made, rfl⟩ | ⟨before, there, spares⟩
          · refine ⟨actions, ty, nitems, [], rfl, made, rfl, ?_, fun k => byte_fresh ty _ _⟩
            rintro early late split
            obtain ⟨rfl, rfl⟩ := List.append_eq_nil_iff.1 split.symm
            exact ⟨_, found, .refl _⟩
          · exact (ih there).next found spares.lasts fun k behind => spares.behind behind

theorem readStruct_of_spares (before : host.instance? h = some i)
    (after : (host.perform call).2.instance? h = some j) (spares : host.Spares call h i j)
    (pure : i.mode = .pure) (offset length : Nat) :
    (host.perform call).2.readStruct h offset length = host.readStruct h offset length := by
  have place : j.structOffset = i.structOffset := by
    rw [Instance.structOffset, Instance.structOffset, spares.lasts.mode]
  have behind : i.structOffset = headSize := by rw [Instance.structOffset, pure]; rfl
  have size : j.structSize = i.structSize := by
    rw [Instance.structSize, Instance.structSize, spares.lasts.size, place]
  have bytes : j.memory.read (i.structOffset + offset) length
      = i.memory.read (i.structOffset + offset) length := by
    apply List.map_congr_left
    intro k _
    apply spares.behind
    rw [behind, headSize]
    omega
  simp only [readStruct, before, after, place, size, bytes]

/-- Behind its count, every byte of a live instance is what was written there last, or else what the
instance was made with. A call changes no bytes but those of counts, and only of the instance that
it names or that its cascade comes to; so it never changes the struct of a pure instance. -/
theorem memory_integrity (created : create gcMode builtins = .ok start)
    (actions : List HostAction) :
    (∀ h i, (start.run actions).instance? h = some i → ∃ first ty nitems rest,
      actions = first ++ .call (.newInstance ty nitems) :: rest ∧
      start.WrittenSince h first ty nitems rest i) ∧
    ∀ call h i j, (start.run actions).instance? h = some i →
      ((start.run actions).perform call).2.instance? h = some j →
      (start.run actions).Spares call h i j ∧
      (i.mode = .pure → ∀ offset length,
        ((start.run actions).perform call).2.readStruct h offset length
          = (start.run actions).readStruct h offset length) := by
  have sound := sound_run (sound_of_create created) actions
  refine ⟨fun h i => written_run created, ?_⟩
  intro call h i j before after
  rcases instance?_of_call sound after with ⟨missing, -⟩ | ⟨i', before', spares⟩
  · cases before.symm.trans missing
  · cases before.symm.trans before'
    exact ⟨spares, fun pure => readStruct_of_spares before after spares pure⟩

/-- The second instance takes the slot of the first but none of its bytes. When a tuple that held it
goes, only its count is rewritten. -/
theorem memory_integrity_reused_slot :
    let first : List HostAction := [.call (.newInstance tupleType 0), .write (.pack 3 0) 16 [7, 7]]
    let later : List HostAction := [.call (.newInstance tupleType 0), .write (.pack 3 1) 17 [9],
      .call (.newTuple [.pack 3 1])]
    let host := (core .refCounting).run (first ++ .call (.release (.pack 3 0)) :: later)
    create .refCounting [] = .ok (core .refCounting) ∧
      ∃ i j, host.instance? (.pack 3 1) = some i ∧
        (host.perform (.release (.pack 4 0))).2.instance? (.pack 3 1) = some j ∧
        i.memory.read 8 12 = [3, 0, 0, 0, 0, 0, 0, 0, 0, 9, 0, 0] ∧
        ∀ k, 8 ≤ k → j.memory.byte k = i.memory.byte k := by
  intro first later host
  have created : create .refCounting [] = .ok (core .refCounting) := rfl
  have integrity := (memory_integrity created (first ++ .call (.release (.pack 3 0)) :: later)).2
  have reused : (core .refCounting).run (first ++ .call (.release (.pack 3 0)) :: later)
      = (turns 2 ((core .refCounting).run first) [.pack 3 0]).1.run later :=
    run_release first later 2 (by decide) (by decide)
  rw [reused] at integrity
  simp only [host, reused]
  generalize same : (turns 2 ((core .refCounting).run first) [.pack 3 0]).1.run later = before
    at integrity ⊢
  have dropped : before.perform (.release (.pack 4 0))
      = (.counted true, (turns 2 before [.pack 4 0]).1) :=
    perform_release 2 (by rw [← same]; decide) (by rw [← same]; decide)
  have live : (before.instance? (.pack 3 1)).isSome := by
    rw [← same]
    decide
  have live' : ((before.perform (.release (.pack 4 0))).2.instance? (.pack 3 1)).isSome := by
    rw [dropped, ← same]
    decide
  have bytes : (before.instance? (.pack 3 1)).map (·.memory.read 8 12)
      = some [3, 0, 0, 0, 0, 0, 0, 0, 0, 9, 0, 0] := by
    rw [← same]
    decide
  obtain ⟨i, found⟩ := Option.isSome_iff_exists.1 live
  obtain ⟨j, found'⟩ := Option.isSome_iff_exists.1 live'
  rw [found] at bytes
  obtain ⟨spares, -⟩ := integrity _ _ i j found found'
  exact ⟨created, i, j, found, found', Option.some.inj bytes, fun k => spares.behind⟩

end Host
end TypeHost
