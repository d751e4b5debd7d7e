import Mathlib.Algebra.BigOperators.Group.Finset.Piecewise
import Mathlib.Order.Bounds.Basic
import TypeHost.Proofs.Host.Names

/-! What falls with a reference. A cascade drops references one at a time, yet what it frees is the
least set of objects that nothing but the set and the given reference holds; whatever is left has
lost as many references as the set held to it. -/
namespace TypeHost

namespace HostObject

@[simp] theorem syncHead_syncHead (first second : UInt32) (object : HostObject) :
    (object.syncHead first).syncHead second = object.syncHead second := by
  cases object with
  | inst i => simp only [syncHead, Memory.writeRefCount_writeRefCount]
  | type t => rfl
  | tuple items => rfl

end HostObject

namespace HeapSlot

variable {s t : HeapSlot HostObject} {m n : Nat}

def less (s : HeapSlot HostObject) (n : Nat) : Option (HeapSlot HostObject) :=
  if s.refCount.toNat ≤ n then none
  else if n = 0 then some s
  else some (s.recount (UInt32.ofNat (s.refCount.toNat - n)))

theorem recount_recount (s : HeapSlot HostObject) (first second : UInt32) :
    (s.recount first).recount second = s.recount second := by
  cases value : s.value <;> simp [recount, value]

theorem less_eq_none : s.less n = none ↔ s.refCount.toNat ≤ n := by
  unfold less
  split
  · simp [*]
  · split <;> simp_all

theorem less_zero (held : 0 < s.refCount.toNat) : s.less 0 = some s := by
  rw [less, if_neg (by omega), if_pos rfl]

theorem less_of_lt (left : n < s.refCount.toNat) (dropped : 0 < n) :
    s.less n = some (s.recount (UInt32.ofNat (s.refCount.toNat - n))) := by
  rw [less, if_neg (by omega), if_neg (by omega)]

theorem less_one : s.less 1 =
    if Heap.countDown s.refCount = 0 then none
    else some (s.recount (Heap.countDown s.refCount)) := by
  have down : UInt32.ofNat (s.refCount.toNat - 1) = Heap.countDown s.refCount := by
    rw [← Heap.toNat_countDown, UInt32.ofNat_toNat]
  simp only [less, Heap.countDown_eq_zero, down, if_neg Nat.one_ne_zero]

theorem toNat_refCount_recount (s : HeapSlot HostObject) (n : Nat) :
    (s.recount (UInt32.ofNat (s.refCount.toNat - n))).refCount.toNat = s.refCount.toNat - n := by
  have bound := s.refCount.toNat_lt
  rw [recount, UInt32.toNat_ofNat']
  omega

theorem refCount_of_less (left : s.less n = some t) :
    t.refCount.toNat + n = s.refCount.toNat ∧ 0 < t.refCount.toNat := by
  unfold less at left
  split at left
  · cases left
  · split at left
    · cases left
      omega
    · cases left
      rw [toNat_refCount_recount]
      omega

theorem eq_of_less (left : s.less n = some t) :
    t = if n = 0 then s else s.recount t.refCount := by
  unfold less at left
  split at left
  · cases left
  · split at left
    · rename_i untouched
      rw [if_pos untouched]
      exact (Option.some.inj left).symm
    · rename_i dropped
      cases left
      rw [if_neg dropped]
      rfl

theorem less_less (s : HeapSlot HostObject) (m n : Nat) :
    (s.less m).bind (·.less n) = s.less (m + n) := by
  cases left : s.less m with
  | none =>
      have gone := less_eq_none.1 left
      exact (less_eq_none.2 (by omega)).symm
  | some t =>
      obtain ⟨count, held⟩ := refCount_of_less left
      rw [Option.bind_some]
      by_cases last : s.refCount.toNat ≤ m + n
      · rw [less_eq_none.2 last, less_eq_none.2 (by omega)]
      · by_cases more : n = 0
        · rw [more, less_zero held, Nat.add_zero, left]
        · by_cases first : m = 0
          · subst first
            rw [less_zero (by omega)] at left
            cases left
            rw [Nat.zero_add]
          · rw [less_of_lt (by omega) (by omega)] at left
            cases left
            rw [less_of_lt (by omega) (by omega), less_of_lt (by omega) (by omega),
              recount_recount, toNat_refCount_recount, Nat.sub_sub]

end HeapSlot

namespace Host

variable {host : Host} {h o : Handle} {pending : List Handle} {S : Finset Handle}
  {s t : HeapSlot HostObject}

def links (host : Host) (h : Handle) : List Handle := (host.get? h).elim [] HostObject.references

def occurrencesIn (host : Host) (S : Finset Handle) (o : Handle) : Nat :=
  ∑ g ∈ S, (host.links g).count o

/-- The references to the handle that are to be dropped, if the set is to be freed. -/
def demand (host : Host) (S : Finset Handle) (pending : List Handle) (o : Handle) : Nat :=
  host.occurrencesIn S o + pending.count o

theorem demand_cons (host : Host) (S : Finset Handle) (h : Handle) (pending : List Handle)
    (o : Handle) : host.demand S (h :: pending) o = [h].count o + host.demand S pending o := by
  have first : (h :: pending).count o = [h].count o + pending.count o := by
    rw [← List.count_append, List.singleton_append]
  rw [demand, demand, first, Nat.add_left_comm]

theorem links_of_slot? (found : host.heap.slot? h = some s) :
    host.links h = s.value.elim [] HostObject.references := by
  rw [links, get?, Heap.get?, found, Option.bind_some]

theorem links_of_none (missing : host.heap.slot? h = none) : host.links h = [] := by
  rw [links, get?, Heap.get?, missing, Option.bind_none, Option.elim_none]

theorem less_zero_slot? (sound : host.heap.Sound) (o : Handle) :
    (host.heap.slot? o).bind (·.less 0) = host.heap.slot? o := by
  cases found : host.heap.slot? o with
  | none => rfl
  | some s => exact HeapSlot.less_zero (sound.refCount_pos found)

theorem slot?_dropOne (sound : host.heap.Sound) (h o : Handle) :
    (host.dropOne h).1.heap.slot? o = (host.heap.slot? o).bind (·.less ([h].count o)) := by
  by_cases same : o = h
  · subst same
    rw [List.count_singleton_self]
    cases found : host.heap.slot? o with
    | none => exact (host.fades_dropOne o).missing found
    | some s => rw [Option.bind_some, HeapSlot.less_one, slot?_dropOne_self found]
  · rw [List.count_eq_zero.2 (by simpa using same), less_zero_slot? sound,
      slot?_dropOne_of_ne same]

/-- The references of an object move from the object to what is to be dropped. -/
theorem links_dropOne (host : Host) (h g : Handle) :
    (host.dropOne h).1.links g ++ (if g = h then (host.dropOne h).2.reverse else [])
      = host.links g := by
  by_cases same : g = h
  · subst same
    rw [if_pos rfl]
    cases found : host.heap.slot? g with
    | none => rw [dropOne_of_none found, List.reverse_nil, List.append_nil]
    | some s =>
        have now := slot?_dropOne_self found
        rw [pending_dropOne found, links_of_slot? found, HeapSlot.parting]
        split at now
        · rename_i none_left
          rw [links_of_none now, if_pos none_left]
          cases s.value <;> simp
        · rename_i some_left
          rw [links_of_slot? now, if_neg some_left, HeapSlot.recount]
          cases s.value <;> simp
  · rw [links, links, get?, get?, Heap.get?, Heap.get?, slot?_dropOne_of_ne same, if_neg same,
      List.append_nil]

theorem freed_of_pending (pending : (host.dropOne h).2 ≠ []) :
    (host.heap.slot? h).isSome ∧ (host.dropOne h).1.heap.slot? h = none := by
  cases found : host.heap.slot? h with
  | none =>
      rw [dropOne_of_none found] at pending
      exact absurd rfl pending
  | some s =>
      rw [pending_dropOne found, HeapSlot.parting] at pending
      split at pending
      · rename_i none_left
        rw [slot?_dropOne_self found, if_pos none_left]
        exact ⟨rfl, rfl⟩
      · exact absurd rfl pending

/-- A turn takes its own reference away, and what it frees is to be dropped next. -/
theorem demand_dropOne (member : (host.heap.slot? h).isSome →
      (host.dropOne h).1.heap.slot? h = none → h ∈ S) (pending : List Handle) (o : Handle) :
    [h].count o + (host.dropOne h).1.demand S ((host.dropOne h).2 ++ pending) o
      = host.demand S (h :: pending) o := by
  have moved : (host.dropOne h).1.occurrencesIn S o + (host.dropOne h).2.count o
      = host.occurrencesIn S o := by
    have split (g : Handle) : (host.links g).count o = ((host.dropOne h).1.links g).count o
        + if g = h then (host.dropOne h).2.count o else 0 := by
      rw [← host.links_dropOne h g, List.count_append]
      split
      · rw [List.count_reverse]
      · rw [List.count_nil]
    simp only [occurrencesIn, split, Finset.sum_add_distrib, Finset.sum_ite_eq']
    by_cases none_left : (host.dropOne h).2 = []
    · rw [none_left, List.count_nil, ite_self]
    · obtain ⟨live, freed⟩ := freed_of_pending none_left
      rw [if_pos (member live freed)]
  rw [demand_cons, demand, demand, List.count_append, ← moved, Nat.add_assoc]

/-- Where the set is what the cascade frees, every object loses what the set holds to it. -/
theorem slot?_drop (sound : host.heap.Sound)
    (dead : ∀ g ∈ S, (host.drop pending).heap.slot? g = none)
    (all : ∀ g, (host.heap.slot? g).isSome → (host.drop pending).heap.slot? g = none → g ∈ S)
    (o : Handle) : (host.drop pending).heap.slot? o
      = (host.heap.slot? o).bind (·.less (host.demand S pending o)) := by
  -- The set is the same all the way, so what single turns take adds up to the demand.
  induction host, pending using drop_induct with
  | nil host =>
      rw [drop_nil] at dead ⊢
      have unheld : host.demand S [] o = 0 := by
        apply Finset.sum_eq_zero
        intro g mem
        rw [links_of_none (dead g mem), List.count_nil]
      rw [unheld, less_zero_slot? sound]
  | cons host h pending ih =>
      rw [drop_cons] at dead all ⊢
      have fades := host.fades_dropOne h
      have member (live : (host.heap.slot? h).isSome)
          (freed : (host.dropOne h).1.heap.slot? h = none) : h ∈ S :=
        all h live (missing_drop freed _)
      rw [ih (fades.sound sound) dead fun g live => all g (fades.live live),
        slot?_dropOne sound, Option.bind_assoc, ← demand_dropOne member]
      congr 1
      funext s
      exact s.less_less _ _

/-- Nothing is freed that does not belong to every set that is closed under the rule. -/
theorem mem_of_freed (sound : host.heap.Sound)
    (closed : ∀ o s, host.heap.slot? o = some s →
      s.refCount.toNat ≤ host.demand S pending o → o ∈ S)
    (live : (host.heap.slot? o).isSome) (freed : (host.drop pending).heap.slot? o = none) :
    o ∈ S := by
  induction host, pending using drop_induct with
  | nil host =>
      rw [drop_nil] at freed
      rw [freed] at live
      cases live
  | cons host h pending ih =>
      rw [drop_cons] at freed
      have demanded (g : Handle) : [h].count g ≤ host.demand S (h :: pending) g :=
        host.demand_cons S h pending g ▸ Nat.le_add_right _ _
      -- What this turn frees is in the set,
      have here (g : Handle) (live : (host.heap.slot? g).isSome)
          (freed : (host.dropOne h).1.heap.slot? g = none) : g ∈ S := by
        obtain ⟨s, found⟩ := Option.isSome_iff_exists.1 live
        rw [slot?_dropOne sound, found, Option.bind_some, HeapSlot.less_eq_none] at freed
        exact closed g s found (Nat.le_trans freed (demanded g))
      cases kept : (host.dropOne h).1.heap.slot? o with
      | none => exact here o live kept
      | some t =>
          -- and for all else the turn lowers count and demand alike.
          apply ih ((host.fades_dropOne h).sound sound) _ (kept ▸ rfl) freed
          intro o t kept few
          rw [slot?_dropOne sound] at kept
          obtain ⟨s, found, left⟩ := Option.bind_eq_some_iff.1 kept
          obtain ⟨count, -⟩ := HeapSlot.refCount_of_less left
          apply closed o s found
          rw [← demand_dropOne (here h)]
          omega

/-- Every turn takes a reference off the heap or off the list, so their number bounds the turns. -/
theorem turns_eq_drop {n : Nat} (enough : host.heldReferences + pending.length ≤ n) :
    turns n host pending = (host.drop pending, []) := by
  induction n generalizing host pending with
  | zero =>
      obtain rfl : pending = [] := List.eq_nil_of_length_eq_zero (by omega)
      rw [turns, drop_nil]
  | succ n ih =>
      cases pending with
      | nil => rw [turns, drop_nil]
      | cons h pending =>
          have moved := host.heldReferences_dropOne h
          rw [List.length_cons] at enough
          rw [turns, drop_cons, ih]
          rw [List.length_append]
          omega

/-- Closed under the rule by which objects fall: an object all of whose references are held by the
set, or are the one released, belongs to the set. -/
structure Collapse (host : Host) (h : Handle) (S : Finset Handle) : Prop where
  live : ∀ o ∈ S, host.heap.contains o = true
  closed : ∀ o count, host.refCount? o = some count → count.toNat ≤ host.demand S [h] o → o ∈ S

def freed (host : Host) (h : Handle) : Finset Handle :=
  host.heap.handles.toFinset.filter fun o => (host.release h).2.heap.contains o = false

/-- What a release changes, where `S` is what it frees. -/
structure Frees (before after : Host) (h : Handle) (S : Finset Handle) : Prop where
  gone : ∀ o ∈ S, after.heap.contains o = false
  older : ∀ o ∈ S, ∀ index generation, o.unpack? = some (index, generation) →
    after.heap.age index.toNat = generation + 1
  kept : ∀ o s, before.heap.slot? o = some s → o ∉ S → ∃ t, after.heap.slot? o = some t ∧
    t.refCount.toNat + before.demand S [h] o = s.refCount.toNat ∧ 1 ≤ t.refCount.toNat ∧
    t = if before.demand S [h] o = 0 then s else s.recount t.refCount
  unmade : ∀ o, after.heap.contains o = true → before.heap.contains o = true
  names : ∀ name o, after.lookup name = some o ↔ before.lookup name = some o ∧ o ∉ S

theorem mem_freed (room : host.heap.slotCount < 0xFFFFFFFF) : o ∈ host.freed h ↔
    (host.heap.slot? o).isSome ∧ (host.drop [h]).heap.slot? o = none := by
  rw [freed, Finset.mem_filter, List.mem_toFinset, Heap.mem_handles_iff room, release_eq_drop,
    Heap.contains, Option.isSome_eq_false_iff, Option.isNone_iff_eq_none]

theorem slot?_release (sound : host.heap.Sound) (room : host.heap.slotCount < 0xFFFFFFFF)
    (h o : Handle) : (host.drop [h]).heap.slot? o
      = (host.heap.slot? o).bind (·.less (host.demand (host.freed h) [h] o)) :=
  slot?_drop sound (fun _ mem => ((mem_freed room).1 mem).2)
    (fun _ live gone => (mem_freed room).2 ⟨live, gone⟩) o

theorem isLeast_freed (sound : host.heap.Sound) (room : host.heap.slotCount < 0xFFFFFFFF)
    (h : Handle) : IsLeast {S | host.Collapse h S} (host.freed h) := by
  constructor
  · constructor
    · intro o mem
      exact ((mem_freed room).1 mem).1
    · intro o count counted few
      obtain ⟨s, found, rfl⟩ := Option.map_eq_some_iff.1 counted
      rw [mem_freed room, slot?_release sound room, found, Option.bind_some,
        HeapSlot.less_eq_none]
      exact ⟨rfl, few⟩
  · rintro S ⟨-, closed⟩ o mem
    obtain ⟨live, gone⟩ := (mem_freed room).1 mem
    refine mem_of_freed sound ?_ live gone
    intro g s found few
    exact closed g s.refCount (by rw [refCount?, Heap.refCount?, found, Option.map_some]) few

theorem frees_freed (sound : host.heap.Sound) (room : host.heap.slotCount < 0xFFFFFFFF)
    (named : host.Named) (h : Handle) :
    host.Frees (host.drop [h]) h (host.freed h) := by
  have fades := host.fades_drop [h]
  constructor
  case gone =>
    intro o mem
    rw [Heap.contains, ((mem_freed room).1 mem).2]
    rfl
  case older =>
    intro o mem index generation unpack
    obtain ⟨live, gone⟩ := (mem_freed room).1 mem
    exact fades.wanes.age_of_freed unpack live gone
  case kept =>
    intro o s found spared
    rw [mem_freed room, found] at spared
    obtain ⟨t, still⟩ : ∃ t, (host.drop [h]).heap.slot? o = some t :=
      Option.ne_none_iff_exists'.1 fun gone => spared ⟨rfl, gone⟩
    have left := still
    rw [slot?_release sound room, found, Option.bind_some] at left
    obtain ⟨count, held⟩ := HeapSlot.refCount_of_less left
    exact ⟨t, still, count, held, HeapSlot.eq_of_less left⟩
  case unmade =>
    intro o live
    exact fades.live live
  case names =>
    intro name o
    rw [named.drop [h] name o, named name o, mem_freed room]
    constructor
    · rintro ⟨t, found, same⟩
      refine ⟨⟨t, fades.type? found, same⟩, ?_⟩
      rintro ⟨-, gone⟩
      have live := live_of_type? found
      rw [gone] at live
      cases live
    · rintro ⟨⟨t, found, same⟩, spared⟩
      have live : ((host.drop [h]).heap.slot? o).isSome := by
        rw [Option.isSome_iff_ne_none]
        exact fun gone => spared ⟨live_of_type? found, gone⟩
      exact ⟨t, fades.type?_of_live live found, same⟩

/-- A release ends, after one turn for each reference there is at most, and frees the least set of
objects that fall with the reference; all else keeps what it is and loses what the set held to it. -/
theorem Roomy.release_exact (roomy : host.Roomy) (h : Handle) :
    (host.heap.contains h = false → host.release h = (false, host)) ∧
    (host.heap.contains h = true → (host.release h).1 = true ∧
      turns (host.heldReferences + 1) host [h] = ((host.release h).2, []) ∧
      IsLeast {S | host.Collapse h S} (host.freed h) ∧
      host.Frees (host.release h).2 h (host.freed h)) := by
  have sound := roomy.reachable.sound
  constructor
  · intro dead
    rw [release, if_neg (by simp [dead])]
  · intro live
    rw [release_eq_drop]
    refine ⟨by rw [release, if_pos live], turns_eq_drop (Nat.le_refl _),
      isLeast_freed sound roomy.room h, frees_freed sound roomy.room roomy.named h⟩

/-- A tuple that stores its own handle, a handle that names nothing, and twice a tuple that nothing
else holds. -/
theorem release_exact_own_handle :
    let built := (core .refCounting).run [.call (.newTuple []), .call (.newTuple []),
      .call (.newTuple [.pack 5 0, .pack 3 0, .pack 3 0, .pack 4 0, .pack 9 0])]
    let host := built.run [.call (.release (.pack 3 0))]
    host.Roomy ∧ host.heap.contains (.pack 5 0) = true ∧
      IsLeast {S | host.Collapse (.pack 5 0) S} {.pack 3 0, .pack 5 0} ∧
      (host.release (.pack 5 0)).2.refCount? (.pack 4 0) = some 1 := by
  intro built host
  have given : host = (turns 1 built [.pack 3 0]).1 := step_release 1 (by decide) (by decide)
  have small : host.heap.slotCount < 0xFFFFFFFF := by
    rw [given]
    decide
  have roomy : host.Roomy :=
    Roomy.run ⟨.refCounting, [], core .refCounting, _, rfl, rfl, by decide⟩ _ small
  have live : host.heap.contains (.pack 5 0) = true := by
    rw [given]
    decide
  obtain ⟨-, ended, least, -⟩ := (roomy.release_exact (.pack 5 0)).2 live
  have after : (turns (host.heldReferences + 1) host [.pack 5 0]).1
      = (host.release (.pack 5 0)).2 := by rw [ended]
  rw [given] at after
  have fallen : host.freed (.pack 5 0) = {.pack 3 0, .pack 5 0} := by
    rw [freed, given, ← after]
    decide
  refine ⟨roomy, live, fallen ▸ least, ?_⟩
  rw [given, ← after]
  decide

end Host
end TypeHost
