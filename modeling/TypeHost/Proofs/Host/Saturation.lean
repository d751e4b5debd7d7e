import TypeHost.Proofs.Host.Collapse

/-! References added to an object and dropped again. They cancel as long as the count has room for
all of them; the largest count is left only downwards, and what it did not take in is dropped from
the references that were there before. -/
namespace TypeHost

variable {host : Host} {h other : Handle} {s : HeapSlot HostObject} {count : UInt32}

namespace Host

def recount (host : Host) (h : Handle) (count : UInt32) : Host :=
  match host.heap.slot? h with
  | some s => { host with heap := host.heap.setSlot h (s.recount count) }
  | none => host

theorem recount_of_slot? (found : host.heap.slot? h = some s) (count : UInt32) :
    host.recount h count = { host with heap := host.heap.setSlot h (s.recount count) } := by
  simp only [recount, found]

theorem slot?_recount_self (found : host.heap.slot? h = some s) (count : UInt32) :
    (host.recount h count).heap.slot? h = some (s.recount count) := by
  have full := Heap.isSome_of_slot? found
  rw [recount_of_slot? found]
  exact Heap.slot?_setSlot_self found rfl (by simpa [HeapSlot.recount] using full)

theorem slot?_recount_of_ne (ne : other ≠ h) (count : UInt32) :
    (host.recount h count).heap.slot? other = host.heap.slot? other := by
  unfold recount
  split
  · rename_i s found
    exact Heap.slot?_setSlot_of_ne found (fun _ => rfl) ne
  · rfl

theorem names_recount (host : Host) (h : Handle) (count : UInt32) :
    (host.recount h count).names = host.names := by
  unfold recount
  split <;> rfl

theorem recount_recount (host : Host) (h : Handle) (first second : UInt32) :
    (host.recount h first).recount h second = host.recount h second := by
  cases found : host.heap.slot? h with
  | none => simp only [recount, found]
  | some s =>
      rw [recount_of_slot? (slot?_recount_self found first), recount_of_slot? found,
        recount_of_slot? found, HeapSlot.recount_recount, Heap.setSlot_setSlot]

theorem perform_addRef (found : host.heap.slot? h = some s) :
    host.perform (.addRef h) = (.counted true, host.recount h (Heap.countUp s.refCount)) := by
  rw [perform, addRef, Heap.addRef_of_slot? found, syncHead_setSlot found, recount_of_slot? found,
    Heap.contains, found]
  rfl

theorem dropOne_of_shared (found : host.heap.slot? h = some s) (shared : 1 < s.refCount.toNat) :
    host.dropOne h = (host.recount h (Heap.countDown s.refCount), []) := by
  have some_left : Heap.countDown s.refCount ≠ 0 := by
    rw [Ne, Heap.countDown_eq_zero]
    omega
  obtain ⟨index, unpack, -, -⟩ := Heap.slot?_eq_some found
  rw [dropOne_of_slot? found unpack, HeapSlot.parting, if_neg some_left, HeapSlot.lessOne,
    if_neg some_left, Option.elim_none, List.nil_append, recount_of_slot? found,
    ← Heap.free_setSlot (h := h) (t := s.recount (Heap.countDown s.refCount))]
  rfl

theorem perform_release_of_shared (found : host.heap.slot? h = some s)
    (shared : 1 < s.refCount.toNat) :
    host.perform (.release h) = (.counted true, host.recount h (Heap.countDown s.refCount)) := by
  have live : host.heap.contains h = true := by rw [Heap.contains, found, Option.isSome_some]
  have turn : turns 1 host [h] = (host.recount h (Heap.countDown s.refCount), []) := by
    rw [turns, turns, dropOne_of_shared found shared]
    rfl
  rw [perform_release 1 live (by rw [turn]), turn]

def addRefs (h : Handle) (n : Nat) : List HostAction := List.replicate n (.call (.addRef h))

def dropRefs (h : Handle) (n : Nat) : List HostAction := List.replicate n (.call (.release h))

theorem answers_append (host : Host) (first second : List HostAction) :
    host.answers (first ++ second) = host.answers first ++ (host.run first).answers second := by
  induction first generalizing host with
  | nil => rfl
  | cons action rest ih =>
      cases action with
      | call call => exact congrArg (_ :: ·) (ih _)
      | write other start bytes => exact ih _

theorem run_addRefs_succ (found : host.heap.slot? h = some s) (n : Nat) :
    host.run (addRefs h (n + 1))
      = (host.recount h (Heap.countUp s.refCount)).run (addRefs h n) :=
  congrArg (·.2.run (addRefs h n)) (perform_addRef found)

theorem run_addRefs (found : host.heap.slot? h = some s) (n : Nat) :
    host.run (addRefs h (n + 1)) = host.recount h (Heap.countUpBy s.refCount (n + 1)) := by
  induction n generalizing host s with
  | zero =>
      rw [run_addRefs_succ found, ← Heap.countUpBy_countUp, Heap.countUpBy_zero]
      rfl
  | succ n ih =>
      rw [run_addRefs_succ found, ih (slot?_recount_self found _), recount_recount]
      exact congrArg (host.recount h) (Heap.countUpBy_countUp _ _)

theorem answers_addRefs (found : host.heap.slot? h = some s) (n : Nat) :
    host.answers (addRefs h n) = List.replicate n (.counted true) := by
  induction n generalizing host s with
  | zero => rfl
  | succ n ih =>
      rw [addRefs, List.replicate_succ, List.replicate_succ, answers, perform_addRef found]
      exact congrArg (_ :: ·) (ih (slot?_recount_self found _))

theorem run_dropRefs_succ (found : host.heap.slot? h = some s) (shared : 1 < s.refCount.toNat)
    (n : Nat) : host.run (dropRefs h (n + 1))
      = (host.recount h (Heap.countDown s.refCount)).run (dropRefs h n) :=
  congrArg (·.2.run (dropRefs h n)) (perform_release_of_shared found shared)

theorem toNat_refCount_countDown (s : HeapSlot HostObject) :
    (s.recount (Heap.countDown s.refCount)).refCount.toNat = s.refCount.toNat - 1 :=
  Heap.toNat_countDown s.refCount

theorem run_dropRefs {n : Nat} (found : host.heap.slot? h = some s)
    (few : n + 1 < s.refCount.toNat) :
    host.run (dropRefs h (n + 1)) = host.recount h (UInt32.ofNat (s.refCount.toNat - (n + 1))) := by
  induction n generalizing host s with
  | zero =>
      rw [run_dropRefs_succ found few, Nat.zero_add, ← Heap.toNat_countDown, UInt32.ofNat_toNat]
      rfl
  | succ n ih =>
      have left := toNat_refCount_countDown s
      rw [run_dropRefs_succ found (by omega), ih (slot?_recount_self found _) (by omega),
        recount_recount, left, Nat.sub_sub, Nat.add_comm 1 (n + 1)]

theorem answers_dropRefs {n : Nat} (found : host.heap.slot? h = some s)
    (few : n < s.refCount.toNat) :
    host.answers (dropRefs h n) = List.replicate n (.counted true) := by
  induction n generalizing host s with
  | zero => rfl
  | succ n ih =>
      have left := toNat_refCount_countDown s
      rw [dropRefs, List.replicate_succ, List.replicate_succ, answers,
        perform_release_of_shared found (by omega)]
      exact congrArg (_ :: ·) (ih (slot?_recount_self found _) (by omega))

theorem slot?_run_addRefs (found : host.heap.slot? h = some s) (n : Nat) :
    ∃ t, (host.run (addRefs h n)).heap.slot? h = some t ∧
      t.refCount = Heap.countUpBy s.refCount n := by
  cases n with
  | zero => exact ⟨s, found, (Heap.countUpBy_zero _).symm⟩
  | succ n =>
      rw [run_addRefs found n]
      exact ⟨_, slot?_recount_self found _, rfl⟩

/-- So many references of the object go, and with the last one the object. -/
theorem slot?_run_dropRefs (sound : host.heap.Sound) (h : Handle) (n : Nat) :
    (host.run (dropRefs h n)).heap.slot? h = (host.heap.slot? h).bind (·.less n) := by
  induction n generalizing host with
  | zero => exact (less_zero_slot? sound h).symm
  | succ n ih =>
      have first : (host.step (.call (.release h))).heap.slot? h
          = (host.heap.slot? h).bind (·.less 1) := by
        have turn := slot?_dropOne sound h h
        rw [List.count_singleton_self] at turn
        change (host.release h).2.heap.slot? h = _
        rw [release_eq_drop, drop_cons, ← turn]
        cases kept : (host.dropOne h).1.heap.slot? h with
        | none => exact missing_drop kept _
        | some t =>
            have ended : (host.dropOne h).2 = [] := by
              by_contra pending
              cases kept.symm.trans (freed_of_pending pending).2
            rw [ended, List.append_nil, drop_nil, kept]
      have rest := ih (sound_step sound (.call (.release h)))
      rw [first, Option.bind_assoc] at rest
      refine rest.trans (congrArg _ ?_)
      funext s
      rw [s.less_less, Nat.add_comm]

/-- References added and dropped again give the object its count back exactly as long as the count
has room for them. Then nothing else changes but the header of the object, which is brought up to
date; with the largest number of them the object goes for good, whoever held it before. -/
theorem Reachable.references_cancel (reachable : host.Reachable)
    (counted : host.refCount? h = some count) (n : Nat) :
    let pairs := addRefs h n ++ dropRefs h n
    ((host.run pairs).refCount? h = some count ↔ count.toNat + n ≤ 0xFFFFFFFF) ∧
    (count.toNat + n ≤ 0xFFFFFFFF →
      host.answers pairs = List.replicate (n + n) (.counted true) ∧
      (0 < n → host.run pairs = host.recount h count) ∧
      (host.run pairs).names = host.names ∧
      ∀ other, other ≠ h → (host.run pairs).heap.slot? other = host.heap.slot? other) ∧
    (0xFFFFFFFF ≤ n → (host.run pairs).heap.contains h = false) := by
  obtain ⟨s, found, rfl⟩ := Option.map_eq_some_iff.1 counted
  have held := reachable.sound.refCount_pos found
  obtain ⟨t, added, same⟩ := slot?_run_addRefs found n
  have most : t.refCount.toNat = min 0xFFFFFFFF (s.refCount.toNat + n) :=
    same ▸ Heap.toNat_countUpBy s.refCount n
  intro pairs
  have left : (host.run pairs).heap.slot? h = t.less n := by
    rw [run_append, slot?_run_dropRefs (sound_run reachable.sound _), added, Option.bind_some]
  refine ⟨?_, ?_, ?_⟩
  · rw [refCount?, Heap.refCount?, left, Option.map_eq_some_iff]
    constructor
    · rintro ⟨u, left, counted⟩
      have := (HeapSlot.refCount_of_less left).1
      rw [counted] at this
      omega
    · intro room
      obtain ⟨u, left⟩ : ∃ u, t.less n = some u := by
        rw [← Option.ne_none_iff_exists', Ne, HeapSlot.less_eq_none]
        omega
      have := (HeapSlot.refCount_of_less left).1
      exact ⟨u, left, UInt32.toNat_inj.1 (by omega)⟩
  · intro room
    have whole (some_pair : 0 < n) : host.run pairs = host.recount h s.refCount := by
      obtain ⟨m, rfl⟩ := Nat.exists_eq_add_of_le' some_pair
      have again : UInt32.ofNat (t.refCount.toNat - (m + 1)) = s.refCount := by
        rw [most, Nat.min_eq_right room, Nat.add_sub_cancel, UInt32.ofNat_toNat]
      rw [run_append, run_dropRefs added (by omega), again, run_addRefs found, recount_recount]
    refine ⟨?_, whole, ?_⟩
    · rw [answers_append, answers_addRefs found, answers_dropRefs added (by omega),
        List.replicate_add]
    · rcases Nat.eq_zero_or_pos n with rfl | some_pair
      · exact ⟨rfl, fun _ _ => rfl⟩
      · rw [whole some_pair]
        exact ⟨names_recount .., fun other ne => slot?_recount_of_ne ne _⟩
  · intro all
    have none_left : t.less n = none := by
      rw [HeapSlot.less_eq_none]
      omega
    rw [Heap.contains, left, none_left]
    rfl

end Host
end TypeHost
