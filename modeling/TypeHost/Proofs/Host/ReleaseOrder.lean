import TypeHost.Host.Run
import TypeHost.Proofs.Host.Cascade

/-! The order of releases. Two turns of a cascade on different handles commute, so whatever the
order in which references are dropped, the same objects are freed and the rest is left the same. -/
namespace TypeHost

namespace Host

variable {host x y z : Host} {a b h : Handle}

/-- The same host but for the order in which free slots will be used again. -/
structure Alike (x y : Host) : Prop where
  gcMode : x.gcMode = y.gcMode
  slots : x.heap.slots = y.heap.slots
  free : x.heap.free.Perm y.heap.free
  names : x.names = y.names

theorem Alike.refl (host : Host) : host.Alike host := ⟨rfl, rfl, .refl _, rfl⟩

theorem Alike.symm (alike : x.Alike y) : y.Alike x :=
  ⟨alike.gcMode.symm, alike.slots.symm, alike.free.symm, alike.names.symm⟩

theorem Alike.trans (first : x.Alike y) (second : y.Alike z) : x.Alike z :=
  ⟨first.gcMode.trans second.gcMode, first.slots.trans second.slots,
    first.free.trans second.free, first.names.trans second.names⟩

theorem Alike.slot? (alike : x.Alike y) (h : Handle) : x.heap.slot? h = y.heap.slot? h := by
  simp only [Heap.slot?, alike.slots]

theorem Alike.heldReferences (alike : x.Alike y) : x.heldReferences = y.heldReferences := by
  simp only [Host.heldReferences, Heap.total, alike.slots]

theorem Alike.dropOne (alike : x.Alike y) (h : Handle) :
    (x.dropOne h).1.Alike (y.dropOne h).1 ∧ (x.dropOne h).2 = (y.dropOne h).2 := by
  cases found : x.heap.slot? h with
  | none =>
      rw [dropOne_of_none found, dropOne_of_none ((alike.slot? h).symm.trans found)]
      exact ⟨alike, rfl⟩
  | some s =>
      obtain ⟨index, unpack, -, -⟩ := Heap.slot?_eq_some found
      rw [dropOne_of_slot? found unpack,
        dropOne_of_slot? ((alike.slot? h).symm.trans found) unpack]
      refine ⟨⟨alike.gcMode, ?_, alike.free.append_left _, ?_⟩, rfl⟩
      · dsimp only
        rw [Heap.slots_setSlot unpack, Heap.slots_setSlot unpack, alike.slots]
      · exact congrArg (namesWithout · h s.parting) alike.names

theorem namesWithout_comm (names : Std.ExtTreeMap String Handle) (ne : a ≠ b)
    (o p : Option HostObject) :
    namesWithout (namesWithout names a o) b p = namesWithout (namesWithout names b p) a o := by
  apply Std.ExtTreeMap.ext_getElem?
  intro name
  simp only [getElem?_namesWithout]
  grind

/-- Dropping two different handles, either first. -/
theorem dropOne_comm (host : Host) (ne : a ≠ b) :
    ((host.dropOne a).1.dropOne b).1.Alike ((host.dropOne b).1.dropOne a).1 ∧
    ((host.dropOne a).1.dropOne b).2 = (host.dropOne b).2 := by
  cases hb : host.heap.slot? b with
  | none =>
      have later : (host.dropOne a).1.heap.slot? b = none :=
        (slot?_dropOne_of_ne ne.symm).trans hb
      rw [dropOne_of_none later, dropOne_of_none hb]
      exact ⟨.refl _, rfl⟩
  | some t =>
      obtain ⟨j, unpackB, -, -⟩ := Heap.slot?_eq_some hb
      cases ha : host.heap.slot? a with
      | none =>
          have later : (host.dropOne b).1.heap.slot? a = none :=
            (slot?_dropOne_of_ne ne).trans ha
          rw [dropOne_of_none later, dropOne_of_none ha]
          exact ⟨.refl _, rfl⟩
      | some s =>
          obtain ⟨i, unpackA, -, -⟩ := Heap.slot?_eq_some ha
          have laterA : (host.dropOne b).1.heap.slot? a = some s :=
            (slot?_dropOne_of_ne ne).trans ha
          have laterB : (host.dropOne a).1.heap.slot? b = some t :=
            (slot?_dropOne_of_ne ne.symm).trans hb
          have apart := Heap.index_ne ha hb unpackA unpackB ne
          rw [dropOne_of_slot? laterA unpackA, dropOne_of_slot? laterB unpackB,
            dropOne_of_slot? ha unpackA, dropOne_of_slot? hb unpackB]
          refine ⟨⟨rfl, ?_, List.perm_append_comm_assoc .., ?_⟩, rfl⟩
          · simp only [Heap.slots_setSlot unpackA, Heap.slots_setSlot unpackB]
            exact Array.setIfInBounds_comm _ _ apart
          · exact namesWithout_comm _ ne _ _

theorem heldReferences_turn (host : Host) (h : Handle) (pending : List Handle) :
    (host.dropOne h).1.heldReferences + ((host.dropOne h).2 ++ pending).length + 1
      = host.heldReferences + (h :: pending).length := by
  have := heldReferences_dropOne host h
  rw [List.length_append, List.length_cons]
  omega

/-- Pending handles may be dropped in any order. The induction is on the number of turns that may
still come; within it, a permutation is a chain of swaps of neighbours. -/
theorem drop_alike (n : Nat) {x y : Host} {xs ys : List Handle}
    (bound : x.heldReferences + xs.length ≤ n) (alike : x.Alike y) (perm : xs.Perm ys) :
    (x.drop xs).Alike (y.drop ys) := by
  induction n generalizing x y xs ys with
  | zero =>
      obtain rfl : xs = [] := List.length_eq_zero_iff.1 (by omega)
      obtain rfl := perm.nil_eq
      rwa [drop_nil, drop_nil]
  | succ n ih =>
      have turn {x y : Host} {a : Handle} {l l' : List Handle}
          (bound : x.heldReferences + (a :: l).length ≤ n + 1) (alike : x.Alike y)
          (perm : ((x.dropOne a).2 ++ l).Perm l') :
          (x.drop (a :: l)).Alike ((y.dropOne a).1.drop l') := by
        have fewer := heldReferences_turn x a l
        rw [drop_cons]
        exact ih (by omega) (alike.dropOne a).1 perm
      induction perm generalizing x y with
      | nil => rwa [drop_nil, drop_nil]
      | cons a p _ =>
          rw [drop_cons y, ← (alike.dropOne a).2]
          exact turn bound alike (p.append_left _)
      | swap a b l =>
          rw [drop_cons y, ← (alike.dropOne a).2]
          by_cases same : a = b
          · subst same
            exact turn bound alike (.refl _)
          · obtain ⟨comm, refsB⟩ := dropOne_comm x same
            obtain ⟨-, refsA⟩ := dropOne_comm x (Ne.symm same)
            have fewerA := heldReferences_turn x a (b :: l)
            have fewerB := heldReferences_turn x b (a :: l)
            have fewest := heldReferences_turn (x.dropOne b).1 a ((x.dropOne b).2 ++ l)
            simp only [List.length_append, List.length_cons] at bound fewerA fewerB fewest
            have first : (x.drop (b :: a :: l)).Alike
                ((x.dropOne b).1.drop (a :: ((x.dropOne b).2 ++ l))) :=
              turn bound (.refl x) List.perm_middle
            have second : ((x.dropOne b).1.drop (a :: ((x.dropOne b).2 ++ l))).Alike
                ((x.dropOne a).1.drop (b :: ((x.dropOne a).2 ++ l))) := by
              rw [drop_cons, drop_cons, refsA, refsB]
              refine ih ?_ comm.symm (List.perm_append_comm_assoc ..)
              rw [← refsA]
              simp only [List.length_append]
              omega
            have third : ((x.dropOne a).1.drop (b :: ((x.dropOne a).2 ++ l))).Alike
                ((y.dropOne a).1.drop ((x.dropOne a).2 ++ b :: l)) := by
              refine ih ?_ (alike.dropOne a).1 List.perm_middle.symm
              simp only [List.length_append, List.length_cons]
              omega
            exact first.trans (second.trans third)
      | trans p q ihp ihq => exact (ihp bound (.refl x)).trans (ihq (p.length_eq ▸ bound) alike)

def releases (handles : List Handle) : List HostAction := handles.map fun h => .call (.release h)

theorem run_releases (host : Host) (handles : List Handle) :
    host.run (releases handles) = host.drop handles := by
  induction handles generalizing host with
  | nil => rw [drop_nil]; rfl
  | cons h rest ih =>
      change (host.step (.call (.release h))).run (releases rest) = _
      rw [ih, ← List.singleton_append, drop_append, ← release_eq_drop]
      rfl

/-- Released in either order, the same handles live with the same contents and counts, and slots,
names and headers are the same. -/
theorem run_releases_perm (host : Host) {first second : List Handle} (perm : first.Perm second) :
    let x := host.run (releases first)
    let y := host.run (releases second)
    (∀ h, x.get? h = y.get? h) ∧ (∀ h, x.refCount? h = y.refCount? h) ∧
    (∀ index, x.heap.generation index = y.heap.generation index) ∧
    (∀ index, index ∈ x.heap.free ↔ index ∈ y.heap.free) ∧
    (∀ name, x.lookup name = y.lookup name) ∧ (∀ h, x.head? h = y.head? h) ∧ x.Alike y := by
  have alike : (host.run (releases first)).Alike (host.run (releases second)) := by
    rw [run_releases, run_releases]
    exact drop_alike _ (Nat.le_refl _) (.refl host) perm
  have objects (h : Handle) := congrArg (Option.bind · HeapSlot.value) (alike.slot? h)
  refine ⟨objects, ?_, ?_, fun index => alike.free.mem_iff, ?_, ?_, alike⟩
  · intro h
    exact congrArg (Option.map HeapSlot.refCount) (alike.slot? h)
  · intro index
    simp only [Heap.generation, alike.slots]
  · intro name
    simp only [lookup, alike.names]
  · intro h
    have same : (host.run (releases first)).get? h = (host.run (releases second)).get? h :=
      objects h
    simp only [head?, instance?, same]

theorem run_releases_perm_core :
    [objectType, tupleType, objectType].Perm [tupleType, objectType, objectType] ∧
    ((core .refCounting).run (releases [objectType, tupleType, objectType])).Alike
      ((core .refCounting).run (releases [tupleType, objectType, objectType])) :=
  have perm := List.Perm.swap tupleType objectType [objectType]
  ⟨perm, (run_releases_perm (core .refCounting) perm).2.2.2.2.2.2⟩

end Host
end TypeHost
