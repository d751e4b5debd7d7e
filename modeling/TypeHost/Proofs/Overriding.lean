import Mathlib.Data.List.Basic
import Mathlib.Data.List.Induction
import TypeHost.Layout
import TypeHost.Proofs.Definition

/-! Which record survives where several have one key, and in which order the survivors stand. A loop
that looks keys up in a table of positions and writes into its output computes the same list. -/
namespace TypeHost

section Concat

variable {κ : Type} {k last : κ} {keys : List κ} {i : Nat}

theorem getElem?_concat_of_notMem (absent : k ∉ keys) :
    (keys ++ [k])[i]? = some k ↔ some keys.length = some i := by
  rw [List.getElem?_append]
  split
  · rename_i inside
    have ne : keys.length ≠ i := Nat.ne_of_gt inside
    have other : keys[i]? ≠ some k := fun here => absent (List.mem_of_getElem? here)
    simp [ne, other]
  · rename_i outside
    rw [List.getElem?_singleton]
    simp only [ite_eq_left_iff, reduceCtorEq, imp_false, not_not, Option.some.injEq]
    omega

theorem getElem?_concat_of_ne (ne : k ≠ last) :
    (keys ++ [last])[i]? = some k ↔ keys[i]? = some k := by
  rw [List.getElem?_append]
  split
  · rfl
  · rename_i outside
    rw [List.getElem?_singleton, List.getElem?_eq_none (Nat.le_of_not_lt outside)]
    simp [Ne.symm ne]

end Concat

section Effective

variable {α κ : Type} [DecidableEq κ] {key : α → κ} {a b : α} {k : κ} {i : Nat}
  {kept entries : List α}

theorem overrideWith_of_absent (absent : key a ∉ kept.map key) :
    overrideWith key a kept = kept ++ [a] := by
  induction kept with
  | nil => rfl
  | cons b rest ih =>
      rw [List.map_cons, List.mem_cons, not_or] at absent
      rw [overrideWith, if_neg (Ne.symm absent.1), ih absent.2, List.cons_append]

theorem overrideWith_of_present (nodup : (kept.map key).Nodup)
    (present : (kept.map key)[i]? = some (key a)) : overrideWith key a kept = kept.set i a := by
  induction kept generalizing i with
  | nil => cases present
  | cons b rest ih =>
      obtain ⟨absent, nodup⟩ := List.nodup_cons.1 nodup
      cases i with
      | zero => exact if_pos (Option.some.inj present)
      | succ i =>
          have later : (rest.map key)[i]? = some (key a) := present
          have ne : key b ≠ key a := fun same => absent (same ▸ List.mem_of_getElem? later)
          rw [overrideWith, if_neg ne, ih nodup later, List.set_cons_succ]

theorem keys_overrideWith_of_mem (mem : key a ∈ kept.map key) :
    (overrideWith key a kept).map key = kept.map key := by
  induction kept with
  | nil => cases mem
  | cons b rest ih =>
      rw [overrideWith]
      split
      · rename_i same
        rw [List.map_cons, List.map_cons, same]
      · rename_i differ
        rw [List.map_cons, List.map_cons,
          ih ((List.mem_cons.1 mem).resolve_left (Ne.symm differ))]

theorem mem_overrideWith (nodup : (kept.map key).Nodup) :
    b ∈ overrideWith key a kept ↔ b = a ∨ b ∈ kept ∧ key b ≠ key a := by
  induction kept with
  | nil => simp [overrideWith]
  | cons c rest ih =>
      obtain ⟨absent, nodup⟩ := List.nodup_cons.1 nodup
      rw [overrideWith]
      split
      · rename_i same
        have others (mem : b ∈ rest) : key b ≠ key a := by
          intro same'
          exact absent (same.trans same'.symm ▸ List.mem_map_of_mem mem)
        simp only [List.mem_cons]
        constructor
        · rintro (rfl | mem)
          · exact .inl rfl
          · exact .inr ⟨.inr mem, others mem⟩
        · rintro (rfl | ⟨rfl | mem, ne⟩)
          · exact .inl rfl
          · exact absurd same ne
          · exact .inr mem
      · rename_i differ
        rw [List.mem_cons, List.mem_cons, ih nodup]
        constructor
        · rintro (rfl | rfl | ⟨mem, ne⟩)
          · exact .inr ⟨.inl rfl, differ⟩
          · exact .inl rfl
          · exact .inr ⟨.inr mem, ne⟩
        · rintro (rfl | ⟨rfl | mem, ne⟩)
          · exact .inr (.inl rfl)
          · exact .inl rfl
          · exact .inr (.inr ⟨mem, ne⟩)

theorem effective_concat (key : α → κ) (entries : List α) (a : α) :
    effective key (entries ++ [a]) = overrideWith key a (effective key entries) := by
  rw [effective, List.foldl_append, List.foldl_cons, List.foldl_nil, ← effective]

theorem mem_effective_iff :
    a ∈ effective key entries ↔ (entries.filter (key · = key a)).getLast? = some a := by
  induction entries using List.reverseRecOn with
  | nil => simp [effective]
  | append_singleton entries b ih =>
      rw [effective_concat, mem_overrideWith (nodup_keys_effective key entries), ih,
        List.filter_append]
      by_cases same : key b = key a
      · simp [same, eq_comm]
      · have ne : a ≠ b := fun eq => same (eq ▸ rfl)
        simp [same, ne, Ne.symm same]

/-- The survivors stand in the order in which their keys first come up. -/
theorem keys_effective_ordered (key : α → κ) (entries : List α) :
    ((effective key entries).map key).Pairwise fun k l =>
      (entries.map key).idxOf k < (entries.map key).idxOf l := by
  induction entries using List.reverseRecOn with
  | nil => exact List.Pairwise.nil
  | append_singleton entries a ih =>
      have before {k : κ} (mem : k ∈ (effective key entries).map key) :
          ((entries ++ [a]).map key).idxOf k = (entries.map key).idxOf k := by
        rw [List.map_append, List.idxOf_append_of_mem (mem_keys_effective.1 mem)]
      have old : ((effective key entries).map key).Pairwise fun k l =>
          ((entries ++ [a]).map key).idxOf k < ((entries ++ [a]).map key).idxOf l := by
        refine ih.imp_of_mem ?_
        intro k l mem mem' less
        rwa [before mem, before mem']
      rw [effective_concat]
      by_cases mem : key a ∈ (effective key entries).map key
      · rwa [keys_overrideWith_of_mem mem]
      · have keys : (effective key entries ++ [a]).map key
            = (effective key entries).map key ++ [key a] := List.map_append
        rw [overrideWith_of_absent mem, keys, List.pairwise_append]
        refine ⟨old, List.pairwise_singleton _ _, ?_⟩
        intro k known l new
        cases List.mem_singleton.1 new
        rw [before known, List.map_append,
          List.idxOf_append_of_notMem (fun known => mem (mem_keys_effective.2 known))]
        exact Nat.lt_of_lt_of_le (List.idxOf_lt_length_iff.2 (mem_keys_effective.1 known))
          (Nat.le_add_right _ _)

theorem effective_of_nodup (nodup : (entries.map key).Nodup) : effective key entries = entries := by
  induction entries using List.reverseRecOn with
  | nil => rfl
  | append_singleton entries a ih =>
      rw [List.map_append, List.map_singleton, List.nodup_append] at nodup
      obtain ⟨nodup, -, apart⟩ := nodup
      have absent : key a ∉ entries.map key :=
        fun mem => apart _ mem _ (List.mem_singleton_self _) rfl
      rw [effective_concat, ih nodup, overrideWith_of_absent absent]

/-- What overriding leaves of the entries: each key once, with its last entry, in the order of the
first ones. -/
structure Survivors (key : α → κ) (entries kept : List α) : Prop where
  nodup : (kept.map key).Nodup
  keys : ∀ k, k ∈ kept.map key ↔ k ∈ entries.map key
  ordered : (kept.map key).Pairwise fun k l =>
    (entries.map key).idxOf k < (entries.map key).idxOf l
  last : ∀ a, a ∈ kept ↔ (entries.filter (key · = key a)).getLast? = some a

theorem survivors_effective (key : α → κ) (entries : List α) :
    Survivors key entries (effective key entries) :=
  ⟨nodup_keys_effective key entries, fun _ => mem_keys_effective,
    keys_effective_ordered key entries, fun _ => mem_effective_iff⟩

/-- The output so far, and where each key stands in it. -/
structure KeyedEntries (α κ : Type) where
  index : List (κ × Nat) := []
  entries : List α := []

def KeyedEntries.put (key : α → κ) (table : KeyedEntries α κ) (a : α) : KeyedEntries α κ :=
  match table.index.lookup (key a) with
  | some i => { table with entries := table.entries.set i a }
  | none =>
    { index := (key a, table.entries.length) :: table.index, entries := table.entries ++ [a] }

structure KeyedEntries.Indexed (key : α → κ) (table : KeyedEntries α κ) : Prop where
  nodup : (table.entries.map key).Nodup
  leads : ∀ k i, table.index.lookup k = some i ↔ (table.entries.map key)[i]? = some k

namespace KeyedEntries.Indexed

variable {table : KeyedEntries α κ}

theorem absent (indexed : table.Indexed key) (found : table.index.lookup k = none) :
    k ∉ table.entries.map key := by
  intro mem
  obtain ⟨i, here⟩ := List.getElem?_of_mem mem
  rw [← indexed.leads, found] at here
  cases here

theorem entries_put (indexed : table.Indexed key) (a : α) :
    (table.put key a).entries = overrideWith key a table.entries := by
  rw [KeyedEntries.put]
  cases found : table.index.lookup (key a) with
  | some i => exact (overrideWith_of_present indexed.nodup ((indexed.leads _ _).1 found)).symm
  | none => exact (overrideWith_of_absent (indexed.absent found)).symm

theorem put (indexed : table.Indexed key) (a : α) : (table.put key a).Indexed key := by
  have entries := indexed.entries_put a
  refine ⟨entries ▸ nodup_keys_overrideWith indexed.nodup, ?_⟩
  intro k i
  rw [entries, KeyedEntries.put]
  cases found : table.index.lookup (key a) with
  | some j =>
      have mem := List.mem_of_getElem? ((indexed.leads _ _).1 found)
      rw [keys_overrideWith_of_mem mem]
      exact indexed.leads k i
  | none =>
      have absent := indexed.absent found
      rw [overrideWith_of_absent absent, List.map_append, List.map_singleton, List.lookup_cons]
      by_cases new : k = key a
      · subst new
        rw [beq_self_eq_true, ← List.length_map key]
        exact (getElem?_concat_of_notMem absent).symm
      · rw [beq_false_of_ne new]
        exact (indexed.leads k i).trans (getElem?_concat_of_ne new).symm

end KeyedEntries.Indexed

theorem entries_foldl_put {table : KeyedEntries α κ} (indexed : table.Indexed key) :
    (entries.foldl (KeyedEntries.put key) table).entries
      = entries.foldl (fun kept a => overrideWith key a kept) table.entries := by
  induction entries generalizing table with
  | nil => rfl
  | cons a rest ih => rw [List.foldl_cons, List.foldl_cons, ih (indexed.put a), indexed.entries_put]

theorem entries_foldl_put_empty (key : α → κ) (entries : List α) :
    (entries.foldl (KeyedEntries.put key) {}).entries = effective key entries :=
  entries_foldl_put ⟨List.nodup_nil, by simp⟩

end Effective

theorem Definition.key_eq_iff {a b : Definition} :
    a.key = b.key ↔ a.slot? = b.slot? ∧ a.name? = b.name? := by
  cases a <;> cases b <;> simp [key, slot?, name?]

namespace TypeSpec

variable {spec : TypeSpec}

def pruned (spec : TypeSpec) : TypeSpec := { spec with defines := spec.effectiveDefines }

theorem effectiveDefines_pruned (spec : TypeSpec) :
    spec.pruned.effectiveDefines = spec.effectiveDefines :=
  effective_of_nodup (nodup_keys_effective Definition.key spec.defines)

theorem hasSlot_pruned (spec : TypeSpec) (slot : SlotId) :
    spec.pruned.hasSlot slot = spec.hasSlot slot := by
  rw [Bool.eq_iff_iff, hasSlot_iff, hasSlot_iff, effectiveDefines_pruned]

theorem checkCollectable_pruned (spec : TypeSpec) :
    spec.pruned.checkCollectable = spec.checkCollectable := by
  rw [checkCollectable, checkCollectable, hasSlot_pruned]
  rfl

/-- The layout does not depend on the records. -/
theorem agreeOver_pruned (agreed : Option Bool) (bases : List BaseLayout) :
    spec.pruned.agreeOver agreed bases = spec.agreeOver agreed bases := by
  induction bases generalizing agreed with
  | nil => rfl
  | cons base rest ih =>
      rw [agreeOver, agreeOver]
      simp only [ih]
      rfl

theorem resolveLayoutOver_pruned (bases : List BaseLayout) :
    spec.pruned.resolveLayoutOver bases = spec.resolveLayoutOver bases := by
  rw [resolveLayoutOver, resolveLayoutOver, agreeOver_pruned]
  rfl

end TypeSpec
end TypeHost
