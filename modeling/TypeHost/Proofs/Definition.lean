import TypeHost.Spec.Basic

/-! Overriding definitions. The surviving records have the keys of the records as written, each key
once, so no slot and no attribute is recorded twice. -/
namespace TypeHost

section Effective

variable {α β κ : Type} {key : α → κ} {a : α} {k : κ} {kept l : List α}

/-- What tells the keys apart is not repeated where keys are not. -/
theorem nodup_filterMap_of_keys {f : α → Option β}
    (told : ∀ a b x, f a = some x → f b = some x → key a = key b) (nodup : (l.map key).Nodup) :
    (l.filterMap f).Nodup := by
  rw [List.Nodup, List.pairwise_map] at nodup
  rw [List.Nodup, List.pairwise_filterMap]
  apply nodup.imp
  rintro a b differ x first y second rfl
  exact differ (told a b x first second)

variable [DecidableEq κ]

theorem mem_keys_overrideWith :
    k ∈ (overrideWith key a kept).map key ↔ k = key a ∨ k ∈ kept.map key := by
  induction kept with
  | nil => simp [overrideWith]
  | cons b rest ih =>
      rw [overrideWith]
      split
      · rename_i same
        simp [same]
      · rw [List.map_cons, List.mem_cons, ih, List.map_cons, List.mem_cons]
        exact or_left_comm

theorem nodup_keys_overrideWith (nodup : (kept.map key).Nodup) :
    ((overrideWith key a kept).map key).Nodup := by
  induction kept with
  | nil => simp [overrideWith]
  | cons b rest ih =>
      obtain ⟨absent, nodup⟩ := List.nodup_cons.1 nodup
      rw [overrideWith]
      split
      · rename_i same
        exact List.nodup_cons.2 ⟨same ▸ absent, nodup⟩
      · rename_i differ
        refine List.nodup_cons.2 ⟨?_, ih nodup⟩
        rw [mem_keys_overrideWith]
        rintro (same | later)
        · exact differ same
        · exact absent later

theorem mem_keys_foldl (entries : List α) :
    k ∈ (entries.foldl (fun kept a => overrideWith key a kept) kept).map key ↔
      k ∈ kept.map key ∨ k ∈ entries.map key := by
  induction entries generalizing kept with
  | nil => simp
  | cons a rest ih =>
      rw [List.foldl_cons, ih, mem_keys_overrideWith, List.map_cons, List.mem_cons, or_assoc,
        or_left_comm]

theorem nodup_keys_foldl (nodup : (kept.map key).Nodup) (entries : List α) :
    ((entries.foldl (fun kept a => overrideWith key a kept) kept).map key).Nodup := by
  induction entries generalizing kept with
  | nil => exact nodup
  | cons a rest ih => exact ih (nodup_keys_overrideWith nodup)

theorem mem_keys_effective {entries : List α} :
    k ∈ (effective key entries).map key ↔ k ∈ entries.map key := by
  rw [effective, mem_keys_foldl]
  simp

theorem nodup_keys_effective (key : α → κ) (entries : List α) :
    ((effective key entries).map key).Nodup := by
  apply nodup_keys_foldl
  exact List.nodup_nil

end Effective

namespace Definition

variable {d : Definition} {slot : SlotId} {name : String}

theorem slot?_eq_some : d.slot? = some slot ↔ d.key = .slot slot := by
  cases d <;> simp [slot?, key]

theorem name?_eq_some : d.name? = some name ↔ d.key = .attribute name := by
  cases d <;> simp [name?, key]

end Definition

namespace TypeSpec

variable {spec : TypeSpec} {slot : SlotId}

theorem nodup_effective_slots (spec : TypeSpec) :
    (spec.effectiveDefines.filterMap (·.slot?)).Nodup := by
  apply nodup_filterMap_of_keys _ (nodup_keys_effective Definition.key spec.defines)
  intro a b slot first second
  rw [Definition.slot?_eq_some.1 first, Definition.slot?_eq_some.1 second]

theorem nodup_effective_names (spec : TypeSpec) :
    (spec.effectiveDefines.filterMap (·.name?)).Nodup := by
  apply nodup_filterMap_of_keys _ (nodup_keys_effective Definition.key spec.defines)
  intro a b name first second
  rw [Definition.name?_eq_some.1 first, Definition.name?_eq_some.1 second]

/-- A slot filled somewhere in the list as written is filled after overrides. -/
theorem hasSlot_iff : spec.hasSlot slot = true ↔
    slot ∈ spec.effectiveDefines.filterMap (·.slot?) := by
  have keys : .slot slot ∈ spec.effectiveDefines.map Definition.key ↔
      .slot slot ∈ spec.defines.map Definition.key := mem_keys_effective
  simp only [List.mem_map, ← Definition.slot?_eq_some] at keys
  simp only [hasSlot, List.any_eq_true, beq_iff_eq, List.mem_filterMap]
  exact keys.symm

end TypeSpec
end TypeHost
