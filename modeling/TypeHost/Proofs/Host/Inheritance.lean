import Mathlib.Data.List.Basic
import TypeHost.Host.Subtype

/-! The search for a supertype. It finds the target exactly if a way leads there, from live types to
their bases; bases may be dangling or go round in circles. -/
namespace TypeHost

namespace Host

variable {host before after : Host} {h target x : Handle} {seen pending : List Handle}
  {t : RegisteredType}

theorem isType_of_type? (found : host.type? h = some t) : host.isType h = true := by
  rw [isType, found, Option.isSome_some]

/-- A way up from the handle to the target, through live types none of which is among `seen`. -/
inductive Climbs (host : Host) (target : Handle) (seen : List Handle) : Handle → Prop
  | arrived {t : RegisteredType} : host.type? target = some t → target ∉ seen →
      Climbs host target seen target
  | up {h base : Handle} {t : RegisteredType} : host.type? h = some t → h ∉ seen →
      base ∈ t.bases → Climbs host target seen base → Climbs host target seen h

theorem Climbs.unseen (climbs : host.Climbs target seen h) : h ∉ seen := by
  cases climbs with
  | arrived found unseen => exact unseen
  | up found unseen mem climbs => exact unseen

theorem Climbs.isType (climbs : host.Climbs target seen h) : host.isType h = true := by
  cases climbs with
  | arrived found unseen => exact isType_of_type? found
  | up found unseen mem climbs => exact isType_of_type? found

theorem Climbs.target_isType (climbs : host.Climbs target seen h) : host.isType target = true := by
  induction climbs with
  | arrived found unseen => exact isType_of_type? found
  | up found unseen mem climbs ih => exact ih

theorem Climbs.forget (climbs : host.Climbs target (x :: seen) h) : host.Climbs target seen h := by
  induction climbs with
  | arrived found unseen => exact .arrived found fun mem => unseen (List.mem_cons_of_mem x mem)
  | up found unseen mem climbs ih =>
      exact .up found (fun mem => unseen (List.mem_cons_of_mem x mem)) mem ih

/-- A way that visits `x` may as well begin where it leaves `x` for the last time. -/
theorem Climbs.shorten (climbs : host.Climbs target seen h) (found : host.type? x = some t)
    (ne : target ≠ x) :
    host.Climbs target (x :: seen) h ∨ ∃ base ∈ t.bases, host.Climbs target (x :: seen) base := by
  induction climbs with
  | arrived found' unseen => exact .inl (.arrived found' (List.not_mem_cons_of_ne_of_not_mem ne unseen))
  | @up h base u found' unseen mem climbs ih =>
      rcases ih with shorter | later
      · by_cases same : h = x
        · subst same
          cases found.symm.trans found'
          exact .inr ⟨base, mem, shorter⟩
        · exact .inl (.up found' (List.not_mem_cons_of_ne_of_not_mem same unseen) mem shorter)
      · exact .inr later

theorem search_iff :
    host.search target seen pending = true ↔ ∃ h ∈ pending, host.Climbs target seen h := by
  fun_induction search host target seen pending with
  | case1 seen => simp
  | case2 seen h pending unseen t found ih =>
      rw [Bool.or_eq_true, decide_eq_true_eq, ih]
      constructor
      · rintro (rfl | ⟨x, mem, climbs⟩)
        · exact ⟨h, List.mem_cons_self, .arrived found unseen⟩
        · rcases List.mem_append.1 mem with base | later
          · exact ⟨h, List.mem_cons_self, .up found unseen (List.mem_reverse.1 base) climbs.forget⟩
          · exact ⟨x, List.mem_cons_of_mem h later, climbs.forget⟩
      · rintro ⟨x, mem, climbs⟩
        by_cases same : h = target
        · exact .inl same
        · refine .inr ?_
          rcases climbs.shorten found (Ne.symm same) with shorter | ⟨base, mem', later⟩
          · rcases List.mem_cons.1 mem with rfl | mem
            · exact absurd List.mem_cons_self shorter.unseen
            · exact ⟨x, List.mem_append_right _ mem, shorter⟩
          · exact ⟨base, List.mem_append_left _ (List.mem_reverse.2 mem'), later⟩
  | case3 seen h pending unseen gone ih =>
      have blocked : ¬ host.Climbs target seen h := by
        intro climbs
        have live := climbs.isType
        rw [isType, gone] at live
        cases live
      rw [ih, List.exists_mem_cons_iff, or_iff_right blocked]
  | case4 seen h pending known ih =>
      have blocked : ¬ host.Climbs target seen h := fun climbs => known climbs.unseen
      rw [ih, List.exists_mem_cons_iff, or_iff_right blocked]

theorem isSubtype_iff {sub ty : Handle} :
    host.isSubtype sub ty = true ↔ host.Climbs ty [] sub := by
  rw [isSubtype, search_iff, List.exists_mem_cons_iff]
  simp

theorem isSubtype_self (found : host.type? h = some t) : host.isSubtype h h = true :=
  isSubtype_iff.2 (.arrived found List.not_mem_nil)

theorem isSubtype_of_mem_bases (found : host.type? h = some t) {base : Handle} (mem : base ∈ t.bases)
    (live : host.isType base = true) : host.isSubtype h base = true := by
  obtain ⟨u, found'⟩ := Option.isSome_iff_exists.1 live
  exact isSubtype_iff.2 (.up found List.not_mem_nil mem (.arrived found' List.not_mem_nil))

theorem isType_of_isSubtype {sub ty : Handle} (subtype : host.isSubtype sub ty = true) :
    host.isType sub = true ∧ host.isType ty = true :=
  have climbs := isSubtype_iff.1 subtype
  ⟨climbs.isType, climbs.target_isType⟩

/-- What holds of a type and is passed on from each type to its bases holds of the supertype. -/
theorem Climbs.pass_on {p : RegisteredType → Prop} (climbs : host.Climbs target seen h)
    (up : ∀ h t base u, host.type? h = some t → base ∈ t.bases → host.type? base = some u →
      p t → p u)
    (found : host.type? h = some t) (holds : p t) {u : RegisteredType}
    (found' : host.type? target = some u) : p u := by
  induction climbs generalizing t with
  | arrived again unseen =>
      cases Option.some.inj (found.symm.trans found')
      exact holds
  | @up h base w again unseen mem climbs ih =>
      cases found.symm.trans again
      obtain ⟨v, between⟩ := Option.isSome_iff_exists.1 climbs.isType
      exact ih between (up h w base v found mem between holds)

/-- A way stays open where types that live on are what they were and have live bases. -/
theorem Climbs.transfer (climbs : before.Climbs target seen h)
    (same : ∀ h t, before.type? h = some t → after.isType h = true → after.type? h = some t)
    (founded : ∀ h t, after.type? h = some t → ∀ base ∈ t.bases, after.isType base = true)
    (live : after.isType h = true) : after.Climbs target seen h := by
  induction climbs with
  | arrived found unseen => exact .arrived (same _ _ found live) unseen
  | @up h base t found unseen mem climbs ih =>
      have found' := same h t found live
      exact .up found' unseen mem (ih (founded h t found' base mem))

end Host
end TypeHost
