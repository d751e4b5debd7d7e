import Mathlib.Data.List.Perm.Basic
import TypeHost.Proofs.Host.Inheritance
import TypeHost.Proofs.Host.Registration
import TypeHost.Proofs.Layout

/-! The order of bases. Two tuples of the same types, in whatever order, lead to the same refusal or
to types that differ only in the order in which their bases are listed. -/
namespace TypeHost

inductive HostError.UpToBase : HostError → HostError → Prop
  | same (cause : HostError) : UpToBase cause cause
  | base (name name' : String) : UpToBase (.baseNotSubclassable name) (.baseNotSubclassable name')

structure RegisteredType.Reorders (t u : RegisteredType) : Prop where
  bases : t.bases.Perm u.bases
  rest : u = { t with bases := u.bases }

theorem rel_of_eq {α : Type} {r : α → α → Prop} (refl : ∀ a, r a a) {x y : Option α}
    (same : x = y) : Option.Rel r x y := by
  subst same
  cases x with
  | none => exact .none
  | some a => exact .some (refl a)

theorem rel_findSome? {α β : Type} {r : β → β → Prop} {f g : α → Option β} {l : List α}
    (each : ∀ a ∈ l, Option.Rel r (f a) (g a)) : Option.Rel r (l.findSome? f) (l.findSome? g) := by
  induction l with
  | nil => exact .none
  | cons a rest ih =>
      obtain ⟨here, later⟩ := List.forall_mem_cons.1 each
      rw [List.findSome?_cons, List.findSome?_cons]
      generalize f a = first, g a = second at here
      cases here with
      | none => exact ih later
      | some related => exact .some related

/-- Which member is found first may depend on the order, but not whether one is found. -/
theorem rel_findSome?_perm {α β : Type} {r : β → β → Prop} {f : α → Option β} {l l' : List α}
    (perm : l.Perm l') (related : ∀ a b x y, f a = some x → f b = some y → r x y) :
    Option.Rel r (l.findSome? f) (l'.findSome? f) := by
  cases first : l.findSome? f with
  | none =>
      have none_found : l'.findSome? f = none := by
        rw [List.findSome?_eq_none_iff] at first ⊢
        exact fun a mem => first a (perm.mem_iff.2 mem)
      rw [none_found]
      exact .none
  | some x =>
      obtain ⟨a, mem, here⟩ := List.exists_of_findSome?_eq_some first
      have found : (l'.findSome? f).isSome :=
        List.findSome?_isSome_iff.2 ⟨a, perm.mem_iff.1 mem, here ▸ rfl⟩
      obtain ⟨y, second⟩ := Option.isSome_iff_exists.1 found
      obtain ⟨b, -, there⟩ := List.exists_of_findSome?_eq_some second
      rw [second]
      exact .some (related a b x y here there)

namespace Host

variable {host x y : Host} {spec : TypeSpec} {params params' : List SpecParam} {a b h : Handle}
  {xs ys bases bases' : List Handle} {types types' : List RegisteredType} {t u : RegisteredType}

theorem largest_perm (size : RegisteredType → Int32) (perm : types.Perm types') :
    largest size types = largest size types' := by
  refine perm.foldl_eq' ?_ 0
  intro t _ u _ most
  simp only [max]
  grind

theorem recordFor_perm (spec : TypeSpec) (legacy : Bool) (inherited : bases.Perm bases')
    (found : types.Perm types') :
    (recordFor spec bases types legacy).Reorders (recordFor spec bases' types' legacy) := by
  refine ⟨inherited, ?_⟩
  simp only [recordFor, largest_perm _ found]

theorem retainAll_perm (host : Host) (perm : bases.Perm bases') :
    host.retainAll bases = host.retainAll bases' := by
  have same := perm.foldl_eq' (f := Heap.addRef (α := HostObject))
    (fun a _ b _ heap => heap.addRef_comm a b) host.heap
  rw [retainAll, retainAll, same]

section Parameters

theorem validateParams_tuple (here : host.tuple? a = some xs) :
    host.context.validateParams [⟨.basesTuple, a⟩] =
      if xs.all host.isType then .ok () else .error (.invalidParamTarget .basesTuple) := by
  have accepts : host.context.Accepts ⟨.basesTuple, a⟩ ↔ xs.all host.isType = true := by
    rw [List.all_eq_true]
    constructor
    · rintro ⟨items, found, types⟩
      cases here.symm.trans found
      exact types
    · intro types
      exact ⟨xs, here, types⟩
  change (host.context.validateAfter [] [⟨.basesTuple, a⟩]).run = _
  rw [Context.validateAfter_cons, if_neg List.not_mem_nil]
  simp only [Context.acceptsTarget_iff, accepts]
  rfl

theorem resolveBases_tuple (here : host.tuple? a = some xs) :
    host.context.resolveBases [⟨.basesTuple, a⟩] = .ok xs :=
  Context.resolveBases_of_tuple rfl here

theorem newBases_tuple (here : host.tuple? a = some xs) :
    host.newBases [⟨.basesTuple, a⟩] = if xs = [] then [objectType] else xs := by
  rw [newBases, namedBases, resolveBases_tuple here]

theorem newBases_perm (here : host.tuple? a = some xs) (there : host.tuple? b = some ys)
    (perm : xs.Perm ys) :
    (host.newBases [⟨.basesTuple, a⟩]).Perm (host.newBases [⟨.basesTuple, b⟩]) := by
  rw [newBases_tuple here, newBases_tuple there]
  cases xs with
  | nil =>
      cases perm.nil_eq
      exact .refl _
  | cons first rest =>
      have some_base : ys ≠ [] := by
        rintro rfl
        cases perm.eq_nil
      rw [if_neg (List.cons_ne_nil first rest), if_neg some_base]
      exact perm

end Parameters

theorem rel_failure (spec : TypeSpec) (here : host.tuple? a = some xs)
    (there : host.tuple? b = some ys) (perm : xs.Perm ys) (check : RegistrationCheck) :
    Option.Rel HostError.UpToBase (host.failure spec [⟨.basesTuple, a⟩] check)
      (host.failure spec [⟨.basesTuple, b⟩] check) := by
  have bases := newBases_perm here there perm
  cases check with
  | spec | name | collection => exact rel_of_eq .same rfl
  | params =>
      refine rel_of_eq .same ?_
      simp only [failure]
      rw [validateParams_tuple here, validateParams_tuple there, perm.all_eq]
  | root =>
      refine rel_of_eq .same ?_
      simp only [failure]
      rw [resolveBases_tuple here, resolveBases_tuple there]
      cases xs with
      | nil =>
          cases perm.nil_eq
          rfl
      | cons first rest =>
          cases ys with
          | nil => cases perm.eq_nil
          | cons first' rest' => rfl
  | layout =>
      refine rel_of_eq .same ?_
      have layouts := ((bases.filter (· ≠ objectType)).filterMap host.type?).map (·.info.layout)
      simp only [failure]
      rw [newLayouts, newLayouts, TypeSpec.resolveLayoutOver_congr fun _ => layouts.mem_iff]
  | subclassing =>
      -- The one check that stops at the first offender, so here the names may differ.
      simp only [failure]
      apply rel_findSome?_perm bases
      intro a b cause cause' first second
      obtain ⟨t, -, barred⟩ := Option.bind_eq_some_iff.1 first
      obtain ⟨u, -, barred'⟩ := Option.bind_eq_some_iff.1 second
      rw [RegisteredType.barred_eq_some] at barred barred'
      obtain ⟨-, rfl⟩ := barred
      obtain ⟨-, rfl⟩ := barred'
      exact .base t.name u.name

theorem rel_plan (spec : TypeSpec) (here : host.tuple? a = some xs)
    (there : host.tuple? b = some ys) (perm : xs.Perm ys) :
    Option.Rel HostError.UpToBase (cause? (host.plan spec [⟨.basesTuple, a⟩]))
      (cause? (host.plan spec [⟨.basesTuple, b⟩])) := by
  rw [cause?_plan, cause?_plan]
  exact rel_findSome? fun check _ => rel_failure spec here there perm check

theorem reorders_of_plan (here : host.tuple? a = some xs) (there : host.tuple? b = some ys)
    (perm : xs.Perm ys) (planned : host.plan spec [⟨.basesTuple, a⟩] = .ok t)
    (planned' : host.plan spec [⟨.basesTuple, b⟩] = .ok u) : t.Reorders u := by
  have bases := newBases_perm here there perm
  obtain ⟨legacy, layout, rfl⟩ := plan_eq_record planned
  obtain ⟨legacy', layout', rfl⟩ := plan_eq_record planned'
  have layouts := ((bases.filter (· ≠ objectType)).filterMap host.type?).map (·.info.layout)
  rw [newLayouts, TypeSpec.resolveLayoutOver_congr fun _ => layouts.mem_iff] at layout
  cases layout.symm.trans layout'
  exact recordFor_perm spec legacy bases (bases.filterMap host.type?)

structure AgreeBut (x y : Host) (t u : RegisteredType) : Prop where
  gcMode : x.gcMode = y.gcMode
  free : x.heap.free = y.heap.free
  objects : ∀ h, x.get? h = y.get? h ∨ x.get? h = some (.type t) ∧ y.get? h = some (.type u)
  counts : ∀ h, x.refCount? h = y.refCount? h
  names : ∀ name, x.lookup name = y.lookup name
  subtypes : ∀ sub ty, x.isSubtype sub ty = y.isSubtype sub ty

theorem Climbs.reorder {target : Handle} {seen : List Handle}
    (types : ∀ h t, x.type? h = some t → ∃ u, y.type? h = some u ∧ t.bases ⊆ u.bases)
    (climbs : x.Climbs target seen h) : y.Climbs target seen h := by
  induction climbs with
  | arrived found unseen =>
      obtain ⟨u, found', -⟩ := types _ _ found
      exact .arrived found' unseen
  | up found unseen mem climbs ih =>
      obtain ⟨u, found', bases⟩ := types _ _ found
      exact .up found' unseen (bases mem) ih

theorem isSubtype_of_reorder (reorders : t.Reorders u)
    (objects : ∀ h, x.get? h = y.get? h ∨ x.get? h = some (.type t) ∧ y.get? h = some (.type u))
    (sub ty : Handle) : x.isSubtype sub ty = y.isSubtype sub ty := by
  rw [Bool.eq_iff_iff, isSubtype_iff, isSubtype_iff]
  constructor
  · refine Climbs.reorder fun h v found => ?_
    rw [type?_eq_some] at found
    rcases objects h with same | ⟨first, second⟩
    · exact ⟨v, type?_eq_some.2 (same ▸ found), List.Subset.refl _⟩
    · cases found.symm.trans first
      exact ⟨u, type?_eq_some.2 second, reorders.bases.subset⟩
  · refine Climbs.reorder fun h v found => ?_
    rw [type?_eq_some] at found
    rcases objects h with same | ⟨first, second⟩
    · exact ⟨v, type?_eq_some.2 (same ▸ found), List.Subset.refl _⟩
    · cases found.symm.trans second
      exact ⟨t, type?_eq_some.2 first, reorders.bases.symm.subset⟩

theorem store_reorders (host : Host) (reorders : t.Reorders u) :
    (host.store (.type t)).1 = (host.store (.type u)).1 ∧
      (host.store (.type t)).2.AgreeBut (host.store (.type u)).2 t u := by
  have kept := host.retainAll_perm reorders.bases
  have name : u.name = t.name := by rw [reorders.rest]
  simp only [store, HostObject.references, HostObject.name?, Option.elim_some, kept, name]
  -- Both records go into the same heap, and an allocation does not look at what it stores.
  generalize host.retainAll u.bases = kept
  have handle := kept.heap.allocate_handle (.type t) (.type u)
  have slots (h : Handle) := kept.heap.slot?_allocate_either (.type t) (.type u) h
  have free := (kept.heap.free_allocate (.type t)).trans (kept.heap.free_allocate (.type u)).symm
  rw [handle]
  have objects (h : Handle) :
      (kept.heap.allocate (.type t)).2.get? h = (kept.heap.allocate (.type u)).2.get? h ∨
      (kept.heap.allocate (.type t)).2.get? h = some (.type t) ∧
        (kept.heap.allocate (.type u)).2.get? h = some (.type u) := by
    rcases slots h with same | ⟨generation, first, second⟩
    · exact .inl (by rw [Heap.get?, Heap.get?, same])
    · exact .inr ⟨by rw [Heap.get?, first]; rfl, by rw [Heap.get?, second]; rfl⟩
  refine ⟨rfl, rfl, free, objects, ?_, fun _ => rfl, isSubtype_of_reorder reorders objects⟩
  intro h
  rcases slots h with same | ⟨generation, first, second⟩
  · simp only [refCount?, Heap.refCount?, same]
  · simp only [refCount?, Heap.refCount?, first, second, Option.map_some]

/-- The order of the bases decides nothing but their order in the record of the new type, and by
which of them a refused type is told that it may not inherit. -/
theorem typeFromSpec_base_order (reachable : host.Reachable) (spec : TypeSpec)
    (here : host.tuple? a = some xs) (there : host.tuple? b = some ys) (perm : xs.Perm ys) :
    (∃ cause cause', cause.UpToBase cause' ∧
      host.perform (.typeFromSpec spec [⟨.basesTuple, a⟩]) = (.refused cause, host) ∧
      host.perform (.typeFromSpec spec [⟨.basesTuple, b⟩]) = (.refused cause', host)) ∨
    ∃ h t u x y, t.Reorders u ∧ x.AgreeBut y t u ∧
      host.perform (.typeFromSpec spec [⟨.basesTuple, a⟩]) = (.made h, x) ∧
      host.perform (.typeFromSpec spec [⟨.basesTuple, b⟩]) = (.made h, y) ∧
      (host.heap.slotCount < 0xFFFFFFFF → x.type? h = some t ∧ y.type? h = some u) := by
  have related := rel_plan spec here there perm
  cases planned : host.plan spec [⟨.basesTuple, a⟩] with
  | error cause =>
      cases planned' : host.plan spec [⟨.basesTuple, b⟩] with
      | error cause' =>
          rw [planned, planned'] at related
          obtain ⟨upToBase⟩ := related
          exact .inl ⟨cause, cause', upToBase, perform_typeFromSpec_of_error planned,
            perform_typeFromSpec_of_error planned'⟩
      | ok u =>
          rw [planned, planned'] at related
          cases related
  | ok t =>
      cases planned' : host.plan spec [⟨.basesTuple, b⟩] with
      | error cause' =>
          rw [planned, planned'] at related
          cases related
      | ok u =>
          have reorders := reorders_of_plan here there perm planned planned'
          obtain ⟨handle, agree⟩ := host.store_reorders reorders
          refine .inr ⟨_, t, u, _, _, reorders, agree, perform_typeFromSpec_of_ok planned, ?_, ?_⟩
          · rw [handle]
            exact perform_typeFromSpec_of_ok planned'
          · intro room
            have gains := gains_store reachable.sound room (.type t)
            have gains' := gains_store reachable.sound room (.type u)
            refine ⟨type?_eq_some.2 gains.get?_self, type?_eq_some.2 ?_⟩
            rw [handle]
            exact gains'.get?_self

/-- Both orders of two bases are accepted. -/
theorem typeFromSpec_base_order_swapped :
    let host := (core .refCounting).run
      [.call (.newTuple [tupleType, objectType]), .call (.newTuple [objectType, tupleType])]
    let first := host.perform (.typeFromSpec { name := "shapes.Row" } [⟨.basesTuple, .pack 3 0⟩])
    let second := host.perform (.typeFromSpec { name := "shapes.Row" } [⟨.basesTuple, .pack 4 0⟩])
    host.Reachable ∧ host.tuple? (.pack 3 0) = some [tupleType, objectType] ∧
      host.tuple? (.pack 4 0) = some [objectType, tupleType] ∧
      first.1 = .made (.pack 5 0) ∧ second.1 = .made (.pack 5 0) ∧
      (∀ h, first.2.refCount? h = second.2.refCount? h) ∧
      ∀ sub ty, first.2.isSubtype sub ty = second.2.isSubtype sub ty := by
  intro host first second
  have reachable : host.Reachable := ⟨.refCounting, [], core .refCounting, _, rfl, rfl⟩
  have here : host.tuple? (.pack 3 0) = some [tupleType, objectType] := by decide
  have there : host.tuple? (.pack 4 0) = some [objectType, tupleType] := by decide
  have made : first.1 = .made (.pack 5 0) := by decide
  refine ⟨reachable, here, there, made, by decide, ?_⟩
  rcases typeFromSpec_base_order reachable { name := "shapes.Row" } here there (.swap ..) with
    ⟨cause, cause', -, refused, -⟩ | ⟨h, t, u, x, y, -, agree, same, same', -⟩
  · cases made.symm.trans (congrArg Prod.fst refused)
  · have first_eq : first.2 = x := congrArg Prod.snd same
    have second_eq : second.2 = y := congrArg Prod.snd same'
    rw [first_eq, second_eq]
    exact ⟨agree.counts, agree.subtypes⟩

end Host
end TypeHost
