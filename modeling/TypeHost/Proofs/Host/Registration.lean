import TypeHost.Proofs.Host.Names
import TypeHost.Proofs.Param

/-! Registration of a type from a spec. Its checks are made in a fixed order, and the first that
fails is the cause of the refusal. A type that passes them all changes nothing but its own slot, its
name and the counts of its bases. -/
namespace TypeHost

inductive RegistrationCheck where
  | spec | params | name
  /-- The universal base lives, where it is inherited for want of another base. -/
  | root
  | subclassing | layout | collection
deriving DecidableEq

def RegistrationCheck.all : List RegistrationCheck :=
  [.spec, .params, .name, .root, .subclassing, .layout, .collection]

def RegisteredType.barred (t : RegisteredType) : Option HostError :=
  if t.flags.contains .baseType then none else some (.baseNotSubclassable t.name)

theorem RegisteredType.barred_eq_some {t : RegisteredType} {cause : HostError} :
    t.barred = some cause ↔
      t.flags.contains .baseType = false ∧ cause = .baseNotSubclassable t.name := by
  rw [barred]
  cases t.flags.contains .baseType <;> simp [eq_comm]

theorem RegistrationCheck.findSome?_all {α : Type} (f : RegistrationCheck → Option α) :
    all.findSome? f = (f .spec).or ((f .params).or ((f .name).or
      (((f .root).or (f .subclassing)).or ((f .layout).or (f .collection))))) := by
  have first (check : RegistrationCheck) (rest : List RegistrationCheck) :
      (check :: rest).findSome? f = (f check).or (rest.findSome? f) := by
    rw [List.findSome?_cons]
    cases f check <;> rfl
  simp only [all, first, List.findSome?_nil, Option.or_none, Option.or_assoc]

namespace Host

variable {host before after : Host} {spec : TypeSpec} {params : List SpecParam}
  {t : RegisteredType} {bases : List Handle} {types : List RegisteredType} {cause : HostError}
  {h : Handle} {object : HostObject}

def namedBases (host : Host) (params : List SpecParam) : List Handle :=
  match host.context.resolveBases params with
  | .ok bases => bases
  | .error _ => []

def newBases (host : Host) (params : List SpecParam) : List Handle :=
  if host.namedBases params = [] then [objectType] else host.namedBases params

def newLayouts (host : Host) (params : List SpecParam) : List BaseLayout :=
  (((host.newBases params).filter (· ≠ objectType)).filterMap host.type?).map (·.info.layout)

/-- Why a check of a registration fails, if it does. Of the bases that may not be subclassed the
first one in the list is named. -/
def failure (host : Host) (spec : TypeSpec) (params : List SpecParam) :
    RegistrationCheck → Option HostError
  | .spec => (cause? spec.validate).map .spec
  | .params => (cause? (host.context.validateParams params)).map .spec
  | .name => if (host.lookup spec.name).isSome then some (.duplicateTypeName spec.name) else none
  | .root =>
    match host.context.resolveBases params with
    | .ok [] => cause? (host.findType objectType)
    | _ => none
  | .subclassing => (host.newBases params).findSome? fun base => (host.type? base).bind (·.barred)
  | .layout => (cause? (spec.resolveLayoutOver (host.newLayouts params))).map .spec
  | .collection =>
      if host.gcMode = .refCounting then (cause? spec.checkCollectable).map .spec else none

theorem basesFor_of_valid (valid : host.context.validateParams params = .ok ()) :
    host.basesFor params = .ok (host.newBases params) ∧
      host.context.resolveBases params = .ok (host.namedBases params) ∧
      ∀ base ∈ host.namedBases params, host.isType base = true := by
  obtain ⟨bases, resolved, types⟩ := Context.resolveBases_of_valid valid
  change host.context.resolveBases params = Except.ok bases at resolved
  have named : host.namedBases params = bases := by rw [namedBases, resolved]
  refine ⟨?_, named ▸ resolved, named ▸ types⟩
  rw [basesFor, newBases, named, resolved]
  cases bases <;> rfl

theorem cause?_findBase (host : Host) (h : Handle) : cause? (host.findBase h) =
    (cause? (host.findType h)).or ((host.type? h).bind (·.barred)) := by
  rw [findBase]
  cases found : host.findType h with
  | error e => rfl
  | ok t =>
      rw [findType_eq_ok.1 found]
      change cause? (if (!t.flags.contains .baseType) = true then _ else _ : Except _ _)
        = (if t.flags.contains .baseType = true then _ else _)
      cases t.flags.contains .baseType <;> rfl

theorem cause?_findType_of_isType (live : host.isType h = true) :
    cause? (host.findType h) = none := by
  obtain ⟨t, found⟩ := Option.isSome_iff_exists.1 live
  rw [findType_eq_ok.2 found]
  rfl

theorem cause?_findBases (valid : host.context.validateParams params = .ok ()) :
    cause? ((host.newBases params).mapM host.findBase) =
      (host.failure spec params .root).or (host.failure spec params .subclassing) := by
  obtain ⟨-, resolved, types⟩ := basesFor_of_valid valid
  rw [cause?_mapM]
  simp only [cause?_findBase, failure, resolved, newBases]
  cases named : host.namedBases params with
  | nil => simp
  | cons first rest =>
      -- Named bases are known to be types by now, so none of them is missing.
      rw [named] at types
      simp only [reduceCtorEq, if_false, Option.none_or]
      rw [← List.head?_filterMap, ← List.head?_filterMap]
      congr 1
      apply List.filterMap_congr
      intro base mem
      rw [cause?_findType_of_isType (types base mem), Option.none_or]

theorem types_of_findBases (found : bases.mapM host.findBase = .ok types) :
    types = bases.filterMap host.type? := by
  induction mapM_eq_ok.1 found with
  | nil => rfl
  | cons first later ih =>
      rw [List.filterMap_cons, (findBase_eq_ok.1 first).1, ← ih (mapM_eq_ok.2 later)]

theorem layouts_of_findBases (found : bases.mapM host.findBase = .ok types) :
    ((bases.zip types).filter (·.1 ≠ objectType)).map (·.2.info.layout)
      = ((bases.filter (· ≠ objectType)).filterMap host.type?).map (·.info.layout) := by
  induction mapM_eq_ok.1 found with
  | nil => rfl
  | @cons base t rest others first later ih =>
      have here := (findBase_eq_ok.1 first).1
      have tail := ih (mapM_eq_ok.2 later)
      rw [List.zip_cons_cons, List.filter_cons, List.filter_cons]
      by_cases root : base = objectType
      · simpa [root] using tail
      · simpa [root, here] using tail

/-- A registration is refused for the first of its checks that fails, and only then. -/
theorem cause?_plan (host : Host) (spec : TypeSpec) (params : List SpecParam) :
    cause? (host.plan spec params)
      = RegistrationCheck.all.findSome? (host.failure spec params) := by
  rw [RegistrationCheck.findSome?_all, plan, cause?_check, cause?_liftSpec]
  refine or_eq_or fun _ => ?_
  rw [cause?_check, cause?_liftSpec]
  refine or_eq_or fun wanted => ?_
  -- From here on the parameters are valid, and the bases are those that they name.
  have valid : host.context.validateParams params = .ok () := by
    rw [Option.map_eq_none_iff, cause?_eq_none] at wanted
    obtain ⟨⟨⟩, valid⟩ := wanted
    exact valid
  obtain ⟨inherited, -⟩ := basesFor_of_valid valid
  rw [← cause?_findBases valid]
  change _ = (if (host.lookup spec.name).isSome then some _ else none).or _
  dsimp only
  split
  · rfl
  · rw [Option.none_or, inherited]
    change cause? ((host.newBases params).mapM host.findBase >>= _) = _
    cases found : (host.newBases params).mapM host.findBase with
    | error e => rfl
    | ok types =>
        change cause? (liftSpec (spec.resolveLayoutOver _) >>= _) = _
        rw [layouts_of_findBases found]
        change cause? (liftSpec (spec.resolveLayoutOver (host.newLayouts params)) >>= _)
          = ((cause? (spec.resolveLayoutOver (host.newLayouts params))).map _).or _
        cases spec.resolveLayoutOver (host.newLayouts params) with
        | error e => rfl
        | ok legacy =>
            change cause? (if host.gcMode = .refCounting then _ else _ : Except _ _)
              = (if host.gcMode = .refCounting then _ else _)
            split
            · rw [cause?_check, cause?_liftSpec]
              exact Option.or_none
            · rfl

theorem plan_eq_record (planned : host.plan spec params = .ok t) : ∃ legacy,
    spec.resolveLayoutOver (host.newLayouts params) = .ok legacy ∧
      t = recordFor spec (host.newBases params) ((host.newBases params).filterMap host.type?)
        legacy := by
  obtain ⟨bases, types, legacy, checks, rfl⟩ := plan_eq_ok planned
  obtain ⟨inherited, -⟩ := basesFor_of_valid checks.wanted
  cases checks.inherited.symm.trans inherited
  have layout := checks.layout
  rw [layouts_of_findBases checks.found] at layout
  exact ⟨legacy, layout, congrArg (recordFor spec _ · legacy) (types_of_findBases checks.found)⟩

theorem perform_typeFromSpec_of_error (refused : host.plan spec params = .error cause) :
    host.perform (.typeFromSpec spec params) = (.refused cause, host) := by
  rw [perform, typeFromSpec_eq, refused]
  rfl

theorem perform_typeFromSpec_of_ok (planned : host.plan spec params = .ok t) :
    host.perform (.typeFromSpec spec params)
      = (.made (host.store (.type t)).1, (host.store (.type t)).2) := by
  rw [perform, typeFromSpec_eq, planned]
  rfl

/-- As long as no handle is given out twice, that of the universal base names no other object. -/
theorem Lasting.root (lasting : host.Lasting) (found : host.get? objectType = some object) :
    ∃ t, object = .type t := by
  refine (lasting.induct (motive := fun host => host.heap.Issued objectType ∧
    ∀ object, host.get? objectType = some object → ∃ t, object = .type t) ?_ ?_ ?_).2 object found
  · intro gcMode builtins start created small
    refine ⟨(registered_of_create created small).1, ?_⟩
    exact (new_of_create created small).types objectType
  · rintro before after fades older ⟨issued, typed⟩
    refine ⟨issued.wanes fades.wanes older, ?_⟩
    -- What fades may have its memory rewritten, but a type has none.
    intro object found
    obtain ⟨old, found', same⟩ := fades.objects objectType object found
    obtain ⟨t, rfl⟩ := typed old found'
    exact ⟨t, HostObject.blank_eq_type.1 same.symm⟩
  · rintro before after call made h makes gains ⟨issued, typed⟩
    refine ⟨gains.issued _ issued, ?_⟩
    intro object found
    have ne : objectType ≠ h := fun eq => gains.fresh (eq ▸ issued)
    exact typed object ((gains.get?_of_ne ne).symm.trans found)

/-- All that a registration changes: the type stands in a slot that was empty, it is listed under
its name, and each base is counted once more for every time that the type names it. -/
structure Registers (before after : Host) (t : RegisteredType) (h : Handle) : Prop where
  missing : before.heap.slot? h = none
  placed : ∃ generation, after.heap.slot? h = some ⟨generation, 1, some (.type t)⟩
  others : ∀ other, other ≠ h → after.heap.slot? other = (before.heap.slot? other).map fun s =>
    { s with refCount := Heap.countUpBy s.refCount (t.bases.count other) }
  age : ∀ i, after.heap.age i = before.heap.age i
  free : after.heap.free = before.heap.free.tail
  names : ∀ name, after.lookup name = if name = t.name then some h else before.lookup name
  gcMode : after.gcMode = before.gcMode

theorem registers_store (sound : host.heap.Sound) (room : host.heap.slotCount < 0xFFFFFFFF)
    (t : RegisteredType) :
    host.Registers (host.store (.type t)).2 t (host.store (.type t)).1 := by
  have gains := gains_store sound room (.type t)
  refine ⟨gains.missing, gains.placed, ?_, gains.age, ?_, ?_, rfl⟩
  · intro other ne
    rw [gains.others other ne, slot?_retainAll]
    rfl
  · rw [← free_retainAll host t.bases]
    exact Heap.free_allocate _ _
  · intro name
    rw [lookup_store]
    simp only [HostObject.name?, Option.some.injEq, eq_comm]

inductive Blamed (host : Host) (spec : TypeSpec) (params : List SpecParam) : HostError → Prop
  | spec {e : SpecError} : Blamed host spec params (.spec e)
  | name : (host.lookup spec.name).isSome → Blamed host spec params (.duplicateTypeName spec.name)
  | base {base : Handle} {t : RegisteredType} : base ∈ host.newBases params →
      host.type? base = some t → Blamed host spec params (.baseNotSubclassable t.name)
  | root {cause : HostError} : host.context.resolveBases params = .ok [] →
      host.findType objectType = .error cause → Blamed host spec params cause

theorem blamed_of_failure {check : RegistrationCheck}
    (failed : host.failure spec params check = some cause) : host.Blamed spec params cause := by
  have lifted {α : Type} {x : Except SpecError α}
      (eq : (cause? x).map HostError.spec = some cause) : host.Blamed spec params cause := by
    obtain ⟨e, -, rfl⟩ := Option.map_eq_some_iff.1 eq
    exact .spec
  cases check with
  | spec | params | layout => exact lifted failed
  | collection =>
      rw [failure] at failed
      split at failed
      · exact lifted failed
      · cases failed
  | name =>
      rw [failure] at failed
      split at failed
      · rename_i taken
        cases failed
        exact .name taken
      · cases failed
  | subclassing =>
      obtain ⟨base, mem, blamed⟩ := List.exists_of_findSome?_eq_some failed
      obtain ⟨t, found, barred⟩ := Option.bind_eq_some_iff.1 blamed
      obtain ⟨-, rfl⟩ := RegisteredType.barred_eq_some.1 barred
      exact .base mem found
  | root =>
      rw [failure] at failed
      split at failed
      · rename_i resolved
        exact .root resolved (cause?_eq_some.1 failed)
      · cases failed

theorem blamed_of_plan (refused : host.plan spec params = .error cause) :
    host.Blamed spec params cause := by
  rw [← cause?_eq_some, cause?_plan] at refused
  obtain ⟨check, -, failed⟩ := List.exists_of_findSome?_eq_some refused
  exact blamed_of_failure failed

theorem Lasting.findType_root (lasting : host.Lasting)
    (failed : host.findType objectType = .error cause) :
    cause = .unknownHandle objectType ∧ host.get? objectType = none := by
  rw [findType] at failed
  cases found : host.get? objectType with
  | none =>
      rw [found] at failed
      exact ⟨(Except.error.inj failed).symm, rfl⟩
  | some object =>
      obtain ⟨t, rfl⟩ := lasting.root found
      rw [found] at failed
      cases failed

/-- The first check that fails decides, and the host stays as it is. Once all pass the type is made,
and only its slot, its name and the counts of its bases change. -/
theorem typeFromSpec_outcome (lasting : host.Lasting) (spec : TypeSpec)
    (params : List SpecParam) :
    (∀ cause, RegistrationCheck.all.findSome? (host.failure spec params) = some cause →
      host.perform (.typeFromSpec spec params) = (.refused cause, host) ∧
      (∀ h, cause ≠ .notAType h) ∧ (∀ name nitems, cause ≠ .instanceTooLarge name nitems) ∧
      ∀ h, cause = .unknownHandle h → h = objectType ∧
        host.context.resolveBases params = .ok [] ∧ host.get? objectType = none) ∧
    (RegistrationCheck.all.findSome? (host.failure spec params) = none →
      ∃ h t after, host.perform (.typeFromSpec spec params) = (.made h, after) ∧
        t.name = spec.name ∧ t.bases = host.newBases params ∧
        (∀ base ∈ t.bases, host.isType base = true) ∧ host.Registers after t h) := by
  rw [← cause?_plan]
  constructor
  · intro cause failed
    have refused := cause?_eq_some.1 failed
    refine ⟨perform_typeFromSpec_of_error refused, ?_⟩
    cases blamed_of_plan refused with
    | spec | name | base => simp
    | root resolved failed =>
        obtain ⟨rfl, gone⟩ := lasting.findType_root failed
        simp [resolved, gone]
  · intro passed
    obtain ⟨t, planned⟩ := cause?_eq_none.1 passed
    obtain ⟨legacy, -, record⟩ := plan_eq_record planned
    refine ⟨_, t, _, perform_typeFromSpec_of_ok planned, by rw [record]; rfl,
      by rw [record]; rfl, fun base => isType_of_plan planned, ?_⟩
    exact registers_store lasting.roomy.reachable.sound lasting.roomy.room t

/-- A base that is named twice is counted twice. -/
theorem typeFromSpec_outcome_repeated :
    let host := (core .refCounting).run [.call (.newTuple [tupleType, tupleType])]
    let spec : TypeSpec := { name := "shapes.Row" }
    let params : List SpecParam := [⟨.basesTuple, .pack 3 0⟩]
    host.Lasting ∧ RegistrationCheck.all.findSome? (host.failure spec params) = none ∧
      host.refCount? tupleType = some 3 ∧
      (host.perform (.typeFromSpec spec params)).2.refCount? tupleType = some 5 := by
  intro host spec params
  have lasting : host.Lasting := lasting_of_short (by decide) (by decide)
  have passed : RegistrationCheck.all.findSome? (host.failure spec params) = none := by decide
  obtain ⟨h, t, after, made, -, bases, -, registers⟩ :=
    (typeFromSpec_outcome lasting spec params).2 passed
  have three : host.refCount? tupleType = some 3 := by decide
  have ne : tupleType ≠ h := by
    rintro rfl
    rw [refCount?, Heap.refCount?, registers.missing] at three
    cases three
  refine ⟨lasting, passed, three, ?_⟩
  rw [made, refCount?, Heap.refCount?, registers.others _ ne, Option.map_map, bases]
  rfl

def coreCounting (count : UInt32) : Host where
  gcMode := .refCounting
  heap := (core .refCounting).heap.setSlot objectType
    ⟨0, count, some (.type (BuiltinType.register { name := "object" } []))⟩
  names := (core .refCounting).names

theorem core_eq_coreCounting : core .refCounting = coreCounting 3 := rfl

theorem run_addRef_root (count : UInt32) (n : Nat) :
    (coreCounting count).run (List.replicate n (.call (.addRef objectType)))
      = coreCounting (Heap.countUpBy count n) := by
  induction n generalizing count with
  | zero =>
      rw [Heap.countUpBy_zero]
      rfl
  | succ n ih =>
      have step : (coreCounting count).step (.call (.addRef objectType))
        = coreCounting (Heap.countUp count) := rfl
      rw [List.replicate_succ, run, List.foldl_cons, step, ← run, ih, Heap.countUpBy_countUp]

def dropRoot (host : Host) : Host := (turns 1 host [objectType]).1

theorem run_release_root :
    (core .refCounting).run (List.replicate 3 (.call (.release objectType)))
      = (core .refCounting).dropRoot.dropRoot.dropRoot := by
  have step (host : Host) (live : host.heap.contains objectType = true)
      (ended : (turns 1 host [objectType]).2 = []) :
      host.step (.call (.release objectType)) = host.dropRoot := step_release 1 live ended
  have first := step (core .refCounting) (by decide) (by decide)
  have second := step (core .refCounting).dropRoot (by decide) (by decide)
  have third := step (core .refCounting).dropRoot.dropRoot (by decide) (by decide)
  simp only [run, List.replicate, List.foldl_cons, List.foldl_nil, first, second, third]

/-- Once the universal base is gone, a type without bases is refused for that, before the host asks
how its instances are traversed. And the largest count is not raised by a new type. -/
theorem typeFromSpec_rootless_saturated :
    (let host := (core .refCounting).run (List.replicate 3 (.call (.release objectType)))
      let spec : TypeSpec := { name := "loop", flags := .garbageCollected }
      host.Lasting ∧
        (RegistrationCheck.all.erase .root).findSome? (host.failure spec [])
          = some (.spec .missingTraverse) ∧
        host.perform (.typeFromSpec spec []) = (.refused (.unknownHandle objectType), host)) ∧
    (let host := (core .refCounting).run (List.replicate 0xFFFFFFFC (.call (.addRef objectType)))
      let spec : TypeSpec := { name := "leaf" }
      host.Lasting ∧ host.refCount? objectType = some 0xFFFFFFFF ∧
        (host.perform (.typeFromSpec spec [])).1 = .made (.pack 3 0) ∧
        (host.perform (.typeFromSpec spec [])).2.refCount? objectType = some 0xFFFFFFFF) := by
  constructor
  · intro host spec
    have freed : host = (core .refCounting).dropRoot.dropRoot.dropRoot := run_release_root
    have lasting : host.Lasting := by
      apply lasting_of_short (by decide)
      rw [run_release_root]
      decide
    have refused : cause? (host.plan spec []) = some (.unknownHandle objectType) := by
      rw [freed]
      decide
    refine ⟨lasting, ?_, perform_typeFromSpec_of_error (cause?_eq_some.1 refused)⟩
    rw [freed]
    decide
  · intro host spec
    have top : Heap.countUpBy 3 0xFFFFFFFC = 0xFFFFFFFF := by decide
    have counted : host = coreCounting 0xFFFFFFFF := by
      rw [← top, ← run_addRef_root, ← core_eq_coreCounting]
    have lasting : host.Lasting := by
      apply lasting_of_short
      · rw [List.length_replicate]
        decide
      · rw [core_eq_coreCounting, run_addRef_root]
        decide
    rw [counted] at lasting ⊢
    exact ⟨lasting, by decide, by decide, by decide⟩

end Host
end TypeHost
