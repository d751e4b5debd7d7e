import TypeHost.Proofs.Definition
import TypeHost.Proofs.Host.Freshness
import TypeHost.Proofs.Host.Plan
import TypeHost.Wire.Spec

/-! Well-formed types. What the checks of a registration establish of the record of a new type holds
of it, and of the types that it inherits from, for as long as they live. -/
namespace TypeHost

namespace TypeFlags

variable {a b c : TypeFlags}

theorem contains_union_right (a b : TypeFlags) : (a.union b).contains b = true := by
  rw [contains, beq_iff_eq, union, ← UInt64.toNat_inj, UInt64.toNat_and, UInt64.toNat_or]
  apply Nat.eq_of_testBit_eq
  intro i
  rw [Nat.testBit_and, Nat.testBit_or]
  cases a.bits.toNat.testBit i <;> cases b.bits.toNat.testBit i <;> rfl

theorem contains_union_of_disjoint (disjoint : b.bits &&& c.bits = 0) :
    (a.union b).contains c = a.contains c := by
  have bits : (a.bits ||| b.bits) &&& c.bits = a.bits &&& c.bits := by
    apply UInt64.toNat_inj.1
    have none_shared := congrArg UInt64.toNat disjoint
    rw [UInt64.toNat_and, UInt64.toNat_zero] at none_shared
    rw [UInt64.toNat_and, UInt64.toNat_or, Nat.and_or_distrib_right, none_shared, Nat.or_zero,
      UInt64.toNat_and]
  rw [contains, contains, union, bits]

end TypeFlags

theorem checkSizes_eq_ok {basicsize itemsize : Int32} :
    checkSizes basicsize itemsize = .ok () ↔ 0 ≤ basicsize ∧ 0 ≤ itemsize := by
  rw [checkSizes, ← Int32.not_lt, ← Int32.not_lt]
  split <;> simp_all

namespace TypeSpec

variable {spec : TypeSpec}

theorem validate_eq_ok : spec.validate = .ok () ↔ spec.name ≠ "" ∧
    (0 ≤ spec.basicsize ∧ 0 ≤ spec.itemsize) ∧
    (spec.legacySlots.isSome = true → spec.legacy = true) := by
  rw [validate, ← checkSizes_eq_ok]
  by_cases unnamed : spec.name = ""
  · simp [unnamed, throw, throwThe, MonadExceptOf.throw, bind, Except.bind]
  · cases checkSizes spec.basicsize spec.itemsize with
    | error e => simp [unnamed, bind, Except.bind]
    | ok _ =>
        cases spec.legacySlots.isSome <;> cases spec.legacy <;>
          simp [unnamed, bind, Except.bind, pure, Except.pure, throw, throwThe, MonadExceptOf.throw]

theorem checkCollectable_eq_ok : spec.checkCollectable = .ok () ↔
    (spec.flags.contains .garbageCollected = true → spec.hasSlot .tpTraverse = true) := by
  rw [checkCollectable]
  split <;> simp_all

end TypeSpec

/-- What the record of a type built from a spec satisfies on a host of the given mode. -/
structure RegisteredType.Built (t : RegisteredType) (gcMode : GcMode) : Prop where
  named : t.name ≠ ""
  allocated : t.flags.contains .heapAllocated = true
  based : t.bases ≠ []
  slots_nodup : t.slots.Nodup
  attrs_nodup : t.attrs.Nodup
  constructed : t.defaultNew = true → 0 < t.basicsize ∧ .tpNew ∉ t.slots
  traversed : gcMode = .refCounting → t.flags.contains .garbageCollected = true →
    .tpTraverse ∈ t.slots

structure RegisteredType.WellFormed (t : RegisteredType) (gcMode : GcMode) : Prop where
  basicsize_nonneg : 0 ≤ t.basicsize
  itemsize_nonneg : 0 ≤ t.itemsize
  built : t.builtin = false → t.Built gcMode

namespace Host

variable {host before after start : Host} {h base : Handle} {t : RegisteredType}
  {object : HostObject} {spec : TypeSpec} {params : List SpecParam} {gcMode : GcMode}
  {builtins : List BuiltinType}

theorem size_nonneg {declared : Int32} (nonneg : 0 ≤ declared) (size : RegisteredType → Int32)
    (types : List RegisteredType) :
    0 ≤ if declared = 0 then largest size types else declared := by
  split
  · exact largest_nonneg size types
  · exact nonneg

theorem wellFormed_of_plan (planned : host.plan spec params = .ok t) :
    t.WellFormed host.gcMode := by
  have based := bases_ne_nil_of_plan planned
  obtain ⟨bases, types, legacy, checks, rfl⟩ := plan_eq_ok planned
  obtain ⟨named, ⟨basic, item⟩, -⟩ := TypeSpec.validate_eq_ok.1 checks.valid
  refine ⟨size_nonneg basic _ types, size_nonneg item _ types, fun _ => ?_⟩
  constructor
  case named => exact named
  case allocated => exact TypeFlags.contains_union_right _ _
  case based => exact based
  case slots_nodup => exact spec.nodup_effective_slots
  case attrs_nodup => exact spec.nodup_effective_names
  case constructed =>
    intro supplied
    obtain ⟨declares, absent⟩ := (Bool.and_eq_true _ _).mp supplied
    have positive : 0 < spec.basicsize := of_decide_eq_true declares
    have own : spec.basicsize ≠ 0 := (Int32.ne_of_lt positive).symm
    refine ⟨?_, of_decide_eq_true absent⟩
    rw [recordFor, if_neg own]
    exact positive
  case traversed =>
    -- The check looks at the list as written, the record at the surviving entries.
    intro counting collected
    rw [recordFor, TypeFlags.contains_union_of_disjoint (by decide)] at collected
    apply TypeSpec.hasSlot_iff.1
    exact TypeSpec.checkCollectable_eq_ok.1 (checks.collectable counting) collected

theorem gcMode_syncHead (host : Host) (h : Handle) : (host.syncHead h).gcMode = host.gcMode := by
  unfold syncHead
  split <;> rfl

theorem gcMode_dropOne (host : Host) (h : Handle) : (host.dropOne h).1.gcMode = host.gcMode := by
  unfold dropOne
  split
  · exact gcMode_syncHead _ h
  · rw [forgetName_eq]

theorem gcMode_drop (host : Host) (pending : List Handle) :
    (host.drop pending).gcMode = host.gcMode := by
  induction host, pending using drop_induct with
  | nil host => rw [drop_nil]
  | cons host h pending ih => rw [drop_cons, ih, gcMode_dropOne]

theorem gcMode_step (host : Host) (action : HostAction) :
    (host.step action).gcMode = host.gcMode := by
  cases action with
  | write h start bytes =>
      rcases host.write_cases h start bytes with same | ⟨f, -, written⟩
      · rw [same]
      · rw [written]
  | call call =>
      rw [step]
      have performed := host.perform_cases call
      generalize host.perform call = result at performed ⊢
      cases performed with
      | refused => rfl
      | made makes => rfl
      | retained => exact gcMode_syncHead _ _
      | released live => exact gcMode_drop _ _
      | missed dead => rfl

structure Inheritable (host : Host) (base : Handle) : Prop where
  issued : host.heap.Issued base
  subclassed : ∀ object, host.get? base = some object →
    ∃ u, object = .type u ∧ u.flags.contains .baseType = true

theorem inheritable_of_plan (planned : host.plan spec params = .ok t) (mem : base ∈ t.bases) :
    host.Inheritable base := by
  obtain ⟨bases, types, legacy, checks, rfl⟩ := plan_eq_ok planned
  obtain ⟨u, -, found⟩ := findBase_of_mem checks.found mem
  obtain ⟨found, subclassed⟩ := findBase_eq_ok.1 found
  refine ⟨issued_of_type? found, ?_⟩
  intro object here
  cases here.symm.trans (type?_eq_some.1 found)
  exact ⟨u, rfl, subclassed⟩

theorem Inheritable.fade (inheritable : before.Inheritable base) (fades : before.Fades after)
    (older : ∀ i, before.heap.age i ≤ after.heap.age i) : after.Inheritable base := by
  refine ⟨inheritable.issued.wanes fades.wanes older, ?_⟩
  intro object here
  obtain ⟨old, here, same⟩ := fades.objects base object here
  obtain ⟨u, rfl, subclassed⟩ := inheritable.subclassed old here
  exact ⟨u, HostObject.blank_eq_type.1 same.symm, subclassed⟩

theorem Inheritable.gain (inheritable : before.Inheritable base)
    (gains : before.Gains after object h) : after.Inheritable base := by
  refine ⟨gains.issued base inheritable.issued, ?_⟩
  have ne : base ≠ h := fun eq => gains.fresh (eq ▸ inheritable.issued)
  rw [gains.get?_of_ne ne]
  exact inheritable.subclassed

structure WellFormed (host : Host) : Prop where
  records : ∀ h t, host.type? h = some t → t.WellFormed host.gcMode
  based : ∀ h t, host.type? h = some t → t.builtin = false → ∀ base ∈ t.bases,
    host.Inheritable base

theorem WellFormed.fade (wf : before.WellFormed) (fades : before.Fades after)
    (mode : after.gcMode = before.gcMode) (older : ∀ i, before.heap.age i ≤ after.heap.age i) :
    after.WellFormed where
  records := fun h t found => mode ▸ wf.records h t (fades.type? found)
  based := fun h t found built base mem =>
    (wf.based h t (fades.type? found) built base mem).fade fades older

theorem Makes.wellFormed {call : HostCall} (makes : host.Makes call (.type t)) :
    t.WellFormed host.gcMode := by
  cases makes with
  | builtin sizes unnamed =>
      obtain ⟨basic, item⟩ := checkSizes_eq_ok.1 sizes
      refine ⟨basic, item, ?_⟩
      intro built
      cases built
  | type planned => exact wellFormed_of_plan planned

theorem Makes.inheritable {call : HostCall} (makes : host.Makes call (.type t))
    (built : t.builtin = false) (mem : base ∈ t.bases) : host.Inheritable base := by
  cases makes with
  | builtin sizes unnamed => cases built
  | type planned => exact inheritable_of_plan planned mem

theorem WellFormed.gain {call : HostCall} (wf : before.WellFormed)
    (makes : before.Makes call object) (gains : before.Gains after object h)
    (mode : after.gcMode = before.gcMode) : after.WellFormed := by
  constructor
  · intro other t found
    rw [mode]
    rcases gains.type?_cases found with rfl | found
    · exact makes.wellFormed
    · exact wf.records other t found
  · intro other t found built base mem
    refine Inheritable.gain ?_ gains
    rcases gains.type?_cases found with rfl | found
    · exact makes.inheritable built mem
    · exact wf.based other t found built base mem

theorem wellFormed_step {action : HostAction} (steady : host.Steady action)
    (wf : host.WellFormed) : (host.step action).WellFormed := by
  have mode := host.gcMode_step action
  rcases host.step_cases action with fades | ⟨call, object, -, makes, stored⟩
  · exact wf.fade fades mode steady.older
  · have room := steady.room
    rw [stored] at room mode ⊢
    exact wf.gain makes (store_gains steady.sound room) mode

theorem wellFormed_of_create (created : create gcMode builtins = .ok start)
    (small : start.heap.slotCount < 0xFFFFFFFF) : start.WellFormed := by
  refine create_induct_gains ?_ ?_ created small
  · intro gcMode object made small gains
    -- The universal base is made by no call, as it has nothing to inherit from.
    have only (h : Handle) (t : RegisteredType) (found : made.2.type? h = some t) :
        t = BuiltinType.register { name := "object" } [] := by
      rcases gains.type?_cases found with same | found
      · exact (HostObject.type.inj same).symm
      · simp [type?, get?, Heap.get?, Heap.slot?] at found
    constructor
    · intro h t found
      rw [only h t found]
      refine ⟨by decide, by decide, ?_⟩
      intro built
      cases built
    · intro h t found built
      rw [only h t found] at built
      cases built
  · intro host b object made makes small gains wf
    exact wf.gain makes gains rfl

/-- What an extension asks of a host: an action, or a registration in the wire form. -/
inductive Request where
  | plain (action : HostAction)
  | wire (raw : RawSpec) (params : Option (List RawParam))

/-- Wire forms are read before the host is called; what cannot be read never gets there. -/
def Request.actions : Request → List HostAction
  | .plain action => [action]
  | .wire raw params =>
    match raw.decode, RawParam.decodeAll params with
    | .ok spec, .ok params => [.call (.typeFromSpec spec params)]
    | _, _ => []

/-- Whatever was registered, refused and released before, every live type is well formed, and a type
built from a spec inherits only from what may be inherited from, as far as that still lives. -/
theorem registered_wellFormed {requests : List Request}
    (created : create gcMode builtins = .ok start)
    (room : (start.run (requests.flatMap Request.actions)).heap.slotCount < 0xFFFFFFFF)
    (few : ∀ i, start.frees (requests.flatMap Request.actions) i < 0x100000000) :
    let host := start.run (requests.flatMap Request.actions)
    ∀ h t, host.type? h = some t → t.WellFormed host.gcMode ∧
      (t.builtin = false → ∀ base ∈ t.bases, host.heap.contains base = true →
        ∃ u, host.type? base = some u ∧ u.flags.contains .baseType = true) := by
  intro host h t found
  have new := new_of_create created (room_of_run room)
  have wf : host.WellFormed := run_induct (motive := fun host _ => host.WellFormed)
    (fun host action rest steady wf => wellFormed_step steady wf) new.sound room (new.aged few)
    (wellFormed_of_create created (room_of_run room))
  refine ⟨wf.records h t found, ?_⟩
  intro built base mem live
  obtain ⟨object, here⟩ := exists_get? live
  obtain ⟨u, rfl, subclassed⟩ := (wf.based h t found built base mem).subclassed object here
  exact ⟨u, type?_eq_some.2 here, subclassed⟩

/-- A collected type that comes in the wire form and is given up while a subtype holds it. Between
them are a text that is not UTF-8 and a name that is taken. -/
theorem registered_wellFormed_wire :
    let raw (name : CString) : RawSpec :=
      { name := some name, basicsize := 16, itemsize := 0, flags := ⟨0x4400⟩
        legacy := 0, legacySlots := 0, doc := none
        defines := some [.slot 71 (some ⟨1⟩), .slot 71 (some ⟨2⟩)] }
    let requests : List Request :=
      [.wire (raw ⟨[80], by decide⟩) none, .wire (raw ⟨[255], by decide⟩) none,
        .plain (.call (.typeFromSpec { name := "Q" } [⟨.base, .pack 3 0⟩])),
        .wire (raw ⟨[80], by decide⟩) none, .plain (.call (.release (.pack 3 0)))]
    let host := (core .refCounting).run (requests.flatMap Request.actions)
    (∃ t, host.type? (.pack 4 0) = some t ∧ t.bases = [.pack 3 0] ∧ t.WellFormed host.gcMode) ∧
      ∃ u, host.type? (.pack 3 0) = some u ∧ u.slots = [.tpTraverse] ∧
        u.flags.contains .baseType = true := by
  intro raw requests host
  let first := (requests.take 4).flatMap Request.actions
  have split : requests.flatMap Request.actions = first ++ [.call (.release (.pack 3 0))] := by
    decide
  have released : host = (turns 1 ((core .refCounting).run first) [.pack 3 0]).1 := by
    refine (congrArg (core .refCounting).run split).trans ?_
    exact run_release first [] 1 (by decide) (by decide)
  have shape : (host.type? (.pack 4 0)).map (fun t => (t.builtin, t.bases))
        = some (false, [.pack 3 0]) ∧
      (host.type? (.pack 3 0)).map (·.slots) = some [.tpTraverse] := by
    rw [released]
    decide
  have room : host.heap.slotCount < 0xFFFFFFFF ∧ host.heap.contains (.pack 3 0) = true := by
    rw [released]
    decide
  have few (i : Nat) : (core .refCounting).frees (requests.flatMap Request.actions) i
      < 0x100000000 :=
    Nat.lt_of_le_of_lt (frees_le_length _ _ i) (by decide)
  have created : create .refCounting [] = .ok (core .refCounting) := rfl
  have wf := registered_wellFormed created room.1 few (.pack 4 0)
  obtain ⟨t, found, same⟩ := Option.map_eq_some_iff.1 shape.1
  obtain ⟨built, bases⟩ := Prod.mk.inj same
  obtain ⟨u, base, subclassed⟩ := (wf t found).2 built (.pack 3 0) (bases ▸ List.mem_cons_self)
    room.2
  refine ⟨⟨t, found, bases, (wf t found).1⟩, u, base, ?_, subclassed⟩
  have slots := shape.2
  rw [base] at slots
  exact Option.some.inj slots

end Host
end TypeHost
