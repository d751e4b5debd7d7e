import TypeHost.Proofs.Heap.Map
import TypeHost.Proofs.Host.Fade
import TypeHost.Proofs.Host.Inheritance

/-! What is written into instances is unseen. A host and its blank, in which all memory is wiped,
answer every question alike, and every call takes hosts with one blank to hosts with one blank. -/
namespace TypeHost

@[simp] theorem HostObject.blank_blank (object : HostObject) : object.blank.blank = object.blank := by
  cases object <;> rfl

namespace Host

variable {host x y : Host} {h : Handle} {object : HostObject} {actions : List HostAction}

def blank (host : Host) : Host := { host with heap := host.heap.map HostObject.blank }

theorem blank_eq_iff : x.blank = y.blank ↔ x.gcMode = y.gcMode ∧
    x.heap.map HostObject.blank = y.heap.map HostObject.blank ∧ x.names = y.names := by
  rw [blank, blank, Host.mk.injEq]

section Queries

theorem get?_blank (host : Host) (h : Handle) :
    host.blank.get? h = (host.get? h).map HostObject.blank :=
  Heap.get?_map _ host.heap h

@[simp] theorem type?_blank (host : Host) (h : Handle) : host.blank.type? h = host.type? h := by
  rw [type?, type?, get?_blank]
  rcases host.get? h with _ | t | items | i <;> rfl

@[simp] theorem tuple?_blank (host : Host) (h : Handle) : host.blank.tuple? h = host.tuple? h := by
  rw [tuple?, tuple?, get?_blank]
  rcases host.get? h with _ | t | items | i <;> rfl

@[simp] theorem isType_blank (host : Host) (h : Handle) : host.blank.isType h = host.isType h := by
  simp [isType]

@[simp] theorem typeInfo_blank (host : Host) (h : Handle) :
    host.blank.typeInfo h = host.typeInfo h := by
  simp [typeInfo]

@[simp] theorem typeOf_blank (host : Host) (h : Handle) : host.blank.typeOf h = host.typeOf h := by
  rw [typeOf, typeOf, get?_blank]
  rcases host.get? h with _ | t | items | i <;> rfl

@[simp] theorem findType_blank (host : Host) (h : Handle) :
    host.blank.findType h = host.findType h := by
  rw [findType, findType, get?_blank]
  rcases host.get? h with _ | t | items | i <;> rfl

@[simp] theorem asStruct_blank (host : Host) (h : Handle) :
    host.blank.asStruct h = host.asStruct h := by
  rw [asStruct, asStruct, instance?, instance?, get?_blank]
  rcases host.get? h with _ | t | items | i <;> rfl

@[simp] theorem asStructLegacy_blank (host : Host) (h : Handle) :
    host.blank.asStructLegacy h = host.asStructLegacy h := by
  rw [asStructLegacy, asStructLegacy, instance?, instance?, get?_blank]
  rcases host.get? h with _ | t | items | i <;> rfl

@[simp] theorem instanceSize_blank (host : Host) (h : Handle) :
    host.blank.instanceSize h = host.instanceSize h := by
  rw [instanceSize, instanceSize, instance?, instance?, get?_blank]
  rcases host.get? h with _ | t | items | i <;> rfl

@[simp] theorem refCount?_blank (host : Host) (h : Handle) :
    host.blank.refCount? h = host.refCount? h :=
  Heap.refCount?_map _ host.heap h

@[simp] theorem lookup_blank (host : Host) (name : String) :
    host.blank.lookup name = host.lookup name := rfl

theorem Climbs.of_types {target : Handle} {seen : List Handle} (climbs : x.Climbs target seen h)
    (types : ∀ h, x.type? h = y.type? h) : y.Climbs target seen h := by
  induction climbs with
  | arrived found unseen => exact .arrived (types _ ▸ found) unseen
  | up found unseen mem _ ih => exact .up (types _ ▸ found) unseen mem ih

@[simp] theorem isSubtype_blank (host : Host) (sub ty : Handle) :
    host.blank.isSubtype sub ty = host.isSubtype sub ty := by
  rw [Bool.eq_iff_iff, isSubtype_iff, isSubtype_iff]
  constructor
  · intro climbs
    exact climbs.of_types host.type?_blank
  · intro climbs
    exact climbs.of_types fun h => (host.type?_blank h).symm

@[simp] theorem context_blank (host : Host) : host.blank.context = host.context := by
  rw [context, context, Context.mk.injEq]
  refine ⟨?_, ?_, ?_, ?_, ?_, ?_, ?_⟩
  · funext h; exact host.isType_blank h
  · funext h; exact host.tuple?_blank h
  · funext h; exact host.typeOf_blank h
  · funext h; exact host.typeInfo_blank h
  · funext sub ty; exact host.isSubtype_blank sub ty
  · funext h; exact host.asStruct_blank h
  · funext h; exact host.asStructLegacy_blank h

@[simp] theorem plan_blank (host : Host) (spec : TypeSpec) (params : List SpecParam) :
    host.blank.plan spec params = host.plan spec params := by
  have bases : host.blank.basesFor params = host.basesFor params := by
    rw [basesFor, basesFor, context_blank]
  have base : host.blank.findBase = host.findBase := by
    funext h
    rw [findBase, findBase, findType_blank]
  have mode : host.blank.gcMode = host.gcMode := rfl
  rw [plan, plan, context_blank, lookup_blank, bases, base, mode]

end Queries

structure View where
  context : Context Id Location
  checked : Accessor → Handle → Handle → Except AccessError Location
  cast : Accessor → Handle → Option Location
  registered : Handle → Option RegisteredType
  named : String → Option Handle
  refCount : Handle → Option UInt32
  instanceSize : Handle → Option Nat
  live : Nat
  gcMode : GcMode

def view (host : Host) : View where
  context := host.context
  checked a h ty := a.checkedFromHandle host.context h ty
  cast a h := a.fromHandle host.context h
  registered := host.type?
  named := host.lookup
  refCount := host.refCount?
  instanceSize := host.instanceSize
  live := host.heap.live
  gcMode := host.gcMode

theorem view_blank (host : Host) : host.blank.view = host.view := by
  rw [view, view, context_blank, View.mk.injEq]
  refine ⟨rfl, rfl, rfl, ?_, rfl, ?_, ?_, ?_, rfl⟩
  · funext h; exact host.type?_blank h
  · funext h; exact host.refCount?_blank h
  · funext h; exact host.instanceSize_blank h
  · exact Heap.live_map _ host.heap

theorem view_of_blank (same : x.blank = y.blank) : x.view = y.view := by
  rw [← view_blank x, same, view_blank]

section Calls

@[simp] theorem blank_syncHead (host : Host) (h : Handle) : (host.syncHead h).blank = host.blank := by
  unfold syncHead
  split
  · rename_i count _
    rw [blank, blank, Heap.map_update fun object _ => HostObject.blank_syncHead count object]
  · rfl

theorem blank_write (host : Host) (h : Handle) (start : Nat) (bytes : List UInt8) :
    (host.step (.write h start bytes)).blank = host.blank := by
  rcases host.write_cases h start bytes with same | ⟨f, same, written⟩
  · rw [same]
  · rw [written, blank, blank, Heap.map_update same]

theorem blank_addRef (host : Host) (h : Handle) :
    ({ host with heap := host.heap.addRef h } : Host).blank
      = { host.blank with heap := host.blank.heap.addRef h } := by
  simp only [blank, Heap.addRef_map]

theorem blank_retainAll (host : Host) (handles : List Handle) :
    (host.retainAll handles).blank = host.blank.retainAll handles := by
  induction handles generalizing host with
  | nil => rfl
  | cons a rest ih =>
      refine (ih { host with heap := host.heap.addRef a }).trans ?_
      rw [blank_addRef]
      rfl

theorem blank_store (host : Host) (object : HostObject) :
    ((host.store object).1, (host.store object).2.blank) = host.blank.store object.blank := by
  have named : object.blank.name? = object.name? := by cases object <;> rfl
  have kept := host.blank_retainAll object.references
  have placed := (host.retainAll object.references).heap.allocate_map HostObject.blank object
  rw [store, store, HostObject.references_blank, named, ← kept]
  simp only [blank] at placed ⊢
  rw [placed]

theorem store_alike (same : x.blank = y.blank) (object : HostObject) :
    (x.store object).1 = (y.store object).1 ∧
      (x.store object).2.blank = (y.store object).2.blank := by
  have stored := x.blank_store object
  rw [same, ← y.blank_store] at stored
  exact Prod.mk.inj stored

theorem namesWithout_blank (names : Std.ExtTreeMap String Handle) (h : Handle)
    (object : HostObject) :
    namesWithout names h (some object.blank) = namesWithout names h (some object) := by
  cases object <;> rfl

/-- A turn of a cascade goes by counts and references, and by the names of types. -/
theorem dropOne_alike (same : x.blank = y.blank) (h : Handle) :
    (x.dropOne h).1.blank = (y.dropOne h).1.blank ∧ (x.dropOne h).2 = (y.dropOne h).2 := by
  obtain ⟨mode, heaps, names⟩ := blank_eq_iff.1 same
  have released := congrArg (Heap.release · h) heaps
  simp only [Heap.release_map, Prod.mk.injEq] at released
  unfold dropOne
  generalize x.heap.release h = first, y.heap.release h = second at released ⊢
  obtain ⟨freed, heap⟩ := first
  obtain ⟨freed', heap'⟩ := second
  obtain ⟨objects, heaps⟩ := released
  cases freed with
  | none =>
      cases freed' with
      | none =>
          refine ⟨?_, rfl⟩
          rw [blank_syncHead, blank_syncHead]
          exact blank_eq_iff.2 ⟨mode, heaps, names⟩
      | some object' => cases objects
  | some object =>
      cases freed' with
      | none => cases objects
      | some object' =>
          have blanks : object.blank = object'.blank := Option.some.inj objects
          dsimp only
          refine ⟨?_, ?_⟩
          · rw [forgetName_eq, forgetName_eq]
            refine blank_eq_iff.2 ⟨mode, heaps, ?_⟩
            rw [names, ← namesWithout_blank, blanks, namesWithout_blank]
          · rw [← object.references_blank, blanks, object'.references_blank]

theorem drop_alike_of_blank (same : x.blank = y.blank) (pending : List Handle) :
    (x.drop pending).blank = (y.drop pending).blank := by
  induction x, pending using drop_induct generalizing y with
  | nil x => rwa [drop_nil, drop_nil]
  | cons x h pending ih =>
      obtain ⟨turn, left⟩ := dropOne_alike same h
      rw [drop_cons, drop_cons y, ← left]
      exact ih turn

theorem settle_alike {result result' : Except HostError Handle × Host} (same : x.blank = y.blank)
    (alike : (∃ cause, result = (.error cause, x) ∧ result' = (.error cause, y)) ∨
      ∃ object, result = (.ok (x.store object).1, (x.store object).2) ∧
        result' = (.ok (y.store object).1, (y.store object).2)) :
    (settle result).1 = (settle result').1 ∧
      (settle result).2.blank = (settle result').2.blank := by
  rcases alike with ⟨cause, rfl, rfl⟩ | ⟨object, rfl, rfl⟩
  · exact ⟨rfl, same⟩
  · obtain ⟨handles, hosts⟩ := store_alike same object
    exact ⟨congrArg HostAnswer.made handles, hosts⟩

theorem perform_alike (same : x.blank = y.blank) (call : HostCall) :
    (x.perform call).1 = (y.perform call).1 ∧
      (x.perform call).2.blank = (y.perform call).2.blank := by
  have live (h : Handle) : x.heap.contains h = y.heap.contains h := by
    rw [← Heap.contains_map HostObject.blank, (blank_eq_iff.1 same).2.1, Heap.contains_map]
  cases call with
  | registerBuiltin b =>
      have name : x.lookup b.name = y.lookup b.name := by rw [← lookup_blank, same, lookup_blank]
      refine settle_alike same ?_
      rw [registerBuiltin_eq, registerBuiltin_eq, name]
      cases checkSizes b.basicsize b.itemsize with
      | error cause => exact .inl ⟨_, rfl, rfl⟩
      | ok _ =>
          dsimp only
          split
          · exact .inl ⟨_, rfl, rfl⟩
          · exact .inr ⟨_, rfl, rfl⟩
  | typeFromSpec spec params =>
      have planned : x.plan spec params = y.plan spec params := by
        rw [← plan_blank, same, plan_blank]
      refine settle_alike same ?_
      rw [typeFromSpec_eq, typeFromSpec_eq, planned]
      cases y.plan spec params with
      | error cause => exact .inl ⟨_, rfl, rfl⟩
      | ok t => exact .inr ⟨.type t, rfl, rfl⟩
  | newInstance ty nitems =>
      have found : x.findType ty = y.findType ty := by rw [← findType_blank, same, findType_blank]
      refine settle_alike same ?_
      rw [newInstance_eq, newInstance_eq, found]
      cases y.findType ty with
      | error cause => exact .inl ⟨cause, rfl, rfl⟩
      | ok t =>
          dsimp only
          split
          · exact .inl ⟨_, rfl, rfl⟩
          · exact .inr ⟨_, rfl, rfl⟩
  | newTuple items =>
      obtain ⟨handles, hosts⟩ := store_alike same (.tuple items)
      exact ⟨congrArg HostAnswer.made handles, hosts⟩
  | addRef h =>
      refine ⟨congrArg HostAnswer.counted (live h), ?_⟩
      change (Host.syncHead _ h).blank = (Host.syncHead _ h).blank
      rw [blank_syncHead, blank_syncHead, blank_addRef, blank_addRef, same]
  | release h =>
      rw [perform, perform, release, release, live h]
      split
      · exact ⟨rfl, drop_alike_of_blank same [h]⟩
      · exact ⟨rfl, same⟩

end Calls

def calls (actions : List HostAction) : List HostCall :=
  actions.filterMap fun
    | .call call => some call
    | .write .. => none

theorem run_alike (same : x.blank = y.blank) (actions : List HostAction) :
    x.answers actions = y.answers ((calls actions).map .call) ∧
      (x.run actions).blank = (y.run ((calls actions).map .call)).blank := by
  induction actions generalizing x y with
  | nil => exact ⟨rfl, same⟩
  | cons action rest ih =>
      cases action with
      | write h start bytes => exact ih ((x.blank_write h start bytes).trans same)
      | call call =>
          obtain ⟨answer, next⟩ := perform_alike same call
          obtain ⟨answers, ends⟩ := ih next
          exact ⟨congrArg₂ List.cons answer answers, ends⟩

/-- Two runs with the same calls give the same answers, whatever is written during either, and
wherever both have made the same calls so far, every question is answered alike. -/
theorem writes_unseen (start : Host) {first second : List HostAction}
    (same : calls first = calls second) :
    start.answers first = start.answers second ∧
    ∀ earlier earlier', earlier <+: first → earlier' <+: second → calls earlier = calls earlier' →
      (start.run earlier).view = (start.run earlier').view := by
  refine ⟨?_, ?_⟩
  · rw [(run_alike rfl first).1, same, ← (run_alike rfl second).1]
  · intro earlier earlier' _ _ same
    apply view_of_blank
    rw [(run_alike rfl earlier).2, same, ← (run_alike rfl earlier').2]

/-- A header overwritten with zeros: the instance is freed neither early nor late. -/
theorem writes_unseen_header :
    let made : HostAction := .call (.newInstance tupleType 0)
    let object : Handle := .pack 3 0
    let zeros : HostAction := .write object 0 (List.replicate 16 0)
    let rest : List HostAction :=
      [.call (.addRef object), .call (.release object), .call (.release object)]
    let start := core .refCounting
    calls (made :: zeros :: rest) = calls (made :: rest) ∧
    start.answers (made :: zeros :: rest) = start.answers (made :: rest) ∧
    (start.run [made, zeros]).view = (start.run [made]).view ∧
    (start.run [made, zeros]).head? object ≠ (start.run [made]).head? object := by
  intro made object zeros rest start
  have same : calls (made :: zeros :: rest) = calls (made :: rest) := by decide
  obtain ⟨answers, views⟩ := writes_unseen start same
  have points := views [made, zeros] [made] ⟨rest, rfl⟩ ⟨rest, rfl⟩ rfl
  exact ⟨same, answers, points, by decide⟩

end Host
end TypeHost
