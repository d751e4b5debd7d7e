import TypeHost.Host.Run
import TypeHost.Proofs.Host.Cascade

/-! What a call can do to the host. Every call that makes an object stores it in the same way, so
calls differ only in the object that they store and in when they refuse. -/
namespace TypeHost

namespace Host

variable {host : Host} {h : Handle} {t : RegisteredType} {i : Instance}

theorem instance?_eq_some : host.instance? h = some i ↔ host.get? h = some (.inst i) := by
  unfold instance?
  split <;> simp_all

theorem type?_eq_some : host.type? h = some t ↔ host.get? h = some (.type t) := by
  unfold type?
  split <;> simp_all

theorem issued_of_type? (found : host.type? h = some t) : host.heap.Issued h := by
  obtain ⟨s, found', -⟩ := Option.bind_eq_some_iff.1 (type?_eq_some.1 found)
  exact Heap.issued_of_slot? found'

/-- Takes a reference to each handle that the object holds, and gives it a slot and its name. -/
def store (host : Host) (object : HostObject) : Handle × Host :=
  let kept := host.retainAll object.references
  let placed := kept.heap.allocate object
  (placed.1, { kept with
    heap := placed.2
    names := object.name?.elim host.names fun name => host.names.insert name placed.1 })

inductive Makes (host : Host) : HostCall → HostObject → Prop
  | builtin {b : BuiltinType} : checkSizes b.basicsize b.itemsize = .ok () →
      host.lookup b.name = none →
      Makes host (.registerBuiltin b) (.type (b.register [objectType]))
  | type {spec : TypeSpec} {params : List SpecParam} {t : RegisteredType} :
      host.plan spec params = .ok t → Makes host (.typeFromSpec spec params) (.type t)
  | inst {ty : Handle} {nitems : UInt64} {t : RegisteredType} : host.type? ty = some t →
      t.allocation nitems ≤ largestAllocation →
      Makes host (.newInstance ty nitems) (.inst (.fresh ty t.legacy (t.allocation nitems)))
  | tuple {items : List Handle} : Makes host (.newTuple items) (.tuple items)

/-- All that a call can do. -/
inductive Performed (host : Host) : HostCall → HostAnswer × Host → Prop
  | refused {call : HostCall} {cause : HostError} : Performed host call (.refused cause, host)
  | made {call : HostCall} {object : HostObject} : host.Makes call object →
      Performed host call (.made (host.store object).1, (host.store object).2)
  | retained {h : Handle} : Performed host (.addRef h)
      (.counted (host.heap.contains h), { host with heap := host.heap.addRef h }.syncHead h)
  | released {h : Handle} : host.heap.contains h = true →
      Performed host (.release h) (.counted true, host.drop [h])
  | missed {h : Handle} : host.heap.contains h = false →
      Performed host (.release h) (.counted false, host)

/-- A call either fails before it has changed anything or stores the object that it makes. -/
def Settles (host : Host) (call : HostCall) (result : Except HostError Handle × Host) : Prop :=
  (∃ cause, result = (.error cause, host)) ∨
    ∃ object, host.Makes call object ∧
      result = (.ok (host.store object).1, (host.store object).2)

theorem Settles.performed {call : HostCall} {result : Except HostError Handle × Host}
    (settles : host.Settles call result) : host.Performed call (settle result) := by
  rcases settles with ⟨cause, refused⟩ | ⟨object, makes, made⟩
  · rw [refused]
    exact .refused
  · rw [made]
    exact .made makes

theorem registerBuiltin_eq (host : Host) (b : BuiltinType) :
    host.registerBuiltin b =
      match checkSizes b.basicsize b.itemsize with
      | .error cause => (.error (.spec cause), host)
      | .ok () =>
        let made := host.store (.type (b.register [objectType]))
        if (host.lookup b.name).isSome then (.error (.duplicateTypeName b.name), host)
        else (.ok made.1, made.2) := by
  rw [registerBuiltin]
  cases sizes : checkSizes b.basicsize b.itemsize with
  | error e => simp [liftSpec]
  | ok _ =>
      have made : (host.retainAll [objectType]).insertType (b.register [objectType])
        = host.store (.type (b.register [objectType])) := rfl
      cases taken : (host.lookup b.name).isSome <;> simp [liftSpec, taken, made]

theorem registerBuiltin_settles (host : Host) (b : BuiltinType) :
    host.Settles (.registerBuiltin b) (host.registerBuiltin b) := by
  rw [registerBuiltin_eq]
  cases sizes : checkSizes b.basicsize b.itemsize with
  | error e => exact .inl ⟨_, rfl⟩
  | ok _ =>
      dsimp only
      split
      · exact .inl ⟨_, rfl⟩
      · rename_i untaken
        exact .inr ⟨_, .builtin sizes (by simpa using untaken), rfl⟩

theorem typeFromSpec_eq (host : Host) (spec : TypeSpec) (params : List SpecParam) :
    host.typeFromSpec spec params =
      match host.plan spec params with
      | .error cause => (.error cause, host)
      | .ok t => (.ok (host.store (.type t)).1, (host.store (.type t)).2) := by
  rw [typeFromSpec]
  cases planned : host.plan spec params with
  | error e => simp [planned]
  | ok t =>
      have made : (host.retainAll t.bases).insertType t = host.store (.type t) := rfl
      simp [planned, made]

theorem typeFromSpec_settles (host : Host) (spec : TypeSpec) (params : List SpecParam) :
    host.Settles (.typeFromSpec spec params) (host.typeFromSpec spec params) := by
  rw [typeFromSpec_eq]
  cases planned : host.plan spec params with
  | error e => exact .inl ⟨e, rfl⟩
  | ok t => exact .inr ⟨_, .type planned, rfl⟩

theorem findType_eq_ok {ty : Handle} {t : RegisteredType} :
    host.findType ty = .ok t ↔ host.type? ty = some t := by
  unfold findType type?
  split <;> simp_all

theorem newInstance_eq (host : Host) (ty : Handle) (nitems : UInt64) :
    host.newInstance ty nitems =
      match host.findType ty with
      | .error cause => (.error cause, host)
      | .ok t =>
        let made := host.store (.inst (.fresh ty t.legacy (t.allocation nitems)))
        if largestAllocation < t.allocation nitems
        then (.error (.instanceTooLarge t.name nitems), host) else (.ok made.1, made.2) := by
  rw [newInstance]
  cases found : host.findType ty with
  | error e => simp [found]
  | ok t =>
      cases fits : t.allocation? nitems with
      | none => simp [found, fits, RegisteredType.allocation?_eq_none.1 fits]
      | some size =>
          obtain ⟨same, small⟩ := RegisteredType.allocation?_eq_some.1 fits
          have made : (host.retainAll [ty]).insert (.inst (.fresh ty t.legacy size.toNat))
            = host.store (.inst (.fresh ty t.legacy size.toNat)) := rfl
          rw [← same] at small
          simp [found, fits, ← same, Nat.not_lt.2 small, made]

theorem newInstance_settles (host : Host) (ty : Handle) (nitems : UInt64) :
    host.Settles (.newInstance ty nitems) (host.newInstance ty nitems) := by
  rw [newInstance_eq]
  cases found : host.findType ty with
  | error e => exact .inl ⟨e, rfl⟩
  | ok t =>
      dsimp only
      split
      · exact .inl ⟨_, rfl⟩
      · rename_i small
        exact .inr ⟨_, .inst (findType_eq_ok.1 found) (Nat.le_of_not_lt small), rfl⟩

theorem perform_cases (host : Host) (call : HostCall) :
    host.Performed call (host.perform call) := by
  cases call with
  | registerBuiltin b => exact (host.registerBuiltin_settles b).performed
  | typeFromSpec spec params => exact (host.typeFromSpec_settles spec params).performed
  | newInstance ty nitems => exact (host.newInstance_settles ty nitems).performed
  | newTuple items => exact .made .tuple
  | addRef h => exact .retained
  | release h =>
      rw [perform, release]
      split
      · rename_i live
        exact .released live
      · rename_i dead
        exact .missed (by simpa using dead)

/-- Nothing has been done to the host by the time a call is refused. -/
theorem perform_of_refused {call : HostCall} {cause : HostError}
    (refused : (host.perform call).1 = .refused cause) : (host.perform call).2 = host := by
  have performed := host.perform_cases call
  generalize host.perform call = result at performed refused
  cases performed with
  | refused => rfl
  | made | retained | released | missed => cases refused

theorem perform_release (n : Nat) (live : host.heap.contains h = true)
    (ended : (turns n host [h]).2 = []) :
    host.perform (.release h) = (.counted true, (turns n host [h]).1) := by
  rw [perform, release, if_pos live, drop_eq_turns n ended]

theorem step_release (n : Nat) (live : host.heap.contains h = true)
    (ended : (turns n host [h]).2 = []) :
    host.step (.call (.release h)) = (turns n host [h]).1 :=
  congrArg Prod.snd (perform_release n live ended)

/-- A host grows from an empty one by storing its own types. -/
theorem core_eq_store (gcMode : GcMode) :
    core gcMode =
      let object := (store { gcMode } (.type (BuiltinType.register { name := "object" } []))).2
      let type := (object.store (.type (BuiltinType.register
        { name := "type", flags := .versionTagTracking, legacy := true } [objectType]))).2
      (type.store (.type (BuiltinType.register
        { name := "tuple", basicsize := 24, itemsize := 8, legacy := true } [objectType]))).2 := by
  rfl

end Host
end TypeHost
