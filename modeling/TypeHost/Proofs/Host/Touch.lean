import TypeHost.Proofs.Host.Balance
import TypeHost.Proofs.Host.Memory
import TypeHost.Proofs.Host.Plan

/-! What an action does to a slot. The object behind a handle is new, or it is what it was: counted
anew, with its header in step or without, or with some of its bytes overwritten. -/
namespace TypeHost

def HostAction.Silent (action : HostAction) (h : Handle) : Prop :=
  action ≠ .call (.addRef h) ∧ action ≠ .call (.release h)

def HostAction.items : HostAction → List Handle
  | .call (.newTuple items) => items
  | _ => []

theorem HostAction.mem_items {h : Handle} {action : HostAction} :
    h ∈ action.items ↔ ∃ items, action = .call (.newTuple items) ∧ h ∈ items := by
  constructor
  · intro mem
    cases action with
    | write other first bytes => cases mem
    | call call =>
        cases call with
        | newTuple items => exact ⟨items, rfl, mem⟩
        | registerBuiltin | typeFromSpec | newInstance | addRef | release => cases mem
  · rintro ⟨items, rfl, mem⟩
    exact mem

theorem silent_write {h other : Handle} {start : Nat} {bytes : List UInt8} :
    (HostAction.write other start bytes).Silent h := by
  constructor <;> intro same <;> cases same

theorem silent_addRef {h other : Handle} (ne : h ≠ other) :
    (HostAction.call (.addRef other)).Silent h := by
  constructor
  · rintro ⟨⟩
    exact ne rfl
  · intro same
    cases same

theorem silent_release {h other : Handle} (ne : h ≠ other) :
    (HostAction.call (.release other)).Silent h := by
  constructor
  · intro same
    cases same
  · rintro ⟨⟩
    exact ne rfl

/-- What no call and no write can change of an instance. -/
structure Instance.Lasts (i j : Instance) : Prop where
  type : j.type = i.type
  mode : j.mode = i.mode
  size : j.memory.size = i.memory.size

theorem Instance.Lasts.refl (i : Instance) : i.Lasts i := ⟨rfl, rfl, rfl⟩

theorem Instance.Lasts.trans {i j k : Instance} (first : i.Lasts j) (second : j.Lasts k) :
    i.Lasts k :=
  ⟨second.type.trans first.type, second.mode.trans first.mode, second.size.trans first.size⟩

theorem Instance.Lasts.symm {i j : Instance} (lasts : i.Lasts j) : j.Lasts i :=
  ⟨lasts.type.symm, lasts.mode.symm, lasts.size.symm⟩

/-- The instance was counted anew, and only the count in its header was rewritten. -/
structure Instance.Recounted (i j : Instance) (count : UInt32) : Prop where
  lasts : i.Lasts j
  head : j.memory.head = ⟨count.toUInt64.toInt64, i.memory.head.type⟩
  behind : ∀ k, 8 ≤ k → j.memory.byte k = i.memory.byte k

def HeapSlot.Synced (s t : HeapSlot HostObject) : Prop :=
  ∀ j, t.value = some (.inst j) → ∃ i, s.value = some (.inst i) ∧ i.Recounted j t.refCount

namespace HeapSlot

variable {s t u : HeapSlot HostObject}

theorem Synced.trans (first : s.Synced t) (second : t.Synced u) : s.Synced u := by
  intro k last
  obtain ⟨j, middle, later⟩ := second k last
  obtain ⟨i, here, now⟩ := first j middle
  refine ⟨i, here, now.lasts.trans later.lasts, ?_, ?_⟩
  · rw [later.head, now.head]
  · intro k behind
    rw [later.behind k behind, now.behind k behind]

theorem synced_recount (s : HeapSlot HostObject) (count : UInt32) : s.Synced (s.recount count) := by
  intro j value
  obtain ⟨object, full, synced⟩ := Option.map_eq_some_iff.1 value
  cases object with
  | inst i =>
      cases synced
      refine ⟨i, full, ⟨rfl, rfl, Memory.size_write ..⟩, i.memory.head_writeRefCount count, ?_⟩
      intro k behind
      exact Memory.byte_write_of_apart (.inr (by rwa [Memory.length_wordBytes]))
  | type t => cases synced
  | tuple items => cases synced

end HeapSlot

namespace Host

variable {host : Host} {h : Handle} {action : HostAction} {t : HeapSlot HostObject}
  {call : HostCall} {object : HostObject} {i : Instance}

/-- What the object of a call refers to, if it comes to be made. -/
def wanted (host : Host) : HostCall → List Handle
  | .registerBuiltin _ => [objectType]
  | .typeFromSpec spec params =>
    match host.plan spec params with
    | .ok t => t.bases
    | .error _ => []
  | .newInstance type _ => [type]
  | .newTuple items => items
  | .addRef _ | .release _ => []

def taken (host : Host) : HostAction → List Handle
  | .call call =>
    match (host.perform call).1 with
    | .made _ => host.wanted call
    | _ => []
  | .write .. => []

theorem Makes.wanted (makes : host.Makes call object) : host.wanted call = object.references := by
  cases makes with
  | builtin sizes unnamed => rfl
  | type planned => rw [Host.wanted, planned]; rfl
  | inst found small => rfl
  | tuple => rfl

theorem taken_of_made {m : Handle} (made : (host.perform call).1 = .made m) :
    host.taken (.call call) = host.wanted call := by
  simp only [taken, made]

theorem taken_of_unmade {answer : HostAnswer} (answered : (host.perform call).1 = answer)
    (unmade : ∀ m, answer ≠ .made m) : host.taken (.call call) = [] := by
  unfold taken
  dsimp only
  split
  · rename_i m made
    exact absurd (answered.symm.trans made) (unmade m)
  · rfl

theorem exists_of_mem_taken (mem : h ∈ host.taken (.call call)) :
    ∃ object, host.Makes call object ∧ h ∈ object.references := by
  have performed := host.perform_cases call
  generalize outcome : host.perform call = result at performed
  have answer := congrArg Prod.fst outcome
  cases performed with
  | @made _ object makes =>
      rw [taken_of_made answer, makes.wanted] at mem
      exact ⟨object, makes, mem⟩
  | refused | retained | released | missed =>
      rw [taken_of_unmade answer (by simp)] at mem
      cases mem

/-- Only a tuple can take a reference to an instance. The universal base is left out: its handle
might come to name an instance once all generations of its slot are used up. -/
theorem tuple_of_mem_taken (found : host.instance? h = some i) (ne : h ≠ objectType)
    (mem : h ∈ host.taken action) : ∃ items, action = .call (.newTuple items) ∧ h ∈ items := by
  have no_type (typed : host.isType h = true) : False := by
    obtain ⟨t, same⟩ := isType_iff.1 typed
    cases (instance?_eq_some.1 found).symm.trans same
  cases action with
  | write other first bytes => cases mem
  | call call =>
      obtain ⟨object, makes, mem⟩ := exists_of_mem_taken mem
      cases makes with
      | builtin sizes unnamed => exact absurd (List.mem_singleton.1 mem) ne
      | type planned => exact (no_type (isType_of_plan planned mem)).elim
      | @inst ty nitems t typed small =>
          have same : h = ty := List.mem_singleton.1 mem
          exact (no_type (same ▸ isType_iff.2 ⟨t, type?_eq_some.1 typed⟩)).elim
      | tuple => exact ⟨_, rfl, mem⟩

theorem count_taken_of_instance (found : host.instance? h = some i) (ne : h ≠ objectType) :
    (host.taken action).count h = action.items.count h := by
  by_cases mem : h ∈ host.taken action
  · obtain ⟨items, rfl, -⟩ := tuple_of_mem_taken found ne mem
    rfl
  · rw [List.count_eq_zero.2 mem, eq_comm, List.count_eq_zero]
    intro listed
    obtain ⟨items, rfl, item⟩ := HostAction.mem_items.1 listed
    exact mem item

theorem refCount?_of_slot? (found : host.heap.slot? h = some t) :
    host.refCount? h = some t.refCount := by
  rw [refCount?, Heap.refCount?, found, Option.map_some]

theorem slot?_of_retainAll (host : Host) (handles : List Handle)
    (found : (host.retainAll handles).heap.slot? h = some t) :
    ∃ s, host.heap.slot? h = some s ∧ t = { s with refCount := t.refCount } ∧
      t.refCount.toNat = min 0xFFFFFFFF (s.refCount.toNat + handles.count h) := by
  rw [slot?_retainAll] at found
  obtain ⟨s, before, rfl⟩ := Option.map_eq_some_iff.1 found
  exact ⟨s, before, rfl, Heap.toNat_countUpBy s.refCount _⟩

/-- What a new object leaves behind a handle: itself, or what was there, counted up. -/
theorem slot?_of_store (found : (host.store object).2.heap.slot? h = some t) :
    (h = (host.store object).1 ∧ (host.heap.Sound → host.heap.slot? h = none) ∧
      ∃ generation, t = ⟨generation, 1, some object⟩) ∨
    ∃ s, host.heap.slot? h = some s ∧ t = { s with refCount := t.refCount } ∧
      t.refCount.toNat = min 0xFFFFFFFF (s.refCount.toNat + object.references.count h) := by
  rcases Heap.slot?_of_allocate found with old | ⟨named, index, generation, unpack, vacant, new⟩
  · exact .inr (slot?_of_retainAll host _ old)
  · refine .inl ⟨named, ?_, generation, new⟩
    intro sound
    have kept := (host.fades_retainAll object.references).sound sound
    have missing := kept.missing_of_vacant unpack vacant
    rwa [slot?_retainAll, Option.map_eq_none_iff] at missing

theorem slot?_of_dropOne {other : Handle} (found : (host.dropOne other).1.heap.slot? h = some t) :
    ∃ s, host.heap.slot? h = some s ∧ (h ≠ other ∧ t = s ∨ h = other ∧ s.Synced t) := by
  by_cases same : h = other
  · subst same
    cases before : host.heap.slot? h with
    | none =>
        rw [dropOne_of_none before, before] at found
        cases found
    | some s =>
        rw [slot?_dropOne_self before] at found
        split at found
        · cases found
        · cases found
          exact ⟨s, rfl, .inr ⟨rfl, s.synced_recount _⟩⟩
  · rw [slot?_dropOne_of_ne same] at found
    exact ⟨t, found, .inl ⟨same, rfl⟩⟩

/-- The turn of the handle comes in the cascade that starts with the given handles. -/
def Reaches (host : Host) (pending : List Handle) (h : Handle) : Prop :=
  ∃ n rest, (turns n host pending).2 = h :: rest

theorem reaches_first (host : Host) (h : Handle) (pending : List Handle) :
    host.Reaches (h :: pending) h :=
  ⟨0, pending, rfl⟩

theorem Reaches.later {other : Handle} {pending : List Handle}
    (reaches : (host.dropOne other).1.Reaches ((host.dropOne other).2 ++ pending) h) :
    host.Reaches (other :: pending) h := by
  obtain ⟨n, rest, turn⟩ := reaches
  exact ⟨n + 1, rest, turn⟩

/-- A cascade leaves an object alone or reaches it and writes its new count into the header. -/
theorem slot?_of_drop {pending : List Handle} (found : (host.drop pending).heap.slot? h = some t) :
    ∃ s, host.heap.slot? h = some s ∧ (t = s ∨ host.Reaches pending h ∧ s.Synced t) := by
  induction host, pending using drop_induct with
  | nil host =>
      rw [drop_nil] at found
      exact ⟨t, found, .inl rfl⟩
  | cons host a pending ih =>
      rw [drop_cons] at found
      obtain ⟨u, middle, later⟩ := ih found
      obtain ⟨s, before, now⟩ := slot?_of_dropOne middle
      refine ⟨s, before, ?_⟩
      rcases now with ⟨-, rfl⟩ | ⟨rfl, synced⟩
      · exact later.imp_right fun both => ⟨both.1.later, both.2⟩
      · refine .inr ⟨host.reaches_first h pending, ?_⟩
        rcases later with rfl | ⟨-, synced'⟩
        · exact synced
        · exact synced.trans synced'

def Syncs (host : Host) (action : HostAction) (h : Handle) : Prop :=
  action = .call (.addRef h) ∨
    ∃ other, action = .call (.release other) ∧ host.Reaches [other] h

/-- All that an action can do to the slot of an object that lives after it. -/
inductive Touched (host : Host) (action : HostAction) (h : Handle) (t : HeapSlot HostObject) : Prop
  | made (call : HostCall) (object : HostObject) (generation : UInt32) :
      action = .call call → host.Makes call object → (host.perform call).1 = .made h →
      (host.heap.Sound → host.heap.slot? h = none) → t = ⟨generation, 1, some object⟩ →
      Touched host action h t
  | synced (s : HeapSlot HostObject) : host.heap.slot? h = some s → host.Syncs action h →
      s.Synced t → Touched host action h t
  | counted (s : HeapSlot HostObject) : host.heap.slot? h = some s → action.Silent h →
      t = { s with refCount := t.refCount } →
      t.refCount.toNat = min 0xFFFFFFFF (s.refCount.toNat + (host.taken action).count h) →
      Touched host action h t
  | written (s : HeapSlot HostObject) (i : Instance) (start : Nat) (bytes : List UInt8) :
      action = .write h start bytes → host.heap.slot? h = some s → s.value = some (.inst i) →
      t = { s with value := some (.inst { i with memory := i.memory.write start bytes }) } →
      Touched host action h t

theorem touched_of_same (found : host.heap.slot? h = some t) (silent : action.Silent h)
    (none_taken : host.taken action = []) : host.Touched action h t := by
  have bound := t.refCount.toNat_lt
  refine .counted t found silent rfl ?_
  rw [none_taken, List.count_nil]
  omega

theorem touched_write {other : Handle} {first : Nat} {bytes : List UInt8}
    (found : (host.step (.write other first bytes)).heap.slot? h = some t) :
    host.Touched (.write other first bytes) h t := by
  rw [step, writeMemory] at found
  cases here : host.instance? other with
  | none =>
      rw [here] at found
      exact touched_of_same found silent_write rfl
  | some i =>
      rw [here] at found
      dsimp only at found
      split at found
      · rename_i next eq
        split at eq
        · cases eq
          by_cases same : h = other
          · subst same
            obtain ⟨s, before, rfl⟩ :=
              Option.map_eq_some_iff.1 ((Heap.slot?_update_self host.heap h _).symm.trans found)
            have value : s.value = some (.inst i) := by
              have object := instance?_eq_some.1 here
              rwa [get?, Heap.get?, before] at object
            refine .written s i first bytes rfl before value ?_
            rw [value]
            rfl
          · exact touched_of_same ((Heap.slot?_update_of_ne same).symm.trans found) silent_write rfl
        · cases eq
      · exact touched_of_same found silent_write rfl

theorem touched_addRef {other : Handle}
    (found : ({ host with heap := host.heap.addRef other }.syncHead other).heap.slot? h = some t) :
    host.Touched (.call (.addRef other)) h t := by
  cases before : host.heap.slot? other with
  | none =>
      rw [Heap.addRef_of_none before, syncHead_of_none before] at found
      have ne : h ≠ other := by
        rintro rfl
        cases before.symm.trans found
      exact touched_of_same found (silent_addRef ne) rfl
  | some s =>
      rw [Heap.addRef_of_slot? before, syncHead_setSlot before] at found
      by_cases same : h = other
      · subst same
        have full := Heap.isSome_of_slot? before
        have now := Heap.slot?_setSlot_self (t := s.recount (Heap.countUp s.refCount)) before rfl
          (by simpa [HeapSlot.recount] using full)
        cases now.symm.trans found
        exact .synced s before (.inl rfl) (s.synced_recount _)
      · have kept := Heap.slot?_setSlot_of_ne (t := s.recount (Heap.countUp s.refCount)) before
          (fun _ => rfl) same
        have old : host.heap.slot? h = some t := kept.symm.trans found
        exact touched_of_same old (silent_addRef same) rfl

theorem touched_release {other : Handle}
    (found : (host.drop [other]).heap.slot? h = some t) :
    host.Touched (.call (.release other)) h t := by
  rw [drop_cons] at found
  obtain ⟨u, middle, later⟩ := slot?_of_drop found
  obtain ⟨s, before, now⟩ := slot?_of_dropOne middle
  rcases now with ⟨ne, rfl⟩ | ⟨rfl, synced⟩
  · rcases later with rfl | ⟨reaches, synced⟩
    · exact touched_of_same before (silent_release ne) rfl
    · exact .synced u before (.inr ⟨other, rfl, reaches.later⟩) synced
  · have syncs : host.Syncs (.call (.release h)) h := .inr ⟨h, rfl, host.reaches_first h []⟩
    rcases later with rfl | ⟨-, synced'⟩
    · exact .synced s before syncs synced
    · exact .synced s before syncs (synced.trans synced')

/-- Adding and dropping are answered by whether the handle was live. -/
theorem silent_of_uncounted {answer : HostAnswer} (answered : (host.perform call).1 = answer)
    (uncounted : ∀ live, answer ≠ .counted live) : (HostAction.call call).Silent h := by
  constructor
  · rintro ⟨⟩
    exact uncounted _ answered.symm
  · rintro ⟨⟩
    rw [perform] at answered
    exact uncounted _ answered.symm

theorem touched_step (found : (host.step action).heap.slot? h = some t) :
    host.Touched action h t := by
  cases action with
  | write other first bytes => exact touched_write found
  | call call =>
      rw [step] at found
      have performed := host.perform_cases call
      generalize outcome : host.perform call = result at performed found
      have answer := congrArg Prod.fst outcome
      cases performed with
      | refused =>
          exact touched_of_same found (silent_of_uncounted answer (by simp))
            (taken_of_unmade answer (by simp))
      | made makes =>
          have silent : (HostAction.call call).Silent h :=
            silent_of_uncounted answer (by simp)
          rcases slot?_of_store found with
            ⟨rfl, missing, generation, new⟩ | ⟨s, before, same, count⟩
          · exact .made call _ generation rfl makes answer missing new
          · rw [← makes.wanted, ← taken_of_made answer] at count
            exact .counted s before silent same count
      | retained => exact touched_addRef found
      | released => exact touched_release found
      | @missed other dead =>
          have ne : h ≠ other := by
            rintro rfl
            rw [Heap.contains, found] at dead
            cases dead
          exact touched_of_same found (silent_release ne)
            (taken_of_unmade answer (by simp))

end Host
end TypeHost
