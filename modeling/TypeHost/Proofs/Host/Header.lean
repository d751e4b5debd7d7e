import TypeHost.Proofs.Host.Lasting
import TypeHost.Proofs.Host.Touch

/-! The header of an instance. It names the type for good, and it shows the count as it was when the
host last wrote it there: at the making of the instance, at a reference added or dropped, and in a
cascade. References that new objects take are counted, but the header does not show them. -/
namespace TypeHost

def HostAction.SparesHeader : HostAction → Prop
  | .write _ start bytes => headSize ≤ start ∨ bytes = []
  | .call _ => True

namespace Host

variable {host start : Host} {h : Handle} {action : HostAction} {actions : List HostAction}
  {t : HeapSlot HostObject} {object : HostObject} {gcMode : GcMode} {builtins : List BuiltinType}
  {i : Instance}

def lag (host : Host) (h : Handle) : List HostAction → Nat
  | [] => 0
  | action :: rest => (host.taken action).count h + (host.step action).lag h rest

theorem lag_append (host : Host) (h : Handle) (first second : List HostAction) :
    host.lag h (first ++ second) = host.lag h first + (host.run first).lag h second := by
  induction first generalizing host with
  | nil => exact (Nat.zero_add _).symm
  | cons action rest ih =>
      rw [List.cons_append, lag, lag, ih, Nat.add_assoc]
      rfl

theorem head_fresh (type : Handle) (legacy : Bool) (size : Nat) :
    (Instance.fresh type legacy size).memory.head = ⟨(1 : UInt32).toUInt64.toInt64, type⟩ := by
  rw [Instance.fresh, Memory.head_writeType, Memory.head_writeRefCount]

/-- The header of an instance after `first` and `rest`: it names the type and shows the count of the
handle as it was before `rest`, which took references but added and dropped none by name. -/
structure ShownSince (start : Host) (h : Handle) (first rest : List HostAction) (count : UInt32)
    (i : Instance) : Prop where
  typed : i.memory.head.type = i.type
  quiet : ∀ action ∈ rest, action.Silent h
  shows : ∃ n, (start.run first).refCount? h = some n ∧ i.memory.head.refCount.toInt = n.toNat ∧
    count.toNat = min 0xFFFFFFFF (n.toNat + (start.run first).lag h rest)
  -- The universal base may come to name an instance once all generations of its slot are used up.
  tuples : h ≠ objectType → (start.run first).lag h rest = (rest.flatMap HostAction.items).count h

theorem shown_synced (found : (start.run actions).heap.slot? h = some t)
    (head : i.memory.head = ⟨t.refCount.toUInt64.toInt64, i.type⟩) :
    start.ShownSince h actions [] t.refCount i where
  typed := by rw [head]
  quiet action mem := by cases mem
  shows := by
    have bound := t.refCount.toNat_lt
    refine ⟨t.refCount, refCount?_of_slot? found, ?_, ?_⟩
    · rw [head]
      exact toInt_headCount t.refCount
    · rw [lag]
      omega
  tuples _ := rfl

theorem ShownSince.next {first rest : List HostAction} {n m : UInt32} {j : Instance}
    (shown : start.ShownSince h first rest n i)
    (found : (start.run (first ++ rest)).instance? h = some i) (silent : action.Silent h)
    (head : j.memory.head = i.memory.head) (type : j.type = i.type)
    (count : m.toNat
      = min 0xFFFFFFFF (n.toNat + ((start.run (first ++ rest)).taken action).count h)) :
    start.ShownSince h first (rest ++ [action]) m j where
  typed := by rw [head, type, shown.typed]
  quiet other mem := by
    rcases List.mem_append.1 mem with mem | last
    · exact shown.quiet other mem
    · rwa [List.mem_singleton.1 last]
  shows := by
    obtain ⟨k, counted, shows, count'⟩ := shown.shows
    refine ⟨k, counted, by rw [head, shows], ?_⟩
    rw [count, count', lag_append, lag, lag, ← run_append]
    omega
  tuples ne := by
    rw [lag_append, lag, lag, ← run_append, shown.tuples ne, count_taken_of_instance found ne,
      List.flatMap_append, List.flatMap_singleton, List.count_append]
    rfl

def Shown (start : Host) (h : Handle) (actions : List HostAction) (count : UInt32) (i : Instance) :
    Prop :=
  ∃ first rest, actions = first ++ rest ∧ start.ShownSince h first rest count i

theorem shown_now (found : (start.run actions).heap.slot? h = some t)
    (head : i.memory.head = ⟨t.refCount.toUInt64.toInt64, i.type⟩) :
    start.Shown h actions t.refCount i :=
  ⟨actions, [], (List.append_nil _).symm, shown_synced found head⟩

theorem Shown.next {n m : UInt32} {j : Instance} (shown : start.Shown h actions n i)
    (found : (start.run actions).instance? h = some i) (silent : action.Silent h)
    (head : j.memory.head = i.memory.head) (type : j.type = i.type)
    (count : m.toNat
      = min 0xFFFFFFFF (n.toNat + ((start.run actions).taken action).count h)) :
    start.Shown h (actions ++ [action]) m j := by
  obtain ⟨first, rest, rfl, since⟩ := shown
  exact ⟨first, rest ++ [action], List.append_assoc .., since.next found silent head type count⟩

theorem instance?_of_slot? (found : host.heap.slot? h = some t) (value : t.value = some (.inst i)) :
    host.instance? h = some i := by
  rw [instance?_eq_some, get?, Heap.get?, found]
  exact value

theorem shown_step (spares : action.SparesHeader)
    (shown : ∀ t i, (start.run actions).heap.slot? h = some t → t.value = some (.inst i) →
      start.Shown h actions t.refCount i)
    (found : (start.run (actions ++ [action])).heap.slot? h = some t)
    (value : t.value = some (.inst i)) : start.Shown h (actions ++ [action]) t.refCount i := by
  have touched : (start.run actions).Touched action h t := by
    apply touched_step
    rwa [run_append] at found
  cases touched with
  | made call object generation same makes answer missing new =>
      cases new
      cases value
      cases makes with
      | inst typed small => exact shown_now found (head_fresh _ _ _)
  | synced s before syncs synced =>
      obtain ⟨j, value', recounted⟩ := synced i value
      obtain ⟨first, rest, -, since⟩ := shown s j before value'
      apply shown_now found
      rw [recounted.head, since.typed, recounted.lasts.type]
  | counted s before silent same count =>
      have value' : s.value = some (.inst i) := by
        rw [same] at value
        exact value
      have here := instance?_of_slot? before value'
      exact (shown s i before value').next here silent rfl rfl count
  | written s j place bytes same before value' new =>
      subst same
      cases new
      cases value
      have here := instance?_of_slot? before value'
      refine (shown s j before value').next here silent_write ?_ rfl ?_
      · exact j.memory.head_write_of_spared spares
      · have bound := s.refCount.toNat_lt
        change s.refCount.toNat = _
        rw [taken, List.count_nil]
        omega

theorem get?_of_store {made : HostObject} (found : (host.store object).2.get? h = some made) :
    made = object ∨ host.get? h = some made := by
  obtain ⟨t, slot, value⟩ := Option.bind_eq_some_iff.1 found
  rcases slot?_of_store slot with ⟨-, -, generation, rfl⟩ | ⟨s, before, same, -⟩
  · exact .inl (Option.some.inj value).symm
  · rw [same] at value
    refine .inr ?_
    rw [get?, Heap.get?, before]
    exact value

theorem no_instance_of_create (created : create gcMode builtins = .ok start) (h : Handle)
    (i : Instance) : start.get? h ≠ some (.inst i) := by
  refine create_induct (motive := fun host => ∀ h i, host.get? h ≠ some (.inst i)) ?_ ?_ created h i
  · intro gcMode h i found
    rcases get?_of_store found with same | before
    · cases same
    · simp [get?, Heap.get?, Heap.slot?] at before
  · intro host b _ none_before h i found
    rcases get?_of_store found with same | before
    · cases same
    · exact none_before h i before

theorem shown_run (earlier : List HostAction) (spares : ∀ action ∈ actions, action.SparesHeader)
    (shown : ∀ t i, (start.run earlier).heap.slot? h = some t → t.value = some (.inst i) →
      start.Shown h earlier t.refCount i)
    (found : (start.run (earlier ++ actions)).heap.slot? h = some t)
    (value : t.value = some (.inst i)) : start.Shown h (earlier ++ actions) t.refCount i := by
  induction actions generalizing earlier with
  | nil =>
      rw [List.append_nil] at found ⊢
      exact shown t i found value
  | cons action rest ih =>
      rw [List.append_cons] at found ⊢
      apply ih _ (fun other mem => spares other (List.mem_cons_of_mem _ mem)) _ found
      intro t i found value
      exact shown_step (spares action List.mem_cons_self) shown found value

theorem later_of_silent {first rest first' rest' : List HostAction}
    (split : first ++ rest = first' ++ rest')
    (last : first = [] ∨ ∃ earlier action, first = earlier ++ [action] ∧ ¬ action.Silent h)
    (quiet : ∀ action ∈ rest', action.Silent h) :
    ∃ between, first' = first ++ between ∧ rest = between ++ rest' := by
  rcases List.append_eq_append_iff.1 split with later | ⟨between, rfl, rfl⟩
  · exact later
  · -- Were some of `first` in `rest'`, its last action would be, which is not silent.
    rcases last with empty | ⟨earlier, action, same, loud⟩
    · obtain ⟨rfl, rfl⟩ := List.append_eq_nil_iff.1 empty
      exact ⟨[], rfl, rfl⟩
    · rcases List.eq_nil_or_concat between with rfl | ⟨middle, final, rfl⟩
      · exact ⟨[], by rw [List.append_nil, List.append_nil], rfl⟩
      · rw [List.concat_eq_append, ← List.append_assoc] at same
        obtain ⟨-, same⟩ := List.append_inj' same rfl
        cases same
        exact absurd (quiet action (by simp)) loud

/-- The header of an instance names its type. Its count is the one that was last written there, and
what tuples made since then took is missing from it; so once a reference to the instance was added
or dropped, its header shows the count until the instance is put into a tuple. -/
theorem header_shows_last_count (created : create gcMode builtins = .ok start)
    (spares : ∀ action ∈ actions, action.SparesHeader)
    (found : (start.run actions).instance? h = some i) :
    (start.run actions).typeOf h = some i.memory.head.type ∧
    ∃ count, (start.run actions).refCount? h = some count ∧ start.Shown h actions count i ∧
      ∀ first rest, actions = first ++ rest →
        first = [] ∨ (∃ earlier action, first = earlier ++ [action] ∧ ¬ action.Silent h) →
        h ≠ objectType → (∀ items, .call (.newTuple items) ∈ rest → h ∉ items) →
        i.memory.head.refCount.toInt = count.toNat := by
  obtain ⟨t, slot, value⟩ := Option.bind_eq_some_iff.1 (instance?_eq_some.1 found)
  have shown : start.Shown h actions t.refCount i := by
    have none_yet (t : HeapSlot HostObject) (i : Instance) (found : start.heap.slot? h = some t)
        (value : t.value = some (.inst i)) : start.Shown h [] t.refCount i := by
      refine absurd ?_ (no_instance_of_create created h i)
      exact instance?_eq_some.1 (instance?_of_slot? found value)
    exact shown_run [] spares none_yet slot value
  refine ⟨?_, t.refCount, refCount?_of_slot? slot, shown, ?_⟩
  · obtain ⟨first, rest, -, since⟩ := shown
    rw [typeOf, instance?_eq_some.1 found, Option.map_some, since.typed]
  · intro first rest split last ne untaken
    obtain ⟨first', rest', split', since⟩ := shown
    obtain ⟨n, counted, shows, count⟩ := since.shows
    -- The header was written last after `first`, so what it lacks was taken in `rest`.
    obtain ⟨between, rfl, rfl⟩ := later_of_silent (split.symm.trans split') last since.quiet
    have none_later : (start.run (first ++ between)).lag h rest' = 0 := by
      rw [since.tuples ne, List.count_eq_zero]
      intro listed
      obtain ⟨action, mem, item⟩ := List.mem_flatMap.1 listed
      obtain ⟨items, rfl, item⟩ := HostAction.mem_items.1 item
      exact untaken items (List.mem_append_right _ mem) item
    have top := n.toNat_lt
    rw [shows, count, none_later]
    omega

/-- A tuple takes a reference to the instance, and the header is behind; a reference added to the
instance brings it up to date again. -/
theorem header_shows_last_count_added :
    let actions : List HostAction := [.call (.newInstance tupleType 0),
      .call (.newTuple [.pack 3 0]), .call (.addRef (.pack 3 0))]
    create .refCounting [] = .ok (core .refCounting) ∧
      (∀ action ∈ actions, action.SparesHeader) ∧
      ∃ i, ((core .refCounting).run actions).instance? (.pack 3 0) = some i ∧
        ((core .refCounting).run actions).refCount? (.pack 3 0) = some 3 ∧
        i.memory.head.refCount.toInt = 3 := by
  intro actions
  have spares : ∀ action ∈ actions, action.SparesHeader := by
    simp [actions, HostAction.SparesHeader]
  have live : (((core .refCounting).run actions).instance? (.pack 3 0)).isSome := by decide
  have three : ((core .refCounting).run actions).refCount? (.pack 3 0) = some 3 := by decide
  obtain ⟨i, found⟩ := Option.isSome_iff_exists.1 live
  have created : create .refCounting [] = .ok (core .refCounting) := rfl
  obtain ⟨-, count, counted, -, shows⟩ := header_shows_last_count created spares found
  cases three.symm.trans counted
  refine ⟨created, spares, i, found, three, ?_⟩
  refine shows actions [] (List.append_nil _).symm (.inr ?_) (by decide) (by simp)
  refine ⟨actions.take 2, .call (.addRef (.pack 3 0)), rfl, ?_⟩
  intro silent
  exact silent.1 rfl

/-- The instance is counted twice, but its header says once. -/
theorem header_behind_tuple :
    let actions : List HostAction :=
      [.call (.newInstance tupleType 0), .call (.newTuple [.pack 3 0])]
    create .refCounting [] = .ok (core .refCounting) ∧
      (∀ action ∈ actions, action.SparesHeader) ∧
      ((core .refCounting).run actions).refCount? (.pack 3 0) = some 2 ∧
      ((core .refCounting).run actions).head? (.pack 3 0) = some ⟨1, tupleType⟩ := by
  intro actions
  have spares : ∀ action ∈ actions, action.SparesHeader := by
    simp [actions, HostAction.SparesHeader]
  exact ⟨rfl, spares, by decide, by decide⟩

end Host
end TypeHost
