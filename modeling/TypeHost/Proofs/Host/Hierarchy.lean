import TypeHost.Proofs.Host.GivingBack
import TypeHost.Proofs.Host.Inheritance

/-! The hierarchy of types. It is rooted: from every live type a way leads up to the universal base,
for the bases of live types live and rank below them. And it is stable: what a live type is, and what
it inherits from, stays for as long as it lives. -/
namespace TypeHost

namespace Host

variable {host start : Host} {h : Handle} {t : RegisteredType} {spec : TypeSpec}
  {params : List SpecParam} {rank : Handle → Nat} {gcMode : GcMode} {builtins : List BuiltinType}

theorem Lasting.eq_objectType (lasting : host.Lasting) (found : host.type? h = some t)
    (rootless : t.bases = []) : h = objectType := by
  refine lasting.induct (motive := fun host => ∀ h t, host.type? h = some t → t.bases = [] →
    h = objectType) ?_ ?_ ?_ h t found rootless
  · intro gcMode builtins start created small h t found rootless
    obtain ⟨b, same⟩ := (registered_of_create created small).2 h _ (type?_eq_some.1 found)
    cases same
    by_cases root : h = objectType
    · exact root
    · rw [BuiltinType.register, if_neg root] at rootless
      cases rootless
  · intro before after fades older holds h t found
    exact holds h t (fades.type? found)
  · intro before after call object made makes gains holds h t found rootless
    rcases gains.type?_cases found with rfl | found'
    · cases makes with
      | builtin sizes unnamed => cases rootless
      | type planned => exact absurd rootless (bases_ne_nil_of_plan planned)
    · exact holds h t found' rootless

/-- Where every live type has live bases of lower rank, all ways up end in the one without any. -/
theorem Ranked.climbs (ranked : host.Ranked rank)
    (founded : ∀ h t, host.type? h = some t → ∀ base ∈ t.bases, host.isType base = true)
    (rooted : ∀ h t, host.type? h = some t → t.bases = [] → h = objectType)
    (live : host.isType h = true) : host.Climbs objectType [] h := by
  induction size : rank h using Nat.strongRecOn generalizing h with
  | ind n ih =>
      subst size
      obtain ⟨t, found⟩ := Option.isSome_iff_exists.1 live
      cases bases : t.bases with
      | nil =>
          obtain rfl := rooted h t found bases
          exact .arrived found List.not_mem_nil
      | cons base rest =>
          have mem : base ∈ t.bases := bases ▸ List.mem_cons_self
          have live := founded h t found base mem
          have lower := ranked h _ (type?_eq_some.1 found) base mem (live_of_isType live)
          exact .up found List.not_mem_nil mem (ih _ lower live rfl)

theorem isType_of_create (created : create gcMode builtins = .ok start)
    (small : start.heap.slotCount < 0xFFFFFFFF) :
    start.isType typeType = true ∧ start.isType tupleType = true := by
  refine (create_induct_core (motive := fun host => host.heap.slotCount < 0xFFFFFFFF →
    host.heap.Sound ∧ host.isType typeType = true ∧ host.isType tupleType = true)
    ?_ ?_ created small).2
  · intro room
    have created : create gcMode [] = .ok (core gcMode) := rfl
    refine ⟨(new_of_create created room).sound, ?_⟩
    cases gcMode <;> decide
  · intro host b _ holds room
    obtain ⟨sound, types, tuples⟩ := holds (Nat.lt_of_le_of_lt (host.slotCount_le_store _) room)
    have gains := store_gains sound room
    exact ⟨gains.sound, gains.isType types, gains.isType tuples⟩

/-- Every live object has a live type, and all live types lie below the universal base. -/
structure Rooted (host : Host) : Prop where
  founded : ∀ h t, host.type? h = some t → ∀ base ∈ t.bases, host.isType base = true
  climbs : ∀ h, host.isType h = true → host.Climbs objectType [] h
  typed : ∀ h, host.heap.contains h = true → ∃ ty, host.typeOf h = some ty ∧ host.isType ty = true

theorem isInstanceOf_of_typeOf {ty other : Handle} (typed : host.typeOf h = some ty) :
    host.context.isInstanceOf h other = host.isSubtype ty other := by
  have asked : host.context.typeOf h = some ty := typed
  simp only [Context.isInstanceOf, asked, bind]
  rfl

theorem Rooted.isInstanceOf (rooted : host.Rooted) (live : host.heap.contains h = true) :
    host.context.isInstanceOf h objectType = true := by
  obtain ⟨ty, typed, live_type⟩ := rooted.typed h live
  rw [isInstanceOf_of_typeOf typed]
  exact isSubtype_iff.2 (rooted.climbs ty live_type)

end Host

namespace Account

variable {start : Host} {gcMode : GcMode} {builtins : List BuiltinType}
  {actions first rest : List HostAction}

theorem rooted_run (created : Host.create gcMode builtins = .ok start)
    (follows : (opening start).Follows actions)
    (room : (start.run actions).heap.slotCount < 0xFFFFFFFF)
    (few : ∀ i, start.frees actions i < 0x100000000) : (start.run actions).Rooted := by
  obtain ⟨upheld, tended⟩ := tended_run created follows room few
  obtain ⟨rank, ranked⟩ := tended.ranked
  have balanced := upheld.settled.balanced
  have same := tended.same
  rw [host_run] at ranked balanced same
  change (start.run actions).Ranked rank at ranked
  change (start.run actions).Balanced _ [] at balanced
  have founded (h : Handle) (t : RegisteredType) (found : (start.run actions).type? h = some t) :
      ∀ base ∈ t.bases, (start.run actions).isType base = true :=
    balanced.founded h _ (Host.type?_eq_some.1 found)
  have lasting : (start.run actions).Lasting :=
    ⟨gcMode, builtins, start, actions, created, rfl, room, few⟩
  -- The host owns the types of types and of tuples, so they are not freed.
  have own (h : Handle) (live : start.isType h = true) : (start.run actions).isType h = true := by
    rw [Host.isType_iff] at live ⊢
    obtain ⟨t, found⟩ := live
    exact ⟨t, (same h (Host.live_of_isType (Host.isType_iff.2 ⟨t, found⟩))).trans found⟩
  have at_start := Host.isType_of_create created (Host.room_of_run room)
  refine ⟨founded, fun h live => ranked.climbs founded (fun h t => lasting.eq_objectType) live, ?_⟩
  intro h live
  obtain ⟨object, found⟩ := Host.exists_get? live
  rw [Host.typeOf, found]
  cases object with
  | type t => exact ⟨_, rfl, own _ at_start.1⟩
  | tuple items => exact ⟨_, rfl, own _ at_start.2⟩
  | inst i => exact ⟨_, rfl, balanced.founded h _ found _ List.mem_cons_self⟩

/-- Under the rule of ownership every live object is an instance of the universal base, by way of a
live type. A type that lives on keeps its record and all its answers about supertypes, whatever is
made and released meanwhile, and each of its supertypes lives on with it. -/
theorem hierarchy_rooted_stable (created : Host.create gcMode builtins = .ok start)
    (follows : (opening start).Follows (first ++ rest))
    (room : (start.run (first ++ rest)).heap.slotCount < 0xFFFFFFFF)
    (few : ∀ i, start.frees (first ++ rest) i < 0x100000000) :
    let before := start.run first
    let after := start.run (first ++ rest)
    (∀ h, before.heap.contains h = true →
      (∃ ty, before.typeOf h = some ty ∧ before.isType ty = true) ∧
      before.context.isInstanceOf h Host.objectType = true) ∧
    ∀ a t, before.type? a = some t → after.heap.contains a = true →
      after.type? a = some t ∧ after.typeInfo a = before.typeInfo a ∧
      (∀ b, after.isSubtype a b = before.isSubtype a b) ∧
      ∀ b, before.isSubtype a b = true → after.isType b = true := by
  intro before after
  have new := Host.new_of_create created (Host.room_of_run room)
  have rooted : before.Rooted :=
    rooted_run created follows.of_append.1 (Host.room_of_append room) (Host.few_of_append few)
  have rooted' : after.Rooted := rooted_run created follows room few
  -- What lives on keeps its record,
  have same (h : Handle) (t : RegisteredType) (found : before.type? h = some t)
      (live : (after.heap.slot? h).isSome) : after.type? h = some t := by
    have later := Host.young_rest new.sound room (new.aged few)
    change ((start.run (first ++ rest)).heap.slot? h).isSome at live
    change (start.run (first ++ rest)).type? h = some t
    rw [Host.run_append] at room live ⊢
    exact Host.type?_run (Host.sound_run new.sound first) room later found live
  refine ⟨fun h live => ⟨rooted.typed h live, rooted.isInstanceOf live⟩, ?_⟩
  intro a t found live
  have found' := same a t found live
  -- so the ways up from it are the same.
  have stable (b : Handle) : after.isSubtype a b = true ↔ before.isSubtype a b = true := by
    rw [Host.isSubtype_iff, Host.isSubtype_iff]
    constructor
    · intro climbs
      refine climbs.transfer ?_ rooted.founded (Option.isSome_iff_exists.2 ⟨t, found⟩)
      intro h u here was
      obtain ⟨v, here'⟩ := Option.isSome_iff_exists.1 was
      cases here.symm.trans (same h v here' (Host.live_of_type? here))
      exact here'
    · intro climbs
      exact climbs.transfer (fun h u here alive => same h u here (Host.live_of_isType alive))
        rooted'.founded (Option.isSome_iff_exists.2 ⟨t, found'⟩)
  refine ⟨found', ?_, fun b => Bool.eq_iff_iff.2 (stable b), ?_⟩
  · rw [Host.typeInfo, Host.typeInfo, found, found']
  · intro b subtype
    exact (Host.isType_of_isSubtype ((stable b).2 subtype)).2

/-- A type that only its subtype holds. -/
theorem hierarchy_rooted_stable_released :
    let outer : TypeSpec := { name := "outer", flags := .baseType }
    let inner : TypeSpec := { name := "inner" }
    let first : List HostAction := [.call (.typeFromSpec outer []),
      .call (.typeFromSpec inner [⟨.base, .pack 3 0⟩])]
    let rest : List HostAction := [.call (.release (.pack 3 0)), .call (.newTuple [.pack 4 0])]
    let start := Host.core .refCounting
    (opening start).Follows (first ++ rest) ∧
      ((opening start).run (first ++ rest)).ledger.held = [.pack 5 0, .pack 4 0] ∧
      (start.run (first ++ rest)).isType (.pack 3 0) = true ∧
      (start.run (first ++ rest)).isSubtype (.pack 4 0) (.pack 3 0) = true := by
  intro outer inner first rest start
  let built := (opening start).run first
  let given : HostAction := .call (.release (.pack 3 0))
  have released := next_release (a := built) (h := .pack 3 0) 1 (by decide) (by decide)
  have ends : (opening start).run (first ++ rest)
      = (built.next given).next (.call (.newTuple [.pack 4 0])) := rfl
  rw [released] at ends
  have follows : (opening start).Follows (first ++ rest) := by
    refine ⟨within_of_few (by decide), trivial, within_of_few (by decide), trivial,
      within_of_few (by decide), by decide, ?_⟩
    change (built.next given).Follows _
    rw [released]
    exact ⟨within_of_few (by decide), by decide, within_of_few (by decide)⟩
  have reached : ((opening start).run (first ++ rest)).host = start.run (first ++ rest) :=
    host_run _ _
  have room : (start.run (first ++ rest)).heap.slotCount < 0xFFFFFFFF := by
    rw [← reached, ends]
    decide
  have live : (start.run (first ++ rest)).heap.contains (.pack 4 0) = true := by
    rw [← reached, ends]
    decide
  obtain ⟨t, found⟩ : ∃ t, (start.run first).type? (.pack 4 0) = some t :=
    Option.isSome_iff_exists.1 (by decide)
  have bases : ((start.run first).type? (.pack 4 0)).map (·.bases) = some [.pack 3 0] := by decide
  rw [found, Option.map_some, Option.some.injEq] at bases
  have subtype : (start.run first).isSubtype (.pack 4 0) (.pack 3 0) = true :=
    Host.isSubtype_of_mem_bases found (bases ▸ List.mem_cons_self) (by decide)
  have created : Host.create .refCounting [] = .ok start := rfl
  have stays := hierarchy_rooted_stable created follows room fun i =>
    Nat.lt_of_le_of_lt (Host.frees_le_length _ _ i) (by decide)
  obtain ⟨-, -, same, supertypes⟩ := stays.2 _ t found live
  refine ⟨follows, ?_, supertypes _ subtype, (same _).trans subtype⟩
  rw [ends]
  decide

end Account
end TypeHost
