import TypeHost.Proofs.Host.Balance
import TypeHost.Proofs.Host.Lasting
import TypeHost.Proofs.Host.Plan

/-! The table of names. It lists exactly the live types, each under its own full name, so a name is
taken just as long as the type that bears it lives. -/
namespace TypeHost

theorem HostObject.name?_eq_some {object : HostObject} {name : String} :
    object.name? = some name ↔ ∃ t, object = .type t ∧ t.name = name := by
  cases object <;> simp [name?]

namespace Host

variable {host before after start : Host} {h other : Handle} {name : String} {t : RegisteredType}
  {object : HostObject} {call : HostCall} {gcMode : GcMode} {builtins : List BuiltinType}

def Named (host : Host) : Prop :=
  ∀ name h, host.lookup name = some h ↔ ∃ t, host.type? h = some t ∧ t.name = name

theorem Named.live (named : host.Named) (found : host.lookup name = some h) :
    (host.heap.slot? h).isSome := by
  obtain ⟨t, found, -⟩ := (named name h).1 found
  exact live_of_type? found

theorem Named.fade (named : before.Named) (fades : before.Fades after)
    (names : ∀ name h, after.lookup name = some h ↔
      before.lookup name = some h ∧ (after.heap.slot? h).isSome) : after.Named := by
  intro name h
  rw [names, named]
  constructor
  · rintro ⟨⟨t, found, same⟩, live⟩
    exact ⟨t, fades.type?_of_live live found, same⟩
  · rintro ⟨t, found, same⟩
    exact ⟨⟨t, fades.type? found, same⟩, live_of_type? found⟩

theorem Named.keep (named : before.Named) (fades : before.Fades after)
    (names : after.names = before.names)
    (live : ∀ h, (before.heap.slot? h).isSome → (after.heap.slot? h).isSome) : after.Named := by
  apply named.fade fades
  intro name h
  rw [lookup, names]
  constructor
  · intro found
    exact ⟨found, live h (named.live found)⟩
  · intro both
    exact both.1

theorem names_syncHead (host : Host) (h : Handle) : (host.syncHead h).names = host.names := by
  unfold syncHead
  split <;> rfl

theorem Named.retained (named : host.Named) (h : Handle) :
    ({ host with heap := host.heap.addRef h }.syncHead h).Named := by
  apply named.keep ((host.fades_addRef h).trans (fades_syncHead _ h))
  · exact names_syncHead _ h
  · intro other live
    rw [isSome_slot?_syncHead, Heap.isSome_slot?_addRef]
    exact live

theorem Named.write (named : host.Named) (h : Handle) (start : Nat) (bytes : List UInt8) :
    (host.step (.write h start bytes)).Named := by
  have fades := host.fades_write h start bytes
  rcases host.write_cases h start bytes with same | ⟨f, same, written⟩
  · rw [same]
    exact named
  · rw [written] at fades ⊢
    apply named.keep fades rfl
    intro other live
    rw [Heap.isSome_slot?_update]
    exact live

/-- A turn of a cascade strikes the name of the type that it frees, and no other. -/
theorem Named.dropOne (named : host.Named) (h : Handle) : (host.dropOne h).1.Named := by
  cases found : host.heap.slot? h with
  | none =>
      rw [dropOne_of_none found]
      exact named
  | some s =>
      obtain ⟨index, unpack, -, full⟩ := Heap.slot?_eq_some found
      have names : (host.dropOne h).1.names = namesWithout host.names h s.parting := by
        rw [dropOne_of_slot? found unpack]
      have live : ((host.dropOne h).1.heap.slot? h).isSome ↔ s.parting = none := by
        have filled : s.value ≠ none := Option.isSome_iff_ne_none.1 full
        rw [slot?_dropOne_self found, HeapSlot.parting]
        split <;> simp [filled]
      apply named.fade (host.fades_dropOne h)
      intro name x
      rw [lookup, names, getElem?_namesWithout]
      constructor
      · intro listed
        split at listed
        · cases listed
        · rename_i unstruck
          refine ⟨listed, ?_⟩
          by_cases same : x = h
          · subst same
            obtain ⟨t, found', borne⟩ := (named name x).1 listed
            rw [live, Option.eq_none_iff_forall_ne_some]
            intro object parting
            have held : host.get? x = some object := by
              rw [get?, Heap.get?, found]
              exact (HeapSlot.parting_eq_some.1 parting).2
            cases held.symm.trans (type?_eq_some.1 found')
            exact unstruck ⟨by rw [parting, ← borne]; rfl, listed⟩
          · rw [slot?_dropOne_of_ne same]
            exact named.live listed
      · rintro ⟨listed, alive⟩
        rw [if_neg]
        · exact listed
        · rintro ⟨borne, struck⟩
          cases listed.symm.trans struck
          rw [live.1 alive] at borne
          cases borne

theorem Named.drop (named : host.Named) (pending : List Handle) : (host.drop pending).Named := by
  induction host, pending using drop_induct with
  | nil host =>
      rw [drop_nil]
      exact named
  | cons host h pending ih =>
      rw [drop_cons]
      exact ih (named.dropOne h)

theorem lookup_store (host : Host) (object : HostObject) (name : String) :
    (host.store object).2.lookup name =
      if object.name? = some name then some (host.store object).1 else host.lookup name := by
  rw [lookup, store]
  cases object.name? with
  | none => simp [lookup]
  | some borne => simp [lookup, Std.ExtTreeMap.getElem?_insert]

/-- A new type enters the table; nothing else that is made does. -/
theorem Named.gain (named : host.Named)
    (gains : host.Gains (host.store object).2 object (host.store object).1)
    (unnamed : ∀ name, object.name? = some name → host.lookup name = none) :
    (host.store object).2.Named := by
  intro name x
  rw [lookup_store]
  by_cases same : x = (host.store object).1
  · subst same
    have fresh : host.lookup name ≠ some (host.store object).1 := by
      intro listed
      have live := named.live listed
      rw [gains.missing] at live
      cases live
    simp only [type?_eq_some, gains.get?_self, Option.some.injEq]
    rw [← HostObject.name?_eq_some]
    split
    · rename_i borne
      simp [borne]
    · rename_i other
      simp [fresh, other]
  · have types : (host.store object).2.type? x = host.type? x := by
      rw [type?, type?, gains.get?_of_ne same]
    rw [types, ← named]
    split
    · rename_i borne
      simp [unnamed name borne, Ne.symm same]
    · rfl

theorem Makes.unnamed (makes : host.Makes call object) (borne : object.name? = some name) :
    host.lookup name = none := by
  cases makes with
  | builtin sizes unnamed =>
      cases borne
      exact unnamed
  | type planned =>
      obtain ⟨bases, types, legacy, checks, rfl⟩ := plan_eq_ok planned
      cases borne
      exact checks.unnamed
  | inst found small => cases borne
  | tuple => cases borne

theorem Named.step {action : HostAction} (named : host.Named) (sound : host.heap.Sound)
    (room : (host.step action).heap.slotCount < 0xFFFFFFFF) : (host.step action).Named := by
  cases action with
  | write h start bytes => exact named.write h start bytes
  | call call =>
      rw [Host.step] at room ⊢
      have performed := host.perform_cases call
      generalize host.perform call = result at performed room ⊢
      cases performed with
      | refused => exact named
      | made makes => exact named.gain (store_gains sound room) fun name => makes.unnamed
      | retained => exact named.retained _
      | released live => exact named.drop _
      | missed dead => exact named

theorem named_of_create (created : create gcMode builtins = .ok start)
    (small : start.heap.slotCount < 0xFFFFFFFF) : start.Named := by
  refine create_induct_gains ?_ ?_ created small
  · intro gcMode object made small gains
    have empty : Named { gcMode } := by
      intro name h
      simp [lookup, type?, get?, Heap.get?, Heap.slot?]
    apply empty.gain gains
    intro name _
    rfl
  · intro host b object made makes small gains named
    exact named.gain gains fun name => makes.unnamed

theorem Roomy.named (roomy : host.Roomy) : host.Named := by
  obtain ⟨gcMode, builtins, start, actions, created, rfl, room⟩ := roomy
  have small := room_of_run room
  refine run_keeps ?_ (new_of_create created small).sound room (named_of_create created small)
  intro host action sound room named
  exact named.step sound room

def ownNames (builtins : List BuiltinType) : List String :=
  ["object", "type", "tuple"] ++ builtins.map (·.name)

theorem isSome_lookup_store {t : RegisteredType} :
    ((host.store (.type t)).2.lookup name).isSome ↔ t.name = name ∨ (host.lookup name).isSome := by
  rw [lookup_store, HostObject.name?]
  split <;> simp_all

theorem isSome_lookup_core : ((core gcMode).lookup name).isSome ↔ name ∈ ownNames [] := by
  have none_yet : Host.lookup { gcMode } name = none := by simp [lookup]
  rw [core_eq_store, isSome_lookup_store, isSome_lookup_store, isSome_lookup_store, none_yet]
  simp only [BuiltinType.register, ownNames, List.map_nil, List.append_nil, List.mem_cons,
    List.not_mem_nil, Option.isSome_none]
  grind

theorem isSome_lookup_builtins
    (created : builtins.foldlM (fun host b => proceed (host.registerBuiltin b)) host = .ok start) :
    (start.lookup name).isSome ↔
      (host.lookup name).isSome ∨ name ∈ builtins.map (·.name) := by
  induction builtins generalizing host with
  | nil =>
      cases created
      simp
  | cons b rest ih =>
      rw [List.foldlM_cons] at created
      rcases host.registerBuiltin_settles b with ⟨cause, refused⟩ | ⟨object, makes, made⟩
      · rw [refused] at created
        cases created
      · rw [made] at created
        cases makes with
        | builtin sizes unnamed =>
            rw [ih created, isSome_lookup_store, BuiltinType.register, List.map_cons, List.mem_cons]
            grind

theorem isSome_lookup_create (created : create gcMode builtins = .ok start) :
    (start.lookup name).isSome ↔ name ∈ ownNames builtins := by
  rw [isSome_lookup_builtins created, isSome_lookup_core]
  simp [ownNames, or_assoc]

end Host
end TypeHost
