import TypeHost.Proofs.Host.Inheritance
import TypeHost.Proofs.Host.Lasting

/-! Fresh handles. A handle carries the slot of its object and the generation of that slot, so it is
given out again only after the generations of the slot went all the way round. Until then the handle
of a freed object is dead to every query and every call. -/
namespace TypeHost

def HostAnswer.made? : HostAnswer → Option Handle
  | .made h => some h
  | _ => none

namespace Host

variable {host before after start : Host} {h other : Handle} {object : HostObject}
  {call : HostCall} {action : HostAction} {actions rest : List HostAction} {gcMode : GcMode}
  {builtins : List BuiltinType} {i : Nat}

/-- The handles of a host as it stands and those that a run from it gives out, in order. -/
def given (host : Host) (actions : List HostAction) : List Handle :=
  host.heap.handles ++ (host.answers actions).filterMap HostAnswer.made?

def GivenLast (start : Host) (actions : List HostAction) (h : Handle) : Prop :=
  actions = [] ∧ h ∈ start.heap.handles ∨
    ∃ earlier call, actions = earlier ++ [.call call] ∧
      ((start.run earlier).perform call).1 = .made h

/-- No query finds anything behind the handle, and no call on it changes the host. -/
structure Unresolved (host : Host) (h : Handle) : Prop where
  refCount : host.refCount? h = none
  typeOf : host.typeOf h = none
  typeInfo : host.typeInfo h = none
  tupleItems : host.tuple? h = none
  instanceSize : host.instanceSize h = none
  asStruct : host.asStruct h = none
  asStructLegacy : host.asStructLegacy h = none
  isType : host.isType h = false
  subtype : ∀ other, host.isSubtype h other = false ∧ host.isSubtype other h = false
  newInstance : ∀ nitems,
    host.perform (.newInstance h nitems) = (.refused (.unknownHandle h), host)
  addRef : host.perform (.addRef h) = (.counted false, host)
  release : host.perform (.release h) = (.counted false, host)

theorem unresolved_of_missing (missing : host.heap.slot? h = none) : host.Unresolved h := by
  have gone : host.get? h = none := by rw [get?, Heap.get?, missing, Option.bind_none]
  have no_type : host.type? h = none := by rw [type?, gone]
  have no_instance : host.instance? h = none := by rw [instance?, gone]
  have dead : host.heap.contains h = false := by rw [Heap.contains, missing]; rfl
  constructor
  case refCount => rw [refCount?, Heap.refCount?, missing, Option.map_none]
  case typeOf => rw [typeOf, gone, Option.map_none]
  case typeInfo => rw [typeInfo, no_type, Option.map_none]
  case tupleItems => rw [tuple?, gone]
  case instanceSize => rw [instanceSize, no_instance, Option.map_none]
  case asStruct => rw [asStruct, no_instance, Option.map_none]
  case asStructLegacy => rw [asStructLegacy, no_instance, Option.map_none]
  case isType => rw [isType, no_type]; rfl
  case subtype =>
    intro other
    constructor <;> rw [← Bool.not_eq_true] <;> intro subtype
    · exact absurd (isType_of_isSubtype subtype).1 (by simp [isType, no_type])
    · exact absurd (isType_of_isSubtype subtype).2 (by simp [isType, no_type])
  case newInstance =>
    intro nitems
    have unknown : host.findType h = .error (.unknownHandle h) := by rw [findType, gone]
    rw [perform, newInstance_eq, unknown]
    rfl
  case addRef => rw [perform, Host.addRef, dead, Heap.addRef_of_none missing, syncHead_of_none missing]
  case release => rw [perform, Host.release, if_neg (by simp [dead])]

/-- Generations count frees, up to wrapping around. -/
theorem age_run (sound : host.heap.Sound) (room : (host.run actions).heap.slotCount < 0xFFFFFFFF) :
    (host.run actions).heap.age i = host.heap.age i + UInt32.ofNat (host.frees actions i) := by
  induction actions generalizing host with
  | nil => exact (UInt32.add_zero _).symm
  | cons action rest ih =>
      have here : (host.step action).heap.slotCount < 0xFFFFFFFF := room_of_run room
      have step := agesByFrees_step sound here i
      have later := ih (sound_step sound action) room
      change ((host.step action).run rest).heap.age i = _
      rw [later, step, frees, UInt32.ofNat_add, UInt32.add_assoc]
      split <;> rfl

theorem frees_pos (full : host.heap.occupied i = true)
    (empty : (host.run actions).heap.occupied i = false) : 0 < host.frees actions i := by
  induction actions generalizing host with
  | nil =>
      change host.heap.occupied i = false at empty
      rw [full] at empty
      cases empty
  | cons action rest ih =>
      rw [frees]
      cases next : (host.step action).heap.occupied i with
      | true =>
          have := ih next empty
          omega
      | false =>
          rw [full]
          exact Nat.lt_add_right _ Nat.one_pos

theorem store_of_made (made : (host.perform call).1 = .made h) :
    ∃ object, host.Makes call object ∧ (host.store object).1 = h ∧
      (host.perform call).2 = (host.store object).2 := by
  have performed := host.perform_cases call
  generalize host.perform call = result at performed made ⊢
  cases performed with
  | made makes =>
      cases made
      exact ⟨_, makes, rfl, rfl⟩
  | refused => cases made
  | retained => cases made
  | released live => cases made
  | missed dead => cases made

/-- A new object fills an empty slot and is named by the place and the generation of that slot. -/
theorem store_placed (sound : host.heap.Sound)
    (room : (host.store object).2.heap.slotCount < 0xFFFFFFFF) :
    ∃ index, (host.store object).1.unpack? = some (index, host.heap.age index.toNat) ∧
      host.heap.occupied index.toNat = false ∧
      (host.store object).2.heap.slots[index.toNat]?
        = some ⟨host.heap.age index.toNat, 1, some object⟩ := by
  have kept := (host.fades_retainAll object.references).sound sound
  obtain ⟨index, generation, placed⟩ := kept.allocate_placed object (Nat.le_of_lt room)
  have age : host.heap.age index.toNat = generation := by
    rw [← age_retainAll host object.references]
    unfold Heap.age
    cases slot : (host.retainAll object.references).heap.slots[index.toNat]? with
    | none => exact (placed.unmade slot).symm
    | some s => exact (placed.vacant s slot).1
  have empty : host.heap.occupied index.toNat = false := by
    rw [← occupied_retainAll host object.references]
    unfold Heap.occupied
    cases slot : (host.retainAll object.references).heap.slots[index.toNat]? with
    | none => rfl
    | some s => simp [(placed.vacant s slot).2]
  exact ⟨index, age.symm ▸ placed.unpack, empty, age.symm ▸ placed.filled⟩

/-- A handle can be given out a second time only after its slot went through all generations. -/
theorem frees_of_made_again (sound : host.heap.Sound) (live : (host.heap.slot? h).isSome)
    (made : ((host.run actions).perform call).1 = .made h)
    (room : ((host.run actions).perform call).2.heap.slotCount < 0xFFFFFFFF) :
    ∃ index generation k, h.unpack? = some (index, generation) ∧ 0 < k ∧
      host.frees actions index.toNat = k * 0x100000000 := by
  obtain ⟨object, -, rfl, stored⟩ := store_of_made made
  rw [stored] at room
  obtain ⟨index, unpack, empty, -⟩ := store_placed (sound_run sound actions) room
  obtain ⟨s, found⟩ := Option.isSome_iff_exists.1 live
  obtain ⟨index', unpack', slot, full⟩ := Heap.slot?_eq_some found
  have same := unpack'.symm.trans unpack
  simp only [Option.some.injEq, Prod.mk.injEq] at same
  obtain ⟨rfl, generation⟩ := same
  have occupied : host.heap.occupied index'.toNat = true := by
    rw [Heap.occupied, slot]
    exact full
  have age : host.heap.age index'.toNat = s.generation := by
    rw [Heap.age, slot]
    rfl
  have before := Nat.lt_of_le_of_lt ((host.run actions).slotCount_le_store object) room
  have wrapped := age_run (i := index'.toNat) sound before
  have positive := frees_pos occupied empty
  -- The slot has the generation that it had at first, so the frees between sum up to zero.
  have round : host.frees actions index'.toNat % 0x100000000 = 0 := by
    rw [age, ← generation] at wrapped
    have sums := congrArg UInt32.toNat wrapped
    rw [UInt32.toNat_add, UInt32.toNat_ofNat'] at sums
    have := s.generation.toNat_lt
    omega
  exact ⟨index', s.generation, host.frees actions index'.toNat / 0x100000000, unpack',
    by omega, by omega⟩

theorem issued_of_get? (found : host.get? h = some object) : host.heap.Issued h := by
  obtain ⟨s, slot, -⟩ := Option.bind_eq_some_iff.1 found
  exact Heap.issued_of_slot? slot

theorem issued_step (steady : host.Steady action) (issued : host.heap.Issued h) :
    (host.step action).heap.Issued h := by
  rcases host.step_cases action with fades | ⟨call, object, -, -, stored⟩
  · exact issued.wanes fades.wanes steady.older
  · have room := steady.room
    rw [stored] at room ⊢
    exact (store_gains steady.sound room).issued h issued

/-- A handle that was given out keeps its object, bytes in memory apart, for as long as it lives. -/
theorem get?_of_step (steady : host.Steady action) (issued : host.heap.Issued h)
    (found : (host.step action).get? h = some object) :
    ∃ old, host.get? h = some old ∧ old.blank = object.blank := by
  rcases host.step_cases action with fades | ⟨call, made, -, -, stored⟩
  · exact fades.objects h object found
  · have room := steady.room
    rw [stored] at room found
    have gains := store_gains steady.sound room
    have ne : h ≠ (host.store made).1 := fun eq => gains.fresh (eq ▸ issued)
    rw [gains.get?_of_ne ne] at found
    exact ⟨object, found, rfl⟩

theorem missing_step (steady : host.Steady action) (issued : host.heap.Issued h)
    (missing : host.heap.slot? h = none) : (host.step action).heap.slot? h = none := by
  rw [← Option.not_isSome_iff_eq_none] at missing ⊢
  intro live
  obtain ⟨object, found⟩ := exists_get? live
  obtain ⟨old, found', -⟩ := get?_of_step steady issued found
  apply missing
  rw [← isSome_get?, found']
  rfl

theorem given_nodup (sound : start.heap.Sound)
    (room : (start.run actions).heap.slotCount < 0xFFFFFFFF)
    (young : ∀ i, (start.heap.age i).toNat + start.frees actions i < 0x100000000) :
    (start.given actions).Nodup ∧
      ∀ h ∈ start.given actions, (start.run actions).heap.Issued h := by
  have small := room_of_run room
  -- What was given out so far is issued, and the handle of a new object never is.
  have ends := run_induct (motive := fun host rest => ∃ sofar,
    start.given actions = sofar ++ (host.answers rest).filterMap HostAnswer.made? ∧
      sofar.Nodup ∧ ∀ h ∈ sofar, host.heap.Issued h) ?_ sound room young
    ⟨start.heap.handles, rfl, Heap.handles_nodup small, ?_⟩
  · obtain ⟨sofar, all, nodup, issued⟩ := ends
    rw [all]
    simpa [answers] using ⟨nodup, issued⟩
  · rintro host action rest steady ⟨sofar, all, nodup, issued⟩
    have kept (h : Handle) (mem : h ∈ sofar) := issued_step steady (issued h mem)
    cases action with
    | write h start bytes => exact ⟨sofar, all, nodup, kept⟩
    | call call =>
        rw [answers, List.filterMap_cons] at all
        cases answer : (host.perform call).1 with
        | refused cause =>
            rw [answer] at all
            exact ⟨sofar, all, nodup, kept⟩
        | counted live =>
            rw [answer] at all
            exact ⟨sofar, all, nodup, kept⟩
        | made h =>
            rw [answer] at all
            obtain ⟨object, -, rfl, stored⟩ := store_of_made answer
            have room := steady.room
            rw [step, stored] at room
            have gains := store_gains steady.sound room
            obtain ⟨generation, placed⟩ := gains.placed
            refine ⟨sofar ++ [(host.store object).1], ?_, ?_, ?_⟩
            · rw [all, List.append_assoc]
              rfl
            · rw [List.nodup_append]
              refine ⟨nodup, List.pairwise_singleton _ _, ?_⟩
              rintro x mem y last rfl
              exact gains.fresh (List.mem_singleton.1 last ▸ issued x mem)
            · intro x mem
              rcases List.mem_append.1 mem with mem | last
              · exact kept x mem
              · rw [List.mem_singleton.1 last, step, stored]
                exact Heap.issued_of_slot? placed
  · intro h mem
    obtain ⟨s, found⟩ := Option.isSome_iff_exists.1 ((Heap.mem_handles_iff small).1 mem)
    exact Heap.issued_of_slot? found

theorem room_of_append {first : List HostAction}
    (room : (start.run (first ++ rest)).heap.slotCount < 0xFFFFFFFF) :
    (start.run first).heap.slotCount < 0xFFFFFFFF := by
  rw [run_append] at room
  exact room_of_run room

theorem few_of_append {first : List HostAction}
    (few : ∀ i, start.frees (first ++ rest) i < 0x100000000) (i : Nat) :
    start.frees first i < 0x100000000 :=
  Nat.lt_of_le_of_lt (start.frees_le_append first rest i) (few i)

theorem live_of_givenLast (sound : start.heap.Sound)
    (room : (start.run actions).heap.slotCount < 0xFFFFFFFF) (given : start.GivenLast actions h) :
    ((start.run actions).heap.slot? h).isSome := by
  rcases given with ⟨rfl, mem⟩ | ⟨earlier, call, rfl, made⟩
  · exact (Heap.mem_handles_iff room).1 mem
  · rw [run_append] at room ⊢
    obtain ⟨object, -, rfl, stored⟩ := store_of_made made
    change ((start.run earlier).perform call).2.heap.slotCount < _ at room
    change (((start.run earlier).perform call).2.heap.slot? _).isSome
    rw [stored] at room ⊢
    obtain ⟨generation, placed⟩ := (store_gains (sound_run sound earlier) room).placed
    rw [placed]
    rfl

theorem frees_of_made (sound : host.heap.Sound)
    (room : (host.perform call).2.heap.slotCount < 0xFFFFFFFF)
    (made : (host.perform call).1 = .made h) : host.frees [.call call] i = 0 := by
  obtain ⟨object, -, -, stored⟩ := store_of_made made
  rw [stored] at room
  have gains := store_gains sound room
  rw [frees, frees, step, stored]
  cases full : host.heap.occupied i with
  | false => rfl
  | true => rw [gains.occupied i full]; rfl

theorem frees_of_givenLast_again {first between : List HostAction} (sound : start.heap.Sound)
    (room : (start.run (first ++ between)).heap.slotCount < 0xFFFFFFFF) (later : between ≠ [])
    (given : start.GivenLast first h) (again : start.GivenLast (first ++ between) h) :
    ∃ index generation k, h.unpack? = some (index, generation) ∧ 0 < k ∧
      (start.run first).frees between index.toNat = k * 0x100000000 := by
  have live := live_of_givenLast sound (room_of_append room) given
  have sound' := sound_run sound first
  rcases again with ⟨empty, -⟩ | ⟨earlier, call, split, made⟩
  · exact absurd (List.append_eq_nil_iff.1 empty).2 later
  · obtain ⟨middle, last, rfl⟩ : ∃ middle last, between = middle ++ [last] :=
      ⟨_, _, (List.dropLast_concat_getLast later).symm⟩
    rw [← List.append_assoc] at split
    obtain ⟨rfl, same⟩ := List.append_inj' split rfl
    cases same
    rw [← List.append_assoc, run_append, run_append] at room
    rw [run_append] at made
    obtain ⟨index, generation, k, unpack, positive, round⟩ :=
      frees_of_made_again sound' live made room
    refine ⟨index, generation, k, unpack, positive, ?_⟩
    rw [frees_append, round, frees_of_made (sound_run sound' middle) room made, Nat.add_zero]

theorem young_first {first : List HostAction}
    (young : ∀ i, (start.heap.age i).toNat + start.frees (first ++ rest) i < 0x100000000) (i : Nat) :
    (start.heap.age i).toNat + start.frees first i < 0x100000000 :=
  Nat.lt_of_le_of_lt (Nat.add_le_add_left (start.frees_le_append first rest i) _) (young i)

theorem young_rest {first : List HostAction} (sound : start.heap.Sound)
    (room : (start.run (first ++ rest)).heap.slotCount < 0xFFFFFFFF)
    (young : ∀ i, (start.heap.age i).toNat + start.frees (first ++ rest) i < 0x100000000) (i : Nat) :
    ((start.run first).heap.age i).toNat + (start.run first).frees rest i < 0x100000000 := by
  have bound := young i
  rw [frees_append] at bound
  rw [age_run sound (room_of_append room), UInt32.toNat_add, UInt32.toNat_ofNat']
  omega

theorem missing_of_freed {first : List HostAction} (sound : start.heap.Sound)
    (room : (start.run (first ++ rest)).heap.slotCount < 0xFFFFFFFF)
    (young : ∀ i, (start.heap.age i).toNat + start.frees (first ++ rest) i < 0x100000000)
    (mem : h ∈ start.given first) (freed : (start.run first).heap.contains h = false) :
    (start.run (first ++ rest)).heap.slot? h = none := by
  have issued := (given_nodup sound (room_of_append room) (young_first young)).2 h mem
  have missing : (start.run first).heap.slot? h = none := by simpa [Heap.contains] using freed
  have later := young_rest sound room young
  rw [run_append] at room ⊢
  have ends := run_induct
    (motive := fun host _ => host.heap.Issued h ∧ host.heap.slot? h = none) ?_
    (sound_run sound first) room later ⟨issued, missing⟩
  · exact ends.2
  · rintro host action rest steady ⟨issued, missing⟩
    exact ⟨issued_step steady issued, missing_step steady issued missing⟩

/-- Handles name the slot and the generation of what they were given out for. Between two times that
one is given out, its slot is freed as often as there are generations, or a multiple of that; before
that no handle is given out twice, and the handle of a freed object stays dead. -/
theorem handles_fresh (created : create gcMode builtins = .ok start)
    (room : (start.run actions).heap.slotCount < 0xFFFFFFFF) :
    (∀ first rest h, actions = first ++ rest → start.GivenLast first h →
      h ≠ .null ∧ ∃ index s, h = .pack index s.generation ∧
        h.unpack? = some (index, s.generation) ∧
        (start.run first).heap.slots[index.toNat]? = some s ∧ s.value.isSome = true) ∧
    (∀ first between rest h, actions = first ++ between ++ rest → between ≠ [] →
      start.GivenLast first h → start.GivenLast (first ++ between) h →
      ∃ index generation k, h.unpack? = some (index, generation) ∧ 0 < k ∧
        (start.run first).frees between index.toNat = k * 0x100000000) ∧
    ((∀ i, start.frees actions i < 0x100000000) →
      (start.given actions).Nodup ∧
      ∀ first rest h, actions = first ++ rest → h ∈ start.given first →
        (start.run first).heap.contains h = false → (start.run actions).Unresolved h) := by
  have new := new_of_create created (room_of_run room)
  refine ⟨?_, ?_, ?_⟩
  · rintro first rest h rfl given
    have live := live_of_givenLast new.sound (room_of_append room) given
    obtain ⟨s, found⟩ := Option.isSome_iff_exists.1 live
    obtain ⟨index, unpack, slot, full⟩ := Heap.slot?_eq_some found
    refine ⟨?_, index, s, (Handle.pack_of_unpack? unpack).symm, unpack, slot, full⟩
    rintro rfl
    cases unpack
  · rintro first between rest h rfl later given again
    exact frees_of_givenLast_again new.sound (room_of_append room) later given again
  · intro few
    have young := new.aged few
    refine ⟨(given_nodup new.sound room young).1, ?_⟩
    rintro first rest h rfl mem freed
    exact unresolved_of_missing (missing_of_freed new.sound room young mem freed)

/-- The second tuple takes the slot of the first, but not its handle. -/
theorem handles_fresh_reused_slot :
    let start := core .refCounting
    let actions : List HostAction :=
      [.call (.newTuple []), .call (.release (.pack 3 0)), .call (.newTuple [])]
    create .refCounting [] = .ok start ∧ (start.run actions).heap.slotCount < 0xFFFFFFFF ∧
      (start.run actions).heap.contains (.pack 3 1) = true ∧
      (start.run actions).Unresolved (.pack 3 0) := by
  intro start actions
  have freed : start.run (actions.take 2) = (turns 1 (start.run (actions.take 1)) [.pack 3 0]).1 :=
    congrArg Prod.snd (perform_release 1 (by decide) (by decide))
  have ends : start.run actions = (start.run (actions.take 2)).step (.call (.newTuple [])) := rfl
  rw [freed] at ends
  have room : (start.run actions).heap.slotCount < 0xFFFFFFFF := by
    rw [ends]
    decide
  have few (i : Nat) : start.frees actions i < 0x100000000 :=
    Nat.lt_of_le_of_lt (frees_le_length start actions i) (by decide)
  have created : create .refCounting [] = .ok start := rfl
  have fresh := handles_fresh created room
  refine ⟨rfl, room, by rw [ends]; decide, ?_⟩
  refine (fresh.2.2 few).2 (actions.take 2) (actions.drop 2) (.pack 3 0) rfl (by decide) ?_
  rw [freed]
  decide

end Host
end TypeHost
