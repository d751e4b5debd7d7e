import TypeHost.Proofs.Host.Gain

/-! Runs that are not too long for their handles: slots stay fewer than indices, and no slot is
freed so often that its generations begin again. What holds of every new host, and is kept while
objects fade and when one is gained, holds after every such run. -/
namespace TypeHost

namespace Host

variable {host before after start : Host} {object : HostObject} {gcMode : GcMode}
  {builtins : List BuiltinType} {actions : List HostAction}

def frees (host : Host) : List HostAction → Nat → Nat
  | [], _ => 0
  | action :: rest, i =>
    (if host.heap.occupied i && !(host.step action).heap.occupied i then 1 else 0)
      + (host.step action).frees rest i

theorem frees_le_length (host : Host) (actions : List HostAction) (i : Nat) :
    host.frees actions i ≤ actions.length := by
  induction actions generalizing host with
  | nil => exact Nat.le_refl 0
  | cons action rest ih =>
      have := ih (host.step action)
      rw [frees, List.length_cons]
      split <;> omega

theorem run_append (host : Host) (first second : List HostAction) :
    host.run (first ++ second) = (host.run first).run second :=
  List.foldl_append

theorem run_release {h : Handle} (first later : List HostAction) (n : Nat)
    (live : (host.run first).heap.contains h = true)
    (ended : (turns n (host.run first) [h]).2 = []) :
    host.run (first ++ .call (.release h) :: later)
      = (turns n (host.run first) [h]).1.run later := by
  rw [run_append, ← step_release n live ended]
  rfl

theorem frees_append (host : Host) (first second : List HostAction) (i : Nat) :
    host.frees (first ++ second) i = host.frees first i + (host.run first).frees second i := by
  induction first generalizing host with
  | nil => exact (Nat.zero_add _).symm
  | cons action rest ih =>
      rw [List.cons_append, frees, frees, ih, Nat.add_assoc]
      rfl

theorem frees_le_append (host : Host) (first second : List HostAction) (i : Nat) :
    host.frees first i ≤ host.frees (first ++ second) i := by
  rw [frees_append]
  exact Nat.le_add_right _ _

/-- Reached by a run in which no handle is given out twice. -/
def Lasting (host : Host) : Prop :=
  ∃ gcMode builtins start actions, create gcMode builtins = .ok start ∧ start.run actions = host ∧
    host.heap.slotCount < 0xFFFFFFFF ∧ ∀ i, start.frees actions i < 0x100000000

/-- Reached by a run in which every slot has an index of its own. -/
def Roomy (host : Host) : Prop :=
  ∃ gcMode builtins start actions, create gcMode builtins = .ok start ∧ start.run actions = host ∧
    host.heap.slotCount < 0xFFFFFFFF

theorem Lasting.roomy {host : Host} (lasting : host.Lasting) : host.Roomy := by
  obtain ⟨gcMode, builtins, start, actions, created, reached, room, -⟩ := lasting
  exact ⟨gcMode, builtins, start, actions, created, reached, room⟩

theorem Roomy.room {host : Host} (roomy : host.Roomy) : host.heap.slotCount < 0xFFFFFFFF := by
  obtain ⟨gcMode, builtins, start, actions, -, -, room⟩ := roomy
  exact room

theorem Roomy.reachable {host : Host} (roomy : host.Roomy) : host.Reachable := by
  obtain ⟨gcMode, builtins, start, actions, created, reached, -⟩ := roomy
  exact ⟨gcMode, builtins, start, actions, created, reached⟩

theorem Roomy.run {host : Host} (roomy : host.Roomy) (actions : List HostAction)
    (room : (host.run actions).heap.slotCount < 0xFFFFFFFF) : (host.run actions).Roomy := by
  obtain ⟨gcMode, builtins, start, earlier, created, rfl, -⟩ := roomy
  exact ⟨gcMode, builtins, start, earlier ++ actions, created, run_append .., room⟩

theorem lasting_of_short (short : actions.length < 0x100000000)
    (room : ((core gcMode).run actions).heap.slotCount < 0xFFFFFFFF) :
    ((core gcMode).run actions).Lasting :=
  ⟨gcMode, [], core gcMode, actions, rfl, rfl, room,
    fun i => Nat.lt_of_le_of_lt (frees_le_length _ _ i) short⟩

theorem slotCount_le_step (host : Host) (action : HostAction) :
    host.heap.slotCount ≤ (host.step action).heap.slotCount := by
  rcases host.step_cases action with fades | ⟨call, object, -, -, stored⟩
  · exact Nat.le_of_eq fades.wanes.size.symm
  · rw [stored]
    exact host.slotCount_le_store object

theorem slotCount_le_run (host : Host) (actions : List HostAction) :
    host.heap.slotCount ≤ (host.run actions).heap.slotCount := by
  induction actions generalizing host with
  | nil => exact Nat.le_refl _
  | cons action rest ih =>
      exact Nat.le_trans (host.slotCount_le_step action) (ih (host.step action))

theorem room_of_run (room : (host.run actions).heap.slotCount < 0xFFFFFFFF) :
    host.heap.slotCount < 0xFFFFFFFF :=
  Nat.lt_of_le_of_lt (host.slotCount_le_run actions) room

/-- An action that has room for its object and after which no slot is younger than before. -/
structure Steady (host : Host) (action : HostAction) : Prop where
  sound : host.heap.Sound
  room : (host.step action).heap.slotCount < 0xFFFFFFFF
  older : ∀ i, host.heap.age i ≤ (host.step action).heap.age i

theorem sound_store (sound : host.heap.Sound) (object : HostObject) :
    (host.store object).2.heap.Sound :=
  ((host.fades_retainAll object.references).sound sound).allocate object

theorem sound_step (sound : host.heap.Sound) (action : HostAction) :
    (host.step action).heap.Sound := by
  rcases host.step_cases action with fades | ⟨call, object, -, -, stored⟩
  · exact fades.sound sound
  · rw [stored]
    exact sound_store sound object

theorem sound_run (sound : host.heap.Sound) (actions : List HostAction) :
    (host.run actions).heap.Sound := by
  induction actions generalizing host with
  | nil => exact sound
  | cons action rest ih => exact ih (sound_step sound action)

theorem run_keeps {motive : Host → Prop}
    (step : ∀ host action, host.heap.Sound → (host.step action).heap.slotCount < 0xFFFFFFFF →
      motive host → motive (host.step action))
    (sound : start.heap.Sound) (room : (start.run actions).heap.slotCount < 0xFFFFFFFF)
    (init : motive start) : motive (start.run actions) := by
  induction actions generalizing start with
  | nil => exact init
  | cons action rest ih =>
      have here : (start.step action).heap.slotCount < 0xFFFFFFFF := room_of_run room
      exact ih (sound_step sound action) room (step start action sound here init)

theorem agesByFrees_step {action : HostAction} (sound : host.heap.Sound)
    (room : (host.step action).heap.slotCount < 0xFFFFFFFF) :
    host.heap.AgesByFrees (host.step action).heap := by
  rcases host.step_cases action with fades | ⟨call, object, -, -, stored⟩
  · exact fades.wanes.agesByFrees
  · rw [stored] at room ⊢
    have gains := store_gains sound room
    intro i
    rw [gains.age]
    cases full : host.heap.occupied i with
    | false => simp
    | true => simp [gains.occupied i full]

/-- The age of a slot and the frees still to come together stay below the number of generations. -/
theorem young_step {action : HostAction} {rest : List HostAction} (sound : host.heap.Sound)
    (room : (host.step action).heap.slotCount < 0xFFFFFFFF)
    (young : ∀ i, (host.heap.age i).toNat + host.frees (action :: rest) i < 0x100000000) (i : Nat) :
    host.heap.age i ≤ (host.step action).heap.age i ∧
      ((host.step action).heap.age i).toNat + (host.step action).frees rest i < 0x100000000 := by
  have bound := young i
  rw [frees] at bound
  rw [agesByFrees_step sound room i]
  split at bound
  · rename_i freed
    rw [if_pos freed, UInt32.le_iff_toNat_le, UInt32.toNat_add]
    simp only [UInt32.toNat_one]
    omega
  · rename_i kept
    rw [if_neg kept, UInt32.add_zero]
    exact ⟨UInt32.le_refl _, by omega⟩

/-- Induction over a run; what it shows may speak of the actions that are still to come. -/
theorem run_induct {motive : Host → List HostAction → Prop}
    (step : ∀ host action rest, host.Steady action → motive host (action :: rest) →
      motive (host.step action) rest)
    (sound : start.heap.Sound) (room : (start.run actions).heap.slotCount < 0xFFFFFFFF)
    (young : ∀ i, (start.heap.age i).toNat + start.frees actions i < 0x100000000)
    (init : motive start actions) : motive (start.run actions) [] := by
  induction actions generalizing start with
  | nil => exact init
  | cons action rest ih =>
      have here : (start.step action).heap.slotCount < 0xFFFFFFFF := room_of_run room
      have older := young_step sound here young
      have steady : start.Steady action := ⟨sound, here, fun i => (older i).1⟩
      exact ih (sound_step sound action) room (fun i => (older i).2) (step _ _ _ steady init)

/-- A new host grows from a core one by types that lie directly below the universal base. -/
theorem create_induct_core {motive : Host → Prop} (ready : motive (core gcMode))
    (below : ∀ host b, host.Makes (.registerBuiltin b) (.type (b.register [objectType])) →
      motive host → motive (host.store (.type (BuiltinType.register b [objectType]))).2)
    (created : create gcMode builtins = .ok start) : motive start := by
  rw [create] at created
  generalize core gcMode = host at created ready
  induction builtins generalizing host with
  | nil =>
      cases created
      exact ready
  | cons b rest ih =>
      rw [List.foldlM_cons] at created
      rcases host.registerBuiltin_settles b with ⟨cause, refused⟩ | ⟨object, makes, made⟩
      · rw [refused] at created
        cases created
      · rw [made] at created
        cases makes with
        | builtin sizes unnamed => exact ih _ created (below host b (.builtin sizes unnamed) ready)

theorem create_induct {motive : Host → Prop}
    (root : ∀ gcMode, motive
      (store { gcMode } (.type (BuiltinType.register { name := "object" } []))).2)
    (below : ∀ host b, host.Makes (.registerBuiltin b) (.type (b.register [objectType])) →
      motive host → motive (host.store (.type (BuiltinType.register b [objectType]))).2)
    (created : create gcMode builtins = .ok start) : motive start :=
  create_induct_core (core_eq_store gcMode ▸ below _ _ (.builtin rfl (by rfl))
    (below _ _ (.builtin rfl (by rfl)) (root gcMode))) below created

theorem sound_of_create (created : create gcMode builtins = .ok start) : start.heap.Sound := by
  refine create_induct (motive := fun host => host.heap.Sound) ?_ ?_ created
  · intro gcMode
    exact sound_store Heap.sound_empty _
  · intro host b makes sound
    exact sound_store sound _

theorem Reachable.sound (reachable : host.Reachable) : host.heap.Sound := by
  obtain ⟨gcMode, builtins, start, actions, created, rfl⟩ := reachable
  exact sound_run (sound_of_create created) actions

/-- With room for all its types a new host gains one after the other. -/
theorem create_induct_gains {motive : Host → Prop}
    (root : ∀ gcMode, let object := HostObject.type (BuiltinType.register { name := "object" } [])
      let made := store { gcMode } object
      made.2.heap.slotCount < 0xFFFFFFFF → Gains { gcMode } made.2 object made.1 → motive made.2)
    (below : ∀ host b, let object := HostObject.type (BuiltinType.register b [objectType])
      let made := host.store object
      host.Makes (.registerBuiltin b) object → made.2.heap.slotCount < 0xFFFFFFFF →
        host.Gains made.2 object made.1 → motive host → motive made.2)
    (created : create gcMode builtins = .ok start) (small : start.heap.slotCount < 0xFFFFFFFF) :
    motive start := by
  refine (create_induct (motive := fun host => host.heap.slotCount < 0xFFFFFFFF →
    host.heap.Sound ∧ motive host) ?_ ?_ created small).2
  · intro gcMode small
    have gains := store_gains Heap.sound_empty small
    exact ⟨gains.sound, root gcMode small gains⟩
  · intro host b makes holds small
    obtain ⟨sound, holds⟩ := holds (Nat.lt_of_le_of_lt (host.slotCount_le_store _) small)
    have gains := store_gains sound small
    exact ⟨gains.sound, below host b makes small gains holds⟩

structure New (host : Host) : Prop where
  sound : host.heap.Sound
  young : ∀ i, host.heap.age i = 0
  types : ∀ h object, host.get? h = some object → ∃ t, object = .type t

theorem New.gain {h : Handle} {t : RegisteredType} (new : before.New)
    (gains : before.Gains after (.type t) h) : after.New := by
  refine ⟨gains.sound, fun i => (gains.age i).trans (new.young i), ?_⟩
  intro other object found
  rcases gains.get?_cases found with rfl | found'
  · exact ⟨t, rfl⟩
  · exact new.types other object found'

theorem new_of_create (created : create gcMode builtins = .ok start)
    (small : start.heap.slotCount < 0xFFFFFFFF) : start.New := by
  refine create_induct_gains ?_ ?_ created small
  · intro gcMode object made small gains
    have empty : New { gcMode } :=
      ⟨Heap.sound_empty, fun i => rfl, fun h object found => by
        simp [get?, Heap.get?, Heap.slot?] at found⟩
    exact empty.gain gains
  · intro host b object made makes small gains new
    exact new.gain gains

/-- A new host holds types of its own: the universal base, and others directly below it. -/
theorem registered_of_create (created : create gcMode builtins = .ok start)
    (small : start.heap.slotCount < 0xFFFFFFFF) : start.heap.Issued objectType ∧
    ∀ h object, start.get? h = some object →
      ∃ b : BuiltinType, object = .type (b.register (if h = objectType then [] else [objectType])) := by
  refine create_induct_gains (motive := fun host => host.heap.Issued objectType ∧
    ∀ h object, host.get? h = some object → ∃ b : BuiltinType,
      object = .type (b.register (if h = objectType then [] else [objectType]))) ?_ ?_ created small
  · intro gcMode object made small gains
    obtain ⟨generation, placed⟩ := gains.placed
    refine ⟨Heap.issued_of_slot? placed, ?_⟩
    intro h last found
    by_cases same : h = objectType
    · subst same
      cases gains.get?_self.symm.trans found
      exact ⟨_, rfl⟩
    · rw [gains.get?_of_ne same] at found
      simp [get?, Heap.get?, Heap.slot?] at found
  · rintro host b object made makes small gains ⟨issued, flat⟩
    refine ⟨gains.issued _ issued, ?_⟩
    intro h last found
    by_cases same : h = made.1
    · have apart : h ≠ objectType := fun eq => gains.fresh (same ▸ eq ▸ issued)
      rw [same, gains.get?_self] at found
      cases found
      rw [if_neg apart]
      exact ⟨b, rfl⟩
    · rw [gains.get?_of_ne same] at found
      exact flat h last found

theorem New.aged (new : start.New) (young : ∀ i, start.frees actions i < 0x100000000) (i : Nat) :
    (start.heap.age i).toNat + start.frees actions i < 0x100000000 := by
  rw [new.young i, UInt32.toNat_zero, Nat.zero_add]
  exact young i

/-- What new hosts have and no action takes away, every lasting host has. -/
theorem Lasting.induct {motive : Host → Prop}
    (new : ∀ gcMode builtins start, create gcMode builtins = .ok start →
      start.heap.slotCount < 0xFFFFFFFF → motive start)
    (fade : ∀ before after, before.Fades after →
      (∀ i, before.heap.age i ≤ after.heap.age i) → motive before → motive after)
    (gain : ∀ before after call object h, before.Makes call object →
      before.Gains after object h → motive before → motive after)
    (lasting : host.Lasting) : motive host := by
  obtain ⟨gcMode, builtins, start, actions, created, rfl, room, young⟩ := lasting
  have small := room_of_run room
  have fresh := new_of_create created small
  refine run_induct (motive := fun host _ => motive host) ?_
    fresh.sound room (fresh.aged young) (new gcMode builtins start created small)
  intro host action rest steady holds
  rcases host.step_cases action with fades | ⟨call, object, -, makes, stored⟩
  · exact fade _ _ fades steady.older holds
  · have room := steady.room
    rw [stored] at room ⊢
    exact gain _ _ call object _ makes (store_gains steady.sound room) holds

end Host
end TypeHost
