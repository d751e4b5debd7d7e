import TypeHost.Proofs.Host.Memory
import TypeHost.Proofs.Host.Store

/-! What stays of a host over an action. Apart from storing a new object an action frees slots,
changes counts and writes into memory, and does nothing else to an object that it leaves alive. -/
namespace TypeHost

/-- The object with its memory wiped; no write shows in it. -/
def HostObject.blank : HostObject → HostObject
  | .inst i => .inst { i with memory := { size := i.memory.size } }
  | object => object

@[simp] theorem HostObject.blank_syncHead (count : UInt32) (object : HostObject) :
    (object.syncHead count).blank = object.blank := by
  cases object with
  | inst i => simp only [syncHead, blank, Memory.writeRefCount, Memory.size_write]
  | type t => rfl
  | tuple items => rfl

@[simp] theorem HostObject.references_blank (object : HostObject) :
    object.blank.references = object.references := by
  cases object <;> rfl

theorem HostObject.blank_eq_type {object : HostObject} {t : RegisteredType} :
    object.blank = .type t ↔ object = .type t := by
  cases object <;> simp [blank]

theorem HostObject.blank_eq_tuple {object : HostObject} {items : List Handle} :
    object.blank = .tuple items ↔ object = .tuple items := by
  cases object <;> simp [blank]

theorem HostObject.blank_eq_inst {object : HostObject} {i : Instance} :
    object.blank = (HostObject.inst i).blank ↔ ∃ j, object = .inst j ∧ j.type = i.type ∧
      j.mode = i.mode ∧ j.memory.size = i.memory.size := by
  cases object <;> simp [blank]

namespace Host

variable {host before after last : Host} {h : Handle} {t : RegisteredType}

/-- No object is made, and what outlives the change is the same up to bytes in memory. -/
structure Fades (before after : Host) : Prop where
  wanes : before.heap.Wanes after.heap
  sound : before.heap.Sound → after.heap.Sound
  objects : ∀ h object, after.get? h = some object →
    ∃ old, before.get? h = some old ∧ old.blank = object.blank

theorem Fades.refl (host : Host) : host.Fades host :=
  ⟨.refl _, id, fun _ object found => ⟨object, found, rfl⟩⟩

theorem Fades.trans (first : before.Fades after) (second : after.Fades last) :
    before.Fades last := by
  refine ⟨first.wanes.trans second.wanes, second.sound ∘ first.sound, ?_⟩
  intro h object found
  obtain ⟨middle, found', same'⟩ := second.objects h object found
  obtain ⟨old, found'', same⟩ := first.objects h middle found'
  exact ⟨old, found'', same.trans same'⟩

theorem isSome_get? : (host.get? h).isSome = (host.heap.slot? h).isSome := by
  rw [get?, Heap.get?]
  cases found : host.heap.slot? h with
  | none => rfl
  | some s => exact Heap.isSome_of_slot? found

theorem exists_get? (live : (host.heap.slot? h).isSome) : ∃ object, host.get? h = some object :=
  Option.isSome_iff_exists.1 (isSome_get?.trans live)

theorem live_of_type? (found : host.type? h = some t) : (host.heap.slot? h).isSome := by
  rw [← isSome_get?, type?_eq_some.1 found]
  rfl

theorem Fades.live (fades : before.Fades after) (live : (after.heap.slot? h).isSome) :
    (before.heap.slot? h).isSome := by
  rw [← isSome_get?] at live ⊢
  obtain ⟨object, found⟩ := Option.isSome_iff_exists.1 live
  obtain ⟨old, found', -⟩ := fades.objects h object found
  rw [found']
  rfl

theorem Fades.missing (fades : before.Fades after) (missing : before.heap.slot? h = none) :
    after.heap.slot? h = none := by
  rw [← Option.not_isSome_iff_eq_none] at missing ⊢
  exact fun live => missing (fades.live live)

theorem Fades.type? (fades : before.Fades after) (found : after.type? h = some t) :
    before.type? h = some t := by
  obtain ⟨old, found', same⟩ := fades.objects h _ (type?_eq_some.1 found)
  cases HostObject.blank_eq_type.1 same
  exact type?_eq_some.2 found'

theorem Fades.type?_of_live (fades : before.Fades after) (live : (after.heap.slot? h).isSome)
    (found : before.type? h = some t) : after.type? h = some t := by
  obtain ⟨object, found'⟩ := Option.isSome_iff_exists.1 (isSome_get? ▸ live)
  obtain ⟨old, here, same⟩ := fades.objects h object found'
  cases (type?_eq_some.1 found).symm.trans here
  rw [type?_eq_some, found', HostObject.blank_eq_type.1 same.symm]

theorem fades_addRef (host : Host) (h : Handle) :
    host.Fades { host with heap := host.heap.addRef h } where
  wanes := Heap.wanes_addRef host.heap h
  sound := fun sound => sound.addRef h
  objects := fun other object found =>
    ⟨object, (Heap.get?_addRef host.heap h other).symm.trans found, rfl⟩

theorem fades_retainAll (host : Host) (handles : List Handle) :
    host.Fades (host.retainAll handles) := by
  induction handles generalizing host with
  | nil => exact .refl host
  | cons h rest ih =>
      exact (host.fades_addRef h).trans (ih { host with heap := host.heap.addRef h })

theorem fades_update (host : Host) (h : Handle) (f : HostObject → HostObject)
    (same : ∀ object, host.get? h = some object → (f object).blank = object.blank) :
    host.Fades { host with heap := host.heap.update h f } where
  wanes := Heap.wanes_update host.heap h f
  sound := fun sound => sound.update h f
  objects := by
    intro other object found
    by_cases eq : other = h
    · subst eq
      rw [get?, Heap.get?_update_self] at found
      obtain ⟨old, found', rfl⟩ := Option.map_eq_some_iff.1 found
      exact ⟨old, found', (same old found').symm⟩
    · rw [get?, Heap.get?_update_of_ne eq] at found
      exact ⟨object, found, rfl⟩

theorem fades_syncHead (host : Host) (h : Handle) : host.Fades (host.syncHead h) := by
  unfold syncHead
  split
  · exact host.fades_update h _ fun object _ => HostObject.blank_syncHead _ object
  · exact .refl host

theorem fades_dropOne (host : Host) (h : Handle) : host.Fades (host.dropOne h).1 := by
  have released : host.Fades { host with heap := (host.heap.release h).2 } :=
    ⟨Heap.wanes_release host.heap h, fun sound => sound.release h,
      fun other object found => ⟨object, Heap.get?_of_get?_release found, rfl⟩⟩
  unfold dropOne
  split
  · rename_i heap eq
    rw [eq] at released
    exact released.trans (fades_syncHead _ h)
  · rename_i object heap eq
    rw [eq] at released
    rw [forgetName_eq]
    exact ⟨released.wanes, released.sound, released.objects⟩

theorem fades_drop (host : Host) (pending : List Handle) : host.Fades (host.drop pending) := by
  induction host, pending using drop_induct with
  | nil host =>
      rw [drop_nil]
      exact .refl host
  | cons host h pending ih =>
      rw [drop_cons]
      exact (host.fades_dropOne h).trans ih

theorem missing_drop (missing : host.heap.slot? h = none) (pending : List Handle) :
    (host.drop pending).heap.slot? h = none :=
  (host.fades_drop pending).missing missing

/-- A write changes one instance in place, and only its memory, if it changes anything. -/
theorem write_cases (host : Host) (h : Handle) (start : Nat) (bytes : List UInt8) :
    host.step (.write h start bytes) = host ∨
    ∃ f, (∀ object, host.get? h = some object → (f object).blank = object.blank) ∧
      host.step (.write h start bytes) = { host with heap := host.heap.update h f } := by
  rw [step, writeMemory]
  cases found : host.instance? h with
  | none => exact .inl rfl
  | some i =>
      dsimp only
      split
      · rename_i next eq
        split at eq
        · cases eq
          refine .inr ⟨_, ?_, rfl⟩
          intro object here
          rw [instance?, here] at found
          cases object with
          | inst j =>
              cases found
              simp only [HostObject.blank, Memory.size_write]
          | type t => cases found
          | tuple items => cases found
        · cases eq
      · exact .inl rfl

theorem fades_write (host : Host) (h : Handle) (start : Nat) (bytes : List UInt8) :
    host.Fades (host.step (.write h start bytes)) := by
  rcases host.write_cases h start bytes with same | ⟨f, same, written⟩
  · rw [same]
    exact .refl host
  · rw [written]
    exact host.fades_update h f same

/-- An action stores one new object, or it makes the host fade. -/
theorem step_cases (host : Host) (action : HostAction) :
    host.Fades (host.step action) ∨
    ∃ call object, action = .call call ∧ host.Makes call object ∧
      host.step action = (host.store object).2 := by
  cases action with
  | write h start bytes => exact .inl (host.fades_write h start bytes)
  | call call =>
      rw [step]
      have performed := host.perform_cases call
      generalize host.perform call = result at performed ⊢
      cases performed with
      | refused => exact .inl (.refl host)
      | made makes => exact .inr ⟨call, _, rfl, makes, rfl⟩
      | retained => exact .inl ((host.fades_addRef _).trans (fades_syncHead _ _))
      | released live => exact .inl (host.fades_drop _)
      | missed dead => exact .inl (.refl host)

end Host
end TypeHost
