import TypeHost.Proofs.Host.Constancy
import TypeHost.Proofs.Host.Inheritance
import TypeHost.Proofs.Host.Plan
import TypeHost.Proofs.Layout

/-! Layers of types. The rule of layout judges a new type over its bases only, but what it says of
one step up goes all the way: no legacy type lies below a headless one. -/
namespace TypeHost

namespace Host

variable {host before after start : Host} {h : Handle} {t u : RegisteredType} {object : HostObject}
  {call : HostCall} {gcMode : GcMode} {builtins : List BuiltinType} {actions : List HostAction}

theorem headless_eq_false : t.info.layout.headless = false ↔ t.builtin = true ∨ t.legacy = true := by
  change (!t.legacy && !t.builtin) = false ↔ _
  cases t.builtin <;> cases t.legacy <;> decide

/-- Only headless types lie directly below a headless one. The universal base, which has no say in
the layout, is a type of the host itself for as long as it lives. -/
structure Layered (host : Host) : Prop where
  rooted : host.heap.Issued objectType
  root : ∀ t, host.type? objectType = some t → t.builtin = true
  issued : ∀ h t, host.type? h = some t → ∀ base ∈ t.bases, host.heap.Issued base
  above : ∀ h t, host.type? h = some t → t.info.layout.headless = false →
    ∀ base ∈ t.bases, ∀ u, host.type? base = some u → u.info.layout.headless = false

theorem Layered.fade (layered : before.Layered) (fades : before.Fades after)
    (older : ∀ i, before.heap.age i ≤ after.heap.age i) : after.Layered where
  rooted := layered.rooted.wanes fades.wanes older
  root := fun t found => layered.root t (fades.type? found)
  issued := fun h t found base mem =>
    (layered.issued h t (fades.type? found) base mem).wanes fades.wanes older
  above := fun h t found has_head base mem u found' =>
    layered.above h t (fades.type? found) has_head base mem u (fades.type? found')

/-- A type that is not headless comes to lie over bases that are not, either. -/
theorem Layered.made (layered : host.Layered) (makes : host.Makes call (.type t)) :
    ∀ base ∈ t.bases, host.heap.Issued base ∧ (t.info.layout.headless = false →
      ∀ u, host.type? base = some u → u.info.layout.headless = false) := by
  intro base mem
  cases makes with
  | builtin sizes unnamed =>
      obtain rfl : base = objectType := List.mem_singleton.1 mem
      exact ⟨layered.rooted, fun _ u found => headless_eq_false.2 (.inl (layered.root u found))⟩
  | type planned =>
      obtain ⟨bases, types, legacy, checks, rfl⟩ := plan_eq_ok planned
      obtain ⟨w, entry, eq⟩ := findBase_of_mem checks.found mem
      obtain ⟨found, -⟩ := findBase_eq_ok.1 eq
      refine ⟨issued_of_type? found, ?_⟩
      intro has_head u found'
      cases found.symm.trans found'
      -- The universal base is not among the layouts that were judged.
      by_cases root : base = objectType
      · subst root
        exact headless_eq_false.2 (.inl (layered.root w found))
      · have judged : w.info.layout ∈
            ((bases.zip types).filter (·.1 ≠ objectType)).map (·.2.info.layout) :=
          List.mem_map.2 ⟨_, List.mem_filter.2 ⟨entry, decide_eq_true root⟩, rfl⟩
        have mode : legacy = true := (headless_eq_false.1 has_head).resolve_left Bool.false_ne_true
        subst mode
        exact TypeSpec.not_headless_of_resolveLayoutOver checks.layout judged

theorem Layered.gain (layered : before.Layered) (makes : before.Makes call object)
    (gains : before.Gains after object h) : after.Layered := by
  -- Bases had been issued before, so what they name is not the new object.
  have each (h : Handle) (t : RegisteredType) (found : after.type? h = some t) :
      ∀ base ∈ t.bases, before.heap.Issued base ∧ (t.info.layout.headless = false →
        ∀ u, before.type? base = some u → u.info.layout.headless = false) := by
    rcases gains.type?_cases found with rfl | found'
    · exact layered.made makes
    · exact fun base mem => ⟨layered.issued h t found' base mem,
        fun has_head => layered.above h t found' has_head base mem⟩
  refine ⟨gains.issued _ layered.rooted, ?_, ?_, ?_⟩
  · intro t found
    exact layered.root t (gains.type?_of_issued layered.rooted ▸ found)
  · exact fun h t found base mem => gains.issued base (each h t found base mem).1
  · intro h t found has_head base mem u found'
    obtain ⟨issued, above⟩ := each h t found base mem
    exact above has_head u (gains.type?_of_issued issued ▸ found')

theorem layered_of_create (created : create gcMode builtins = .ok start)
    (small : start.heap.slotCount < 0xFFFFFFFF) : start.Layered := by
  obtain ⟨rooted, own⟩ := registered_of_create created small
  have builtin (h : Handle) (t : RegisteredType) (found : start.type? h = some t) :
      t.builtin = true ∧ ∀ base ∈ t.bases, base = objectType := by
    obtain ⟨b, same⟩ := own h _ (type?_eq_some.1 found)
    cases same
    refine ⟨rfl, ?_⟩
    intro base mem
    change base ∈ (if h = objectType then [] else [objectType]) at mem
    split at mem
    · cases mem
    · exact List.mem_singleton.1 mem
  refine ⟨rooted, fun t found => (builtin _ t found).1, ?_, ?_⟩
  · intro h t found base mem
    rw [(builtin h t found).2 base mem]
    exact rooted
  · exact fun h t _ _ base _ u found => headless_eq_false.2 (.inl (builtin base u found).1)

theorem Lasting.layered (lasting : host.Lasting) : host.Layered :=
  lasting.induct (fun _ _ _ created small => layered_of_create created small)
    (fun _ _ fades older layered => layered.fade fades older)
    fun _ _ _ _ _ makes gains layered => layered.gain makes gains

theorem Layered.pass_up {other : Handle} (layered : host.Layered)
    (subtype : host.isSubtype h other = true) (found : host.type? h = some t)
    (has_head : t.info.layout.headless = false) (found' : host.type? other = some u) :
    u.info.layout.headless = false :=
  (isSubtype_iff.1 subtype).pass_on
    (fun h t base u found mem found' has_head => layered.above h t found has_head base mem u found')
    found has_head found'

/-- No legacy type lies below a headless one, at whatever distance, and a type that was given a slot
table is legacy. -/
theorem legacy_never_below_headless (created : create gcMode builtins = .ok start)
    (room : (start.run actions).heap.slotCount < 0xFFFFFFFF)
    (few : ∀ i, start.frees actions i < 0x100000000) :
    let host := start.run actions
    (∀ h t other u, host.type? h = some t → t.legacy = true → host.type? other = some u →
      host.isSubtype h other = true → ¬ (u.builtin = false ∧ u.legacy = false)) ∧
    (∀ first rest spec params ty, actions = first ++ .call (.typeFromSpec spec params) :: rest →
      ((start.run first).perform (.typeFromSpec spec params)).1 = .made ty →
      spec.legacySlots.isSome = true →
      (∃ t, ((start.run first).perform (.typeFromSpec spec params)).2.type? ty = some t ∧
        t.legacy = true) ∧
      ∀ t, host.type? ty = some t → t.legacy = true) := by
  intro host
  have layered : host.Layered :=
    Lasting.layered ⟨gcMode, builtins, start, actions, created, rfl, room, few⟩
  refine ⟨?_, ?_⟩
  · rintro h t other u found legacy found' subtype ⟨extension, pure⟩
    have has_head := layered.pass_up subtype found (headless_eq_false.2 (.inr legacy)) found'
    rcases headless_eq_false.1 has_head with builtin | legacy
    · rw [extension] at builtin
      cases builtin
    · rw [pure] at legacy
      cases legacy
  · rintro first rest spec params ty rfl registered slots
    have new := new_of_create created (room_of_run room)
    obtain ⟨object, makes, placed, kept⟩ := made_run new.sound room (new.aged few) registered
    cases makes with | @type _ _ t planned =>
    obtain ⟨bases, types, legacy, checks, rfl⟩ := plan_eq_ok planned
    have mode : (recordFor spec bases types legacy).legacy = true :=
      TypeSpec.legacy_of_legacySlots checks.layout slots
    refine ⟨⟨_, type?_eq_some.2 placed, mode⟩, ?_⟩
    intro t found
    cases HostObject.blank_eq_type.1 (kept _ (type?_eq_some.1 found)).symm
    exact mode

/-- A type over a tuple of bases, and below it one with a slot table that inherits its struct. -/
theorem legacy_never_below_headless_inherited :
    let outer : TypeSpec := { name := "outer", basicsize := 32, legacy := true, flags := .baseType }
    let inner : TypeSpec :=
      { name := "inner", legacy := true, legacySlots := SlotTable.ofAddress? 8 }
    let actions : List HostAction := [.call (.newTuple [tupleType, objectType]),
      .call (.typeFromSpec outer [⟨.basesTuple, .pack 3 0⟩]),
      .call (.typeFromSpec inner [⟨.base, .pack 4 0⟩])]
    let host := (core .tracing).run actions
    ∃ t u, host.type? (.pack 5 0) = some t ∧ t.legacy = true ∧ host.type? (.pack 4 0) = some u ∧
      host.isSubtype (.pack 5 0) (.pack 4 0) = true ∧ ¬ (u.builtin = false ∧ u.legacy = false) := by
  intro outer inner actions host
  have created : create .tracing [] = .ok (core .tracing) := rfl
  have room : ((core .tracing).run actions).heap.slotCount < 0xFFFFFFFF := by decide
  obtain ⟨below, slots⟩ := legacy_never_below_headless created room fun i =>
    Nat.lt_of_le_of_lt (frees_le_length _ _ i) (by decide)
  obtain ⟨t, found⟩ : ∃ t, host.type? (.pack 5 0) = some t :=
    Option.isSome_iff_exists.1 (by decide)
  obtain ⟨u, found'⟩ : ∃ u, host.type? (.pack 4 0) = some u :=
    Option.isSome_iff_exists.1 (by decide)
  have legacy : t.legacy = true :=
    (slots (actions.take 2) [] inner _ _ rfl (by decide) (by decide)).2 t found
  have bases : (host.type? (.pack 5 0)).map (·.bases) = some [.pack 4 0] := by decide
  rw [found, Option.map_some, Option.some.injEq] at bases
  have subtype : host.isSubtype (.pack 5 0) (.pack 4 0) = true :=
    isSubtype_of_mem_bases found (bases ▸ List.mem_cons_self) (by decide)
  exact ⟨t, u, found, legacy, found', subtype, below _ t _ u found legacy found' subtype⟩

end Host
end TypeHost
