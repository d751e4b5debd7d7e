import Mathlib.Data.List.Destutter
import Mathlib.Data.List.Sort
import Mathlib.Data.Prod.Lex
import TypeHost.Layout
import TypeHost.Proofs.Checks

/-! What the rule of layout decides. A mode over several bases is the mode over each of them, and no
spec becomes legacy over a base whose struct holds no header. Bases are judged in an order of their
own, but the verdict over all of them can be told without any order. -/
namespace TypeHost

/-- An extension type without a header in its struct; a legacy type must not lie above it. -/
def BaseLayout.headless (base : BaseLayout) : Bool := !base.legacy && !base.builtin

namespace BaseLayout

/-- Builtins come before extension types, and of either the legacy ones before the others. -/
def key (base : BaseLayout) : Bool ×ₗ Bool := toLex (!base.builtin, !base.legacy)

theorem key_injective : Function.Injective key := by
  rintro ⟨legacy, builtin⟩ ⟨legacy', builtin'⟩ same
  simpa [key, and_comm] using same

instance : Std.Antisymm fun a b : BaseLayout => a.key ≤ b.key where
  antisymm _ _ le ge := key_injective (le_antisymm le ge)

def ordered (bases : List BaseLayout) : List BaseLayout :=
  (bases.mergeSort fun a b => a.key ≤ b.key).destutter (· ≠ ·)

theorem ordered_eq_filter (bases : List BaseLayout) :
    ordered bases = all.filter (bases.contains ·) := by
  have trans (a b c : BaseLayout) (first : decide (a.key ≤ b.key) = true)
      (second : decide (b.key ≤ c.key) = true) : decide (a.key ≤ c.key) = true :=
    decide_eq_true (le_trans (of_decide_eq_true first) (of_decide_eq_true second))
  have total (a b : BaseLayout) : (decide (a.key ≤ b.key) || decide (b.key ≤ a.key)) = true := by
    simpa using le_total a.key b.key
  have sorted : (bases.mergeSort fun a b => a.key ≤ b.key).Pairwise fun a b => a.key ≤ b.key := by
    simpa using List.pairwise_mergeSort trans total bases
  -- In a sorted list all repetitions stand side by side.
  rw [ordered, sorted.destutter_eq_dedup]
  have all_sorted : all.Pairwise fun a b => a.key ≤ b.key := by decide
  have once : all.Nodup := by decide
  apply List.Perm.eq_of_pairwise' (sorted.sublist (List.dedup_sublist _)) (all_sorted.filter _)
  rw [List.perm_ext_iff_of_nodup (List.nodup_dedup _) (once.filter _)]
  intro base
  simp [mem_all]

end BaseLayout

namespace TypeSpec

variable {spec : TypeSpec} {base other : BaseLayout} {bases others : List BaseLayout}
  {legacy : Bool} {agreed result : Option Bool} {cause cause' : SpecError}

theorem modeOver_eq_ok : spec.modeOver base = .ok legacy ↔
    if spec.declaresStruct then
      legacy = spec.legacy ∧ ¬ (base.legacy = true ∧ base.builtin = true ∧ legacy = false) ∧
        ¬ (base.headless = true ∧ legacy = true)
    else legacy = base.legacy := by
  unfold modeOver BaseLayout.headless
  grind

theorem resolveLayout_none : spec.resolveLayout none = .ok legacy ↔
    legacy = spec.legacy ∧ (spec.legacySlots.isSome = true → legacy = true) := by
  simp only [resolveLayout, bind, Except.bind, throw, throwThe, MonadExceptOf.throw, pure, Except.pure]
  grind

theorem resolveLayout_some : spec.resolveLayout (some base) = .ok legacy ↔
    spec.modeOver base = .ok legacy ∧
      (spec.legacySlots.isSome = true → spec.legacy = true ∧ legacy = true) := by
  simp only [resolveLayout, bind, Except.bind, throw, throwThe, MonadExceptOf.throw, pure, Except.pure]
  cases spec.modeOver base <;> grind

theorem agreeOver_cons : spec.agreeOver agreed (base :: bases) = .ok result ↔
    ∃ legacy, spec.resolveLayout (some base) = .ok legacy ∧
      (∀ before, agreed = some before → before = legacy) ∧
      spec.agreeOver (some legacy) bases = .ok result := by
  rw [agreeOver, bind_eq_ok]
  refine exists_congr fun legacy => and_congr_right fun _ => ?_
  cases agreed with
  | none => simp
  | some before => by_cases same : before = legacy <;> simp [same, throw, bind, Except.bind]

theorem agreeOver_some : spec.agreeOver (some legacy) bases = .ok result ↔
    result = some legacy ∧ ∀ base ∈ bases, spec.resolveLayout (some base) = .ok legacy := by
  induction bases with
  | nil => simp [agreeOver, eq_comm]
  | cons base rest ih =>
      rw [agreeOver_cons]
      constructor
      · rintro ⟨legacy, resolved, same, agree⟩
        cases same _ rfl
        exact ⟨(ih.1 agree).1, List.forall_mem_cons.2 ⟨resolved, (ih.1 agree).2⟩⟩
      · rintro ⟨same, agree⟩
        obtain ⟨resolved, agree⟩ := List.forall_mem_cons.1 agree
        exact ⟨legacy, resolved, fun _ eq => (Option.some.inj eq).symm, ih.2 ⟨same, agree⟩⟩

theorem mem_judged {bases : List BaseLayout} :
    base ∈ BaseLayout.all.filter (bases.contains ·) ↔ base ∈ bases := by
  simp [BaseLayout.mem_all]

/-- The bases are judged as if their list had been sorted and rid of repetitions. -/
theorem resolveLayoutOver_eq_ordered (spec : TypeSpec) (bases : List BaseLayout) :
    spec.resolveLayoutOver bases =
      (spec.agreeOver none (BaseLayout.ordered bases)).bind fun
        | some legacy => .ok legacy
        | none => spec.resolveLayout none := by
  rw [resolveLayoutOver, BaseLayout.ordered_eq_filter]
  rfl

/-- The mode over several bases is the mode over each of them; over none it is that of the spec. -/
theorem resolveLayoutOver_eq_ok : spec.resolveLayoutOver bases = .ok legacy ↔
    (∀ base ∈ bases, spec.resolveLayout (some base) = .ok legacy) ∧
      (bases = [] → spec.resolveLayout none = .ok legacy) := by
  rw [resolveLayoutOver, bind_eq_ok]
  have judged (base : BaseLayout) : base ∈ BaseLayout.all.filter (bases.contains ·) ↔ base ∈ bases :=
    mem_judged
  generalize BaseLayout.all.filter (bases.contains ·) = ordered at judged ⊢
  cases ordered with
  | nil =>
      have empty : bases = [] := List.eq_nil_iff_forall_not_mem.2 fun base mem =>
        List.not_mem_nil ((judged base).2 mem)
      simp [agreeOver, empty]
  | cons first rest =>
      have some_base : bases ≠ [] := List.ne_nil_of_mem ((judged first).1 List.mem_cons_self)
      constructor
      · rintro ⟨result, agree, resolved⟩
        obtain ⟨mode, first_mode, -, later⟩ := agreeOver_cons.1 agree
        obtain ⟨rfl, rest_mode⟩ := agreeOver_some.1 later
        cases resolved
        refine ⟨?_, fun empty => absurd empty some_base⟩
        intro base mem
        rcases List.mem_cons.1 ((judged base).2 mem) with rfl | later
        · exact first_mode
        · exact rest_mode base later
      · rintro ⟨agree, -⟩
        refine ⟨some legacy, agreeOver_cons.2 ⟨legacy, ?_, ?_, ?_⟩, rfl⟩
        · exact agree first ((judged first).1 List.mem_cons_self)
        · intro before eq
          cases eq
        · refine agreeOver_some.2 ⟨rfl, fun base mem => ?_⟩
          exact agree base ((judged base).1 (List.mem_cons_of_mem first mem))

/-- A type that declares its own struct has the mode it asked for, and so has one over no base. -/
theorem legacy_of_resolveLayoutOver (resolved : spec.resolveLayoutOver bases = .ok legacy)
    (own : spec.declaresStruct = true ∨ bases = []) : legacy = spec.legacy := by
  obtain ⟨each, alone⟩ := resolveLayoutOver_eq_ok.1 resolved
  cases bases with
  | nil => exact (resolveLayout_none.1 (alone rfl)).1
  | cons base rest =>
      have mode := (resolveLayout_some.1 (each base List.mem_cons_self)).1
      rw [modeOver_eq_ok, if_pos (own.resolve_right (List.cons_ne_nil base rest))] at mode
      exact mode.1

/-- A type that declares no struct has the mode of each of its bases, whatever it asked for. -/
theorem legacy_of_undeclared (resolved : spec.resolveLayoutOver bases = .ok legacy)
    (undeclared : spec.declaresStruct = false) (mem : base ∈ bases) : legacy = base.legacy := by
  have mode := (resolveLayout_some.1 ((resolveLayoutOver_eq_ok.1 resolved).1 base mem)).1
  rwa [modeOver_eq_ok, undeclared, if_neg Bool.false_ne_true] at mode

theorem legacy_of_legacySlots (resolved : spec.resolveLayoutOver bases = .ok legacy)
    (slots : spec.legacySlots.isSome = true) : legacy = true := by
  obtain ⟨each, alone⟩ := resolveLayoutOver_eq_ok.1 resolved
  cases bases with
  | nil => exact (resolveLayout_none.1 (alone rfl)).2 slots
  | cons base rest => exact ((resolveLayout_some.1 (each base List.mem_cons_self)).2 slots).2

/-- Nothing becomes legacy over a headless base, whether it declares a struct or not. -/
theorem not_headless_of_resolveLayoutOver (resolved : spec.resolveLayoutOver bases = .ok true)
    (mem : base ∈ bases) : base.headless = false := by
  have mode := (resolveLayout_some.1 ((resolveLayoutOver_eq_ok.1 resolved).1 base mem)).1
  rw [modeOver_eq_ok] at mode
  split at mode
  · simpa using mode.2.2
  · simp [BaseLayout.headless, ← mode]

/-- All bases that a spec cannot lie over reject it for the same cause. -/
theorem cause_unique (rejects : spec.resolveLayout (some base) = .error cause)
    (rejects' : spec.resolveLayout (some other) = .error cause') : cause = cause' := by
  simp only [resolveLayout, modeOver, bind, Except.bind, throw, throwThe, MonadExceptOf.throw, pure,
    Except.pure] at rejects rejects'
  grind

/-- A spec that some base rejects keeps, over every other one, the mode that it asked for. -/
theorem mode_of_rejected (rejects : spec.resolveLayout (some base) = .error cause)
    (accepts : spec.resolveLayout (some other) = .ok legacy) : legacy = spec.legacy := by
  simp only [resolveLayout, modeOver, bind, Except.bind, throw, throwThe, MonadExceptOf.throw, pure,
    Except.pure] at rejects accepts
  grind

theorem agreeOver_cons_of_error (rejects : spec.resolveLayout (some base) = .error cause) :
    spec.agreeOver agreed (base :: bases) = .error cause := by
  rw [agreeOver, rejects]
  rfl

theorem agreeOver_cons_of_ok (accepts : spec.resolveLayout (some base) = .ok legacy) :
    spec.agreeOver agreed (base :: bases) =
      if agreed.any (· != legacy) then .error .incompatibleBaseLayouts
      else spec.agreeOver (some legacy) bases := by
  rw [agreeOver, accepts]
  change (if agreed.any (· != legacy) then _ else _ : Except SpecError (Option Bool)) = _
  split <;> rfl

/-- No disagreement comes before a rejection, because up to there all modes are as asked for. -/
theorem agreeOver_of_rejected (mem : base ∈ bases)
    (rejects : spec.resolveLayout (some base) = .error cause)
    (asked : ∀ before, agreed = some before → before = spec.legacy) :
    spec.agreeOver agreed bases = .error cause := by
  induction bases generalizing agreed with
  | nil => cases mem
  | cons first rest ih =>
      cases judged : spec.resolveLayout (some first) with
      | error cause' =>
          rw [agreeOver_cons_of_error judged, cause_unique rejects judged]
      | ok legacy =>
          have same := mode_of_rejected rejects judged
          have later : base ∈ rest := by
            refine (List.mem_cons.1 mem).resolve_left ?_
            rintro rfl
            cases rejects.symm.trans judged
          rw [agreeOver_cons_of_ok judged, if_neg]
          · apply ih later
            rintro before ⟨⟩
            exact same
          · rw [Option.any_eq_true]
            rintro ⟨before, eq, differ⟩
            rw [asked before eq, same] at differ
            simp at differ

/-- Where no base rejects, the only thing to go wrong is that they disagree. -/
theorem agreeOver_of_accepted (agreed : Option Bool)
    (accepted : ∀ base ∈ bases, ∃ legacy, spec.resolveLayout (some base) = .ok legacy) :
    (∃ result, spec.agreeOver agreed bases = .ok result) ∨
      spec.agreeOver agreed bases = .error .incompatibleBaseLayouts := by
  induction bases generalizing agreed with
  | nil => exact .inl ⟨agreed, rfl⟩
  | cons first rest ih =>
      obtain ⟨⟨legacy, judged⟩, accepted⟩ := List.forall_mem_cons.1 accepted
      rw [agreeOver_cons_of_ok judged]
      split
      · exact .inr rfl
      · exact ih _ accepted

theorem resolveLayoutOver_of_rejected (mem : base ∈ bases)
    (rejects : spec.resolveLayout (some base) = .error cause) :
    spec.resolveLayoutOver bases = .error cause := by
  rw [resolveLayoutOver, agreeOver_of_rejected (mem_judged.2 mem) rejects]
  · rfl
  · intro before eq
    cases eq

theorem resolveLayoutOver_of_divided (first : base ∈ bases) (second : other ∈ bases)
    (accepted : ∀ base ∈ bases, ∃ legacy, spec.resolveLayout (some base) = .ok legacy)
    (mode : spec.resolveLayout (some base) = .ok true)
    (mode' : spec.resolveLayout (some other) = .ok false) :
    spec.resolveLayoutOver bases = .error .incompatibleBaseLayouts := by
  cases resolved : spec.resolveLayoutOver bases with
  | ok legacy =>
      have each := (resolveLayoutOver_eq_ok.1 resolved).1
      cases (each base first).symm.trans mode
      cases (each other second).symm.trans mode'
  | error cause =>
      rw [resolveLayoutOver] at resolved
      rcases agreeOver_of_accepted none fun base mem =>
        accepted base (mem_judged.1 mem) with ⟨result, agree⟩ | disagree
      · have alone : spec.resolveLayout none = .ok spec.legacy :=
          resolveLayout_none.2 ⟨rfl, fun slots => ((resolveLayout_some.1 mode).2 slots).1⟩
        rw [agree] at resolved
        cases result with
        | none => cases alone.symm.trans resolved
        | some legacy => cases resolved
      · rw [disagree] at resolved
        exact resolved.symm

/-- The rule over several bases, with no order in which they are judged: any rejection is the
verdict, then agreement is, and disagreement only where no base rejects. -/
inductive Verdict (spec : TypeSpec) (bases : List BaseLayout) : Except SpecError Bool → Prop
  | alone : bases = [] → Verdict spec bases (spec.resolveLayout none)
  | rejected {base : BaseLayout} {cause : SpecError} : base ∈ bases →
      spec.resolveLayout (some base) = .error cause → Verdict spec bases (.error cause)
  | agreed {base : BaseLayout} {legacy : Bool} : base ∈ bases →
      (∀ base ∈ bases, spec.resolveLayout (some base) = .ok legacy) →
      Verdict spec bases (.ok legacy)
  | divided {first second : BaseLayout} :
      (∀ base ∈ bases, ∃ legacy, spec.resolveLayout (some base) = .ok legacy) →
      first ∈ bases → second ∈ bases → spec.resolveLayout (some first) = .ok true →
      spec.resolveLayout (some second) = .ok false →
      Verdict spec bases (.error .incompatibleBaseLayouts)

theorem Verdict.reached {result : Except SpecError Bool} (verdict : spec.Verdict bases result) :
    spec.resolveLayoutOver bases = result := by
  cases verdict with
  | alone empty =>
      subst empty
      rfl
  | rejected mem rejects => exact resolveLayoutOver_of_rejected mem rejects
  | agreed mem each =>
      exact resolveLayoutOver_eq_ok.2 ⟨each, fun empty => absurd empty (List.ne_nil_of_mem mem)⟩
  | divided accepted first second mode mode' =>
      exact resolveLayoutOver_of_divided first second accepted mode mode'

theorem exists_verdict (spec : TypeSpec) (bases : List BaseLayout) :
    ∃ result, spec.Verdict bases result := by
  by_cases accepted : ∀ base ∈ bases, ∃ legacy, spec.resolveLayout (some base) = .ok legacy
  · cases bases with
    | nil => exact ⟨_, .alone rfl⟩
    | cons first rest =>
        by_cases one : ∃ legacy, ∀ base ∈ first :: rest, spec.resolveLayout (some base) = .ok legacy
        · obtain ⟨legacy, each⟩ := one
          exact ⟨_, .agreed List.mem_cons_self each⟩
        · have mode (legacy : Bool) : ∃ base ∈ first :: rest,
              spec.resolveLayout (some base) = .ok legacy := by
            by_contra none_has
            refine one ⟨!legacy, fun base mem => ?_⟩
            obtain ⟨mode, judged⟩ := accepted base mem
            have differ : mode ≠ legacy := fun same => none_has ⟨base, mem, same ▸ judged⟩
            rw [judged, Bool.eq_not.2 differ]
          obtain ⟨base, mem, judged⟩ := mode true
          obtain ⟨other, mem', judged'⟩ := mode false
          exact ⟨_, .divided accepted mem mem' judged judged'⟩
  · push Not at accepted
    obtain ⟨base, mem, refused⟩ := accepted
    cases judged : spec.resolveLayout (some base) with
    | ok legacy => exact absurd judged (refused legacy)
    | error cause => exact ⟨_, .rejected mem judged⟩

/-- The rule leads to one verdict only, and that is what judging the bases in their fixed order
comes to. -/
theorem resolveLayoutOver_eq_iff {result : Except SpecError Bool} :
    spec.resolveLayoutOver bases = result ↔ spec.Verdict bases result := by
  constructor
  · rintro rfl
    obtain ⟨result, verdict⟩ := spec.exists_verdict bases
    rwa [verdict.reached]
  · exact Verdict.reached

theorem resolveLayoutOver_congr (same : ∀ base, base ∈ bases ↔ base ∈ others) :
    spec.resolveLayoutOver bases = spec.resolveLayoutOver others := by
  have judged : (bases.contains ·) = (others.contains ·) := by
    funext base
    rw [Bool.eq_iff_iff, List.contains_iff_mem, List.contains_iff_mem, same]
  rw [resolveLayoutOver, resolveLayoutOver, judged]

/-- The mode over several bases is as the rule without an order has it. Only the set of bases
counts, and a slot table goes with legacy types alone. -/
theorem resolveLayoutOver_orderless (spec : TypeSpec) (bases : List BaseLayout) :
    (∀ result, spec.resolveLayoutOver bases = result ↔ spec.Verdict bases result) ∧
    (∀ others : List BaseLayout, (∀ base, base ∈ bases ↔ base ∈ others) →
      spec.resolveLayoutOver bases = spec.resolveLayoutOver others) ∧
    (∀ legacy, spec.resolveLayoutOver bases = .ok legacy → spec.legacySlots.isSome = true →
      legacy = true) :=
  ⟨fun _ => resolveLayoutOver_eq_iff, fun _ same => resolveLayoutOver_congr same,
    fun _ resolved slots => legacy_of_legacySlots resolved slots⟩

/-- A pure base rejects a legacy struct, whatever stands beside it and however often. -/
theorem resolveLayoutOver_orderless_rejected :
    let spec : TypeSpec :=
      { name := "late", basicsize := 8, legacy := true, legacySlots := SlotTable.ofAddress? 8 }
    let bases : List BaseLayout := [⟨true, true⟩, ⟨false, false⟩, ⟨true, false⟩]
    spec.resolveLayoutOver bases = .error .legacyOverPureBase ∧
    spec.resolveLayoutOver (bases.reverse ++ bases) = .error .legacyOverPureBase := by
  intro spec bases
  obtain ⟨verdicts, same, -⟩ := resolveLayoutOver_orderless spec bases
  have pure : ⟨false, false⟩ ∈ bases := by decide
  have rejected : spec.resolveLayoutOver bases = .error .legacyOverPureBase :=
    (verdicts _).2 (.rejected pure (by decide))
  refine ⟨rejected, ?_⟩
  rw [← same _ fun base => by simp, rejected]

end TypeSpec
end TypeHost
