import Mathlib.Data.List.Induction
import Mathlib.Data.List.Nodup
import TypeHost.Param

/-! Parameters that pass. They are of different kinds and have targets of the right sort, and so the
bases that they resolve to are types, whatever the order in which they stand. Parameters that do not
pass fail for the first one that offends. -/
namespace TypeHost

namespace Context

variable {π : Type} {ctx : Context Id π} {seen : List ParamKind} {param : SpecParam}
  {params others first : List SpecParam} {handles bases bases' : List Handle} {cause : SpecError}

theorem allTypes_iff :
    (ctx.allTypes handles).run = true ↔ ∀ h ∈ handles, (ctx.isType h).run = true := by
  induction handles with
  | nil => simp [allTypes]
  | cons h rest ih =>
      rw [List.forall_mem_cons, ← ih]
      change (if (ctx.isType h).run = true then (ctx.allTypes rest).run else false) = true ↔ _
      split <;> simp_all

def Accepts (ctx : Context Id π) (param : SpecParam) : Prop :=
  match param.kind with
  | .base => (ctx.isType param.target).run = true
  | .basesTuple => ∃ items, (ctx.tupleItems param.target).run = some items ∧
      ∀ h ∈ items, (ctx.isType h).run = true

theorem acceptsTarget_iff : (ctx.acceptsTarget param).run = true ↔ ctx.Accepts param := by
  obtain ⟨kind, target⟩ := param
  cases kind with
  | base => exact Iff.rfl
  | basesTuple =>
      rw [acceptsTarget, Accepts]
      dsimp only
      cases found : ctx.tupleItems target with
      | none =>
          change false = true ↔ ∃ items, none = some items ∧ _
          simp
      | some items =>
          change (ctx.allTypes items).run = true ↔ ∃ items', some items = some items' ∧ _
          simp [allTypes_iff]

theorem validateAfter_cons : (ctx.validateAfter seen (param :: params)).run =
    if param.kind ∈ seen then .error (.duplicateParamKind param.kind)
    else if (ctx.acceptsTarget param).run = true then
      (ctx.validateAfter (param.kind :: seen) params).run
    else .error (.invalidParamTarget param.kind) := by
  rw [validateAfter]
  split
  · rfl
  · change (if (ctx.acceptsTarget param).run = true then _ else _ : Id _).run = _
    split <;> rfl

theorem validateAfter_eq_ok : (ctx.validateAfter seen params).run = .ok () ↔
    (params.map (·.kind)).Nodup ∧ ∀ param ∈ params, param.kind ∉ seen ∧ ctx.Accepts param := by
  induction params generalizing seen with
  | nil => simp [validateAfter]
  | cons param rest ih =>
      rw [validateAfter_cons, List.map_cons, List.nodup_cons, List.forall_mem_cons]
      by_cases repeated : param.kind ∈ seen
      · simp [repeated]
      · by_cases accepted : (ctx.acceptsTarget param).run = true
        · rw [if_neg repeated, if_pos accepted, ih]
          rw [acceptsTarget_iff] at accepted
          grind
        · rw [if_neg repeated, if_neg accepted]
          rw [acceptsTarget_iff] at accepted
          simp [accepted]

def Passes (ctx : Context Id π) (params : List SpecParam) : Prop :=
  (params.map (·.kind)).Nodup ∧ ∀ param ∈ params, ctx.Accepts param

theorem validateParams_eq_ok :
    (ctx.validateParams params).run = .ok () ↔ ctx.Passes params := by
  rw [validateParams, validateAfter_eq_ok, Passes]
  simp

theorem Passes.perm (passes : ctx.Passes params) (perm : params.Perm others) :
    ctx.Passes others :=
  ⟨(perm.map _).nodup_iff.1 passes.1, fun param mem => passes.2 param (perm.mem_iff.2 mem)⟩

/-- What offends in a list: what stands before it passes, and either its kind stood there, whatever
its target is, or its target is of the wrong sort. -/
inductive Offends (ctx : Context Id π) (params : List SpecParam) : SpecError → Prop
  | repeated {first later : List SpecParam} {param : SpecParam} :
      params = first ++ param :: later → ctx.Passes first → param.kind ∈ first.map (·.kind) →
      Offends ctx params (.duplicateParamKind param.kind)
  | misdirected {first later : List SpecParam} {param : SpecParam} :
      params = first ++ param :: later → ctx.Passes first → param.kind ∉ first.map (·.kind) →
      ¬ ctx.Accepts param → Offends ctx params (.invalidParamTarget param.kind)

theorem Offends.append (offends : ctx.Offends params cause) (rest : List SpecParam) :
    ctx.Offends (params ++ rest) cause := by
  cases offends with
  | repeated split passes known =>
      subst split
      exact .repeated (List.append_assoc ..) passes known
  | misdirected split passes new wrong =>
      subst split
      exact .misdirected (List.append_assoc ..) passes new wrong

/-- What has passed leaves its kinds to what follows, the last one first. -/
theorem validateAfter_append (passed : (ctx.validateAfter seen first).run = .ok ())
    (rest : List SpecParam) : (ctx.validateAfter seen (first ++ rest)).run
      = (ctx.validateAfter ((first.map (·.kind)).reverse ++ seen) rest).run := by
  induction first generalizing seen with
  | nil => rfl
  | cons param first ih =>
      rw [validateAfter_cons] at passed
      split at passed
      · cases passed
      · rename_i new
        split at passed
        · rename_i accepted
          rw [List.cons_append, validateAfter_cons, if_neg new, if_pos accepted, ih passed,
            List.map_cons, List.reverse_cons, List.append_assoc, List.singleton_append]
        · cases passed

theorem Offends.reached (offends : ctx.Offends params cause) :
    (ctx.validateParams params).run = .error cause := by
  cases offends with
  | repeated split passes known =>
      rw [split, validateParams, validateAfter_append (validateParams_eq_ok.2 passes),
        validateAfter_cons, if_pos (by simpa using known)]
  | misdirected split passes new wrong =>
      rw [split, validateParams, validateAfter_append (validateParams_eq_ok.2 passes),
        validateAfter_cons, if_neg (by simpa using new), if_neg (mt acceptsTarget_iff.1 wrong)]

theorem exists_offends (fails : ¬ ctx.Passes params) : ∃ cause, ctx.Offends params cause := by
  induction params using List.reverseRecOn with
  | nil => exact absurd ⟨List.nodup_nil, fun _ mem => nomatch mem⟩ fails
  | append_singleton first param ih =>
      by_cases passes : ctx.Passes first
      · by_cases known : param.kind ∈ first.map (·.kind)
        · exact ⟨_, .repeated rfl passes known⟩
        · refine ⟨_, .misdirected rfl passes known fun accepts => fails ⟨?_, ?_⟩⟩
          · rw [List.map_append, List.nodup_append]
            exact ⟨passes.1, List.nodup_singleton _, by simpa using known⟩
          · intro other mem
            rcases List.mem_append.1 mem with earlier | last
            · exact passes.2 other earlier
            · rwa [List.mem_singleton.1 last]
      · obtain ⟨cause, offends⟩ := ih passes
        exact ⟨cause, offends.append [param]⟩

theorem validateParams_eq_error :
    (ctx.validateParams params).run = .error cause ↔ ctx.Offends params cause := by
  refine ⟨fun refused => ?_, Offends.reached⟩
  have fails : ¬ ctx.Passes params := by
    rw [← validateParams_eq_ok, refused]
    nofun
  obtain ⟨cause', offends⟩ := exists_offends fails
  cases refused.symm.trans offends.reached
  exact offends

theorem resolveBases_of_tuple {items : List Handle}
    (first : params.find? (·.kind = .basesTuple) = some param)
    (found : (ctx.tupleItems param.target).run = some items) :
    (ctx.resolveBases params).run = .ok items := by
  have here : ctx.tupleItems param.target = some items := found
  rw [resolveBases, first]
  dsimp only
  rw [here]
  rfl

/-- The bases that a list names: the items of a tuple if it has one, else the single base. -/
inductive Names (ctx : Context Id π) (params : List SpecParam) : List Handle → Prop
  | tuple {target : Handle} {items : List Handle} : ⟨.basesTuple, target⟩ ∈ params →
      (ctx.tupleItems target).run = some items → Names ctx params items
  | single {target : Handle} : (∀ other, ⟨.basesTuple, other⟩ ∉ params) →
      ⟨.base, target⟩ ∈ params → Names ctx params [target]
  | none : params = [] → Names ctx params []

theorem Passes.resolves (passes : ctx.Passes params) :
    ∃ bases, (ctx.resolveBases params).run = .ok bases ∧ ctx.Names params bases := by
  cases tuple : params.find? (·.kind = .basesTuple) with
  | some param =>
      obtain ⟨kind, target⟩ := param
      obtain rfl : kind = .basesTuple := by simpa using List.find?_some tuple
      have mem := List.mem_of_find?_eq_some tuple
      obtain ⟨items, found, -⟩ := passes.2 _ mem
      exact ⟨items, resolveBases_of_tuple tuple found, .tuple mem found⟩
  | none =>
      have alone : ∀ param ∈ params, param.kind = .base := by
        intro param mem
        have other := List.find?_eq_none.1 tuple param mem
        cases kind : param.kind with
        | base => rfl
        | basesTuple => simp [kind] at other
      have resolved : (ctx.resolveBases params).run
          = .ok ((params.filter (·.kind = .base)).map (·.target)) := by
        rw [resolveBases, tuple]
        rfl
      rw [List.filter_eq_self.2 fun param mem => decide_eq_true (alone param mem)] at resolved
      refine ⟨_, resolved, ?_⟩
      match params, passes, alone with
      | [], _, _ => exact .none rfl
      | [⟨kind, target⟩], _, alone =>
          obtain rfl : kind = .base := alone _ List.mem_cons_self
          exact .single (by simp) List.mem_cons_self
      | one :: two :: rest, passes, alone =>
          -- Kinds do not repeat, so there is no second single base.
          have differ := (List.nodup_cons.1 passes.1).1
          simp [alone one, alone two] at differ

theorem Passes.target_unique (passes : ctx.Passes params) {kind : ParamKind} {a b : Handle}
    (first : ⟨kind, a⟩ ∈ params) (second : ⟨kind, b⟩ ∈ params) : a = b := by
  cases List.inj_on_of_nodup_map passes.1 first second rfl
  rfl

theorem Names.unique (passes : ctx.Passes params) (names : ctx.Names params bases)
    (names' : ctx.Names params bases') : bases = bases' := by
  cases names with
  | tuple mem found =>
      cases names' with
      | tuple mem' found' =>
          cases passes.target_unique mem mem'
          exact Option.some.inj (found.symm.trans found')
      | single alone mem' => exact absurd mem (alone _)
      | none empty => exact absurd (empty ▸ mem) List.not_mem_nil
  | single alone mem =>
      cases names' with
      | tuple mem' found => exact absurd mem' (alone _)
      | single alone' mem' => rw [passes.target_unique mem mem']
      | none empty => exact absurd (empty ▸ mem) List.not_mem_nil
  | none empty =>
      subst empty
      cases names' with
      | tuple mem found => cases mem
      | single alone mem => cases mem
      | none => rfl

theorem Names.perm (names : ctx.Names params bases) (perm : params.Perm others) :
    ctx.Names others bases := by
  cases names with
  | tuple mem found => exact .tuple (perm.mem_iff.1 mem) found
  | single alone mem =>
      exact .single (fun other mem' => alone other (perm.mem_iff.2 mem')) (perm.mem_iff.1 mem)
  | none empty =>
      subst empty
      exact .none perm.nil_eq.symm

theorem Names.types (passes : ctx.Passes params) (names : ctx.Names params bases) :
    ∀ base ∈ bases, (ctx.isType base).run = true := by
  cases names with
  | tuple mem found =>
      obtain ⟨items, found', types⟩ := passes.2 _ mem
      cases found.symm.trans found'
      exact types
  | single alone mem => exact List.forall_mem_singleton.2 (passes.2 _ mem)
  | none empty => exact fun base mem => nomatch mem

theorem Passes.resolveBases_perm (passes : ctx.Passes params) (perm : params.Perm others) :
    (ctx.resolveBases others).run = (ctx.resolveBases params).run := by
  obtain ⟨bases, resolved, names⟩ := passes.resolves
  obtain ⟨bases', resolved', names'⟩ := (passes.perm perm).resolves
  rw [resolved, resolved', names.unique passes (names'.perm perm.symm)]

theorem resolveBases_of_valid (valid : (ctx.validateParams params).run = .ok ()) :
    ∃ bases, (ctx.resolveBases params).run = .ok bases ∧
      ∀ base ∈ bases, (ctx.isType base).run = true := by
  have passes := validateParams_eq_ok.1 valid
  obtain ⟨bases, resolved, names⟩ := passes.resolves
  exact ⟨bases, resolved, names.types passes⟩

section Answers

variable {m : Type → Type} [Monad m] {ρ : Type} {asked : Context m ρ}
  {isType : Handle → Bool} {tupleItems : Handle → Option (List Handle)}

def answering (isType : Handle → Bool) (tupleItems : Handle → Option (List Handle)) :
    Context Id Empty where
  isType := isType
  tupleItems := tupleItems
  typeOf _ := none
  typeInfo _ := none
  isSubtype _ _ := false
  asStruct _ := none
  asStructLegacy _ := none

theorem tupleItems_answering (isType : Handle → Bool) (tupleItems : Handle → Option (List Handle))
    (h : Handle) : (answering isType tupleItems).tupleItems h = tupleItems h := rfl

/-- The two questions of validation are answered from the handle alone, and asking them has no
effect. All other answers may depend on anything. -/
structure Answers (asked : Context m ρ) (isType : Handle → Bool)
    (tupleItems : Handle → Option (List Handle)) : Prop where
  types : ∀ h, asked.isType h = pure (isType h)
  tuples : ∀ h, asked.tupleItems h = pure (tupleItems h)

variable [LawfulMonad m]

theorem Answers.allTypes (answers : asked.Answers isType tupleItems) (handles : List Handle) :
    asked.allTypes handles = pure ((answering isType tupleItems).allTypes handles).run := by
  induction handles with
  | nil => rfl
  | cons h rest ih =>
      rw [Context.allTypes, answers.types, pure_bind, ih]
      change _ = pure (if isType h = true then _ else false)
      split <;> rfl

theorem Answers.acceptsTarget (answers : asked.Answers isType tupleItems) (param : SpecParam) :
    asked.acceptsTarget param
      = pure ((answering isType tupleItems).acceptsTarget param).run := by
  obtain ⟨kind, target⟩ := param
  cases kind with
  | base => exact answers.types target
  | basesTuple =>
      rw [Context.acceptsTarget, Context.acceptsTarget]
      dsimp only
      rw [answers.tuples, pure_bind, tupleItems_answering]
      cases tupleItems target with
      | none => rfl
      | some items => exact answers.allTypes items

theorem Answers.validateAfter (answers : asked.Answers isType tupleItems) (seen : List ParamKind)
    (params : List SpecParam) : asked.validateAfter seen params
      = pure ((answering isType tupleItems).validateAfter seen params).run := by
  induction params generalizing seen with
  | nil => rfl
  | cons param rest ih =>
      rw [Context.validateAfter, validateAfter_cons]
      split
      · rfl
      · rw [answers.acceptsTarget, pure_bind, ih]
        split <;> rfl

theorem Answers.resolveBases (answers : asked.Answers isType tupleItems)
    (params : List SpecParam) : asked.resolveBases params
      = pure ((answering isType tupleItems).resolveBases params).run := by
  rw [Context.resolveBases, Context.resolveBases]
  split
  · rename_i param first
    rw [answers.tuples, pure_bind, tupleItems_answering]
    cases tupleItems param.target <;> rfl
  · rfl

/-- Validation passes exactly parameters of different kinds with targets of the right sort, and else
names what offends first. What it passes resolves to the types that are named, in any order of the
parameters. -/
theorem Answers.validated_params_resolve (answers : asked.Answers isType tupleItems)
    (params : List SpecParam) :
    let ctx := answering isType tupleItems
    ∃ verdict resolved, asked.validateParams params = pure verdict ∧
      asked.resolveBases params = pure resolved ∧
      (verdict = .ok () ↔ ctx.Passes params) ∧
      (∀ cause, verdict = .error cause ↔ ctx.Offends params cause) ∧
      (verdict = .ok () → ∃ bases, resolved = .ok bases ∧ ctx.Names params bases ∧
        ∀ base ∈ bases, isType base = true) ∧
      ∀ others, params.Perm others → ∃ verdict' resolved',
        asked.validateParams others = pure verdict' ∧
        asked.resolveBases others = pure resolved' ∧
        (verdict' = .ok () ↔ verdict = .ok ()) ∧ (verdict = .ok () → resolved' = resolved) := by
  intro ctx
  refine ⟨_, _, answers.validateAfter [] params, answers.resolveBases params,
    validateParams_eq_ok, fun _ => validateParams_eq_error, ?_, ?_⟩
  · intro valid
    have passes := validateParams_eq_ok.1 valid
    obtain ⟨bases, resolved, names⟩ := passes.resolves
    exact ⟨bases, resolved, names, names.types passes⟩
  · intro others perm
    refine ⟨_, _, answers.validateAfter [] others, answers.resolveBases others, ?_, ?_⟩
    · change (ctx.validateParams others).run = _ ↔ (ctx.validateParams params).run = _
      rw [validateParams_eq_ok, validateParams_eq_ok]
      exact ⟨fun passes => passes.perm perm.symm, fun passes => passes.perm perm⟩
    · intro valid
      exact (validateParams_eq_ok.1 valid).resolveBases_perm perm

/-- A context that counts how often it is asked for the type of an object. A tuple stands beside a
single base, in either order; a second tuple, of no tuple at all, is reported as the second. -/
theorem Answers.validated_params_resolve_tuple :
    let isType (h : Handle) : Bool := h.bits ≤ 2
    let tupleItems (h : Handle) : Option (List Handle) := if h.bits = 3 then some [⟨2⟩, ⟨1⟩] else none
    let asked : Context (StateM Nat) Handle :=
      { isType h := pure (isType h), tupleItems h := pure (tupleItems h)
        typeOf _ := modifyGet fun n => (none, n + 1)
        typeInfo _ := pure none, isSubtype _ _ := pure false
        asStruct h := pure (some h), asStructLegacy h := pure (some h) }
    let params : List SpecParam := [⟨.base, ⟨1⟩⟩, ⟨.basesTuple, ⟨3⟩⟩]
    asked.Answers isType tupleItems ∧
      asked.validateParams params = pure (.ok ()) ∧
      asked.resolveBases params.reverse = pure (.ok [⟨2⟩, ⟨1⟩]) ∧
      asked.validateParams (params ++ [⟨.basesTuple, ⟨1⟩⟩])
        = pure (.error (.duplicateParamKind .basesTuple)) := by
  intro isType tupleItems asked params
  have answers : asked.Answers isType tupleItems := ⟨fun _ => rfl, fun _ => rfl⟩
  have passes : (answering isType tupleItems).Passes params := by
    refine ⟨by decide, ?_⟩
    simp only [params, List.forall_mem_cons]
    exact ⟨rfl, ⟨_, rfl, by decide⟩, nofun⟩
  obtain ⟨verdict, resolved, validated, -, ok, -, resolves, permuted⟩ :=
    answers.validated_params_resolve params
  have valid := ok.2 passes
  obtain ⟨bases, rfl, names, -⟩ := resolves valid
  obtain ⟨_, _, -, reversed, -, same⟩ := permuted _ params.reverse_perm.symm
  have named : bases = [⟨2⟩, ⟨1⟩] :=
    names.unique passes (.tuple (List.mem_cons_of_mem _ List.mem_cons_self) rfl)
  obtain ⟨_, _, refused, -, -, error, -⟩ :=
    answers.validated_params_resolve (params ++ [⟨.basesTuple, ⟨1⟩⟩])
  refine ⟨answers, validated.trans (congrArg pure valid), ?_, ?_⟩
  · rw [reversed, same valid, named]
  · rw [refused, (error _).2 (.repeated rfl passes (by decide))]

end Answers

end Context
end TypeHost
