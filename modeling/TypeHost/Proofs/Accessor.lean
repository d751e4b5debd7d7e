import Mathlib.Tactic.Choose
import TypeHost.Accessor

/-! Checked access over any context. The calls that it makes are recorded with their answers: a cast
is the last of them, and it is made only after all guards have passed, whatever the context answers
and however little its answers fit together. -/
namespace TypeHost

inductive Exchange (π : Type) where
  | isType (h : Handle) (answer : Bool)
  | tupleItems (h : Handle) (answer : Option (List Handle))
  | typeOf (h : Handle) (answer : Option Handle)
  | typeInfo (h : Handle) (answer : Option TypeInfo)
  | isSubtype (sub ty : Handle) (answer : Bool)
  | asStruct (h : Handle) (answer : Option π)
  | asStructLegacy (h : Handle) (answer : Option π)

def Exchange.isCast {π : Type} : Exchange π → Bool
  | .asStruct .. | .asStructLegacy .. => true
  | _ => false

section Monadic

variable {m : Type → Type} [Monad m] {π α β γ : Type}

def noted (exchange : α → Exchange π) (call : m α) : StateT (List (Exchange π)) m α :=
  fun log => do
    let answer ← call
    return (answer, log ++ [exchange answer])

def Context.recorded (ctx : Context m π) : Context (StateT (List (Exchange π)) m) π where
  isType h := noted (.isType h) (ctx.isType h)
  tupleItems h := noted (.tupleItems h) (ctx.tupleItems h)
  typeOf h := noted (.typeOf h) (ctx.typeOf h)
  typeInfo h := noted (.typeInfo h) (ctx.typeInfo h)
  isSubtype sub ty := noted (.isSubtype sub ty) (ctx.isSubtype sub ty)
  asStruct h := noted (.asStruct h) (ctx.asStruct h)
  asStructLegacy h := noted (.asStructLegacy h) (ctx.asStructLegacy h)

/-- The record has the results of the program, each with a log that explains it: there is a program
whose outcomes come with a proof of the property, and both forget something of it. -/
def Recounts (p : α → List (Exchange π) → Prop) (program : m α)
    (record : m (α × List (Exchange π))) : Prop :=
  ∃ certified : m {outcome : α × List (Exchange π) // p outcome.1 outcome.2},
    (fun outcome => outcome.val.1) <$> certified = program ∧ Subtype.val <$> certified = record

variable [LawfulMonad m] {p q : α → List (Exchange π) → Prop}

theorem recounts_pure {a : α} {log : List (Exchange π)} (holds : p a log) :
    Recounts p (pure a : m α) (pure (a, log)) :=
  ⟨pure ⟨(a, log), holds⟩, map_pure .., map_pure ..⟩

theorem recounts_bind {call : m β} {f : β → m α} {g : β → m (α × List (Exchange π))}
    (later : ∀ answer, Recounts p (f answer) (g answer)) :
    Recounts p (call >>= f) (call >>= g) := by
  choose certified results record using later
  refine ⟨call >>= certified, ?_, ?_⟩
  · rw [map_bind]
    exact bind_congr results
  · rw [map_bind]
    exact bind_congr record

theorem Recounts.imp {program : m α} {record : m (α × List (Exchange π))}
    (recounts : Recounts p program record) (weaker : ∀ a log, p a log → q a log) :
    Recounts q program record := by
  obtain ⟨certified, results, recorded⟩ := recounts
  refine ⟨(fun outcome => ⟨outcome.val, weaker _ _ outcome.property⟩) <$> certified, ?_, ?_⟩
  · rw [← results, ← comp_map]
    rfl
  · rw [← recorded, ← comp_map]
    rfl

theorem Recounts.run {σ : Type} {program : StateM σ α} {record : StateM σ (α × List (Exchange π))}
    (recounts : Recounts p program record) (s : σ) :
    p (record.run s).1.1 (record.run s).1.2 ∧
      program.run s = ((record.run s).1.1, (record.run s).2) := by
  obtain ⟨certified, rfl, rfl⟩ := recounts
  exact ⟨(certified.run s).1.property, rfl⟩

theorem run_noted_bind (exchange : α → Exchange π) (call : m α)
    (f : α → StateT (List (Exchange π)) m β) (log : List (Exchange π)) :
    (noted exchange call >>= f).run log
      = call >>= fun answer => (f answer).run (log ++ [exchange answer]) := by
  rw [StateT.run_bind]
  change ((call >>= fun answer => pure (answer, log ++ [exchange answer])) >>= _) = _
  rw [bind_assoc]
  exact bind_congr fun answer => pure_bind ..

end Monadic

theorem StructType.fitsIn_iff (struct : StructType) (info : TypeInfo) :
    struct.fitsIn info = true ↔ (struct.size : Int) ≤ info.basicsize.toInt := by
  rw [fitsIn, Bool.and_eq_true, decide_eq_true_eq, decide_eq_true_eq, Int32.le_iff_toInt_le]
  simp only [Int32.toInt_zero]
  omega

namespace Accessor

variable {m : Type → Type} [Monad m] [LawfulMonad m] {π : Type} {a : Accessor} {info : TypeInfo}

structure Admits (a : Accessor) (info : TypeInfo) : Prop where
  mode : info.legacy = a.mode.isLegacy
  nonneg : 0 ≤ info.basicsize.toInt
  room : (a.struct.size : Int) ≤ info.basicsize.toInt

/-- What the first guard that does not pass reports, with the calls made up to it. -/
inductive Refuses (a : Accessor) (h ty : Handle) : List (Exchange π) → AccessError → Prop
  | unknown : Refuses a h ty [.typeOf h none] (.unknownHandle h)
  | foreign {actual : Handle} :
      Refuses a h ty [.typeOf h (some actual), .isSubtype actual ty false]
        (.typeMismatch h a.struct.name)
  | undescribed {actual : Handle} :
      Refuses a h ty
        [.typeOf h (some actual), .isSubtype actual ty true, .typeInfo actual none]
        (.unknownHandle h)
  | otherMode {actual : Handle} {info : TypeInfo} : info.legacy ≠ a.mode.isLegacy →
      Refuses a h ty
        [.typeOf h (some actual), .isSubtype actual ty true, .typeInfo actual (some info)]
        (.layoutMismatch a.struct.name a.mode (.ofLegacy info.legacy))
  | small {actual : Handle} {info : TypeInfo} : info.legacy = a.mode.isLegacy →
      info.basicsize.toInt < a.struct.size →
      Refuses a h ty
        [.typeOf h (some actual), .isSubtype actual ty true, .typeInfo actual (some info)]
        (.typeMismatch h a.struct.name)

def castOf (info : TypeInfo) (h : Handle) (pointer : Option π) : Exchange π :=
  if info.legacy then .asStructLegacy h pointer else .asStruct h pointer

inductive Guarded (a : Accessor) (h ty : Handle) :
    Except AccessError π → List (Exchange π) → Prop
  | refused {cause : AccessError} {log : List (Exchange π)} : a.Refuses h ty log cause →
      Guarded a h ty (.error cause) log
  | cast {actual : Handle} {info : TypeInfo} (pointer : Option π) : a.Admits info →
      Guarded a h ty (pointer.elim (.error (.typeMismatch h a.struct.name)) .ok)
        [.typeOf h (some actual), .isSubtype actual ty true, .typeInfo actual (some info),
          castOf info h pointer]

omit [LawfulMonad m] in
theorem fromHandle_recorded (a : Accessor) (ctx : Context m π) (h : Handle)
    (mode : info.legacy = a.mode.isLegacy) :
    a.fromHandle ctx.recorded h = noted (castOf info h) (a.fromHandle ctx h) := by
  rw [fromHandle_eq_cast, fromHandle_eq_cast]
  funext log
  generalize a.mode = kind at mode ⊢
  cases kind with
  | pure =>
      have : (castOf info h : Option π → Exchange π) = .asStruct h := by
        funext pointer
        rw [castOf, mode]
        rfl
      rw [this]
      rfl
  | legacy =>
      have : (castOf info h : Option π → Exchange π) = .asStructLegacy h := by
        funext pointer
        rw [castOf, mode]
        rfl
      rw [this]
      rfl

theorem checkedFromHandle_recounted (a : Accessor) (ctx : Context m π) (h ty : Handle) :
    Recounts (a.Guarded h ty) (a.checkedFromHandle ctx h ty)
      ((a.checkedFromHandle ctx.recorded h ty).run []) := by
  have typeOf (h : Handle) : ctx.recorded.typeOf h = noted (.typeOf h) (ctx.typeOf h) := rfl
  have isSubtype (sub : Handle) :
      ctx.recorded.isSubtype sub ty = noted (.isSubtype sub ty) (ctx.isSubtype sub ty) := rfl
  have typeInfo (h : Handle) : ctx.recorded.typeInfo h = noted (.typeInfo h) (ctx.typeInfo h) := rfl
  unfold checkedFromHandle
  simp only [typeOf, isSubtype, typeInfo, run_noted_bind]
  refine recounts_bind fun typed => ?_
  cases typed with
  | none => exact recounts_pure (.refused .unknown)
  | some actual =>
      dsimp only
      rw [run_noted_bind]
      refine recounts_bind fun inherits => ?_
      cases inherits with
      | false => exact recounts_pure (.refused .foreign)
      | true =>
          simp only [Bool.not_true, Bool.false_eq_true, if_false, run_noted_bind]
          refine recounts_bind fun described => ?_
          cases described with
          | none => exact recounts_pure (.refused .undescribed)
          | some info =>
              dsimp only
              by_cases mode : info.legacy = a.mode.isLegacy
              · have same : (info.legacy != a.cast.isLegacy) = false := by simp [mode]
                cases fits : a.struct.fitsIn info with
                | false =>
                    simp only [same, Bool.false_eq_true, Bool.not_false, if_false, if_true]
                    refine recounts_pure (.refused (.small mode (Int.not_le.1 ?_)))
                    rw [← a.struct.fitsIn_iff, fits]
                    exact Bool.false_ne_true
                | true =>
                    have room := (a.struct.fitsIn_iff info).1 fits
                    simp only [same, Bool.false_eq_true, Bool.not_true, if_false,
                      fromHandle_recorded a ctx h mode, run_noted_bind]
                    refine recounts_bind fun pointer => ?_
                    have admits : a.Admits info := ⟨mode, by omega, room⟩
                    cases pointer with
                    | none => exact recounts_pure (.cast none admits)
                    | some pointer => exact recounts_pure (.cast (some pointer) admits)
              · have differ : (info.legacy != a.cast.isLegacy) = true :=
                  bne_iff_ne.2 (a.isLegacy_mode ▸ mode)
                simp only [differ, if_true]
                exact recounts_pure (.refused (.otherMode mode))

theorem Refuses.no_cast {h ty : Handle} {log : List (Exchange π)} {cause : AccessError}
    (refuses : a.Refuses h ty log cause) : log.filter (·.isCast) = [] := by
  cases refuses <;> rfl

/-- Whatever a context answers, checked access casts only where the type of the object inherits
from the given one, has the mode of the accessor and has room for its struct. Then it casts once,
in the mode of the type, and grants the pointer unless that is null. Else it casts not at all, and
the first guard that does not pass tells why. -/
theorem checkedFromHandle_guarded (a : Accessor) (ctx : Context m π) (h ty : Handle) :
    Recounts (fun result log =>
        (∃ actual info pointer, a.Admits info ∧
          log = [.typeOf h (some actual), .isSubtype actual ty true,
            .typeInfo actual (some info), castOf info h pointer] ∧
          log.filter (·.isCast) = [castOf info h pointer] ∧
          (∀ place, result = .ok place ↔ pointer = some place) ∧
          (pointer = none → result = .error (.typeMismatch h a.struct.name))) ∨
        log.filter (·.isCast) = [] ∧ ∃ cause, a.Refuses h ty log cause ∧ result = .error cause)
      (a.checkedFromHandle ctx h ty) ((a.checkedFromHandle ctx.recorded h ty).run []) := by
  refine (a.checkedFromHandle_recounted ctx h ty).imp fun result log guarded => ?_
  cases guarded with
  | refused refuses => exact .inr ⟨refuses.no_cast, _, refuses, rfl⟩
  | @cast actual info pointer admits =>
      refine .inl ⟨actual, info, pointer, admits, rfl, ?_, ?_, ?_⟩
      · unfold castOf
        split <;> rfl
      · intro place
        cases pointer <;> simp
      · rintro rfl
        rfl

/-- A host that says of every object that it is a type of types, that describes the first type it is
asked about as large enough and all others by a negative size, and whose casts give null. -/
theorem checkedFromHandle_guarded_null :
    let info (size : Int32) : TypeInfo :=
      { name := "T", module := none, basicsize := size, itemsize := 0, flags := .baseType
        legacy := true, builtin := false }
    let ctx : Context (StateM Nat) Nat :=
      { isType _ := pure true, tupleItems _ := pure none, typeOf _ := pure (some ⟨1⟩)
        typeInfo _ := modifyGet fun n => (some (info (if n = 0 then 16 else -1)), n + 1)
        isSubtype _ _ := pure true, asStruct _ := pure none, asStructLegacy _ := pure none }
    let a : Accessor := ⟨⟨"HeadOnly", 16, true⟩, .legacy⟩
    let record (n : Nat) := ((a.checkedFromHandle ctx.recorded ⟨7⟩ ⟨5⟩).run []).run n
    (record 0).1.2.filter (·.isCast) = [.asStructLegacy ⟨7⟩ none] ∧
      ((a.checkedFromHandle ctx ⟨7⟩ ⟨5⟩).run 0).1 = .error (.typeMismatch ⟨7⟩ "HeadOnly") ∧
      (record 1).1.2.filter (·.isCast) = [] ∧
      ((a.checkedFromHandle ctx ⟨7⟩ ⟨5⟩).run 1).1 = .error (.typeMismatch ⟨7⟩ "HeadOnly") := by
  intro info ctx a record
  obtain ⟨guarded, same⟩ := (a.checkedFromHandle_guarded ctx ⟨7⟩ ⟨5⟩).run 0
  obtain ⟨guarded', same'⟩ := (a.checkedFromHandle_guarded ctx ⟨7⟩ ⟨5⟩).run 1
  have cast : (record 0).1.2.filter (·.isCast) = [.asStructLegacy ⟨7⟩ none] := rfl
  have silent : (record 1).1.2.filter (·.isCast) = [] := rfl
  rw [same, same']
  refine ⟨cast, ?_, silent, ?_⟩
  · rcases guarded with ⟨actual, described, pointer, -, -, once, -, null⟩ | ⟨none, -⟩
    · have given : castOf described ⟨7⟩ pointer = .asStructLegacy ⟨7⟩ none :=
        List.head_eq_of_cons_eq (once.symm.trans cast)
      refine null ?_
      unfold castOf at given
      split at given
      · cases given
        rfl
      · cases given
    · cases cast.symm.trans none
  · rcases guarded' with ⟨actual, described, pointer, -, -, once, -⟩ | ⟨-, cause, refuses, refused⟩
    · cases once.symm.trans silent
    · have log : (record 1).1.2 = [.typeOf ⟨7⟩ (some ⟨1⟩), .isSubtype ⟨1⟩ ⟨5⟩ true,
          .typeInfo ⟨1⟩ (some (info (-1)))] := rfl
      rw [log] at refuses
      cases refuses with
      | otherMode mode => exact absurd rfl mode
      | small mode few => exact refused

end Accessor
end TypeHost
