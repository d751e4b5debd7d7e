import TypeHost.Context
import TypeHost.Spec.Builder

/-!
Typed access to instances. An accessor casts a handle to the struct of an instance; the checked
form first makes sure that the instance has that struct.
-/
namespace TypeHost

structure StructType where
  /-- The name that messages show. -/
  name : String
  size : Nat
  /-- The struct begins with the host header. -/
  legacy : Bool
deriving DecidableEq

/-- A struct counts as a basicsize up to the largest value of 32 signed bits. -/
def basicsizeOf (size : Nat) : Except SpecError Int32 :=
  if size ≤ 0x7fffffff then .ok (Int32.ofNat size) else .error (.structTooLarge size)

namespace LayoutMode

def cast {m : Type → Type} {π : Type} (mode : LayoutMode) (ctx : Context m π) (h : Handle) :
    m (Option π) :=
  match mode with
  | .pure => ctx.asStruct h
  | .legacy => ctx.asStructLegacy h

def name : LayoutMode → String
  | .pure => "Pure"
  | .legacy => "Legacy"

end LayoutMode

inductive CastFn where
  | pure | legacy
deriving DecidableEq

def CastFn.call {m : Type → Type} {π : Type} (f : CastFn) (ctx : Context m π) (h : Handle) :
    m (Option π) :=
  match f with
  | .pure => ctx.asStruct h
  | .legacy => ctx.asStructLegacy h

/-- A cast function and the tag that tells which one it is. -/
structure TaggedCast where
  castFn : CastFn
  isLegacy : Bool
  tagged : isLegacy = true ↔ castFn = .legacy
deriving DecidableEq

namespace TaggedCast

def pure : TaggedCast := ⟨.pure, false, by decide⟩

def legacy : TaggedCast := ⟨.legacy, true, by decide⟩

def forKind : LayoutMode → TaggedCast
  | .pure => pure
  | .legacy => legacy

instance : Coe LayoutMode TaggedCast := ⟨forKind⟩

def kind (cast : TaggedCast) : LayoutMode := .ofLegacy cast.isLegacy

theorem forKind_kind (cast : TaggedCast) : forKind cast.kind = cast := by
  obtain ⟨_ | _, _ | _, tagged⟩ := cast
  · rfl
  · cases tagged.1 rfl
  · cases tagged.2 rfl
  · rfl

theorem kind_forKind (kind : LayoutMode) : (forKind kind).kind = kind := by
  cases kind <;> rfl

/-- The function that is held calls the primitive of which the tag speaks. -/
theorem call_castFn {m : Type → Type} {π : Type} (cast : TaggedCast) (ctx : Context m π)
    (h : Handle) : cast.castFn.call ctx h = cast.kind.cast ctx h := by
  rw [← cast.forKind_kind]
  cases cast.kind <;> rfl

end TaggedCast

/-- How one struct is reached from a handle. -/
structure Accessor where
  struct : StructType
  cast : TaggedCast
deriving DecidableEq

namespace StructType

def accessor (struct : StructType) : Accessor :=
  ⟨struct, if struct.legacy then .legacy else .pure⟩

def basicsize (struct : StructType) : Int32 := Int32.ofNat struct.size

/-- A spec for the struct: its size and its mode, and nothing else. -/
def spec (struct : StructType) (name : String) : TypeSpec :=
  ({ name } : TypeSpec).applyAll [.basicsize struct.basicsize, .legacy struct.legacy]

def fitsIn (struct : StructType) (info : TypeInfo) : Bool :=
  0 ≤ info.basicsize && struct.size ≤ info.basicsize.toInt.toNat

end StructType

namespace Accessor

variable {m : Type → Type} {π : Type} [Monad m]

def mode (a : Accessor) : LayoutMode := a.cast.kind

@[simp] theorem isLegacy_mode (a : Accessor) : a.mode.isLegacy = a.cast.isLegacy := by
  rw [mode, TaggedCast.kind]
  cases a.cast.isLegacy <;> rfl

def describe (a : Accessor) : String :=
  "Accessor \x7b struct: \"" ++ a.struct.name ++ "\", cast: " ++ a.mode.name ++ ", is_legacy: "
    ++ toString a.cast.isLegacy ++ " \x7d"

/-- Casts without any check. -/
def fromHandle (a : Accessor) (ctx : Context m π) (h : Handle) : m (Option π) :=
  a.cast.castFn.call ctx h

omit [Monad m] in
theorem fromHandle_eq_cast (a : Accessor) (ctx : Context m π) (h : Handle) :
    a.fromHandle ctx h = a.mode.cast ctx h := a.cast.call_castFn ctx h

/-- Casts once the type of the object is known to inherit from `ty`, to have the mode of the
accessor and to have room for the struct. -/
def checkedFromHandle (a : Accessor) (ctx : Context m π) (h ty : Handle) :
    m (Except AccessError π) := do
  let mismatch : AccessError := .typeMismatch h a.struct.name
  match ← ctx.typeOf h with
  | none => return .error (.unknownHandle h)
  | some actual =>
    if !(← ctx.isSubtype actual ty) then return .error mismatch
    match ← ctx.typeInfo actual with
    | none => return .error (.unknownHandle h)
    | some info =>
      if info.legacy != a.cast.isLegacy then
        return .error (.layoutMismatch a.struct.name a.mode (.ofLegacy info.legacy))
      if !a.struct.fitsIn info then return .error mismatch
      match ← a.fromHandle ctx h with
      | none => return .error mismatch
      | some pointer => return .ok pointer

end Accessor
end TypeHost
