import TypeHost.Host.Basic

/-!
Inheritance: a search through the bases of live types. It ends because every type is opened at most
once, and it ends also for bases that are dangling or cyclic.
-/
namespace TypeHost

namespace Host

def basesOf (host : Host) (h : Handle) : List Handle := (host.type? h).elim [] (·.bases)

/-- How many bases the types not yet seen still have to offer. -/
def unseenBases (host : Host) (seen : List Handle) : Nat :=
  tally (fun h => (host.basesOf h).length) (host.heap.handles.filter (· ∉ seen))

theorem mem_handles_of_type? {host : Host} {h : Handle} {t : RegisteredType}
    (eq : host.type? h = some t) : h ∈ host.heap.handles := by
  unfold type? get? at eq
  split at eq
  · rename_i hget
    exact Heap.mem_handles hget
  · cases eq

/-- Opens the pending handles one after the other, the last base of a type first. -/
def search (host : Host) (target : Handle) (seen : List Handle) : List Handle → Bool
  | [] => false
  | h :: pending =>
    if _unseen : h ∉ seen then
      match _found : host.type? h with
      | some t => h = target || host.search target (h :: seen) (t.bases.reverse ++ pending)
      | none => host.search target seen pending
    else host.search target seen pending
termination_by pending => host.unseenBases seen + pending.length
decreasing_by
  · have := tally_unseen_cons (fun h => (host.basesOf h).length) (mem_handles_of_type? _found)
      _unseen
    have hbases : (host.basesOf h).length = t.bases.length := by simp [basesOf, _found]
    simp only [unseenBases, hbases, List.length_append, List.length_reverse,
      List.length_cons] at this ⊢
    omega
  · simp
  · simp

/-- The first handle is a live type, and the second is that type or one of its ancestors. -/
def isSubtype (host : Host) (sub ty : Handle) : Bool := host.search ty [] [sub]

def context (host : Host) : Context Id Location where
  isType := host.isType
  tupleItems := host.tuple?
  typeOf := host.typeOf
  typeInfo := host.typeInfo
  isSubtype := host.isSubtype
  asStruct := host.asStruct
  asStructLegacy := host.asStructLegacy

end Host
end TypeHost
