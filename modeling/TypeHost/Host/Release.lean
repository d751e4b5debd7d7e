import TypeHost.Host.Basic

/-!
Counting references. Releasing the last reference to an object frees it and releases in turn what
it referred to; the cascade ends because every freed object takes its references out of the heap.
-/
namespace TypeHost.Host

def heldReferences (host : Host) : Nat := host.heap.total fun object => object.references.length

def syncHead (host : Host) (h : Handle) : Host :=
  match host.refCount? h with
  | some count => { host with heap := host.heap.update h (HostObject.syncHead count) }
  | none => host

theorem heldReferences_syncHead (host : Host) (h : Handle) :
    (host.syncHead h).heldReferences = host.heldReferences := by
  unfold syncHead
  split
  · exact Heap.total_update _ _ _ fun object => by simp
  · rfl

/-- A freed type gives up its name, unless the name has passed to another type. -/
def forgetName (host : Host) (h : Handle) : HostObject → Host
  | .type t =>
    if host.lookup t.name = some h then { host with names := host.names.erase t.name } else host
  | _ => host

@[simp] theorem heap_forgetName (host : Host) (h : Handle) (object : HostObject) :
    (host.forgetName h object).heap = host.heap := by
  unfold forgetName
  split
  · split <;> rfl
  · rfl

/-- Drops one reference for each pending handle, and then those of whatever is freed, the last
handle of an object first. Handles that name nothing are passed over. -/
def drop (host : Host) : List Handle → Host
  | [] => host
  | h :: pending =>
    match _released : host.heap.release h with
    | (none, heap) => ({ host with heap }.syncHead h).drop pending
    | (some object, heap) =>
      ({ host with heap }.forgetName h object).drop (object.references.reverse ++ pending)
termination_by pending => host.heldReferences + pending.length
decreasing_by
  · have := Heap.total_release (fun object => object.references.length) host.heap h
    rw [heldReferences_syncHead]
    simp only [_released, Option.elim_none, Nat.add_zero] at this
    simp [heldReferences, this]
  · have := Heap.total_release (fun object => object.references.length) host.heap h
    simp only [_released, Option.elim_some] at this
    simp only [heldReferences, heap_forgetName, List.length_append, List.length_reverse,
      List.length_cons]
    omega

def addRef (host : Host) (h : Handle) : Bool × Host :=
  (host.heap.contains h, { host with heap := host.heap.addRef h }.syncHead h)

def release (host : Host) (h : Handle) : Bool × Host :=
  if host.heap.contains h then (true, host.drop [h]) else (false, host)

end TypeHost.Host
