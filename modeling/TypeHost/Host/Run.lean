import TypeHost.Host.Instance
import TypeHost.Host.Registration
import TypeHost.Host.Release

/-!
Runs of the host: the calls of an extension one after the other, and between them what it writes
into the memory of instances. A host state is reachable if some run leads to it.
-/
namespace TypeHost

/-- The calls that may change the host. -/
inductive HostCall where
  | registerBuiltin (builtin : BuiltinType)
  | typeFromSpec (spec : TypeSpec) (params : List SpecParam)
  | newInstance (type : Handle) (nitems : UInt64)
  | newTuple (items : List Handle)
  | addRef (h : Handle)
  | release (h : Handle)
deriving DecidableEq

inductive HostAnswer where
  | made (h : Handle)
  | refused (cause : HostError)
  /-- Whether the handle named a live object. -/
  | counted (live : Bool)
deriving DecidableEq

inductive HostAction where
  | call (call : HostCall)
  /-- Writes bytes into the memory of an instance, from an offset that counts from its header. -/
  | write (h : Handle) (start : Nat) (bytes : List UInt8)
deriving DecidableEq

namespace Host

def settle : Except HostError Handle × Host → HostAnswer × Host
  | (.ok h, next) => (.made h, next)
  | (.error cause, next) => (.refused cause, next)

def perform (host : Host) : HostCall → HostAnswer × Host
  | .registerBuiltin builtin => settle (host.registerBuiltin builtin)
  | .typeFromSpec spec params => settle (host.typeFromSpec spec params)
  | .newInstance type nitems => settle (host.newInstance type nitems)
  | .newTuple items => ((.made (host.newTuple items).1), (host.newTuple items).2)
  | .addRef h => (.counted (host.addRef h).1, (host.addRef h).2)
  | .release h => (.counted (host.release h).1, (host.release h).2)

/-- The host after an action; a write out of range changes nothing. -/
def step (host : Host) : HostAction → Host
  | .call call => (host.perform call).2
  | .write h start bytes =>
    match host.writeMemory h start bytes with
    | .ok next => next
    | .error _ => host

def run (host : Host) (actions : List HostAction) : Host := actions.foldl step host

def answers (host : Host) : List HostAction → List HostAnswer
  | [] => []
  | .call call :: rest => (host.perform call).1 :: (host.perform call).2.answers rest
  | .write h start bytes :: rest => (host.step (.write h start bytes)).answers rest

def Reachable (host : Host) : Prop :=
  ∃ gcMode builtins start actions,
    create gcMode builtins = .ok start ∧ start.run actions = host

end Host
end TypeHost
