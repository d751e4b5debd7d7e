import TypeHost.Proofs.Host.Balance
import TypeHost.Proofs.Host.Lasting

/-! The rule of ownership. A ledger beside the host records who holds which reference; the rule is
stated of runs that keep such a ledger. -/
namespace TypeHost

/-- Who holds what: the objects of the host itself, every handle given out so far, and the
references of the client, a handle as often as it holds one to the object. -/
structure Ledger where
  owned : List Handle
  issued : List Handle
  held : List Handle

/-- Making an object gives the client a reference, and so does adding one to a live object. -/
def Ledger.record (ledger : Ledger) : HostCall → HostAnswer → Ledger
  | _, .made h => { ledger with issued := h :: ledger.issued, held := h :: ledger.held }
  | .addRef h, .counted true => { ledger with held := h :: ledger.held }
  | .release h, .counted true => { ledger with held := ledger.held.erase h }
  | _, _ => ledger

@[simp] theorem Ledger.record_made (ledger : Ledger) (call : HostCall) (h : Handle) :
    ledger.record call (.made h)
      = { ledger with issued := h :: ledger.issued, held := h :: ledger.held } := by
  cases call <;> rfl

@[simp] theorem Ledger.record_refused (ledger : Ledger) (call : HostCall) (cause : HostError) :
    ledger.record call (.refused cause) = ledger := by
  cases call <;> rfl

structure Account where
  host : Host
  ledger : Ledger

namespace Account

def opening (host : Host) : Account := ⟨host, ⟨host.heap.handles, host.heap.handles, []⟩⟩

def next (a : Account) : HostAction → Account
  | .call call => ⟨(a.host.perform call).2, a.ledger.record call (a.host.perform call).1⟩
  | .write h start bytes => ⟨a.host.step (.write h start bytes), a.ledger⟩

def run (a : Account) (actions : List HostAction) : Account := actions.foldl next a

def claims (a : Account) (h : Handle) : Nat :=
  a.ledger.held.count h + if h ∈ a.ledger.owned then 1 else 0

/-- What the count should be: claims from outside, and each occurrence of the handle as a base of a
live type, an item of a live tuple or the type of a live instance. -/
def due (a : Account) (h : Handle) : Nat := a.claims h + a.host.occurrences h

def Within (a : Account) : Prop := ∀ h, a.host.heap.contains h → a.due h ≤ 0xFFFFFFFF

/-- Only a held reference is released, and the items of a tuple are null or were given out. -/
def Permits (a : Account) : HostAction → Prop
  | .call (.release h) => h ∈ a.ledger.held
  | .call (.newTuple items) => ∀ item ∈ items, item = .null ∨ item ∈ a.ledger.issued
  | _ => True

instance (a : Account) (action : HostAction) : Decidable (a.Permits action) :=
  match action with
  | .call (.release h) => inferInstanceAs (Decidable (h ∈ a.ledger.held))
  | .call (.newTuple items) =>
    inferInstanceAs (Decidable (∀ item ∈ items, item = .null ∨ item ∈ a.ledger.issued))
  | .call (.registerBuiltin _) | .call (.typeFromSpec ..) | .call (.newInstance ..)
  | .call (.addRef _) | .write .. => .isTrue trivial

def Follows : Account → List HostAction → Prop
  | a, [] => a.Within
  | a, action :: rest => a.Within ∧ a.Permits action ∧ (a.next action).Follows rest

/-- Reached from a new host by a run that follows the rule and in which no handle is given out
twice. -/
def Kept (a : Account) : Prop :=
  ∃ gcMode builtins start actions, Host.create gcMode builtins = .ok start ∧
    (opening start).Follows actions ∧ (opening start).run actions = a ∧
    a.host.heap.slotCount < 0xFFFFFFFF ∧ ∀ i, start.frees actions i < 0x100000000

variable {a b : Account} {h : Handle} {action : HostAction} {actions : List HostAction}

theorem host_next (a : Account) (action : HostAction) :
    (a.next action).host = a.host.step action := by
  cases action <;> rfl

theorem host_run (a : Account) (actions : List HostAction) :
    (a.run actions).host = a.host.run actions := by
  induction actions generalizing a with
  | nil => rfl
  | cons action rest ih =>
      exact (ih (a.next action)).trans (congrArg (·.run rest) (a.host_next action))

theorem Follows.within (follows : a.Follows actions) : a.Within := by
  cases actions with
  | nil => exact follows
  | cons action rest => exact follows.1

end Account

end TypeHost
