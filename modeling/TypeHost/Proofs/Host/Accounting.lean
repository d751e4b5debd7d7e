import TypeHost.Proofs.Host.Account
import TypeHost.Proofs.Host.Settled

/-! Reference accounting. Under the rule of ownership every count is what is due, so no object is
freed while another one rests on it. -/
namespace TypeHost

namespace Account

variable {a b : Account} {h : Handle} {action : HostAction} {actions : List HostAction}

structure Upheld (a : Account) : Prop where
  settled : a.host.Settled a.claims
  issued : ∀ h ∈ a.ledger.issued, a.host.heap.Issued h
  root : a.host.isType Host.objectType = true
  rooted : Host.objectType ∈ a.ledger.owned

theorem Upheld.fade (upheld : a.Upheld) (fades : a.host.Fades b.host)
    (older : ∀ i, a.host.heap.age i ≤ b.host.heap.age i) (balanced : b.host.Balanced b.claims [])
    (owned : b.ledger.owned = a.ledger.owned) (issued : b.ledger.issued = a.ledger.issued) :
    b.Upheld := by
  have rooted : Host.objectType ∈ b.ledger.owned := owned ▸ upheld.rooted
  have claim : 0 < b.claims Host.objectType := by
    rw [claims, if_pos rooted]
    exact Nat.succ_pos _
  refine ⟨upheld.settled.fade fades older balanced, ?_,
    fades.isType (balanced.claimed _ claim) upheld.root, rooted⟩
  intro h mem
  exact (upheld.issued h (issued ▸ mem)).wanes fades.wanes older

theorem Upheld.known (upheld : a.Upheld) {call : HostCall} {object : HostObject}
    (makes : a.host.Makes call object) (permits : a.Permits (.call call)) (r : Handle)
    (mem : r ∈ object.references) : r = .null ∨ a.host.heap.Issued r := by
  have live (ground : r ∈ object.foundations) : a.host.heap.Issued r :=
    Host.issued_of_isType (makes.founded upheld.root r ground)
  cases makes with
  | builtin sizes unnamed => exact .inr (live mem)
  | type planned => exact .inr (live mem)
  | inst found small => exact .inr (live mem)
  | tuple => exact (permits r mem).imp_right (upheld.issued r)

theorem claims_made (host : Host) (ledger : Ledger) (issued : List Handle) (h other : Handle) :
    claims ⟨host, { ledger with issued := issued, held := h :: ledger.held }⟩ other
      = claims ⟨host, ledger⟩ other + if other = h then 1 else 0 := by
  simp only [claims, List.count_cons, beq_iff_eq, eq_comm (a := h)]
  omega

theorem Upheld.gain (upheld : a.Upheld) {call : HostCall} {object : HostObject} {after : Host}
    (makes : a.host.Makes call object) (permits : a.Permits (.call call))
    (gains : a.host.Gains after object h) (small : a.host.heap.slotCount < 0xFFFFFFFF)
    (within : Within ⟨after, a.ledger.record call (.made h)⟩) :
    Upheld ⟨after, a.ledger.record call (.made h)⟩ := by
  rw [Ledger.record_made] at within ⊢
  have occurrences (other : Handle) :
      after.occurrences other = a.host.occurrences other + object.references.count other :=
    gains.total _
  -- What is due afterwards leaves room in every count now, so none of them sticks at the top.
  have room (other : Handle) (s : HeapSlot HostObject) (found : a.host.heap.slot? other = some s) :
      s.refCount.toNat + object.references.count other ≤ 0xFFFFFFFF := by
    have live : after.heap.contains other = true := gains.live (found ▸ rfl)
    have due := within other live
    have counted := upheld.settled.balanced.counted other s found
    rw [Account.due, claims_made, occurrences] at due
    rw [List.count_nil] at counted
    change claims a other + _ + _ ≤ _ at due
    omega
  have settled := upheld.settled.gain gains small (upheld.known makes permits)
    (makes.founded upheld.root) room
  refine ⟨?_, ?_, gains.isType upheld.root, upheld.rooted⟩
  · exact (funext (claims_made after a.ledger _ h)).symm ▸ settled
  · intro other mem
    cases mem with
    | head =>
        obtain ⟨generation, placed⟩ := gains.placed
        exact Heap.issued_of_slot? placed
    | tail _ mem => exact gains.issued other (upheld.issued other mem)

/-- Adding a reference to a live object makes it one that the client holds. -/
theorem Upheld.retained (upheld : a.Upheld)
    (older : ∀ i, a.host.heap.age i ≤ (a.host.addRef h).2.heap.age i)
    (within : (a.next (.call (.addRef h))).Within) : (a.next (.call (.addRef h))).Upheld := by
  have fades := (a.host.fades_addRef h).trans (Host.fades_syncHead _ h)
  have same (other : Handle) :
      ((a.host.addRef h).2.heap.slot? other).isSome = (a.host.heap.slot? other).isSome :=
    (Host.isSome_slot?_syncHead _ h other).trans (Heap.isSome_slot?_addRef a.host.heap h other)
  simp only [Account.next, Host.perform, Host.addRef] at within older same ⊢
  cases live : a.host.heap.contains h with
  | false =>
      have missing : a.host.heap.slot? h = none := by simpa [Heap.contains] using live
      have added := upheld.settled.balanced.addRef (h := h) fun s found => by
        cases missing.symm.trans found
      have still : (a.host.heap.addRef h).slot? h = none := by
        rw [Heap.slot?_addRef_self, missing, Option.map_none]
      exact upheld.fade fades older ((added.forget still).syncHead h) rfl rfl
  | true =>
      have claimed (host : Host) (other : Handle) :
          claims ⟨host, a.ledger.record (.addRef h) (.counted true)⟩ other
            = a.claims other + if other = h then 1 else 0 :=
        claims_made host a.ledger a.ledger.issued h other
      rw [live] at within
      have added := upheld.settled.balanced.addRef (h := h) fun s found => by
        have counted := upheld.settled.balanced.counted h s found
        have bound := within h ((same h).trans live)
        rw [due, claimed, if_pos rfl, Host.occurrences_syncHead, Host.occurrences_addRef] at bound
        rw [List.count_nil] at counted
        omega
      have held := (added.claim ((Heap.isSome_slot?_addRef a.host.heap h h).trans live)).syncHead h
      exact upheld.fade fades older ((funext (claimed _)).symm ▸ held) rfl rfl

theorem Upheld.pending (upheld : a.Upheld) (held : h ∈ a.ledger.held) :
    a.host.Balanced
      (claims ⟨a.host, { a.ledger with held := a.ledger.held.erase h }⟩) [h] := by
  have less (other : Handle) :
      claims ⟨a.host, { a.ledger with held := a.ledger.held.erase h }⟩ other + [h].count other
        = a.claims other := by
    have one : 0 < a.ledger.held.count h := List.count_pos_iff.2 held
    simp only [claims, List.count_erase, List.count_singleton, beq_iff_eq]
    split
    · rename_i same
      subst same
      omega
    · omega
  refine upheld.settled.balanced.shift (fun other live => less other) ?_
  intro other claim
  have := less other
  exact upheld.settled.balanced.claimed other (by omega)

theorem Upheld.released (upheld : a.Upheld) (held : h ∈ a.ledger.held)
    (older : ∀ i, a.host.heap.age i ≤ (a.host.drop [h]).heap.age i) :
    Upheld ⟨a.host.drop [h], { a.ledger with held := a.ledger.held.erase h }⟩ :=
  upheld.fade (a.host.fades_drop [h]) older (upheld.pending held).drop rfl rfl

theorem Upheld.next (upheld : a.Upheld) (steady : a.host.Steady action)
    (permits : a.Permits action) (within : (a.next action).Within) : (a.next action).Upheld := by
  have room := steady.room
  have older := steady.older
  cases action with
  | write h start bytes =>
      exact upheld.fade (a.host.fades_write h start bytes) older
        (upheld.settled.balanced.write h start bytes) rfl rfl
  | call call =>
      have small := Nat.lt_of_le_of_lt (a.host.slotCount_le_step (.call call)) room
      have performed := a.host.perform_cases call
      simp only [Account.next, Host.step] at within room older ⊢
      generalize a.host.perform call = result at performed within room older ⊢
      cases performed with
      | refused =>
          rw [Ledger.record_refused]
          exact upheld
      | made makes =>
          exact upheld.gain makes permits (Host.store_gains upheld.settled.sound room) small within
      | retained => exact upheld.retained older within
      | released live => exact upheld.released permits older
      | missed dead => exact upheld

theorem upheld_opening {gcMode : GcMode} {builtins : List BuiltinType} {start : Host}
    (created : Host.create gcMode builtins = .ok start) (small : start.heap.slotCount < 0xFFFFFFFF)
    (within : (opening start).Within) : (opening start).Upheld := by
  have owned (h : Handle) : (opening start).claims h = start.living h := by
    simp only [claims, opening, List.count_nil, Nat.zero_add, Heap.mem_handles_iff small]
    rfl
  obtain ⟨root, settled⟩ := Host.settled_of_create created small fun h live => by
    have bound := within h live
    have one : start.living h = 1 := if_pos live
    rwa [due, owned, one] at bound
  refine ⟨(funext owned).symm ▸ settled, ?_, root, ?_⟩
  · intro h mem
    obtain ⟨s, found⟩ := Option.isSome_iff_exists.1 ((Heap.mem_handles_iff small).1 mem)
    exact Heap.issued_of_slot? found
  · exact (Heap.mem_handles_iff small).2 (Host.live_of_isType root)

/-- Induction over a run that follows the rule. -/
theorem Upheld.induct {motive : Account → Prop} (upheld : a.Upheld) (follows : a.Follows actions)
    (room : (a.host.run actions).heap.slotCount < 0xFFFFFFFF)
    (young : ∀ i, (a.host.heap.age i).toNat + a.host.frees actions i < 0x100000000)
    (init : motive a)
    (next : ∀ a action, a.Upheld → a.host.Steady action → a.Permits action →
      (a.next action).Within → motive a → motive (a.next action)) :
    (a.run actions).Upheld ∧ motive (a.run actions) := by
  -- Each state of the run has a ledger under which the rest of it ends where the whole does.
  have ends := Host.run_induct
    (motive := fun host rest => ∃ ledger, Upheld ⟨host, ledger⟩ ∧ motive ⟨host, ledger⟩ ∧
      Follows ⟨host, ledger⟩ rest ∧ run ⟨host, ledger⟩ rest = a.run actions)
    ?_ upheld.settled.sound room young ⟨_, upheld, init, follows, rfl⟩
  · obtain ⟨ledger, upheld, holds, -, same⟩ := ends
    exact same ▸ ⟨upheld, holds⟩
  · rintro host action rest steady ⟨ledger, upheld, holds, follows, same⟩
    have within := follows.2.2.within
    have upheld' := upheld.next steady follows.2.1 within
    have holds' := next _ action upheld steady follows.2.1 within holds
    have kept : Account.next ⟨host, ledger⟩ action
        = ⟨host.step action, (Account.next ⟨host, ledger⟩ action).ledger⟩ :=
      congrArg (Account.mk · _) (host_next ⟨host, ledger⟩ action)
    exact ⟨_, kept ▸ upheld', kept ▸ holds', kept ▸ follows.2.2, kept ▸ same⟩

theorem induct {gcMode : GcMode} {builtins : List BuiltinType} {start : Host}
    {motive : Account → Prop} (created : Host.create gcMode builtins = .ok start)
    (follows : (opening start).Follows actions)
    (room : (start.run actions).heap.slotCount < 0xFFFFFFFF)
    (young : ∀ i, start.frees actions i < 0x100000000) (init : motive (opening start))
    (next : ∀ a action, a.Upheld → a.host.Steady action → a.Permits action →
      (a.next action).Within → motive a → motive (a.next action)) :
    ((opening start).run actions).Upheld ∧ motive ((opening start).run actions) := by
  have early := Host.room_of_run room
  have fresh := Host.new_of_create created early
  have opened := upheld_opening created early follows.within
  exact opened.induct follows room (fresh.aged young) init next

theorem upheld_run {gcMode : GcMode} {builtins : List BuiltinType} {start : Host}
    (created : Host.create gcMode builtins = .ok start) (follows : (opening start).Follows actions)
    (room : (start.run actions).heap.slotCount < 0xFFFFFFFF)
    (young : ∀ i, start.frees actions i < 0x100000000) : ((opening start).run actions).Upheld :=
  (induct (motive := fun _ => True) created follows room young trivial
    fun _ _ _ _ _ _ _ => trivial).1

theorem Kept.upheld (kept : a.Kept) : a.Upheld := by
  obtain ⟨gcMode, builtins, start, actions, created, follows, rfl, small, young⟩ := kept
  rw [host_run] at small
  exact upheld_run created follows small young

theorem within_of_few
    (few : a.ledger.held.length + 1 + a.host.heldReferences ≤ 0xFFFFFFFF) : a.Within := by
  intro h _
  have held : a.ledger.held.count h ≤ a.ledger.held.length := List.count_le_length
  have used : a.host.occurrences h ≤ a.host.heldReferences :=
    tally_le_tally fun s => by
      cases s.value with
      | none => exact Nat.le_refl 0
      | some object => exact List.count_le_length
  unfold due claims
  split <;> omega

/-- Every count is the number of references, and what an object rests on lives as long as it. -/
theorem Kept.refCount_eq_due (kept : a.Kept) :
    (∀ h, a.host.heap.contains h = true →
      ∃ count, a.host.refCount? h = some count ∧ count.toNat = a.due h) ∧
    (∀ h t, a.host.type? h = some t → ∀ base ∈ t.bases, a.host.isType base = true) ∧
    (∀ h i, a.host.instance? h = some i → a.host.isType i.type = true) := by
  have balanced := kept.upheld.settled.balanced
  refine ⟨?_, ?_, ?_⟩
  · intro h live
    obtain ⟨s, found⟩ := Option.isSome_iff_exists.1 live
    refine ⟨s.refCount, by rw [Host.refCount?, Heap.refCount?, found, Option.map_some], ?_⟩
    have counted := balanced.counted h s found
    rwa [List.count_nil, Nat.add_zero] at counted
  · intro h t found base mem
    exact balanced.founded h _ (Host.type?_eq_some.1 found) base mem
  · intro h i found
    exact balanced.founded h _ (Host.instance?_eq_some.1 found) i.type List.mem_cons_self

/-- The universal base, held by two types, by a tuple twice and by the host; what the client adds to
that it gives back. -/
theorem Kept.refCount_eq_due_tuple :
    let actions : List HostAction := [
      .call (.newTuple [Host.objectType, .null, Host.objectType]),
      .call (.addRef Host.objectType), .call (.release Host.objectType)]
    let a := (opening (Host.core .refCounting)).run actions
    a.Kept ∧ a.host.refCount? Host.objectType = some 5 ∧ a.due Host.objectType = 5 := by
  intro actions a
  let before := (Host.core .refCounting).run (actions.take 2)
  have released : a.host = (before.dropOne Host.objectType).1 := by
    change (before.release Host.objectType).2 = _
    have none_freed : (before.dropOne Host.objectType).2 = [] := by decide
    rw [Host.release_eq_drop, Host.drop_cons, none_freed, List.append_nil, Host.drop_nil]
  have tuple : ∀ item ∈ [Host.objectType, .null, Host.objectType],
      item = .null ∨ item ∈ (opening (Host.core .refCounting)).ledger.issued := by
    intro item mem
    by_cases null : item = .null
    · exact .inl null
    · have same : item = Host.objectType := by simpa [null] using mem
      exact .inr (same ▸ by decide)
  have kept : a.Kept := by
    refine ⟨.refCounting, [], _, actions, rfl, ⟨within_of_few (by decide), tuple,
      within_of_few (by decide), trivial, within_of_few (by decide), List.mem_cons_self,
      within_of_few ?_⟩, rfl, ?_, fun i =>
        Nat.lt_of_le_of_lt (Host.frees_le_length _ actions i) (by decide)⟩
    · change a.ledger.held.length + 1 + a.host.heldReferences ≤ _
      rw [released]
      decide
    · rw [released]
      decide
  have count : a.host.refCount? Host.objectType = some 5 := by
    rw [released]
    decide
  obtain ⟨n, found, due⟩ := kept.refCount_eq_due.1 Host.objectType (by rw [released]; decide)
  cases count.symm.trans found
  exact ⟨kept, count, due.symm⟩

end Account
end TypeHost
