import TypeHost.Proofs.Host.Accounting
import TypeHost.Proofs.Host.Names

/-! No leaks. An object refers only to objects made before it, so whoever follows references
backwards comes to an object that none refers to. Under the rule of ownership only the client or the
host can hold that one, and once the client holds nothing the host is as it was when it was new. -/
namespace TypeHost

namespace Host

variable {host before after start : Host} {h : Handle} {object : HostObject}
  {rank : Handle → Nat} {name : String} {gcMode : GcMode} {builtins : List BuiltinType}

def Ranked (host : Host) (rank : Handle → Nat) : Prop :=
  ∀ h object, host.get? h = some object →
    ∀ r ∈ object.references, (host.heap.slot? r).isSome → rank r < rank h

theorem Ranked.fade (ranked : before.Ranked rank) (fades : before.Fades after) :
    after.Ranked rank := by
  intro h object found r mem live
  obtain ⟨old, found', same⟩ := fades.objects h object found
  have mem' : r ∈ old.references := by
    rwa [← old.references_blank, same, object.references_blank]
  exact ranked h old found' r mem' (fades.live live)

theorem Ranked.gain (ranked : before.Ranked rank) (known : before.Known)
    (gains : before.Gains after object h) (apart : h ∉ object.references) :
    after.Ranked (rankOver rank h object.references) := by
  intro other made found r mem live
  by_cases same : other = h
  · subst same
    cases gains.get?_self.symm.trans found
    exact rankOver_lt (fun eq => apart (eq ▸ mem)) (fun _ => mem) fun differ => absurd rfl differ
  · rw [gains.get?_of_ne same] at found
    have ne : r ≠ h := by
      rintro rfl
      exact (known other made found r mem).elim gains.ne_null gains.fresh
    rw [← isSome_get?, gains.get?_of_ne ne, isSome_get?] at live
    exact rankOver_lt ne (fun eq => absurd eq same) fun _ => ranked other made found r mem live

/-- No property of live objects passes on from each to one that refers to it: the ranks would grow
without bound. -/
theorem Ranked.not_of_onward {p : Handle → Prop} (ranked : host.Ranked rank)
    (live : ∀ h, p h → (host.heap.slot? h).isSome)
    (onward : ∀ h, p h → ∃ other object, host.get? other = some object ∧ h ∈ object.references ∧
      p other) (h : Handle) : ¬ p h := by
  -- By induction on how far the rank is from the sum of all ranks, which bounds it.
  have main (n : Nat) : ∀ h, tally rank host.heap.handles - rank h = n → ¬ p h := by
    induction n using Nat.strongRecOn with
    | ind n ih =>
        intro h size holds
        obtain ⟨other, object, found, mem, holds'⟩ := onward h holds
        have above := ranked other object found h mem (live h holds)
        have bound : rank other ≤ tally rank host.heap.handles :=
          le_tally rank (Heap.mem_handles found)
        exact ih _ (by omega) other rfl holds'
  exact main _ h rfl

theorem references_of_create (created : create gcMode builtins = .ok start)
    (small : start.heap.slotCount < 0xFFFFFFFF) (h : Handle) (object : HostObject)
    (found : start.get? h = some object) :
    object.references = if h = objectType then [] else [objectType] := by
  obtain ⟨b, rfl⟩ := (registered_of_create created small).2 h object found
  rfl

theorem ranked_of_create (created : create gcMode builtins = .ok start)
    (small : start.heap.slotCount < 0xFFFFFFFF) :
    start.Ranked fun h => if h = objectType then 0 else 1 := by
  intro h object found r mem live
  rw [references_of_create created small h object found] at mem
  split at mem
  · cases mem
  · rename_i apart
    simp [List.mem_singleton.1 mem, apart]

end Host

namespace Account

variable {a : Account} {h : Handle} {actions : List HostAction} {start : Host} {gcMode : GcMode}
  {builtins : List BuiltinType}

/-- What the host owns stays as it was at the start, and objects can be ranked. -/
structure Tended (start : Host) (a : Account) : Prop where
  owned : a.ledger.owned = start.heap.handles
  same : ∀ h, start.heap.contains h = true → a.host.get? h = start.get? h
  ranked : ∃ rank, a.host.Ranked rank
  named : a.host.Named

theorem Upheld.owned_live (upheld : a.Upheld) (mem : h ∈ a.ledger.owned) :
    (a.host.heap.slot? h).isSome := by
  apply upheld.settled.balanced.claimed
  rw [claims, if_pos mem]
  exact Nat.succ_pos _

theorem Upheld.held_live (upheld : a.Upheld) (mem : h ∈ a.ledger.held) :
    (a.host.heap.slot? h).isSome := by
  apply upheld.settled.balanced.claimed
  rw [claims]
  exact Nat.add_pos_left (List.count_pos_iff.2 mem) _

/-- An object that neither client nor host holds is held by another object. -/
theorem Upheld.exists_of_unclaimed (upheld : a.Upheld) (room : a.host.heap.slotCount < 0xFFFFFFFF)
    (live : (a.host.heap.slot? h).isSome) (unclaimed : a.claims h = 0) :
    ∃ other object, a.host.get? other = some object ∧ h ∈ object.references := by
  obtain ⟨s, found⟩ := Option.isSome_iff_exists.1 live
  have positive := upheld.settled.sound.refCount_pos found
  have counted := upheld.settled.balanced.counted h s found
  rw [unclaimed, List.count_nil] at counted
  exact Host.exists_of_occurrences_pos room (by omega)

theorem owned_next (a : Account) (action : HostAction) :
    (a.next action).ledger.owned = a.ledger.owned := by
  cases action with
  | write h start bytes => rfl
  | call call =>
      change (a.ledger.record call (a.host.perform call).1).owned = _
      unfold Ledger.record
      split <;> rfl

theorem Tended.next {action : HostAction} (tended : Tended start a) (new : start.New)
    (small : start.heap.slotCount < 0xFFFFFFFF) (upheld : a.Upheld)
    (steady : a.host.Steady action) (permits : a.Permits action)
    (within : (a.next action).Within) : Tended start (a.next action) := by
  have upheld' := upheld.next steady permits within
  have owned := (a.owned_next action).trans tended.owned
  have named := tended.named.step steady.sound steady.room
  obtain ⟨rank, ranked⟩ := tended.ranked
  rw [← host_next] at named
  rcases a.host.step_cases action with fades | ⟨call, object, rfl, makes, stored⟩
  · rw [← host_next] at fades
    refine ⟨owned, ?_, ⟨rank, ranked.fade fades⟩, named⟩
    intro h live
    have mem : h ∈ (a.next action).ledger.owned := owned ▸ (Heap.mem_handles_iff small).2 live
    obtain ⟨object, found⟩ := Host.exists_get? live
    obtain ⟨t, rfl⟩ := new.types h object found
    have found' := Host.type?_eq_some.2 ((tended.same h live).trans found)
    exact (Host.type?_eq_some.1 (fades.type?_of_live (upheld'.owned_live mem) found')).trans
      found.symm
  · have room := steady.room
    rw [stored] at room
    have gains := Host.store_gains steady.sound room
    rw [← stored, ← host_next] at gains
    have apart : (a.host.store object).1 ∉ object.references := fun mem =>
      (upheld.known makes permits _ mem).elim gains.ne_null gains.fresh
    refine ⟨owned, ?_, ⟨_, ranked.gain upheld.settled.known gains apart⟩, named⟩
    intro h live
    obtain ⟨object, found⟩ := Host.exists_get? live
    exact (gains.get?_of_get? ((tended.same h live).trans found)).trans found.symm

theorem tended_opening (created : Host.create gcMode builtins = .ok start)
    (small : start.heap.slotCount < 0xFFFFFFFF) : Tended start (opening start) :=
  ⟨rfl, fun _ _ => rfl, ⟨_, Host.ranked_of_create created small⟩,
    Host.named_of_create created small⟩

theorem tended_run (created : Host.create gcMode builtins = .ok start)
    (follows : (opening start).Follows actions)
    (room : (start.run actions).heap.slotCount < 0xFFFFFFFF)
    (young : ∀ i, start.frees actions i < 0x100000000) :
    ((opening start).run actions).Upheld ∧ Tended start ((opening start).run actions) := by
  have small := Host.room_of_run room
  have new := Host.new_of_create created small
  exact induct created follows room young (tended_opening created small)
    fun a action upheld steady permits within tended =>
      tended.next new small upheld steady permits within

/-- Once the client holds nothing, what is left alive is what the host owns. -/
theorem Tended.mem_owned (tended : Tended start a) (upheld : a.Upheld)
    (created : Host.create gcMode builtins = .ok start)
    (small : start.heap.slotCount < 0xFFFFFFFF) (room : a.host.heap.slotCount < 0xFFFFFFFF)
    (none_held : a.ledger.held = []) (live : (a.host.heap.slot? h).isSome) :
    h ∈ a.ledger.owned := by
  obtain ⟨rank, ranked⟩ := tended.ranked
  apply Classical.byContradiction
  intro outside
  refine ranked.not_of_onward (p := fun h => (a.host.heap.slot? h).isSome ∧ h ∉ a.ledger.owned)
    (fun h holds => holds.1) ?_ h ⟨live, outside⟩
  rintro h ⟨live, outside⟩
  have unclaimed : a.claims h = 0 := by
    rw [claims, none_held, if_neg outside]
    rfl
  obtain ⟨other, object, found, mem⟩ := upheld.exists_of_unclaimed room live unclaimed
  refine ⟨other, object, found, mem, ?_, ?_⟩
  · rw [← Host.isSome_get?, found]
    rfl
  · -- What the host owns refers to nothing but the universal base, which it owns, too.
    intro owned
    have was := (Heap.mem_handles_iff small).1 (tended.owned ▸ owned)
    have references := Host.references_of_create created small other object
      ((tended.same other was).symm.trans found)
    rw [references] at mem
    split at mem
    · cases mem
    · rw [List.mem_singleton.1 mem] at outside
      exact outside upheld.rooted

/-- Whatever was built meanwhile and however it was released, once the client holds no reference
just the types of the host itself are alive, as they were at the start, and only they are listed. -/
theorem live_iff_owned_of_none_held (created : Host.create gcMode builtins = .ok start)
    (follows : (opening start).Follows actions)
    (room : (start.run actions).heap.slotCount < 0xFFFFFFFF)
    (young : ∀ i, start.frees actions i < 0x100000000)
    (none_held : ((opening start).run actions).ledger.held = []) :
    let host := start.run actions
    let owned := ((opening start).run actions).ledger.owned
    (∀ h, host.heap.contains h = true ↔ h ∈ owned) ∧
    (∀ h ∈ owned, ∃ t, host.type? h = some t ∧ start.type? h = some t ∧
      t.name ∈ Host.ownNames builtins) ∧
    (∀ name h, host.lookup name = some h ↔ h ∈ owned ∧ ∃ t, host.type? h = some t ∧ t.name = name) ∧
    (∀ name, (host.lookup name).isSome = true ↔ name ∈ Host.ownNames builtins) := by
  intro host owned
  have small := Host.room_of_run room
  have new := Host.new_of_create created small
  have reached : ((opening start).run actions).host = host := host_run _ actions
  obtain ⟨upheld, tended⟩ := tended_run created follows room young
  have live (h : Handle) : host.heap.contains h = true ↔ h ∈ owned := by
    constructor
    · intro live
      exact tended.mem_owned upheld created small (reached ▸ room) none_held (reached ▸ live)
    · intro mem
      exact reached ▸ upheld.owned_live mem
  have start_live (h : Handle) : (start.heap.slot? h).isSome ↔ h ∈ owned := by
    change _ ↔ h ∈ ((opening start).run actions).ledger.owned
    rw [tended.owned]
    exact (Heap.mem_handles_iff small).symm
  have same (h : Handle) : host.get? h = start.get? h := by
    by_cases mem : h ∈ owned
    · exact reached ▸ tended.same h ((start_live h).2 mem)
    · have gone : host.get? h = none := by
        rw [← Option.not_isSome_iff_eq_none, Host.isSome_get?]
        exact fun alive => mem ((live h).1 alive)
      have never : start.get? h = none := by
        rw [← Option.not_isSome_iff_eq_none, Host.isSome_get?]
        exact fun alive => mem ((start_live h).1 alive)
      rw [gone, never]
  have types (h : Handle) : host.type? h = start.type? h := by
    rw [Host.type?, Host.type?, same]
  have named : host.Named := reached ▸ tended.named
  have named' := Host.named_of_create created small
  have names (name : String) : host.lookup name = start.lookup name := by
    apply Option.ext
    intro h
    rw [named, named', types]
  refine ⟨live, ?_, ?_, ?_⟩
  · intro h mem
    obtain ⟨object, found⟩ := Host.exists_get? ((start_live h).2 mem)
    obtain ⟨t, rfl⟩ := new.types h object found
    have found := Host.type?_eq_some.2 found
    refine ⟨t, (types h).trans found, found, ?_⟩
    rw [← Host.isSome_lookup_create created, (named' t.name h).2 ⟨t, found, rfl⟩]
    rfl
  · intro name h
    rw [named]
    constructor
    · rintro ⟨t, found, borne⟩
      exact ⟨(live h).1 (Host.live_of_type? found), t, found, borne⟩
    · rintro ⟨-, t, found, borne⟩
      exact ⟨t, found, borne⟩
  · intro name
    rw [names]
    exact Host.isSome_lookup_create created

theorem next_release (n : Nat) (live : a.host.heap.contains h = true)
    (ended : (Host.turns n a.host [h]).2 = []) :
    a.next (.call (.release h)) =
      ⟨(Host.turns n a.host [h]).1, { a.ledger with held := a.ledger.held.erase h }⟩ := by
  rw [next, Host.perform_release n live ended, Ledger.record]

/-- A tuple that holds another one twice; the inner one is given up first. -/
theorem live_iff_owned_of_none_held_tuples :
    let actions : List HostAction := [
      .call (.newTuple [Host.objectType]), .call (.newTuple [.pack 3 0, .null, .pack 3 0]),
      .call (.release (.pack 3 0)), .call (.release (.pack 4 0))]
    let a := (opening (Host.core .refCounting)).run actions
    (opening (Host.core .refCounting)).Follows actions ∧ a.ledger.held = [] ∧
      ∀ h, a.host.heap.contains h = true ↔ h ∈ a.ledger.owned := by
  intro actions a
  let built := (opening (Host.core .refCounting)).run (actions.take 2)
  let inner : HostAction := .call (.release (.pack 3 0))
  have first := next_release (a := built) (h := .pack 3 0) 1 (by decide) (by decide)
  have second := next_release (a := built.next inner) (h := .pack 4 0) 5 (first ▸ by decide)
    (first ▸ by decide)
  have ends : a = _ := second
  rw [first] at second ends
  have follows : (opening (Host.core .refCounting)).Follows actions := by
    refine ⟨within_of_few (by decide), by decide, within_of_few (by decide), by decide,
      within_of_few (by decide), by decide, ?_⟩
    change (built.next inner).Follows _
    rw [first]
    refine ⟨within_of_few (by decide), by decide, ?_⟩
    rw [second]
    exact within_of_few (by decide)
  have none_held : a.ledger.held = [] := by
    rw [ends]
    decide
  have room : a.host.heap.slotCount < 0xFFFFFFFF := by
    rw [ends]
    decide
  have reached : a.host = (Host.core .refCounting).run actions := host_run _ actions
  have young (i : Nat) : (Host.core .refCounting).frees actions i < 0x100000000 :=
    Nat.lt_of_le_of_lt (Host.frees_le_length _ actions i) (by decide)
  have created : Host.create .refCounting [] = .ok (Host.core .refCounting) := rfl
  have left := live_iff_owned_of_none_held created follows (reached ▸ room) young none_held
  exact ⟨follows, none_held, fun h => reached ▸ left.1 h⟩

end Account
end TypeHost
