import TypeHost.Proofs.Host.Constancy
import TypeHost.Proofs.Host.Leak
import TypeHost.Proofs.Host.Touch

/-! What a tuple gives back. Making a tuple counts up each item that is alive; freeing it drops a
reference to each item that is alive by then. The two are the same for every object that was there
when the tuple was made. They differ for an object made later under a handle that the tuple holds. -/
namespace TypeHost

namespace Host

variable {host after start : Host} {h x : Handle} {t : HeapSlot HostObject} {l : List Handle}
  {pending : List Handle} {claims : Handle → Nat} {object : HostObject} {actions : List HostAction}

/-- How often the count of `x` goes down for the sake of these handles, dropped in turn: once for
each place where it stands, if it lives at that time. -/
def givenBack (host : Host) (x : Handle) : List Handle → Nat
  | [] => 0
  | h :: rest =>
    (if h = x ∧ host.heap.contains h = true then 1 else 0) + (host.drop [h]).givenBack x rest

theorem drop_split (host : Host) (h : Handle) (rest : List Handle) :
    host.drop (h :: rest) = (host.drop [h]).drop rest :=
  host.drop_append [h] rest

theorem givenBack_le_count (host : Host) (x : Handle) (l : List Handle) :
    host.givenBack x l ≤ l.count x := by
  induction l generalizing host with
  | nil => exact Nat.le_refl 0
  | cons h rest ih =>
      have later := ih (host.drop [h])
      rw [givenBack, List.count_cons]
      simp only [beq_iff_eq]
      split
      · rename_i both
        rw [if_pos both.1]
        omega
      · omega

theorem givenBack_of_missing (missing : host.heap.slot? x = none) (l : List Handle) :
    host.givenBack x l = 0 := by
  induction l generalizing host with
  | nil => rfl
  | cons h rest ih =>
      rw [givenBack, ih (missing_drop missing [h]), if_neg]
      rintro ⟨rfl, live⟩
      rw [Heap.contains, missing] at live
      cases live

theorem refCount_of_dropOne (found : (host.dropOne h).1.heap.slot? x = some t) :
    ∃ s, host.heap.slot? x = some s ∧
      t.refCount.toNat + (if h = x then 1 else 0) ≤ s.refCount.toNat := by
  by_cases same : h = x
  · subst same
    cases before : host.heap.slot? h with
    | none =>
        rw [dropOne_of_none before, before] at found
        cases found
    | some s =>
        rw [slot?_dropOne_self before] at found
        split at found
        · cases found
        · rename_i some_left
          cases found
          rw [Heap.countDown_eq_zero] at some_left
          refine ⟨s, rfl, ?_⟩
          rw [if_pos rfl, HeapSlot.recount, Heap.toNat_countDown]
          omega
  · rw [slot?_dropOne_of_ne (Ne.symm same)] at found
    refine ⟨t, found, ?_⟩
    rw [if_neg same]
    exact Nat.le_refl _

theorem refCount_of_drop (found : (host.drop pending).heap.slot? x = some t) :
    ∃ s, host.heap.slot? x = some s ∧ t.refCount.toNat ≤ s.refCount.toNat := by
  induction host, pending using drop_induct with
  | nil host =>
      rw [drop_nil] at found
      exact ⟨t, found, Nat.le_refl _⟩
  | cons host h pending ih =>
      rw [drop_cons] at found
      obtain ⟨u, middle, later⟩ := ih found
      obtain ⟨s, before, now⟩ := refCount_of_dropOne middle
      exact ⟨s, before, by omega⟩

/-- An object that outlives all of it loses a reference for each place where it stands. -/
theorem givenBack_of_live (found : (host.drop l).heap.slot? x = some t) :
    host.givenBack x l = l.count x ∧
      ∃ s, host.heap.slot? x = some s ∧ t.refCount.toNat + l.count x ≤ s.refCount.toNat := by
  induction l generalizing host with
  | nil =>
      rw [drop_nil] at found
      exact ⟨rfl, t, found, Nat.le_refl _⟩
  | cons h rest ih =>
      rw [drop_split] at found
      obtain ⟨given, u, middle, later⟩ := ih found
      rw [drop_cons] at middle
      obtain ⟨v, middle', between⟩ := refCount_of_drop middle
      obtain ⟨s, before, now⟩ := refCount_of_dropOne middle'
      rw [givenBack, given, List.count_cons]
      simp only [beq_iff_eq]
      by_cases same : h = x
      · subst same
        have live : host.heap.contains h = true := by
          rw [Heap.contains, before]
          rfl
        rw [if_pos rfl] at now
        rw [if_pos ⟨rfl, live⟩, if_pos rfl]
        exact ⟨Nat.add_comm _ _, s, before, by omega⟩
      · rw [if_neg same] at now
        rw [if_neg (fun both => same both.1), if_neg same]
        exact ⟨Nat.zero_add _, s, before, by omega⟩

/-- Where references balance, what is pending for a live object is there to be given back. -/
theorem Balanced.givenBack (balanced : host.Balanced claims (l ++ pending))
    (live : (host.heap.slot? x).isSome) : host.givenBack x l = l.count x := by
  induction l generalizing host with
  | nil => rfl
  | cons h rest ih =>
      have next : (host.drop [h]).Balanced claims (rest ++ pending) :=
        balanced.dropFirst [h] (rest ++ pending)
      have later : (host.drop [h]).givenBack x rest = rest.count x := by
        -- If it is to be dropped again, the balance keeps it alive through this turn.
        by_cases mem : x ∈ rest
        · apply ih next
          have places : 0 < rest.count x := List.count_pos_iff.2 mem
          apply balanced.live_dropFirst [h] (rest ++ pending) _ live
          rw [List.count_append]
          omega
        · have none_left := (host.drop [h]).givenBack_le_count x rest
          rw [List.count_eq_zero.2 mem] at none_left ⊢
          exact Nat.le_zero.1 none_left
      rw [Host.givenBack, later, List.count_cons]
      simp only [beq_iff_eq]
      by_cases same : h = x
      · subst same
        rw [if_pos ⟨rfl, live⟩, if_pos rfl, Nat.add_comm]
      · rw [if_neg (fun both => same both.1), if_neg same, Nat.add_comm]

theorem fades_turns (n : Nat) (host : Host) (pending : List Handle) :
    host.Fades (turns n host pending).1 := by
  induction n generalizing host pending with
  | zero => exact .refl host
  | succ n ih =>
      cases pending with
      | nil => exact .refl host
      | cons h pending => exact (host.fades_dropOne h).trans (ih _ _)

/-- A tuple is made after some actions and lives through others, and then it is freed in a cascade:
in the state that the cascade has reached by then. -/
structure FreesTuple (start : Host) (first : List HostAction) (items : List Handle)
    (rest : List HostAction) (released tuple : Handle) (host : Host) (pending : List Handle) :
    Prop where
  made : ((start.run first).newTuple items).1 = tuple
  turn : ∃ n, turns n (start.run (first ++ .call (.newTuple items) :: rest)) [released]
    = (host, tuple :: pending)
  live : host.heap.contains tuple = true
  freed : (host.dropOne tuple).1.heap.contains tuple = false

section FreesTuple

variable {first rest : List HostAction} {items : List Handle} {released tuple : Handle}

theorem FreesTuple.fades
    (frees : start.FreesTuple first items rest released tuple host pending) :
    (start.run (first ++ .call (.newTuple items) :: rest)).Fades host := by
  obtain ⟨n, turn⟩ := frees.turn
  have fades := fades_turns n (start.run (first ++ .call (.newTuple items) :: rest)) [released]
  rwa [turn] at fades

theorem run_newTuple (start : Host) (first : List HostAction) (items : List Handle)
    (rest : List HostAction) : start.run (first ++ .call (.newTuple items) :: rest)
      = ((start.run first).store (.tuple items)).2.run rest :=
  run_call start first (.newTuple items) rest

theorem gains_newTuple (sound : start.heap.Sound)
    (room : (start.run (first ++ .call (.newTuple items) :: rest)).heap.slotCount < 0xFFFFFFFF) :
    (start.run first).Gains ((start.run first).store (.tuple items)).2 (.tuple items)
      ((start.run first).newTuple items).1 := by
  rw [run_newTuple] at room
  exact store_gains (sound_run sound first) (room_of_run room)

theorem young_after (sound : start.heap.Sound)
    (room : (start.run (first ++ .call (.newTuple items) :: rest)).heap.slotCount < 0xFFFFFFFF)
    (young : ∀ i, (start.heap.age i).toNat
      + start.frees (first ++ .call (.newTuple items) :: rest) i < 0x100000000) (i : Nat) :
    (((start.run first).store (.tuple items)).2.heap.age i).toNat
      + ((start.run first).store (.tuple items)).2.frees rest i < 0x100000000 := by
  rw [List.append_cons] at room young
  have later := young_rest sound room young i
  rwa [run_append] at later

theorem FreesTuple.content
    (frees : start.FreesTuple first items rest released tuple host pending)
    (sound : start.heap.Sound)
    (room : (start.run (first ++ .call (.newTuple items) :: rest)).heap.slotCount < 0xFFFFFFFF)
    (young : ∀ i, (start.heap.age i).toNat
      + start.frees (first ++ .call (.newTuple items) :: rest) i < 0x100000000) :
    host.get? tuple = some (.tuple items) ∧ (host.dropOne tuple).2 = items.reverse := by
  obtain ⟨s, found⟩ := Option.isSome_iff_exists.1 frees.live
  obtain ⟨object, value⟩ := Option.isSome_iff_exists.1 (Heap.isSome_of_slot? found)
  have here : host.get? tuple = some object := by
    rw [get?, Heap.get?, found]
    exact value
  have content : object = .tuple items := by
    obtain ⟨old, found', same⟩ := frees.fades.objects tuple object here
    obtain ⟨made, makes, -, kept⟩ :=
      made_run sound room young (congrArg HostAnswer.made frees.made)
    cases makes
    exact HostObject.blank_eq_tuple.1 (same.symm.trans (kept old found'))
  subst content
  refine ⟨here, ?_⟩
  have last : Heap.countDown s.refCount = 0 := by
    have gone := frees.freed
    rw [Heap.contains, slot?_dropOne_self found] at gone
    split at gone
    · assumption
    · cases gone
  have parting : s.parting = some (.tuple items) := HeapSlot.parting_eq_some.2 ⟨last, value⟩
  rw [pending_dropOne found, parting]
  rfl

theorem refCount_newTuple (gains : host.Gains (host.store (.tuple items)).2 (.tuple items) tuple)
    (found : host.heap.slot? x = some t) :
    ∃ u, (host.newTuple items).2.heap.slot? x = some u ∧
      u.refCount.toNat = min 0xFFFFFFFF (t.refCount.toNat + items.count x) := by
  have ne : x ≠ tuple := by
    rintro rfl
    cases found.symm.trans gains.missing
  have live : (host.heap.slot? x).isSome := by
    rw [found]
    rfl
  obtain ⟨u, found'⟩ := Option.isSome_iff_exists.1 (gains.live live)
  obtain ⟨s, before, -, count⟩ := slot?_of_retainAll host _ ((gains.others x ne).symm.trans found')
  cases found.symm.trans before
  exact ⟨u, found', count⟩

/-- What was dead when the tuple was made is passed over when it is freed. -/
theorem FreesTuple.givenBack_of_missing
    (frees : start.FreesTuple first items rest released tuple host pending)
    (sound : start.heap.Sound)
    (room : (start.run (first ++ .call (.newTuple items) :: rest)).heap.slotCount < 0xFFFFFFFF)
    (young : ∀ i, (start.heap.age i).toNat
      + start.frees (first ++ .call (.newTuple items) :: rest) i < 0x100000000)
    (mem : x ∈ start.given first) (dead : (start.run first).heap.contains x = false) :
    (host.dropOne tuple).1.givenBack x items.reverse = 0 := by
  have missing := missing_of_freed sound room young mem dead
  apply Host.givenBack_of_missing
  rw [← Option.not_isSome_iff_eq_none]
  intro live
  have still := (frees.fades.trans (host.fades_dropOne tuple)).live live
  rw [missing] at still
  cases still

end FreesTuple

end Host

namespace Account

variable {a : Account} {h x : Handle} {action : HostAction}

theorem Upheld.live_next (upheld : a.Upheld) (steady : a.host.Steady action)
    (permits : a.Permits action) (used : 0 < (a.next action).host.occurrences x)
    (live : (a.host.heap.slot? x).isSome) : ((a.next action).host.heap.slot? x).isSome := by
  rw [host_next] at used ⊢
  cases action with
  | write other start bytes =>
      rcases a.host.write_cases other start bytes with same | ⟨f, same, written⟩
      · rwa [same]
      · rw [written, Heap.isSome_slot?_update]
        exact live
  | call call =>
      have room := steady.room
      have performed := a.host.perform_cases call
      simp only [Host.step] at used room ⊢
      generalize a.host.perform call = result at performed used room ⊢
      cases performed with
      | refused => exact live
      | made makes => exact (Host.store_gains steady.sound room).live live
      | retained =>
          rw [Host.isSome_slot?_syncHead, Heap.isSome_slot?_addRef]
          exact live
      | @released other =>
          apply (upheld.pending permits).live_dropFirst [other] [] _ live
          exact Nat.lt_of_lt_of_le used (Nat.le_add_left _ _)
      | missed dead => exact live

theorem Follows.of_append {first rest : List HostAction} (follows : a.Follows (first ++ rest)) :
    a.Follows first ∧ (a.run first).Follows rest := by
  induction first generalizing a with
  | nil => exact ⟨follows.within, follows⟩
  | cons action later ih =>
      obtain ⟨within, permits, follows⟩ := follows
      obtain ⟨before, after⟩ := ih follows
      exact ⟨⟨within, permits, before⟩, after⟩

/-- What an object refers to lives on with it, if it was alive at first. -/
theorem Upheld.live_run {actions : List HostAction} {holder : Handle} {object later : HostObject}
    (upheld : a.Upheld) (follows : a.Follows actions)
    (room : (a.host.run actions).heap.slotCount < 0xFFFFFFFF)
    (young : ∀ i, (a.host.heap.age i).toNat + a.host.frees actions i < 0x100000000)
    (found : a.host.get? holder = some object) (mem : x ∈ object.references)
    (live : (a.host.heap.slot? x).isSome) (still : (a.run actions).host.get? holder = some later) :
    ((a.run actions).host.heap.slot? x).isSome := by
  -- The holder still refers to `x`, so `x` is due a reference and is not freed.
  have ends := upheld.induct (motive := fun b => b.host.heap.Issued holder ∧
    ∀ object, b.host.get? holder = some object →
      x ∈ object.references ∧ (b.host.heap.slot? x).isSome) follows room young ?_ ?_
  · exact (ends.2.2 later still).2
  · refine ⟨Host.issued_of_get? found, ?_⟩
    intro object' again
    cases found.symm.trans again
    exact ⟨mem, live⟩
  · rintro b action upheld steady permits within ⟨issued, holds⟩
    rw [host_next]
    refine ⟨Host.issued_step steady issued, ?_⟩
    intro after still
    obtain ⟨old, found, same⟩ := Host.get?_of_step steady issued still
    obtain ⟨mem, live⟩ := holds old found
    rw [← old.references_blank, same, after.references_blank] at mem
    have used := Host.occurrences_pos still mem
    rw [← host_next] at used ⊢
    exact ⟨mem, upheld.live_next steady permits used live⟩

theorem run_append (a : Account) (first second : List HostAction) :
    a.run (first ++ second) = (a.run first).run second :=
  List.foldl_append

section FreesTuple

variable {start host : Host} {gcMode : GcMode} {builtins : List BuiltinType}
  {first rest : List HostAction} {items pending : List Handle} {released tuple : Handle}
  {s u : HeapSlot HostObject}

/-- Under the rule no count sticks at the top, so each reference taken shows. -/
theorem Upheld.refCount_newTuple (upheld : a.Upheld)
    (next : (a.next (.call (.newTuple items))).Upheld)
    (gains : a.host.Gains (a.host.newTuple items).2 (.tuple items) tuple)
    (found : a.host.heap.slot? x = some s)
    (found' : (a.host.newTuple items).2.heap.slot? x = some u)
    (made : (a.host.newTuple items).1 = tuple) :
    u.refCount.toNat = s.refCount.toNat + items.count x := by
  have counted := upheld.settled.balanced.counted x s found
  have counted' := next.settled.balanced.counted x u found'
  have occurrences : (a.host.newTuple items).2.occurrences x
      = a.host.occurrences x + items.count x := gains.total _
  have ne : x ≠ tuple := by
    rintro rfl
    cases found.symm.trans gains.missing
  have claims : (a.next (.call (.newTuple items))).claims x = a.claims x := by
    have shifted := claims_made (a.host.newTuple items).2 a.ledger
      ((a.host.newTuple items).1 :: a.ledger.issued) (a.host.newTuple items).1 x
    rw [made, if_neg ne, Nat.add_zero] at shifted
    rw [Account.next, Host.perform, made]
    exact shifted
  rw [claims] at counted'
  change _ = _ + _ + (a.host.newTuple items).2.occurrences x at counted'
  omega

theorem refCount_newTuple_of_follows (created : Host.create gcMode builtins = .ok start)
    (follows : (opening start).Follows (first ++ .call (.newTuple items) :: rest))
    (room : (start.run (first ++ .call (.newTuple items) :: rest)).heap.slotCount < 0xFFFFFFFF)
    (young : ∀ i, start.frees (first ++ .call (.newTuple items) :: rest) i < 0x100000000)
    (found : (start.run first).heap.slot? x = some s)
    (found' : ((start.run first).newTuple items).2.heap.slot? x = some u) :
    u.refCount.toNat = s.refCount.toNat + items.count x := by
  have new := Host.new_of_create created (Host.room_of_run room)
  have gains := Host.gains_newTuple new.sound room
  have here : ((opening start).run first).host = start.run first := host_run _ _
  rw [List.append_cons] at follows room young
  have follows_made := follows.of_append.1
  have room_made := Host.room_of_append room
  have early := Host.few_of_append young
  have upheld := upheld_run created follows_made.of_append.1 (Host.room_of_append room_made)
    (Host.few_of_append early)
  have next := upheld_run created follows_made room_made early
  rw [run_append] at next
  rw [← here] at gains found found'
  exact upheld.refCount_newTuple next gains found found' rfl

theorem live_at_end (created : Host.create gcMode builtins = .ok start)
    (frees : start.FreesTuple first items rest released tuple host pending)
    (follows : (opening start).Follows (first ++ .call (.newTuple items) :: rest))
    (room : (start.run (first ++ .call (.newTuple items) :: rest)).heap.slotCount < 0xFFFFFFFF)
    (young : ∀ i, start.frees (first ++ .call (.newTuple items) :: rest) i < 0x100000000)
    (live : ((start.run first).heap.slot? x).isSome) (mem : x ∈ items) :
    ((start.run (first ++ .call (.newTuple items) :: rest)).heap.slot? x).isSome := by
  have new := Host.new_of_create created (Host.room_of_run room)
  have later := Host.young_after new.sound room (new.aged young)
  have gains := Host.gains_newTuple new.sound room
  rw [frees.made] at gains
  obtain ⟨object, still⟩ := Host.exists_get? (frees.fades.live frees.live)
  have made_run := Host.run_newTuple start first items []
  have made : ((opening start).run (first ++ [.call (.newTuple items)])).host
      = ((start.run first).store (.tuple items)).2 :=
    (host_run _ _).trans made_run
  rw [List.append_cons] at follows room young still ⊢
  obtain ⟨follows_made, follows_rest⟩ := follows.of_append
  have upheld := upheld_run created follows_made (Host.room_of_append room)
    (Host.few_of_append young)
  have reached : (((opening start).run (first ++ [.call (.newTuple items)])).run rest).host
      = start.run (first ++ [.call (.newTuple items)] ++ rest) := by
    rw [← run_append, host_run]
    rfl
  rw [← reached] at still ⊢
  rw [Host.run_append, made_run] at room
  have found := gains.get?_self
  have live_made := gains.live live
  rw [← made] at room later found live_made
  exact upheld.live_run follows_rest room later found mem live_made still

/-- Under the rule an item lives as long as the tuple, and through the cascade that frees the tuple
until each of its places had its turn. -/
theorem givenBack_of_follows (created : Host.create gcMode builtins = .ok start)
    (frees : start.FreesTuple first items rest released tuple host pending)
    (follows : (opening start).Follows (first ++ .call (.newTuple items) :: rest))
    (held : released ∈
      ((opening start).run (first ++ .call (.newTuple items) :: rest)).ledger.held)
    (room : (start.run (first ++ .call (.newTuple items) :: rest)).heap.slotCount < 0xFFFFFFFF)
    (young : ∀ i, start.frees (first ++ .call (.newTuple items) :: rest) i < 0x100000000)
    (live : ((start.run first).heap.slot? x).isSome) (mem : x ∈ items) :
    (host.dropOne tuple).1.givenBack x items.reverse = items.count x := by
  have new := Host.new_of_create created (Host.room_of_run room)
  obtain ⟨here, pending_next⟩ := frees.content new.sound room (new.aged young)
  obtain ⟨n, turn⟩ := frees.turn
  have used : 0 < host.occurrences x := Host.occurrences_pos here mem
  have upheld := upheld_run created follows room young
  have balanced := upheld.pending held
  have whole : ((opening start).run (first ++ .call (.newTuple items) :: rest)).host
      = start.run (first ++ .call (.newTuple items) :: rest) := host_run _ _
  rw [whole] at balanced
  -- The item lives to the end of the run,
  have live_end := live_at_end created frees follows room young live mem
  -- through the turns before that of the tuple,
  have live_then := balanced.live_turns n (by rw [turn]; exact Nat.add_pos_right _ used) live_end
  have balanced' := balanced.turns n
  rw [turn] at balanced' live_then
  -- and through that one.
  have places : 0 < items.count x := List.count_pos_iff.2 mem
  have wanted : 0 < ((host.dropOne tuple).2 ++ pending).count x := by
    rw [pending_next, List.count_append, List.count_reverse]
    omega
  have live_after := balanced'.live_dropOne
    (Nat.add_pos_left (Nat.add_pos_right _ wanted) _) live_then
  have next := balanced'.dropOne
  rw [pending_next] at next
  rw [← List.count_reverse]
  exact next.givenBack live_after

/-- The cascade that frees a tuple drops a reference for each place of an item in it. What was dead
when the tuple was made is passed over both times; what was alive is counted up at the making and,
if it is not freed before its turn, counted down as often in the cascade. Under the rule of ownership
nothing is freed before its turn, nor is anything that the client holds. -/
theorem tuple_gives_back (created : Host.create gcMode builtins = .ok start)
    (frees : start.FreesTuple first items rest released tuple host pending)
    (room : (start.run (first ++ .call (.newTuple items) :: rest)).heap.slotCount < 0xFFFFFFFF)
    (young : ∀ i, start.frees (first ++ .call (.newTuple items) :: rest) i < 0x100000000) :
    let before := start.run first
    let final := (opening start).run (first ++ .call (.newTuple items) :: rest)
    let after := (host.dropOne tuple).1
    final.host.drop [released] = (after.drop items.reverse).drop pending ∧
    (∀ x ∈ start.given first, before.heap.contains x = false →
      after.givenBack x items.reverse = 0) ∧
    (∀ x count, before.refCount? x = some count →
      ∃ counted, (before.newTuple items).2.refCount? x = some counted ∧
        counted.toNat = min 0xFFFFFFFF (count.toNat + items.count x) ∧
        after.givenBack x items.reverse ≤ items.count x ∧
        (∀ left, (after.drop items.reverse).refCount? x = some left →
          after.givenBack x items.reverse = items.count x ∧
          ∃ there, after.refCount? x = some there ∧
            left.toNat + items.count x ≤ there.toNat) ∧
        ((opening start).Follows (first ++ .call (.newTuple items) :: rest) →
          released ∈ final.ledger.held →
          counted.toNat = count.toNat + after.givenBack x items.reverse)) ∧
    ((opening start).Follows (first ++ .call (.newTuple items) :: rest) →
      ∀ h ∈ final.ledger.held, final.host.heap.contains h = true) := by
  intro before final after
  have new := Host.new_of_create created (Host.room_of_run room)
  have aged := new.aged young
  have gains := Host.gains_newTuple new.sound room
  have whole : final.host = start.run (first ++ .call (.newTuple items) :: rest) := host_run _ _
  refine ⟨?_, ?_, ?_, ?_⟩
  · obtain ⟨n, turn⟩ := frees.turn
    have resumed := Host.drop_turns n final.host [released]
    rw [whole, turn, Host.drop_cons, (frees.content new.sound room aged).2,
      Host.drop_append] at resumed
    rw [whole]
    exact resumed.symm
  · intro x mem dead
    exact frees.givenBack_of_missing new.sound room aged mem dead
  · intro x count found
    obtain ⟨s, slot, rfl⟩ := Option.map_eq_some_iff.1 found
    obtain ⟨u, slot', counted⟩ := Host.refCount_newTuple gains slot
    refine ⟨u.refCount, Host.refCount?_of_slot? slot', counted, ?_, ?_, ?_⟩
    · rw [← List.count_reverse]
      exact after.givenBack_le_count x items.reverse
    · intro left survives
      obtain ⟨t, slot'', rfl⟩ := Option.map_eq_some_iff.1 survives
      obtain ⟨given, v, slot''', less⟩ := Host.givenBack_of_live slot''
      rw [List.count_reverse] at given less
      exact ⟨given, v.refCount, Host.refCount?_of_slot? slot''', less⟩
    · intro follows held
      have shows := refCount_newTuple_of_follows created follows room young slot slot'
      have given : after.givenBack x items.reverse = items.count x := by
        by_cases mem : x ∈ items
        · have live : (before.heap.slot? x).isSome := by
            rw [slot]
            rfl
          exact givenBack_of_follows created frees follows held room young live mem
        · have none_given := after.givenBack_le_count x items.reverse
          rw [List.count_reverse, List.count_eq_zero.2 mem] at none_given
          rw [List.count_eq_zero.2 mem]
          exact Nat.le_zero.1 none_given
      rw [given]
      exact shows
  · intro follows h mem
    exact (upheld_run created follows room young).held_live mem

/-- A tuple that holds another one twice, released while the other is still held. -/
theorem tuple_gives_back_twice :
    let start := Host.core .refCounting
    let items : List Handle := [.pack 3 0, .pack 3 0]
    let actions : List HostAction := [.call (.newTuple []), .call (.newTuple items)]
    (opening start).Follows actions ∧
      start.FreesTuple [.call (.newTuple [])] items [] (.pack 4 0) (.pack 4 0) (start.run actions)
        [] ∧
      ((start.run actions).dropOne (.pack 4 0)).1.givenBack (.pack 3 0) items.reverse = 2 := by
  intro start items actions
  have frees : start.FreesTuple [.call (.newTuple [])] items [] (.pack 4 0) (.pack 4 0)
      (start.run actions) [] :=
    ⟨by decide, ⟨0, rfl⟩, by decide, by decide⟩
  have follows : (opening start).Follows actions :=
    ⟨within_of_few (by decide), by decide, within_of_few (by decide), by decide,
      within_of_few (by decide)⟩
  have young (i : Nat) : start.frees actions i < 0x100000000 :=
    Nat.lt_of_le_of_lt (Host.frees_le_length start actions i) (by decide)
  have created : Host.create .refCounting [] = .ok start := rfl
  have gives := tuple_gives_back created frees (by decide) young
  obtain ⟨counted, found, -, -, -, under_rule⟩ := gives.2.2.1 (.pack 3 0) 1 (by decide)
  have three : ((start.run [.call (.newTuple [])]).newTuple items).2.refCount? (.pack 3 0)
      = some 3 := by decide
  cases three.symm.trans found
  have sum : (3 : UInt32).toNat = (1 : UInt32).toNat + _ := under_rule follows (by decide)
  refine ⟨follows, frees, ?_⟩
  exact (Nat.add_left_cancel (sum.symm.trans (rfl : (3 : UInt32).toNat = 1 + 2)))

/-- A tuple holds a handle that is not given out yet, so it counts nothing up. The object that gets
the handle then is held by the client and loses its only reference when the tuple is freed. -/
theorem held_freed_by_tuple :
    let start := Host.core .refCounting
    let a := (opening start).run [.call (.newTuple [.pack 4 0]), .call (.newTuple [])]
    let last := a.next (.call (.release (.pack 3 0)))
    start.refCount? (.pack 4 0) = none ∧
      (start.newTuple [.pack 4 0]).2.refCount? (.pack 4 0) = none ∧
      .pack 3 0 ∈ a.ledger.held ∧
      (a.host.dropOne (.pack 3 0)).1.givenBack (.pack 4 0) [.pack 4 0] = 1 ∧
      .pack 4 0 ∈ last.ledger.held ∧ last.host.heap.contains (.pack 4 0) = false := by
  intro start a last
  have ends : last = _ := next_release (a := a) (h := .pack 3 0) 2 (by decide) (by decide)
  rw [ends]
  refine ⟨by decide, by decide, by decide, ?_, by decide, by decide⟩
  rw [Host.givenBack, Host.givenBack]
  decide

end FreesTuple

end Account
end TypeHost
