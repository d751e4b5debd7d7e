import TypeHost.Proofs.Host.Layering

/-!
Ancestry. A type is a subtype of exactly those that a chain of live types leads up to, whatever the
bases are. Where no handle is given out twice, bases are older than the types that list them, so no
chain comes back to where it began.
-/
namespace TypeHost

namespace Host

variable {host before after start : Host} {h a b c base target : Handle} {seen seen' : List Handle}
  {pending chain : List Handle} {t : RegisteredType} {object : HostObject} {call : HostCall}
  {rank : Handle → Nat} {gcMode : GcMode} {builtins : List BuiltinType} {n : Nat}

/-- The search as a loop that gives up after a number of turns. Each turn takes the top of a stack
and marks it, whether it is a live type or not. -/
def searchFor (host : Host) (target : Handle) :
    Nat → List Handle → List Handle → Option Bool
  | 0, _, _ => none
  | _ + 1, _, [] => some false
  | n + 1, seen, h :: pending =>
    if h ∈ seen then host.searchFor target n seen pending
    else match host.type? h with
      | none => host.searchFor target n (h :: seen) pending
      | some t =>
        if h = target then some true
        else host.searchFor target n (h :: seen) (t.bases.reverse ++ pending)

theorem searchFor_seen (known : h ∈ seen) :
    host.searchFor target (n + 1) seen (h :: pending) = host.searchFor target n seen pending := by
  rw [searchFor, if_pos known]

theorem searchFor_gone (unseen : h ∉ seen) (gone : host.type? h = none) :
    host.searchFor target (n + 1) seen (h :: pending)
      = host.searchFor target n (h :: seen) pending := by
  rw [searchFor, if_neg unseen, gone]

theorem searchFor_found (unseen : h ∉ seen) (found : host.type? h = some t) :
    host.searchFor target (n + 1) seen (h :: pending) = if h = target then some true
      else host.searchFor target n (h :: seen) (t.bases.reverse ++ pending) := by
  rw [searchFor, if_neg unseen, found]

/-- What opening a type puts on the stack is taken from the bases that are still to come. -/
theorem unseenBases_cons (found : host.type? h = some t) (unseen : h ∉ seen) :
    host.unseenBases (h :: seen) + t.bases.length ≤ host.unseenBases seen := by
  have bases : (host.basesOf h).length = t.bases.length := by rw [basesOf, found]; rfl
  have opened := tally_unseen_cons (fun h => (host.basesOf h).length) (mem_handles_of_type? found)
    unseen
  rwa [bases] at opened

def SameMarks (host : Host) (seen' seen : List Handle) : Prop :=
  ∀ h, host.isType h = true → (h ∈ seen' ↔ h ∈ seen)

theorem SameMarks.cons (same : host.SameMarks seen' seen) (h : Handle) :
    host.SameMarks (h :: seen') (h :: seen) := by
  intro other live
  rw [List.mem_cons, List.mem_cons, same other live]

theorem SameMarks.cons_gone (same : host.SameMarks seen' seen) (gone : host.type? h = none) :
    host.SameMarks (h :: seen') seen := by
  intro other live
  have ne : other ≠ h := by
    rintro rfl
    rw [isType, gone] at live
    cases live
  rw [List.mem_cons, or_iff_right ne, same other live]

theorem searchFor_eq_search (same : host.SameMarks seen' seen)
    (enough : host.unseenBases seen + pending.length < n) :
    host.searchFor target n seen' pending = some (host.search target seen pending) := by
  -- Each turn lowers the bound by the handle it takes; the bases it puts back were counted before.
  fun_induction search host target seen pending generalizing n seen' with
  | case1 seen =>
      obtain ⟨n, rfl⟩ := Nat.exists_eq_add_of_lt enough
      rfl
  | case2 seen h pending unseen t found ih =>
      have unseen' : h ∉ seen' := by rwa [same h (isType_of_type? found)]
      have left := unseenBases_cons found unseen
      rw [List.length_cons] at enough
      obtain ⟨n, rfl⟩ : ∃ m, n = m + 1 := Nat.exists_eq_succ_of_ne_zero (by omega)
      rw [searchFor_found unseen' found]
      by_cases arrived : h = target
      · simp [arrived]
      · rw [if_neg arrived, ih (same.cons h), decide_eq_false arrived, Bool.false_or]
        rw [List.length_append, List.length_reverse]
        omega
  | case3 seen h pending unseen gone ih =>
      rw [List.length_cons] at enough
      obtain ⟨n, rfl⟩ : ∃ m, n = m + 1 := Nat.exists_eq_succ_of_ne_zero (by omega)
      by_cases marked : h ∈ seen'
      · rw [searchFor_seen marked, ih same (by omega)]
      · rw [searchFor_gone marked gone, ih (same.cons_gone gone) (by omega)]
  | case4 seen h pending known ih =>
      rw [List.length_cons] at enough
      obtain ⟨n, rfl⟩ : ∃ m, n = m + 1 := Nat.exists_eq_succ_of_ne_zero (by omega)
      by_cases marked : h ∈ seen'
      · rw [searchFor_seen marked, ih same (by omega)]
      · have gone : host.type? h = none := by
          rw [← Option.not_isSome_iff_eq_none]
          exact fun live => marked ((same h live).2 (not_not.1 known))
        rw [searchFor_gone marked gone, ih (same.cons_gone gone) (by omega)]

/-- A chain of live types from the first handle to the second, each a base of the one before. -/
structure Ascends (host : Host) (a b : Handle) (chain : List Handle) : Prop where
  first : chain.head? = some a
  last : chain.getLast? = some b
  live : ∀ h ∈ chain, host.isType h = true
  upward : chain.IsChain fun h base => base ∈ host.basesOf h

theorem mem_basesOf (found : host.type? h = some t) : base ∈ host.basesOf h ↔ base ∈ t.bases := by
  rw [basesOf, found, Option.elim_some]

theorem Climbs.ascends (climbs : host.Climbs b [] a) : ∃ chain, host.Ascends a b chain := by
  induction climbs with
  | arrived found unseen =>
      refine ⟨[b], rfl, rfl, ?_, .singleton b⟩
      intro h mem
      rw [List.mem_singleton.1 mem]
      exact isType_of_type? found
  | @up h base t found unseen mem climbs ih =>
      obtain ⟨chain, first, last, live, upward⟩ := ih
      obtain ⟨rest, rfl⟩ := List.head?_eq_some_iff.1 first
      refine ⟨h :: base :: rest, rfl, ?_, ?_, ?_⟩
      · rwa [List.getLast?_cons_cons]
      · exact List.forall_mem_cons.2 ⟨isType_of_type? found, live⟩
      · exact .cons_cons ((mem_basesOf found).2 mem) upward

theorem Ascends.climbs (ascends : host.Ascends a b chain) : host.Climbs b [] a := by
  obtain ⟨first, last, live, upward⟩ := ascends
  induction chain generalizing a with
  | nil => cases first
  | cons h rest ih =>
      cases first
      obtain ⟨t, found⟩ := Option.isSome_iff_exists.1 (live h List.mem_cons_self)
      cases rest with
      | nil =>
          cases last
          exact .arrived found List.not_mem_nil
      | cons base rest =>
          obtain ⟨mem, upward⟩ := List.isChain_cons_cons.1 upward
          rw [List.getLast?_cons_cons] at last
          exact .up found List.not_mem_nil ((mem_basesOf found).1 mem)
            (ih rfl last (fun other mem => live other (List.mem_cons_of_mem h mem)) upward)

theorem isSubtype_iff_ascends : host.isSubtype a b = true ↔ ∃ chain, host.Ascends a b chain := by
  rw [isSubtype_iff]
  exact ⟨Climbs.ascends, fun ⟨_, ascends⟩ => ascends.climbs⟩

theorem Climbs.trans (first : host.Climbs b [] a) (second : host.Climbs c [] b) :
    host.Climbs c [] a := by
  induction first with
  | arrived found unseen => exact second
  | up found unseen mem climbs ih => exact .up found unseen mem ih

def Graded (host : Host) (rank : Handle → Nat) : Prop :=
  ∀ h t, host.type? h = some t → ∀ base ∈ t.bases, host.isType base = true → rank base < rank h

theorem Graded.fade (graded : before.Graded rank) (fades : before.Fades after) :
    after.Graded rank := by
  intro h t found base mem live
  obtain ⟨u, found'⟩ := Option.isSome_iff_exists.1 live
  exact graded h t (fades.type? found) base mem (isType_of_type? (fades.type? found'))

theorem Graded.gain (graded : before.Graded rank) (layered : before.Layered)
    (makes : before.Makes call object) (gains : before.Gains after object h) :
    after.Graded (rankOver rank h object.references) := by
  intro other t found base mem live
  have issued : before.heap.Issued base := by
    rcases gains.type?_cases found with rfl | found'
    · exact (layered.made makes base mem).1
    · exact layered.issued other t found' base mem
  have ne : base ≠ h := fun eq => gains.fresh (eq ▸ issued)
  rw [isType, gains.type?_of_issued issued] at live
  refine rankOver_lt ne ?_ ?_
  · rintro rfl
    cases gains.get?_self.symm.trans (type?_eq_some.1 found)
    exact mem
  · intro old
    rw [type?, gains.get?_of_ne old, ← type?] at found
    exact graded other t found base mem live

theorem graded_of_create (created : create gcMode builtins = .ok start)
    (small : start.heap.slotCount < 0xFFFFFFFF) :
    start.Graded fun h => if h = objectType then 0 else 1 := by
  intro h t found base mem live
  obtain ⟨builtin, same⟩ := (registered_of_create created small).2 h _ (type?_eq_some.1 found)
  cases same
  change base ∈ (if h = objectType then [] else [objectType]) at mem
  split at mem
  · cases mem
  · rename_i below
    simp [List.mem_singleton.1 mem, below]

theorem Lasting.graded (lasting : host.Lasting) : ∃ rank, host.Graded rank := by
  refine (lasting.induct (motive := fun host => host.Layered ∧ ∃ rank, host.Graded rank)
    ?_ ?_ ?_).2
  · intro gcMode builtins start created small
    exact ⟨layered_of_create created small, _, graded_of_create created small⟩
  · rintro before after fades older ⟨layered, rank, graded⟩
    exact ⟨layered.fade fades older, rank, graded.fade fades⟩
  · rintro before after call object h makes gains ⟨layered, rank, graded⟩
    exact ⟨layered.gain makes gains, _, graded.gain layered makes gains⟩

theorem Graded.climbs (graded : host.Graded rank) (climbs : host.Climbs b [] a) :
    a = b ∨ rank b < rank a := by
  induction climbs with
  | arrived found unseen => exact .inl rfl
  | up found unseen mem climbs ih =>
      have less := graded _ _ found _ mem climbs.isType
      rcases ih with rfl | below
      · exact .inr less
      · exact .inr (Nat.lt_trans below less)

theorem Graded.antisymm (graded : host.Graded rank) (up : host.isSubtype a b = true)
    (down : host.isSubtype b a = true) : a = b := by
  rcases graded.climbs (isSubtype_iff.1 up) with same | above
  · exact same
  · rcases graded.climbs (isSubtype_iff.1 down) with same | below
    · exact same.symm
    · exact absurd below (Nat.lt_asymm above)

/-- The search ends after as many turns as there are bases to open, and finds exactly the ends of
chains. On a lasting host subtypes are ordered. -/
theorem isSubtype_reachability (host : Host) :
    (∀ a b, (∀ n, host.unseenBases [] + 1 < n →
        host.searchFor b n [] [a] = some (host.isSubtype a b)) ∧
      (host.isSubtype a b = true ↔ ∃ chain, host.Ascends a b chain)) ∧
    (host.Lasting →
      (∀ a, host.isType a = true → host.isSubtype a a = true) ∧
      (∀ a b c, host.isSubtype a b = true → host.isSubtype b c = true →
        host.isSubtype a c = true) ∧
      ∀ a b, host.isSubtype a b = true → host.isSubtype b a = true → a = b) := by
  constructor
  · intro a b
    refine ⟨?_, isSubtype_iff_ascends⟩
    intro n enough
    exact searchFor_eq_search (fun h live => Iff.rfl) enough
  · intro lasting
    obtain ⟨rank, graded⟩ := lasting.graded
    refine ⟨?_, ?_, fun a b => graded.antisymm⟩
    · intro a live
      obtain ⟨t, found⟩ := Option.isSome_iff_exists.1 live
      exact isSubtype_self found
    · intro a b c up further
      exact isSubtype_iff.2 ((isSubtype_iff.1 up).trans (isSubtype_iff.1 further))

/-- Two ways up from a type that lists one of its bases twice; and two types below each other, one of
which lists a handle that names nothing. -/
theorem isSubtype_reachability_diamond :
    let diamond := (core .refCounting).run [
      .call (.typeFromSpec { name := "left", flags := .baseType } []),
      .call (.typeFromSpec { name := "right", flags := .baseType } []),
      .call (.newTuple [.pack 3 0, .pack 4 0, .pack 3 0]),
      .call (.typeFromSpec { name := "both" } [⟨.basesTuple, .pack 5 0⟩])]
    let cyclic : Host :=
      { gcMode := .tracing
        heap :=
          { slots := #[
              ⟨0, 1, some (.type (BuiltinType.register { name := "p" } [.pack 1 0, .pack 9 0]))⟩,
              ⟨0, 1, some (.type (BuiltinType.register { name := "q" } [.pack 0 0]))⟩] } }
    diamond.Lasting ∧ diamond.Ascends (.pack 6 0) objectType [.pack 6 0, .pack 4 0, objectType] ∧
      diamond.isSubtype (.pack 6 0) objectType = true ∧
      diamond.isSubtype objectType (.pack 6 0) = false ∧
      cyclic.isSubtype (.pack 0 0) (.pack 1 0) = true ∧
      cyclic.isSubtype (.pack 1 0) (.pack 0 0) = true ∧
      cyclic.isSubtype (.pack 1 0) (.pack 9 0) = false := by
  intro diamond cyclic
  have lasting : diamond.Lasting := lasting_of_short (by decide) (by decide)
  have ascends : diamond.Ascends (.pack 6 0) objectType [.pack 6 0, .pack 4 0, objectType] :=
    ⟨rfl, rfl, by decide, by decide⟩
  have up := ((isSubtype_reachability diamond).1 _ _).2.2 ⟨_, ascends⟩
  have search (a b : Handle) :=
    ((isSubtype_reachability cyclic).1 a b).1 5 (by decide)
  refine ⟨lasting, ascends, up, ?_, ?_, ?_, ?_⟩
  · rw [Bool.eq_false_iff]
    intro down
    have same := ((isSubtype_reachability diamond).2 lasting).2.2 _ _ up down
    revert same
    decide
  · exact Option.some.inj ((search _ _).symm.trans (by decide))
  · exact Option.some.inj ((search _ _).symm.trans (by decide))
  · exact Option.some.inj ((search _ _).symm.trans (by decide))

end Host
end TypeHost
