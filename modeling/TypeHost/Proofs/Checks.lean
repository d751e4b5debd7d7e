import Mathlib.Data.List.Forall2

/-! Chains of checks. Where a chain comes to its end, each of its checks was passed; where it does
not, it fails for the cause of the first check that fails. -/
namespace TypeHost

variable {ε α β : Type}

theorem bind_eq_ok {x : Except ε α} {f : α → Except ε β} {b : β} :
    (x >>= f) = .ok b ↔ ∃ a, x = .ok a ∧ f a = .ok b := by
  cases x <;> simp [bind, Except.bind]

theorem bind_eq_error {x : Except ε α} {f : α → Except ε β} {e : ε} :
    (x >>= f) = .error e ↔ x = .error e ∨ ∃ a, x = .ok a ∧ f a = .error e := by
  cases x <;> simp [bind, Except.bind]

/-- A check of one member after the other, each in view of what was found before, fails at the first
member that fails it. -/
theorem foldlM_eq_error {f : β → α → Except ε β} {as : List α} {b : β} {e : ε} :
    as.foldlM f b = .error e ↔ ∃ first a later found, as = first ++ a :: later ∧
      first.foldlM f b = .ok found ∧ f found a = .error e := by
  induction as generalizing b with
  | nil =>
      rw [List.foldlM_nil]
      constructor
      · intro done
        cases done
      · rintro ⟨first, a, later, found, split, -⟩
        cases first <;> cases split
  | cons a rest ih =>
      rw [List.foldlM_cons, bind_eq_error]
      constructor
      · rintro (here | ⟨next, passed, failed⟩)
        · exact ⟨[], a, rest, b, rfl, rfl, here⟩
        · obtain ⟨first, other, later, found, rfl, done, failed⟩ := ih.1 failed
          refine ⟨a :: first, other, later, found, rfl, ?_, failed⟩
          rw [List.foldlM_cons]
          exact bind_eq_ok.2 ⟨next, passed, done⟩
      · rintro ⟨first, other, later, found, split, done, failed⟩
        cases first with
        | nil =>
            cases split
            cases done
            exact .inl failed
        | cons _ first =>
            cases split
            rw [List.foldlM_cons] at done
            obtain ⟨next, passed, done⟩ := bind_eq_ok.1 done
            exact .inr ⟨next, passed, ih.2 ⟨first, other, later, found, rfl, done, failed⟩⟩

theorem mapM_eq_ok {f : α → Except ε β} {as : List α} {bs : List β} :
    as.mapM f = .ok bs ↔ List.Forall₂ (fun a b => f a = .ok b) as bs := by
  induction as generalizing bs with
  | nil =>
      rw [List.forall₂_nil_left_iff]
      exact ⟨fun done => (Except.ok.inj done).symm, fun empty => empty ▸ rfl⟩
  | cons a rest ih =>
      rw [List.mapM_cons, List.forall₂_cons_left_iff, bind_eq_ok]
      constructor
      · rintro ⟨b, first, passed⟩
        obtain ⟨later, passed, done⟩ := bind_eq_ok.1 passed
        exact ⟨b, later, first, ih.1 passed, (Except.ok.inj done).symm⟩
      · rintro ⟨b, later, first, passed, rfl⟩
        exact ⟨b, first, bind_eq_ok.2 ⟨later, ih.2 passed, rfl⟩⟩

def cause? : Except ε α → Option ε
  | .ok _ => none
  | .error e => some e

theorem cause?_eq_some {x : Except ε α} {e : ε} : cause? x = some e ↔ x = .error e := by
  cases x <;> simp [cause?]

theorem cause?_eq_none {x : Except ε α} : cause? x = none ↔ ∃ a, x = .ok a := by
  cases x <;> simp [cause?]

theorem cause?_mapM (f : α → Except ε β) (as : List α) :
    cause? (as.mapM f) = as.findSome? fun a => cause? (f a) := by
  induction as with
  | nil => rfl
  | cons a rest ih =>
      rw [List.mapM_cons, List.findSome?_cons]
      cases f a with
      | error e => rfl
      | ok b =>
          change cause? (rest.mapM f >>= fun bs => pure (b :: bs)) = _
          rw [cause?, ← ih]
          cases rest.mapM f <;> rfl

/-- What a check found, if it passed, may be used to tell why a later one fails. -/
theorem or_eq_or {x a b : Option α} (same : x = none → a = b) : x.or a = x.or b := by
  cases x with
  | none => exact congrArg _ (same rfl)
  | some _ => rfl

theorem cause?_check (x : Except ε Unit) (f : Unit → Except ε β) :
    cause? (x >>= f) = (cause? x).or (cause? (f ())) := by
  cases x <;> rfl

theorem cause?_bind {x : Except ε α} {f : α → Except ε β} {faults rest : List ε}
    (first : cause? x = faults.head?) (later : ∀ a, x = .ok a → cause? (f a) = rest.head?) :
    cause? (x >>= f) = (faults ++ rest).head? := by
  rw [List.head?_append, ← first]
  cases x with
  | error e => rfl
  | ok a => exact later a rfl

theorem cause?_bind_pure (x : Except ε α) (f : α → β) :
    cause? (x >>= fun a => pure (f a)) = cause? x := by
  cases x <;> rfl

def faultIf (p : Prop) [Decidable p] (e : ε) : List ε := if p then [e] else []

theorem faultIf_eq_nil {p : Prop} [Decidable p] {e : ε} : faultIf p e = [] ↔ ¬ p := by
  unfold faultIf
  split <;> simp_all

theorem faultIf_congr {p q : Prop} [Decidable p] [Decidable q] (same : p ↔ q) (e : ε) :
    faultIf p e = faultIf q e := by
  unfold faultIf
  exact if_congr same rfl rfl

end TypeHost
