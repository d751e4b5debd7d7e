/-!
Weights summed over a list: what a heap holds in all, and what a search has still to look at.
Main statements: how a tally changes when an entry is replaced, and when one more entry drops out.
-/
namespace TypeHost

variable {α : Type}

def tally (weight : α → Nat) : List α → Nat
  | [] => 0
  | a :: rest => weight a + tally weight rest

@[simp] theorem tally_nil (weight : α → Nat) : tally weight [] = 0 := rfl

@[simp] theorem tally_cons (weight : α → Nat) (a : α) (rest : List α) :
    tally weight (a :: rest) = weight a + tally weight rest := rfl

theorem tally_set (weight : α → Nat) {l : List α} {i : Nat} {a b : α} (h : l[i]? = some a) :
    tally weight (l.set i b) + weight a = tally weight l + weight b := by
  induction l generalizing i with
  | nil => cases h
  | cons c rest ih =>
    cases i with
    | zero =>
      cases h
      simp only [List.set_cons_zero, tally_cons]
      omega
    | succ i =>
      have := ih (i := i) (by simpa using h)
      simp only [List.set_cons_succ, tally_cons]
      omega

theorem tally_append (weight : α → Nat) (first second : List α) :
    tally weight (first ++ second) = tally weight first + tally weight second := by
  induction first with
  | nil => rw [List.nil_append, tally_nil, Nat.zero_add]
  | cons b rest ih => rw [List.cons_append, tally_cons, tally_cons, ih, Nat.add_assoc]

theorem le_tally (weight : α → Nat) {l : List α} {a : α} (mem : a ∈ l) :
    weight a ≤ tally weight l := by
  induction l with
  | nil => cases mem
  | cons b rest ih =>
      rw [tally_cons]
      cases mem with
      | head => exact Nat.le_add_right _ _
      | tail _ mem => exact Nat.le_trans (ih mem) (Nat.le_add_left _ _)

theorem exists_of_tally_pos {weight : α → Nat} {l : List α}
    (pos : 0 < tally weight l) : ∃ a ∈ l, 0 < weight a := by
  induction l with
  | nil => cases pos
  | cons b rest ih =>
      rw [tally_cons] at pos
      by_cases heavy : 0 < weight b
      · exact ⟨b, List.mem_cons_self, heavy⟩
      · obtain ⟨a, mem, heavy⟩ := ih (by omega)
        exact ⟨a, List.mem_cons_of_mem b mem, heavy⟩

theorem tally_le_tally {light heavy : α → Nat} (le : ∀ a, light a ≤ heavy a)
    {l : List α} : tally light l ≤ tally heavy l := by
  induction l with
  | nil => exact Nat.le_refl 0
  | cons b rest ih => exact Nat.add_le_add (le b) ih

variable [DecidableEq α]

theorem tally_unseen_le (weight : α → Nat) (all seen : List α) (a : α) :
    tally weight (all.filter (· ∉ a :: seen)) ≤ tally weight (all.filter (· ∉ seen)) := by
  induction all with
  | nil => exact Nat.le_refl 0
  | cons b rest ih =>
    by_cases hs : b ∈ seen
    · rw [List.filter_cons_of_neg (by simp [hs]), List.filter_cons_of_neg (by simp [hs])]
      exact ih
    · rw [List.filter_cons_of_pos (a := b) (p := (· ∉ seen)) (by simp [hs])]
      by_cases hb : b = a
      · rw [List.filter_cons_of_neg (by simp [hb])]
        exact Nat.le_trans ih (Nat.le_add_left ..)
      · rw [List.filter_cons_of_pos (by simp [hb, hs])]
        exact Nat.add_le_add_left ih _

theorem tally_unseen_cons (weight : α → Nat) {all seen : List α} {a : α} (mem : a ∈ all)
    (unseen : a ∉ seen) :
    tally weight (all.filter (· ∉ a :: seen)) + weight a
      ≤ tally weight (all.filter (· ∉ seen)) := by
  induction all with
  | nil => cases mem
  | cons b rest ih =>
    by_cases hb : b = a
    · subst hb
      have := tally_unseen_le weight rest seen b
      rw [List.filter_cons_of_neg (by simp), List.filter_cons_of_pos (by simpa using unseen)]
      simp only [tally_cons]
      omega
    · have hrest := ih ((List.mem_cons.1 mem).resolve_left fun e => hb e.symm)
      by_cases hs : b ∈ seen
      · rw [List.filter_cons_of_neg (by simp [hs]), List.filter_cons_of_neg (by simp [hs])]
        exact hrest
      · rw [List.filter_cons_of_pos (by simp [hb, hs]), List.filter_cons_of_pos (by simp [hs])]
        simp only [tally_cons]
        omega

end TypeHost
