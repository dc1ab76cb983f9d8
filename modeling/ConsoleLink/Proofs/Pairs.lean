import Mathlib.Tactic

/-! # Looking up in lists of pairs

What is found under a key depends on the pairs with this key only.
-/

namespace ConsoleLink

variable {α β : Type} [BEq α] [LawfulBEq α] {pairs : List (α × β)} {key other : α}

theorem lookup_eq_none_of_forall (h : ∀ e ∈ pairs, e.1 ≠ key) : pairs.lookup key = none := by
  rw [List.lookup_eq_none_iff]
  intro e he
  exact bne_iff_ne.mpr (h e he).symm

theorem lookup_filter_ne [DecidableEq α] (pairs : List (α × β)) (h : key ≠ other) :
    (pairs.filter fun e => e.1 ≠ other).lookup key = pairs.lookup key := by
  induction pairs with
  | nil => rfl
  | cons e rest ih =>
    by_cases he : e.1 = other
    · have hkey : key ≠ e.1 := fun hsame => h (hsame.trans he)
      rw [List.filter_cons_of_neg (by simp [he]), ih, List.lookup_cons, beq_false_of_ne hkey]
    · rw [List.filter_cons_of_pos (by simpa using he), List.lookup_cons, List.lookup_cons, ih]

end ConsoleLink
