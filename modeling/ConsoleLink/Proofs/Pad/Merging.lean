import ConsoleLink.Pad.Basic
import Mathlib.Tactic

/-! # Merging two reports

Merging is associative and idempotent, and a port without a pad adds nothing. It is commutative but
for sticks that are equally far out in different places: of these the first report's counts. A
stick is never put together from two positions, and none of the two is farther out than the result.
-/

namespace ConsoleLink

namespace Stick

variable {s t : Stick}

/-- The squared distance between two positions. -/
def squaredDistance (s t : Stick) : ℤ :=
  ((s.x.toNat : ℤ) - t.x.toNat) ^ 2 + ((s.y.toNat : ℤ) - t.y.toNat) ^ 2

theorem squaredDistance_eq_zero_iff : s.squaredDistance t = 0 ↔ s = t := by
  obtain ⟨x, y⟩ := s
  obtain ⟨x', y'⟩ := t
  rw [squaredDistance, add_eq_zero_iff_of_nonneg (sq_nonneg _) (sq_nonneg _)]
  simp [sub_eq_zero, UInt8.toNat_inj]

theorem reach_eq (s : Stick) : s.reach = s.squaredDistance centre := by
  simp only [reach, squaredDistance, sq]
  rfl

/-! ## The farther of two positions -/

theorem farther_of_lt (h : s.reach < t.reach) : s.farther t = t := if_pos h

theorem farther_of_le (h : t.reach ≤ s.reach) : s.farther t = s := if_neg h.not_gt

theorem farther_choice (s t : Stick) : s.farther t = s ∨ s.farther t = t := by
  by_cases h : s.reach < t.reach
  · exact .inr (farther_of_lt h)
  · exact .inl (farther_of_le (not_lt.mp h))

theorem reach_farther (s t : Stick) : (s.farther t).reach = max s.reach t.reach := by
  by_cases h : s.reach < t.reach
  · rw [farther_of_lt h, max_eq_right h.le]
  · rw [farther_of_le (not_lt.mp h), max_eq_left (not_lt.mp h)]

@[simp] theorem farther_self (s : Stick) : s.farther s = s := farther_of_le le_rfl

theorem reach_centre_lt (h : s ≠ centre) : centre.reach < s.reach := by
  have hpos : 0 < s.reach := by
    refine lt_of_le_of_ne ?_ fun hzero => h ?_
    · rw [reach_eq]
      exact add_nonneg (sq_nonneg _) (sq_nonneg _)
    · rw [← squaredDistance_eq_zero_iff, ← reach_eq, ← hzero]
  exact hpos

@[simp] theorem centre_farther (s : Stick) : centre.farther s = s := by
  by_cases h : s = centre
  · rw [h, farther_self]
  · exact farther_of_lt (reach_centre_lt h)

@[simp] theorem farther_centre (s : Stick) : s.farther centre = s := by
  by_cases h : s = centre
  · rw [h, farther_self]
  · exact farther_of_le (reach_centre_lt h).le

/-- The farthest of three positions, the first of those equally far. -/
theorem farther_assoc (s t u : Stick) : (s.farther t).farther u = s.farther (t.farther u) := by
  by_cases hst : s.reach < t.reach
  · have hfirst : s.reach < (t.farther u).reach := by
      rw [reach_farther]
      exact hst.trans_le (le_max_left _ _)
    rw [farther_of_lt hst, farther_of_lt hfirst]
  · by_cases htu : t.reach < u.reach
    · rw [farther_of_le (not_lt.mp hst), farther_of_lt htu]
    · have hus : u.reach ≤ s.reach := (not_lt.mp htu).trans (not_lt.mp hst)
      rw [farther_of_le (not_lt.mp hst), farther_of_le (not_lt.mp htu), farther_of_le hus,
        farther_of_le (not_lt.mp hst)]

theorem farther_comm_iff : s.farther t = t.farther s ↔ s = t ∨ s.reach ≠ t.reach := by
  rcases lt_trichotomy s.reach t.reach with h | h | h
  · simp [farther_of_lt h, farther_of_le h.le, h.ne]
  · simp [farther_of_le h.le, farther_of_le h.ge, h]
  · simp [farther_of_lt h, farther_of_le h.le, h.ne']

/-- Two positions are one, or one of them is farther out. -/
def Ranked (s t : Stick) : Prop := s = t ∨ s.squaredDistance centre ≠ t.squaredDistance centre

/-- A position is one of two, and none of the two is farther out. -/
structure IsFarthest (s t r : Stick) : Prop where
  choice : r = s ∨ r = t
  left : s.squaredDistance centre ≤ r.squaredDistance centre
  right : t.squaredDistance centre ≤ r.squaredDistance centre

theorem ranked_iff : s.Ranked t ↔ s.farther t = t.farther s := by
  rw [farther_comm_iff, reach_eq, reach_eq]
  rfl

theorem isFarthest_farther (s t : Stick) : s.IsFarthest t (s.farther t) where
  choice := farther_choice s t
  left := by
    rw [← reach_eq, ← reach_eq, reach_farther]
    exact le_max_left _ _
  right := by
    rw [← reach_eq, ← reach_eq, reach_farther]
    exact le_max_right _ _

end Stick

namespace Pad

/-! ## The larger of two pressures -/

theorem toNat_max (a b : UInt8) : (max a b).toNat = max a.toNat b.toNat := by
  change (if a ≤ b then b else a).toNat = _
  by_cases h : a ≤ b
  · rw [if_pos h, max_eq_right (UInt8.le_iff_toNat_le.mp h)]
  · rw [if_neg h, max_eq_left (not_le.mp (UInt8.le_iff_toNat_le.not.mp h)).le]

section

variable (a b c : UInt8)

theorem pressure_assoc : max (max a b) c = max a (max b c) := by
  simp only [← UInt8.toNat_inj, toNat_max, max_assoc]

theorem pressure_comm : max a b = max b a := by
  simp only [← UInt8.toNat_inj, toNat_max, max_comm]

@[simp] theorem pressure_self : max a a = a := by
  simp only [← UInt8.toNat_inj, toNat_max, max_self]

@[simp] theorem zero_pressure : max 0 a = a := by
  simp only [← UInt8.toNat_inj, toNat_max, UInt8.toNat_zero, Nat.zero_max]

@[simp] theorem pressure_zero : max a 0 = a := by rw [pressure_comm, zero_pressure]

end

/-! ## Whole reports -/

theorem merge_assoc (p q r : Pad) : (p.merge q).merge r = p.merge (q.merge r) := by
  simp only [merge, UInt16.or_assoc, Stick.farther_assoc, pressure_assoc, Bool.or_assoc]

theorem merge_self (p : Pad) : p.merge p = p := by simp [merge]

theorem unplugged_merge (p : Pad) : unplugged.merge p = p := by simp [merge, unplugged]

theorem merge_unplugged (p : Pad) : p.merge unplugged = p := by simp [merge, unplugged]

/-- All but the sticks can be merged in either order. -/
theorem merge_comm_iff {p q : Pad} :
    p.merge q = q.merge p ↔ p.stick.Ranked q.stick ∧ p.substick.Ranked q.substick := by
  simp only [merge, mk.injEq, Stick.ranked_iff, UInt16.or_comm q.buttons,
    pressure_comm q.triggerLeft, pressure_comm q.triggerRight, pressure_comm q.analogA,
    pressure_comm q.analogB, Bool.or_comm q.connected, true_and, and_true]

/-- Merging is associative and idempotent, has the pad that is not connected and that nobody touches
as its identity, and can be done in either order if and only if for each stick the two positions are
equal or one is farther out. A merged stick is the position of one of the two, and neither of these
is farther out. -/
theorem merge_laws :
    (∀ p q r : Pad, (p.merge q).merge r = p.merge (q.merge r)) ∧
    (∀ p : Pad, p.merge p = p) ∧
    (∀ p : Pad, p.merge { neutral with connected := false } = p ∧
      merge { neutral with connected := false } p = p) ∧
    (∀ p q : Pad, p.merge q = q.merge p ↔
      p.stick.Ranked q.stick ∧ p.substick.Ranked q.substick) ∧
    ∀ p q : Pad, p.stick.IsFarthest q.stick (p.merge q).stick ∧
      p.substick.IsFarthest q.substick (p.merge q).substick :=
  ⟨merge_assoc, merge_self, fun p => ⟨merge_unplugged p, unplugged_merge p⟩,
    fun _ _ => merge_comm_iff,
    fun _ _ => ⟨Stick.isFarthest_farther _ _, Stick.isFarthest_farther _ _⟩⟩

/-- Fully left and fully up are equally far out. -/
example :
    merge { stick := ⟨0, 128⟩ } { stick := ⟨128, 0⟩ } = { stick := ⟨0, 128⟩ } ∧
      merge { stick := ⟨128, 0⟩ } { stick := ⟨0, 128⟩ } = { stick := ⟨128, 0⟩ } := by decide

end Pad

end ConsoleLink
