import Mathlib.Tactic

/-! # Computations that succeed

What it means for a computation that can fail that it has a value.
-/

namespace ConsoleLink

variable {ε ε' α β : Type}

theorem bind_eq_ok {x : Except ε α} {f : α → Except ε β} {b : β} :
    (x >>= f) = .ok b ↔ ∃ a, x = .ok a ∧ f a = .ok b := by
  cases x with
  | error e => exact ⟨nofun, fun ⟨_, h, _⟩ => nomatch h⟩
  | ok a => exact ⟨fun h => ⟨a, rfl, h⟩, fun ⟨_, ha, h⟩ => by cases ha; exact h⟩

theorem bind_of_ok {x : Except ε α} {a : α} (h : x = .ok a) (f : α → Except ε β) :
    (x >>= f) = f a := by
  rw [h]
  rfl

theorem map_eq_ok {f : α → β} {x : Except ε α} {b : β} :
    x.map f = .ok b ↔ ∃ a, x = .ok a ∧ f a = b := by
  cases x <;> simp [Except.map]

theorem mapError_eq_ok {f : ε → ε'} {x : Except ε α} {a : α} :
    x.mapError f = .ok a ↔ x = .ok a := by
  cases x <;> simp [Except.mapError]

theorem exists_ok_of_isOk {x : Except ε α} (h : x.isOk = true) : ∃ a, x = .ok a := by
  cases x with
  | ok a => exact ⟨a, rfl⟩
  | error e => cases h

theorem exists_error_of_not_isOk {x : Except ε α} (h : x.isOk = false) : ∃ e, x = .error e := by
  cases x with
  | ok a => cases h
  | error e => exact ⟨e, rfl⟩

/-! ## Lists -/

/-- A list is gone through if each of its items is. -/
theorem mapM_eq_ok_iff {f : α → Except ε β} {xs : List α} {ys : List β} :
    xs.mapM f = .ok ys ↔ List.Forall₂ (fun x y => f x = .ok y) xs ys := by
  induction xs generalizing ys with
  | nil =>
    rw [List.mapM_nil, List.forall₂_nil_left_iff]
    exact ⟨fun h => (Except.ok.inj h).symm, fun h => h ▸ rfl⟩
  | cons x xs ih =>
    rw [List.mapM_cons, List.forall₂_cons_left_iff, bind_eq_ok]
    constructor
    · rintro ⟨y, hy, h⟩
      obtain ⟨zs, hzs, h⟩ := bind_eq_ok.mp h
      cases h
      exact ⟨y, zs, hy, ih.mp hzs, rfl⟩
    · rintro ⟨y, zs, hy, hzs, rfl⟩
      exact ⟨y, hy, bind_eq_ok.mpr ⟨zs, ih.mpr hzs, rfl⟩⟩

/-- The error is that of the first item that cannot be read. -/
def FirstFault (f : α → Except ε β) (xs : List α) (e : ε) : Prop :=
  ∃ good bad rest, xs = good ++ bad :: rest ∧ (∀ x ∈ good, ∃ y, f x = .ok y) ∧ f bad = .error e

theorem firstFault_of_mapM {f : α → Except ε β} {xs : List α} {e : ε} (h : xs.mapM f = .error e) :
    FirstFault f xs e := by
  induction xs with
  | nil => cases h
  | cons x xs ih =>
    rw [List.mapM_cons] at h
    cases hx : f x with
    | error fault =>
      rw [hx] at h
      cases h
      exact ⟨[], x, xs, rfl, List.forall_mem_nil _, hx⟩
    | ok y =>
      cases hxs : xs.mapM f with
      | ok ys =>
        rw [hx, hxs] at h
        cases h
      | error fault =>
        rw [hx, hxs] at h
        cases h
        obtain ⟨good, bad, rest, rfl, hgood, hbad⟩ := ih hxs
        exact ⟨x :: good, bad, rest, rfl, List.forall_mem_cons.mpr ⟨⟨y, hx⟩, hgood⟩, hbad⟩

/-- A list is read in order: every item can be read, or the first fault fails them all. -/
theorem mapM_cases (f : α → Except ε β) (xs : List α) :
    (∃ ys, xs.mapM f = .ok ys ∧ List.Forall₂ (fun x y => f x = .ok y) xs ys) ∨
      ∃ e, xs.mapM f = .error e ∧ FirstFault f xs e := by
  cases h : xs.mapM f with
  | ok ys => exact .inl ⟨ys, rfl, mapM_eq_ok_iff.mp h⟩
  | error e => exact .inr ⟨e, rfl, firstFault_of_mapM h⟩

/-- Ways of reading that read the same of each item read the same of the list. -/
theorem mapM_eq_ok_congr {f : α → Except ε β} {g : α → Except ε' β} {xs : List α} {ys : List β}
    (h : ∀ x ∈ xs, ∀ y, f x = .ok y ↔ g x = .ok y) : xs.mapM f = .ok ys ↔ xs.mapM g = .ok ys := by
  rw [mapM_eq_ok_iff, mapM_eq_ok_iff]
  constructor
  · intro hall
    exact ((List.forall₂_and_left _ _).mpr ⟨h, hall⟩).imp fun _ y hy => (hy.1 y).mp hy.2
  · intro hall
    exact ((List.forall₂_and_left _ _).mpr ⟨h, hall⟩).imp fun _ y hy => (hy.1 y).mpr hy.2

theorem exists_mem_of_forall₂ {R : α → β → Prop} {xs : List α} {ys : List β}
    (h : List.Forall₂ R xs ys) {y : β} (hy : y ∈ ys) : ∃ x ∈ xs, R x y := by
  induction h with
  | nil => cases hy
  | cons hxy _ ih =>
    rcases List.mem_cons.mp hy with rfl | hy
    · exact ⟨_, List.mem_cons_self, hxy⟩
    · obtain ⟨x, hx, hR⟩ := ih hy
      exact ⟨x, List.mem_cons_of_mem _ hx, hR⟩

end ConsoleLink
