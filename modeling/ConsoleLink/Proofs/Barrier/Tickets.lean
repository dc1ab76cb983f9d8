import ConsoleLink.Barrier
import ConsoleLink.Proofs.Pairs

/-! # What becomes of a ticket

A ticket first waits; then the frame that reaches its target releases it, or the barrier is closed
and turns it away. Each operation of the barrier is described by what it does to a ticket in one of
the three conditions.
-/

namespace ConsoleLink.Barrier

variable {b : Barrier} {t u : Ticket} {frame : Nat}

/-- Numbers of tickets are given out in turn, so the next one is not in use. -/
structure Fresh (b : Barrier) : Prop where
  waiters : ∀ w ∈ b.waiters, w.id < b.issued
  releases : ∀ r ∈ b.releases, r.1 < b.issued

/-- A ticket waits for a frame that is still ahead. -/
structure Waits (b : Barrier) (t : Ticket) : Prop where
  mem : t ∈ b.waiters
  unique : ∀ w ∈ b.waiters, w.id = t.id → w = t
  unreleased : ∀ r ∈ b.releases, r.1 ≠ t.id
  issued : t.id < b.issued
  ahead : b.frame < t.target

/-- A ticket is released and its release not yet collected. -/
def Released (b : Barrier) (t : Ticket) (frame : Nat) : Prop := b.releases.lookup t.id = some frame

/-- A ticket is turned away for good. -/
structure TurnedAway (b : Barrier) (t : Ticket) : Prop where
  closed : b.closed = true
  waiters : b.waiters = []
  unreleased : ∀ r ∈ b.releases, r.1 ≠ t.id

/-! ## Collecting -/

theorem collect_of_released (h : b.Released t frame) : (b.collect t).1 = .ok (some frame) := by
  unfold collect
  rw [show b.releases.lookup t.id = some frame from h]

theorem collect_of_waits (h : b.Waits t) : (b.collect t).1 = .ok none := by
  have hwaiting : b.isWaiting t = true := List.any_eq_true.mpr ⟨t, h.mem, by simp⟩
  unfold collect
  rw [lookup_eq_none_of_forall h.unreleased]
  simp [hwaiting]

theorem collect_of_turnedAway (h : b.TurnedAway t) :
    (b.collect t).1 = .error (.closed t.target) := by
  unfold collect
  rw [lookup_eq_none_of_forall h.unreleased]
  simp [isWaiting, h.waiters]

/-- Collecting takes away the releases of the ticket, of which there may be none. -/
theorem collect_snd (b : Barrier) (t : Ticket) :
    (b.collect t).2 = { b with releases := b.releases.filter fun r => r.1 ≠ t.id } := by
  unfold collect
  split
  · rfl
  · rename_i hlookup
    have hkeep : (b.releases.filter fun r => r.1 ≠ t.id) = b.releases := by
      rw [List.filter_eq_self]
      intro r hr
      have hne : t.id ≠ r.1 := by simpa using List.lookup_eq_none_iff.mp hlookup r hr
      exact decide_eq_true hne.symm
    split <;> rw [hkeep]

theorem collect_frame (b : Barrier) (t : Ticket) : (b.collect t).2.frame = b.frame := by
  rw [collect_snd]

theorem collectOrTimeout_fst (b : Barrier) (t : Ticket) :
    (b.collectOrTimeout t).1 = match (b.collect t).1 with
      | .ok (some frame) => .ok frame
      | .ok none => .error (.timeout t.target)
      | .error e => .error e := by
  unfold collectOrTimeout
  split <;> simp_all

theorem collectOrTimeout_snd (b : Barrier) (t : Ticket) :
    (b.collectOrTimeout t).2 = (b.collect t).2 := by
  unfold collectOrTimeout
  split <;> simp_all

/-! ## Registering -/

/-- The barrier after a registration that succeeds. -/
def withWaiter (b : Barrier) (t : Ticket) : Barrier :=
  { b with waiters := b.waiters ++ [t], issued := b.issued + 1 }

theorem register_zero (b : Barrier) : b.register 0 = .error .zeroFrames := rfl

theorem register_of_closed {n : Nat} (hn : 0 < n) (h : b.closed = true) :
    b.register n = .error (.closed (min (b.frame + n) lastFrame)) := by
  simp [register, h, Nat.pos_iff_ne_zero.mp hn]

theorem register_of_open {n : Nat} (hn : 0 < n) (h : b.closed = false) :
    b.register n = .ok (⟨b.issued, min (b.frame + n) lastFrame⟩,
      b.withWaiter ⟨b.issued, min (b.frame + n) lastFrame⟩) := by
  simp [register, withWaiter, h, Nat.pos_iff_ne_zero.mp hn]

/-- A registration fails for no frames and on a closed barrier; otherwise it adds a waiter. -/
theorem register_cases (b : Barrier) (n : Nat) :
    (∃ e, b.register n = .error e) ∨
      b.register n = .ok (⟨b.issued, min (b.frame + n) lastFrame⟩,
        b.withWaiter ⟨b.issued, min (b.frame + n) lastFrame⟩) ∧ 0 < n ∧ b.closed = false := by
  rcases Nat.eq_zero_or_pos n with rfl | hn
  · exact .inl ⟨_, b.register_zero⟩
  · cases h : b.closed with
    | true => exact .inl ⟨_, register_of_closed hn h⟩
    | false => exact .inr ⟨register_of_open hn h, hn, rfl⟩

/-- A ticket just registered waits. -/
theorem waits_withWaiter (hb : b.Fresh) (hid : t.id = b.issued) (ht : b.frame < t.target) :
    (b.withWaiter t).Waits t where
  mem := by simp [withWaiter]
  unique w hw hwt := by
    rcases List.mem_append.mp hw with hw | hw
    · exact absurd (hb.waiters w hw) (by omega)
    · simpa using hw
  unreleased r hr := by
    have := hb.releases r hr
    omega
  issued := by simp only [withWaiter]; omega
  ahead := ht

theorem Waits.withWaiter (h : b.Waits t) (hid : u.id = b.issued) : (b.withWaiter u).Waits t where
  mem := List.mem_append_left _ h.mem
  unique w hw hwt := by
    rcases List.mem_append.mp hw with hw | hw
    · exact h.unique w hw hwt
    · rw [List.mem_singleton.mp hw] at hwt
      exact absurd h.issued (by omega)
  unreleased := h.unreleased
  issued := Nat.lt_succ_of_lt h.issued
  ahead := h.ahead

/-! ## Counting and closing -/

theorem Waits.advance (h : b.Waits t) (ht : b.frame + 1 < t.target) : b.advance.Waits t where
  mem := List.mem_filter.mpr ⟨h.mem, by simpa using ht⟩
  unique w hw hwt := h.unique w (List.mem_filter.mp hw).1 hwt
  unreleased r hr hrt := by
    rcases List.mem_append.mp hr with hr | hr
    · exact h.unreleased r hr hrt
    · obtain ⟨w, hw, rfl⟩ := List.mem_map.mp hr
      obtain ⟨hmem, hreached⟩ := List.mem_filter.mp hw
      rw [h.unique w hmem hrt] at hreached
      exact absurd ht (by simpa using hreached)
  issued := h.issued
  ahead := ht

/-- The frame that reaches the target releases the ticket. -/
theorem Waits.released_advance (h : b.Waits t) (ht : b.frame + 1 = t.target) :
    b.advance.Released t t.target := by
  have hreached : t ∈ b.waiters.filter fun w => w.target ≤ b.frame + 1 :=
    List.mem_filter.mpr ⟨h.mem, by simp [ht]⟩
  have hnew : ((b.waiters.filter fun w => w.target ≤ b.frame + 1).map
      fun w => (w.id, b.frame + 1)).lookup t.id = some (b.frame + 1) := by
    generalize (b.waiters.filter fun w => w.target ≤ b.frame + 1) = reached at hreached
    induction reached with
    | nil => cases hreached
    | cons w rest ih =>
      by_cases hw : t.id = w.id
      · simp [hw]
      · have hne : t ≠ w := fun he => hw (he ▸ rfl)
        rw [List.map_cons, List.lookup_cons, beq_false_of_ne hw]
        exact ih ((List.mem_cons.mp hreached).resolve_left hne)
  unfold Released Barrier.advance
  rw [List.lookup_append, lookup_eq_none_of_forall h.unreleased, hnew, ht]
  rfl

theorem Released.advance (h : b.Released t frame) : b.advance.Released t frame := by
  unfold Released Barrier.advance
  rw [List.lookup_append, show b.releases.lookup t.id = some frame from h]
  rfl

theorem TurnedAway.advance (h : b.TurnedAway t) : b.advance.TurnedAway t where
  closed := h.closed
  waiters := by simp [Barrier.advance, h.waiters]
  unreleased := by simpa [Barrier.advance, h.waiters] using h.unreleased

theorem Waits.close (h : b.Waits t) : b.close.TurnedAway t := ⟨rfl, rfl, h.unreleased⟩

/-! ## Collecting by others -/

theorem Waits.collect (h : b.Waits t) (u : Ticket) : (b.collect u).2.Waits t := by
  rw [collect_snd]
  exact ⟨h.mem, h.unique, fun r hr => h.unreleased r (List.mem_filter.mp hr).1, h.issued, h.ahead⟩

theorem Released.collect (h : b.Released t frame) (hne : u.id ≠ t.id) :
    (b.collect u).2.Released t frame := by
  rw [collect_snd]
  exact (lookup_filter_ne b.releases hne.symm).trans h

theorem TurnedAway.collect (h : b.TurnedAway t) (u : Ticket) : (b.collect u).2.TurnedAway t := by
  rw [collect_snd]
  exact ⟨h.closed, h.waiters, fun r hr => h.unreleased r (List.mem_filter.mp hr).1⟩

/-! ## Fresh numbers -/

theorem fresh_empty : Fresh {} := ⟨by simp, by simp⟩

theorem Fresh.withWaiter (h : b.Fresh) (hid : t.id = b.issued) : (b.withWaiter t).Fresh where
  waiters w hw := by
    rcases List.mem_append.mp hw with hw | hw
    · exact Nat.lt_succ_of_lt (h.waiters w hw)
    · rw [List.mem_singleton.mp hw, hid]
      exact Nat.lt_succ_self _
  releases r hr := Nat.lt_succ_of_lt (h.releases r hr)

theorem Fresh.advance (h : b.Fresh) : b.advance.Fresh where
  waiters w hw := h.waiters w (List.mem_filter.mp hw).1
  releases r hr := by
    rcases List.mem_append.mp hr with hr | hr
    · exact h.releases r hr
    · obtain ⟨w, hw, rfl⟩ := List.mem_map.mp hr
      exact h.waiters w (List.mem_filter.mp hw).1

theorem Fresh.close (h : b.Fresh) : b.close.Fresh := ⟨by simp [Barrier.close], h.releases⟩

theorem Fresh.collect (h : b.Fresh) (t : Ticket) : (b.collect t).2.Fresh := by
  rw [collect_snd]
  exact ⟨h.waiters, fun r hr => h.releases r (List.mem_filter.mp hr).1⟩

end ConsoleLink.Barrier
