import ConsoleLink.Proofs.Barrier.Tickets

/-! # A barrier and those who wait at it

A barrier is used by whoever holds its tickets: a ticket is polled any number of times, and a wait
or a drop uses it up. `Effect` lists what an operation can change, and from it follows how a ticket
stands after any number of them.
-/

namespace ConsoleLink

/-- An operation on a barrier and its tickets, which are numbered from zero. -/
inductive BarrierOp where
  | register (frames : Nat)
  | advance
  | close
  /-- Ask for the release without waiting. -/
  | poll (ticket : Nat)
  /-- Wait, for a limited time or for as long as it takes. -/
  | wait (ticket : Nat) (limited : Bool)
  | drop (ticket : Nat)
  deriving DecidableEq

/-- What an operation answers. -/
inductive BarrierAnswer where
  | registered (result : Except WaitError Ticket)
  | counted (frame : Nat)
  | done
  | polled (result : Except WaitError (Option Nat))
  | waited (result : Except WaitError Nat)
  /-- The wait goes on. -/
  | blocked
  | noTicket

/-- A barrier with the tickets that are held; a ticket that is used up leaves its place empty. -/
structure WaitingRoom where
  barrier : Barrier := {}
  held : List (Option Ticket) := []

namespace WaitingRoom

/-- The ticket of a number, if it is held. -/
def ticket? (s : WaitingRoom) (n : Nat) : Option Ticket := s.held[n]?.join

/-- Carries out an operation. -/
def step (s : WaitingRoom) : BarrierOp → BarrierAnswer × WaitingRoom
  | .register frames =>
    match s.barrier.register frames with
    | .ok (t, b) => (.registered (.ok t), ⟨b, s.held ++ [some t]⟩)
    | .error e => (.registered (.error e), s)
  | .advance => (.counted s.barrier.advance.frame, { s with barrier := s.barrier.advance })
  | .close => (.done, { s with barrier := s.barrier.close })
  | .poll n =>
    match s.ticket? n with
    | some t => (.polled (s.barrier.collect t).1, { s with barrier := (s.barrier.collect t).2 })
    | none => (.noTicket, s)
  | .wait n limited =>
    match s.ticket? n with
    | some t =>
      match (s.barrier.collect t).1, limited with
      | .ok none, false => (.blocked, s)
      | _, _ => (.waited (s.barrier.collectOrTimeout t).1,
          ⟨(s.barrier.collectOrTimeout t).2, s.held.set n none⟩)
    | none => (.noTicket, s)
  | .drop n => (.done, { s with held := s.held.set n none })

/-- Carries out some operations in turn. -/
def run (s : WaitingRoom) (ops : List BarrierOp) : WaitingRoom :=
  ops.foldl (fun s op => (s.step op).2) s

/-- What an operation would be answered now. -/
def answer (s : WaitingRoom) (op : BarrierOp) : BarrierAnswer := (s.step op).1

end WaitingRoom

namespace BarrierHistory

/-- How many frames some operations count. -/
def frames (ops : List BarrierOp) : Nat := ops.count .advance

end BarrierHistory

namespace WaitingRoom

/-! ## What a step can do -/

/-- The changes that an operation can make to the barrier and the tickets held. -/
inductive Effect (s : WaitingRoom) : BarrierOp → WaitingRoom → Prop
  | refused {n} : n = 0 ∨ s.barrier.closed = true → Effect s (.register n) s
  | registered {n t} : 0 < n → s.barrier.closed = false → t.id = s.barrier.issued →
      t.target = min (s.barrier.frame + n) Barrier.lastFrame →
      Effect s (.register n) ⟨s.barrier.withWaiter t, s.held ++ [some t]⟩
  | advanced : Effect s .advance { s with barrier := s.barrier.advance }
  | closed : Effect s .close { s with barrier := s.barrier.close }
  | unpolled {n} : Effect s (.poll n) s
  | polled {n t} : s.ticket? n = some t →
      Effect s (.poll n) { s with barrier := (s.barrier.collect t).2 }
  | unwaited {n limited} : Effect s (.wait n limited) s
  | waited {n limited t} : s.ticket? n = some t →
      Effect s (.wait n limited) ⟨(s.barrier.collect t).2, s.held.set n none⟩
  | dropped {n} : Effect s (.drop n) { s with held := s.held.set n none }

variable {s s' : WaitingRoom} {op : BarrierOp} {t : Ticket}

theorem step_effect (s : WaitingRoom) (op : BarrierOp) : Effect s op (s.step op).2 := by
  cases op with
  | register n =>
    rcases Nat.eq_zero_or_pos n with rfl | hn
    · exact .refused (.inl rfl)
    · cases hc : s.barrier.closed with
      | true =>
        simp only [step, Barrier.register_of_closed hn hc]
        exact .refused (.inr hc)
      | false =>
        simp only [step, Barrier.register_of_open hn hc]
        exact .registered hn hc rfl rfl
  | advance => exact .advanced
  | close => exact .closed
  | poll n =>
    cases h : s.ticket? n with
    | none =>
      simp only [step, h]
      exact .unpolled
    | some t =>
      simp only [step, h]
      exact .polled h
  | wait n limited =>
    cases h : s.ticket? n with
    | none =>
      simp only [step, h]
      exact .unwaited
    | some t =>
      simp only [step, h]
      split
      · exact .unwaited
      · rw [Barrier.collectOrTimeout_snd]
        exact .waited h
  | drop n => exact .dropped

theorem Effect.frame (h : Effect s op s') :
    s'.barrier.frame = s.barrier.frame + if op = .advance then 1 else 0 := by
  cases h <;> simp [Barrier.withWaiter, Barrier.advance, Barrier.close, Barrier.collect_snd]

theorem Effect.barrier_closed (h : Effect s op s') :
    s'.barrier.closed = (s.barrier.closed || decide (op = .close)) := by
  cases h <;> simp [Barrier.withWaiter, Barrier.advance, Barrier.close, Barrier.collect_snd]

/-! ## Tickets that are held -/

theorem ticket?_set (s : WaitingRoom) (b : Barrier) (n m : Nat) :
    (WaitingRoom.mk b (s.held.set n none)).ticket? m = if n = m then none else s.ticket? m := by
  unfold ticket?
  rw [List.getElem?_set]
  split_ifs <;> simp

theorem ticket?_append (s : WaitingRoom) (b : Barrier) (t : Ticket) (m : Nat) :
    (WaitingRoom.mk b (s.held ++ [some t])).ticket? m =
      if m = s.held.length then some t else s.ticket? m := by
  unfold ticket?
  rw [List.getElem?_append]
  rcases Nat.lt_trichotomy m s.held.length with h | h | h
  · simp [h, h.ne]
  · simp [h]
  · have hout : [some t][m - s.held.length]? = none := List.getElem?_eq_none (by simp; omega)
    simp [h.ne', Nat.not_lt.mpr h.le, hout]

/-- Tickets are numbered in the order in which they are given out, and a closed barrier has no
waiters. -/
structure WellFormed (s : WaitingRoom) : Prop where
  fresh : s.barrier.Fresh
  closed : s.barrier.closed = true → s.barrier.waiters = []
  length : s.held.length = s.barrier.issued
  numbered : ∀ n t, s.ticket? n = some t → t.id = n

theorem wellFormed_empty : WellFormed {} :=
  ⟨Barrier.fresh_empty, fun _ => rfl, rfl, by simp [ticket?]⟩

/-- Using up a ticket leaves the others numbered as they are. -/
theorem WellFormed.numbered_set (hs : s.WellFormed) (b : Barrier) (n : Nat) :
    ∀ m u, (WaitingRoom.mk b (s.held.set n none)).ticket? m = some u → u.id = m := by
  intro m u hu
  rw [ticket?_set] at hu
  split_ifs at hu
  exact hs.numbered m u hu

theorem Effect.wellFormed (h : Effect s op s') (hs : s.WellFormed) : s'.WellFormed := by
  cases h with
  | refused | unpolled | unwaited => exact hs
  | registered _ hopen hid _ =>
    refine ⟨hs.fresh.withWaiter hid, fun hc => ?_, ?_, ?_⟩
    · have hc : s.barrier.closed = true := hc
      rw [hopen] at hc
      cases hc
    · simp [Barrier.withWaiter, hs.length]
    · intro n u hu
      rw [ticket?_append] at hu
      split_ifs at hu with hn
      · cases hu
        rw [hid, hn, hs.length]
      · exact hs.numbered n u hu
  | advanced =>
    refine ⟨hs.fresh.advance, fun hc => ?_, hs.length, hs.numbered⟩
    simp [Barrier.advance, hs.closed hc]
  | closed => exact ⟨hs.fresh.close, fun _ => rfl, hs.length, hs.numbered⟩
  | polled =>
    rw [Barrier.collect_snd]
    exact ⟨Barrier.collect_snd _ _ ▸ hs.fresh.collect _, hs.closed, hs.length, hs.numbered⟩
  | waited =>
    rw [Barrier.collect_snd]
    exact ⟨Barrier.collect_snd _ _ ▸ hs.fresh.collect _, hs.closed,
      by rw [List.length_set]; exact hs.length, hs.numbered_set _ _⟩
  | dropped =>
    exact ⟨hs.fresh, hs.closed, by rw [List.length_set]; exact hs.length, hs.numbered_set _ _⟩

/-- Nobody holds another ticket under the number of this one. -/
structure Reserves (s : WaitingRoom) (t : Ticket) : Prop where
  lt : t.id < s.held.length
  only : ∀ u, s.ticket? t.id = some u → u = t

theorem Reserves.held (ht : s.Reserves t) (hheld : s.ticket? t.id ≠ none) :
    s.ticket? t.id = some t := by
  obtain ⟨u, hu⟩ := Option.ne_none_iff_exists'.mp hheld
  rw [hu, ht.only u hu]

theorem Effect.reserves (h : Effect s op s') (ht : s.Reserves t) : s'.Reserves t := by
  cases h with
  | refused | unpolled | unwaited | advanced | closed | polled => exact ⟨ht.lt, ht.only⟩
  | registered =>
    refine ⟨by simpa using Nat.lt_succ_of_lt ht.lt, ?_⟩
    intro u hu
    rw [ticket?_append, if_neg ht.lt.ne] at hu
    exact ht.only u hu
  | waited | dropped =>
    refine ⟨by simpa using ht.lt, ?_⟩
    intro u hu
    rw [ticket?_set] at hu
    split_ifs at hu
    exact ht.only u hu

/-- A ticket that is used up does not come back. -/
theorem Effect.ticket?_eq_none (h : Effect s op s') (hlt : t.id < s.held.length)
    (ht : s.ticket? t.id = none) : s'.ticket? t.id = none := by
  cases h with
  | refused | unpolled | unwaited | advanced | closed | polled => exact ht
  | registered => rw [ticket?_append, if_neg hlt.ne, ht]
  | waited | dropped => rw [ticket?_set, ht, ite_self]

/-! ## How a ticket stands after a step -/

theorem Effect.waits (h : Effect s op s') (ht : s.barrier.Waits t) (hop : op ≠ .close)
    (hahead : s'.barrier.frame < t.target) : s'.barrier.Waits t := by
  cases h with
  | refused | unpolled | unwaited | dropped => exact ht
  | registered _ _ hid _ => exact ht.withWaiter hid
  | advanced => exact ht.advance hahead
  | closed => exact absurd rfl hop
  | polled | waited => exact ht.collect _

/-- A release stays until it is polled or the ticket is used up. -/
theorem Effect.released (h : Effect s op s') (hs : s.WellFormed)
    (ht : s.barrier.Released t t.target) (hop : op ≠ .poll t.id) :
    s'.barrier.Released t t.target ∨ s'.ticket? t.id = none := by
  cases h with
  | refused | unpolled | unwaited | registered | closed | dropped => exact .inl ht
  | advanced => exact .inl ht.advance
  | @polled n u hu =>
    refine .inl (ht.collect ?_)
    rw [hs.numbered n u hu]
    exact fun he => hop (he ▸ rfl)
  | @waited n _ u hu =>
    by_cases hn : n = t.id
    · exact .inr (by rw [ticket?_set, if_pos hn])
    · refine .inl (ht.collect ?_)
      rwa [hs.numbered n u hu]

theorem Effect.turnedAway (h : Effect s op s') (ht : s.barrier.TurnedAway t) :
    s'.barrier.TurnedAway t := by
  cases h with
  | refused | unpolled | unwaited | dropped => exact ht
  | registered _ hopen => rw [ht.closed] at hopen; cases hopen
  | advanced => exact ht.advance
  | closed => exact ⟨rfl, rfl, ht.unreleased⟩
  | polled | waited => exact ht.collect _

/-! ## Runs -/

theorem run_cons (s : WaitingRoom) (op : BarrierOp) (ops : List BarrierOp) :
    s.run (op :: ops) = (s.step op).2.run ops := rfl

theorem run_append (s : WaitingRoom) (ops later : List BarrierOp) :
    s.run (ops ++ later) = (s.run ops).run later := List.foldl_append

theorem run_frame (s : WaitingRoom) (ops : List BarrierOp) :
    (s.run ops).barrier.frame = s.barrier.frame + BarrierHistory.frames ops := by
  induction ops generalizing s with
  | nil => rfl
  | cons op ops ih =>
    rw [run_cons, ih, (step_effect s op).frame, BarrierHistory.frames, BarrierHistory.frames,
      List.count_cons]
    by_cases h : op = .advance <;> simp [h]; omega

theorem run_closed (s : WaitingRoom) (ops : List BarrierOp) :
    (s.run ops).barrier.closed = (s.barrier.closed || decide (.close ∈ ops)) := by
  induction ops generalizing s with
  | nil => simp [run]
  | cons op ops ih =>
    rw [run_cons, ih, (step_effect s op).barrier_closed]
    simp [Bool.or_assoc, Bool.decide_or, eq_comm]

/-- What every operation keeps is kept by all of them together. -/
theorem run_keeps (I : WaitingRoom → Prop)
    (hstep : ∀ {s s' : WaitingRoom} {op : BarrierOp}, I s → Effect s op s' → I s')
    (ops : List BarrierOp) (hs : I s) : I (s.run ops) := by
  induction ops generalizing s with
  | nil => exact hs
  | cons op ops ih => exact ih (hstep hs (step_effect s op))

theorem run_wellFormed (ops : List BarrierOp) (hs : s.WellFormed) : (s.run ops).WellFormed :=
  run_keeps WellFormed (fun hs heffect => heffect.wellFormed hs) ops hs

theorem run_reserves (ops : List BarrierOp) (ht : s.Reserves t) : (s.run ops).Reserves t :=
  run_keeps (·.Reserves t) (fun ht heffect => heffect.reserves ht) ops ht

theorem run_ticket?_eq_none (ops : List BarrierOp) (hlt : s.Reserves t)
    (ht : s.ticket? t.id = none) : (s.run ops).ticket? t.id = none := by
  refine (run_keeps (fun s => s.Reserves t ∧ s.ticket? t.id = none) ?_ ops ⟨hlt, ht⟩).2
  rintro s s' op ⟨hlt, ht⟩ heffect
  exact ⟨heffect.reserves hlt, heffect.ticket?_eq_none hlt.lt ht⟩

theorem run_waits (ops : List BarrierOp) (ht : s.barrier.Waits t) (hopen : .close ∉ ops)
    (hahead : s.barrier.frame + BarrierHistory.frames ops < t.target) :
    (s.run ops).barrier.Waits t := by
  induction ops generalizing s with
  | nil => exact ht
  | cons op ops ih =>
    rw [List.mem_cons, not_or] at hopen
    have hframe : (s.step op).2.barrier.frame + BarrierHistory.frames ops < t.target := by
      rw [← run_frame, ← run_cons, run_frame]
      exact hahead
    refine ih ((step_effect s op).waits ht (Ne.symm hopen.1) ?_) hopen.2 hframe
    omega

theorem run_released (ops : List BarrierOp) (hs : s.WellFormed) (hlt : s.Reserves t)
    (ht : s.barrier.Released t t.target) (hunpolled : .poll t.id ∉ ops) :
    (s.run ops).barrier.Released t t.target ∨ (s.run ops).ticket? t.id = none := by
  induction ops generalizing s with
  | nil => exact .inl ht
  | cons op ops ih =>
    rw [List.mem_cons, not_or] at hunpolled
    have heffect := step_effect s op
    rcases heffect.released hs ht (Ne.symm hunpolled.1) with h | h
    · exact ih (heffect.wellFormed hs) (heffect.reserves hlt) h hunpolled.2
    · exact .inr (run_ticket?_eq_none ops (heffect.reserves hlt) h)

theorem run_turnedAway (ops : List BarrierOp) (ht : s.barrier.TurnedAway t) :
    (s.run ops).barrier.TurnedAway t :=
  run_keeps (·.barrier.TurnedAway t) (fun ht heffect => heffect.turnedAway ht) ops ht

end WaitingRoom

end ConsoleLink
