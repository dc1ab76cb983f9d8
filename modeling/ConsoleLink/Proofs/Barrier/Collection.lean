import ConsoleLink.Proofs.Barrier.Lifetime

/-! # Why a ticket is refused

A ticket is refused where the barrier was closed before the count reached its target. It is refused
in the same words once a poll has collected its release, be the barrier open or closed. There is no
other reason, so a refusal says that the barrier was closed early only as long as nobody polls a
ticket that has already been collected.
-/

namespace ConsoleLink

namespace Barrier

variable {b : Barrier} {t u : Ticket}

/-- A ticket has been given out and waits no longer. -/
structure Departed (b : Barrier) (t : Ticket) : Prop where
  waiters : ∀ w ∈ b.waiters, w.id ≠ t.id
  issued : t.id < b.issued

/-- A ticket waits no longer and has no release: none came, or it has been collected. -/
structure Spent (b : Barrier) (t : Ticket) : Prop extends Departed b t where
  unreleased : ∀ r ∈ b.releases, r.1 ≠ t.id

theorem Waits.departed_advance (h : b.Waits t) (ht : b.frame + 1 = t.target) :
    b.advance.Departed t where
  waiters w hw hwt := by
    obtain ⟨hmem, hahead⟩ := List.mem_filter.mp hw
    rw [h.unique w hmem hwt, ← ht] at hahead
    simp at hahead
  issued := h.issued

theorem Departed.withWaiter (h : b.Departed t) (hid : u.id = b.issued) :
    (b.withWaiter u).Departed t where
  waiters w hw := by
    rcases List.mem_append.mp hw with hw | hw
    · exact h.waiters w hw
    · rw [List.mem_singleton.mp hw, hid]
      exact h.issued.ne'
  issued := Nat.lt_succ_of_lt h.issued

theorem Departed.advance (h : b.Departed t) : b.advance.Departed t :=
  ⟨fun w hw => h.waiters w (List.mem_filter.mp hw).1, h.issued⟩

theorem Departed.close (h : b.Departed t) : b.close.Departed t :=
  ⟨List.forall_mem_nil _, h.issued⟩

theorem Departed.collect (h : b.Departed t) (u : Ticket) : (b.collect u).2.Departed t := by
  rw [collect_snd]
  exact ⟨h.waiters, h.issued⟩

/-- Collecting takes away the release. -/
theorem Departed.spent_collect (h : b.Departed t) : (b.collect t).2.Spent t := by
  refine ⟨h.collect t, ?_⟩
  rw [collect_snd]
  exact fun r hr => of_decide_eq_true (List.mem_filter.mp hr).2

theorem collect_of_spent (h : b.Spent t) : (b.collect t).1 = .error (.closed t.target) := by
  have hwaiting : b.isWaiting t = false := by
    simpa [isWaiting] using h.waiters
  unfold Barrier.collect
  rw [lookup_eq_none_of_forall h.unreleased]
  simp [hwaiting]

end Barrier

namespace BarrierHistory

variable {ops : List BarrierOp} {k : Nat}

/-- One of the frames that some operations count is the one that makes them so many. -/
theorem exists_reaching (hpos : 0 < k) (hk : k ≤ frames ops) :
    ∃ reaching later, ops = reaching ++ .advance :: later ∧ frames reaching + 1 = k := by
  induction ops generalizing k with
  | nil => exact absurd (hpos.trans_le hk) (lt_irrefl 0)
  | cons op ops ih =>
    by_cases hop : op = .advance
    · subst hop
      rw [frames, List.count_cons_self] at hk
      by_cases hone : k = 1
      · exact ⟨[], ops, rfl, hone.symm⟩
      · obtain ⟨reaching, later, hops, hcount⟩ :=
          ih (k := k - 1) (by omega) (Nat.sub_le_of_le_add hk)
        refine ⟨.advance :: reaching, later, congrArg _ hops, ?_⟩
        rw [frames, List.count_cons_self]
        exact (congrArg (· + 1) hcount).trans (Nat.sub_add_cancel hpos)
    · rw [frames, List.count_cons_of_ne hop] at hk
      obtain ⟨reaching, later, hops, hcount⟩ := ih hpos hk
      refine ⟨op :: reaching, later, congrArg _ hops, ?_⟩
      rw [frames, List.count_cons_of_ne hop]
      exact hcount

/-- Some operations count fewer than so many frames and do not close the barrier, or they close it
before they have counted these, or they count them first. -/
theorem course_cases (ops : List BarrierOp) (hpos : 0 < k) :
    (.close ∉ ops ∧ frames ops < k) ∨
    (∃ ahead later, ops = ahead ++ .close :: later ∧ .close ∉ ahead ∧ frames ahead < k) ∨
    ∃ reaching later, ops = reaching ++ .advance :: later ∧ .close ∉ reaching ∧
      frames reaching + 1 = k := by
  by_cases hclose : .close ∈ ops
  · obtain ⟨ahead, later, rfl, hopen⟩ := List.eq_append_cons_of_mem hclose
    by_cases hk : frames ahead < k
    · exact .inr (.inl ⟨ahead, later, rfl, hopen, hk⟩)
    · obtain ⟨reaching, rest, rfl, hcount⟩ := exists_reaching hpos (not_lt.mp hk)
      refine .inr (.inr ⟨reaching, rest ++ .close :: later, by simp, ?_, hcount⟩)
      exact fun h => hopen (List.mem_append_left _ h)
  · by_cases hk : frames ops < k
    · exact .inl ⟨hclose, hk⟩
    · obtain ⟨reaching, later, rfl, hcount⟩ := exists_reaching hpos (not_lt.mp hk)
      exact .inr (.inr ⟨reaching, later, rfl, fun h => hclose (List.mem_append_left _ h), hcount⟩)

end BarrierHistory

namespace WaitingRoom

open BarrierHistory

variable {s s' : WaitingRoom} {op : BarrierOp} {t : Ticket}

theorem Effect.departed (h : Effect s op s') (ht : s.barrier.Departed t) :
    s'.barrier.Departed t := by
  cases h with
  | refused | unpolled | unwaited | dropped => exact ht
  | registered _ _ hid _ => exact ht.withWaiter hid
  | advanced => exact ht.advance
  | closed => exact ht.close
  | polled | waited => exact ht.collect _

theorem Effect.spent (h : Effect s op s') (ht : s.barrier.Spent t) : s'.barrier.Spent t := by
  refine ⟨h.departed ht.toDeparted, ?_⟩
  cases h with
  | refused | registered | closed | unpolled | unwaited | dropped => exact ht.unreleased
  | advanced =>
    -- A frame releases waiters only.
    intro r hr
    rcases List.mem_append.mp hr with hr | hr
    · exact ht.unreleased r hr
    · obtain ⟨w, hw, rfl⟩ := List.mem_map.mp hr
      exact ht.waiters w (List.mem_filter.mp hw).1
  | polled | waited =>
    rw [Barrier.collect_snd]
    exact fun r hr => ht.unreleased r (List.mem_filter.mp hr).1

theorem run_departed (ops : List BarrierOp) (ht : s.barrier.Departed t) :
    (s.run ops).barrier.Departed t :=
  run_keeps (·.barrier.Departed t) (fun ht heffect => heffect.departed ht) ops ht

theorem run_spent (ops : List BarrierOp) (ht : s.barrier.Spent t) :
    (s.run ops).barrier.Spent t :=
  run_keeps (·.barrier.Spent t) (fun ht heffect => heffect.spent ht) ops ht

/-- What is held at the end was held on the way. -/
theorem held_of_run (hreserves : s.Reserves t) (ops : List BarrierOp)
    (hheld : (s.run ops).ticket? t.id ≠ none) : s.ticket? t.id = some t := by
  refine hreserves.held fun hnone => hheld ?_
  exact run_ticket?_eq_none ops hreserves hnone

/-- A ticket that waits no longer is spent once it has been polled. -/
theorem spent_run_of_poll (hreserves : s.Reserves t) (ht : s.barrier.Departed t)
    (ops : List BarrierOp) (hpoll : .poll t.id ∈ ops) (hheld : (s.run ops).ticket? t.id ≠ none) :
    (s.run ops).barrier.Spent t := by
  obtain ⟨before, after, rfl⟩ := List.append_of_mem hpoll
  rw [run_append] at hheld ⊢
  have hthere := held_of_run (run_reserves before hreserves) _ hheld
  rw [run_cons]
  apply run_spent
  simp only [step, hthere]
  exact (run_departed before ht).spent_collect

/-- A waiting ticket that is polled after the frame that reaches its target is refused from then
on. -/
theorem refused_run_of_poll (hwaits : s.barrier.Waits t) (hreserves : s.Reserves t)
    (reaching later : List BarrierOp) (hopen : .close ∉ reaching)
    (hreached : s.barrier.frame + frames reaching + 1 = t.target) (hpoll : .poll t.id ∈ later)
    (hheld : (s.run (reaching ++ .advance :: later)).ticket? t.id ≠ none) :
    (s.run (reaching ++ .advance :: later)).Refused t := by
  have hthere := (run_reserves (reaching ++ .advance :: later) hreserves).held hheld
  rw [run_append, run_cons] at hheld hthere ⊢
  have hstill : (s.run reaching).barrier.Waits t := run_waits reaching hwaits hopen (by omega)
  have hreaches := (congrArg (· + 1) (run_frame s reaching)).trans hreached
  have hreserves := (step_effect (s.run reaching) .advance).reserves
    (run_reserves reaching hreserves)
  have hspent := spent_run_of_poll hreserves (hstill.departed_advance hreaches) later hpoll hheld
  exact refused_of_collect (Barrier.collect_of_spent hspent) hthere

/-- A waiting ticket is refused, after whatever operations, for one of two reasons: the barrier was
closed while the target was ahead, or the ticket was polled after the frame that reached it. -/
theorem closed_run_iff (hs : s.WellFormed) (hwaits : s.barrier.Waits t) (hreserves : s.Reserves t)
    (ops : List BarrierOp) (hheld : (s.run ops).ticket? t.id ≠ none) :
    (s.run ops).answer (.poll t.id) = .polled (.error (.closed t.target)) ↔
      (∃ ahead later, ops = ahead ++ .close :: later ∧ .close ∉ ahead ∧
        s.barrier.frame + frames ahead < t.target) ∨
      ∃ reaching later, ops = reaching ++ .advance :: later ∧ .close ∉ reaching ∧
        s.barrier.frame + frames reaching + 1 = t.target ∧ .poll t.id ∈ later := by
  constructor
  · intro hclosed
    have hahead := hwaits.ahead
    obtain ⟨hopen, hcount⟩ | ⟨ahead, later, rfl, hopen, hcount⟩ |
      ⟨reaching, later, rfl, hopen, hcount⟩ :=
      course_cases ops (k := t.target - s.barrier.frame) (by omega)
    · have hwaiting := (unreleased_run hwaits hreserves ops hopen (by omega) hheld).1
      rw [hclosed] at hwaiting
      cases hwaiting
    · exact .inl ⟨ahead, later, rfl, hopen, by omega⟩
    · refine .inr ⟨reaching, later, rfl, hopen, by omega, ?_⟩
      by_contra hunpolled
      have hcollectable := (collectable_run hwaits hreserves hs reaching later hopen (by omega)
        hunpolled hheld).1
      rw [hclosed] at hcollectable
      cases hcollectable
  · rintro (⟨ahead, later, rfl, hopen, hcount⟩ | ⟨reaching, later, rfl, hopen, hcount, hpoll⟩)
    · exact (refused_run hwaits hreserves ahead later hopen hcount hheld).1
    · exact (refused_run_of_poll hwaits hreserves reaching later hopen hcount hpoll hheld).1

/-- A ticket that is issued on the way has the target of its frames. As long as its holder keeps it,
a poll is told that the barrier was closed before the target if and only if that is so, or the
ticket has already been polled since the frame that reached the target. -/
theorem closed_iff_early_or_collected (before after : List BarrierOp) (n : Nat) (t : Ticket)
    (hissued : (run {} before).answer (.register n) = .registered (.ok t))
    (hroom : frames before < Barrier.lastFrame)
    (hheld : (run {} (before ++ .register n :: after)).ticket? t.id ≠ none) :
    t.target = min (frames before + n) Barrier.lastFrame ∧
    ((run {} (before ++ .register n :: after)).answer (.poll t.id) =
        .polled (.error (.closed t.target)) ↔
      (∃ ahead later, after = ahead ++ .close :: later ∧ .close ∉ ahead ∧
        frames before + frames ahead < t.target) ∨
      ∃ reaching later, after = reaching ++ .advance :: later ∧ .close ∉ reaching ∧
        frames before + frames reaching + 1 = t.target ∧ .poll t.id ∈ later) := by
  have hs := run_wellFormed before wellFormed_empty
  have hframe : (run {} before).barrier.frame = frames before := by simp [run_frame]
  obtain ⟨htarget, hwaits, hreserves⟩ := registered_waits hs hissued (hframe ▸ hroom)
  have hwellFormed := (step_effect (run {} before) (.register n)).wellFormed hs
  rw [run_append, run_cons] at hheld ⊢
  have hclosed := closed_run_iff hwellFormed hwaits hreserves after hheld
  rw [frame_register, hframe] at hclosed
  exact ⟨hframe ▸ htarget, hclosed⟩

/-- On a barrier that nobody closes, the second of two polls after the frame that was waited for is
told that the barrier was closed. -/
theorem closed_iff_early_or_collected_polledTwice :
    let before : List BarrierOp := [.advance]
    let reaching : List BarrierOp := [.register 5, .advance]
    let after := reaching ++ .advance :: [.poll 0, .advance]
    (run {} before).answer (.register 2) = .registered (.ok ⟨0, 3⟩) ∧
      frames before < Barrier.lastFrame ∧
      (run {} (before ++ .register 2 :: after)).ticket? 0 ≠ none ∧
      (run {} (before ++ .register 2 :: after)).answer (.poll 0) = .polled (.error (.closed 3)) ∧
      .close ∉ before ++ .register 2 :: after := by
  intro before reaching after
  have hissued : (run {} before).answer (.register 2) = .registered (.ok ⟨0, 3⟩) := rfl
  have hroom : frames before < Barrier.lastFrame := by decide
  have hheld : (run {} (before ++ .register 2 :: after)).ticket? 0 ≠ none := by decide
  have hclosed := (closed_iff_early_or_collected before after 2 ⟨0, 3⟩ hissued hroom hheld).2
  refine ⟨hissued, hroom, hheld, hclosed.mpr (.inr ?_), by decide⟩
  exact ⟨reaching, [.poll 0, .advance], rfl, by decide, rfl, by decide⟩

/-- Not every ticket that a poll finds refused, among operations that use no ticket up, is one that
the barrier was closed on before the count reached its target. -/
theorem not_forall_closed_early :
    ¬∀ (before after : List BarrierOp) (n : Nat) (t : Ticket),
      (∀ op ∈ before ++ after, op = .advance ∨ op = .close ∨ ∃ k, op = .register k ∨ op = .poll k) →
      (run {} before).answer (.register n) = .registered (.ok t) →
      (run {} (before ++ .register n :: after)).answer (.poll t.id) =
        .polled (.error (.closed t.target)) →
      ∃ ahead later, after = ahead ++ .close :: later ∧
        frames before + frames ahead < t.target := by
  intro h
  have hops : ∀ op ∈ ([] : List BarrierOp) ++ [.advance, .poll 0],
      op = .advance ∨ op = .close ∨ ∃ k, op = .register k ∨ op = .poll k := by simp
  obtain ⟨ahead, later, hafter, -⟩ := h [] [.advance, .poll 0] 1 ⟨0, 1⟩ hops rfl rfl
  have hclose : BarrierOp.close ∈ [BarrierOp.advance, .poll 0] := by simp [hafter]
  exact absurd hclose (by decide)

end WaitingRoom

end ConsoleLink
