import ConsoleLink.Proofs.Barrier.WaitingRoom
import Mathlib.Data.List.Induction

/-! # The lifetime of a ticket

From the operations alone it is known how each ticket stands: it waits while the count is below its
target, the frame that reaches the target releases it, and a barrier closed before that turns it
away. The waiters of the barrier are at all times the tickets issued whose targets are ahead.
-/

namespace ConsoleLink

namespace BarrierHistory

/-- The target of the ticket that the operation at a place issues: so many frames after those
counted before it. No frames, and a barrier that is closed, issue none. -/
def target? (ops : List BarrierOp) (place : Nat) : Option Nat :=
  match ops[place]? with
  | some (.register n) =>
    if 0 < n ∧ .close ∉ ops.take place then some (frames (ops.take place) + n) else none
  | _ => none

/-- The targets of the tickets ever issued. -/
def targets (ops : List BarrierOp) : List Nat := (List.range ops.length).filterMap (target? ops)

variable (ops : List BarrierOp) (op : BarrierOp)

theorem frames_append (later : List BarrierOp) :
    frames (ops ++ later) = frames ops + frames later :=
  List.count_append

@[simp] theorem frames_concat :
    frames (ops ++ [op]) = frames ops + if op = .advance then 1 else 0 := by
  by_cases h : op = .advance <;> simp [frames, h]

theorem target?_append {place : Nat} (h : place < ops.length) :
    target? (ops ++ [op]) place = target? ops place := by
  simp [target?, List.getElem?_append_left h, List.take_append_of_le_length h.le]

theorem targets_append :
    targets (ops ++ [op]) = targets ops ++ (target? (ops ++ [op]) ops.length).toList := by
  have hbefore : (List.range ops.length).filterMap (target? (ops ++ [op])) = targets ops :=
    List.filterMap_congr fun place hplace => target?_append ops op (List.mem_range.mp hplace)
  unfold targets at hbefore ⊢
  rw [List.length_append, List.length_singleton, List.range_succ, List.filterMap_append, hbefore]
  cases h : target? (ops ++ [op]) ops.length <;> simp [h]

theorem target?_append_length :
    target? (ops ++ [op]) ops.length = match op with
      | .register n => if 0 < n ∧ .close ∉ ops then some (frames ops + n) else none
      | _ => none := by
  cases op <;> simp [target?]

/-- Each ticket takes an operation that counts no frame. -/
theorem frames_add_targets_le : frames ops + (targets ops).length ≤ ops.length := by
  induction ops using List.reverseRecOn with
  | nil => rfl
  | append_singleton ops op ih =>
    have hone : frames [op] + (target? (ops ++ [op]) ops.length).toList.length ≤ 1 := by
      rw [target?_append_length]
      cases op with
      | register n => dsimp only; split_ifs <;> simp [frames]
      | _ => simp [frames]
    rw [frames_append, targets_append, List.length_append, List.length_append,
      List.length_singleton]
    omega

end BarrierHistory

namespace WaitingRoom

open BarrierHistory

variable {s : WaitingRoom} {t : Ticket}

/-! ## What a ticket answers -/

/-- A poll of the ticket has to be repeated, a limited wait is over and another goes on. -/
def Unreleased (s : WaitingRoom) (t : Ticket) : Prop :=
  s.answer (.poll t.id) = .polled (.ok none) ∧
    s.answer (.wait t.id true) = .waited (.error (.timeout t.target)) ∧
    s.answer (.wait t.id false) = .blocked

/-- The ticket yields its target, polled or waited for. -/
def Collectable (s : WaitingRoom) (t : Ticket) : Prop :=
  s.answer (.poll t.id) = .polled (.ok (some t.target)) ∧
    ∀ limited, s.answer (.wait t.id limited) = .waited (.ok t.target)

/-- The ticket is refused, polled or waited for. -/
def Refused (s : WaitingRoom) (t : Ticket) : Prop :=
  s.answer (.poll t.id) = .polled (.error (.closed t.target)) ∧
    ∀ limited, s.answer (.wait t.id limited) = .waited (.error (.closed t.target))

theorem unreleased_of_waits (h : s.barrier.Waits t) (ht : s.ticket? t.id = some t) :
    s.Unreleased t := by
  have hcollect := Barrier.collect_of_waits h
  simp [Unreleased, answer, step, ht, hcollect, Barrier.collectOrTimeout_fst]

theorem collectable_of_released (h : s.barrier.Released t t.target)
    (ht : s.ticket? t.id = some t) : s.Collectable t := by
  have hcollect := Barrier.collect_of_released h
  simp [Collectable, answer, step, ht, hcollect, Barrier.collectOrTimeout_fst]

theorem refused_of_collect (h : (s.barrier.collect t).1 = .error (.closed t.target))
    (ht : s.ticket? t.id = some t) : s.Refused t := by
  simp [Refused, answer, step, ht, h, Barrier.collectOrTimeout_fst]

/-! ## How a waiting ticket answers after a run -/

section

variable (ht : s.barrier.Waits t) (hreserves : s.Reserves t)

include ht hreserves

theorem unreleased_run (ops : List BarrierOp) (hopen : .close ∉ ops)
    (hahead : s.barrier.frame + frames ops < t.target) (hheld : (s.run ops).ticket? t.id ≠ none) :
    (s.run ops).Unreleased t :=
  unreleased_of_waits (run_waits ops ht hopen hahead) ((run_reserves ops hreserves).held hheld)

omit hreserves in
/-- The frame that reaches the target finds the ticket waiting for exactly one more frame. -/
theorem released_run_advance (reaching : List BarrierOp) (hopen : .close ∉ reaching)
    (hreached : s.barrier.frame + frames reaching + 1 = t.target) :
    (s.run (reaching ++ [.advance])).barrier.Released t t.target := by
  have hstill : (s.run reaching).barrier.Waits t :=
    run_waits reaching ht hopen (by omega)
  rw [run_append]
  exact hstill.released_advance ((congrArg (· + 1) (run_frame s reaching)).trans hreached)

theorem collectable_run (hs : s.WellFormed) (reaching later : List BarrierOp)
    (hopen : .close ∉ reaching) (hreached : s.barrier.frame + frames reaching + 1 = t.target)
    (hunpolled : .poll t.id ∉ later)
    (hheld : (s.run (reaching ++ .advance :: later)).ticket? t.id ≠ none) :
    (s.run (reaching ++ .advance :: later)).Collectable t := by
  have hreleased := released_run_advance ht reaching hopen hreached
  rw [List.append_cons, run_append] at hheld ⊢
  have hreserves := run_reserves (reaching ++ [.advance]) hreserves
  have hwellFormed := run_wellFormed (reaching ++ [.advance]) hs
  apply collectable_of_released
  · exact (run_released later hwellFormed hreserves hreleased hunpolled).resolve_right hheld
  · exact (run_reserves later hreserves).held hheld

theorem refused_run (ahead later : List BarrierOp) (hopen : .close ∉ ahead)
    (hahead : s.barrier.frame + frames ahead < t.target)
    (hheld : (s.run (ahead ++ .close :: later)).ticket? t.id ≠ none) :
    (s.run (ahead ++ .close :: later)).Refused t := by
  have hstill := run_waits ahead ht hopen hahead
  have hreserved := (run_reserves (ahead ++ .close :: later) hreserves).held hheld
  rw [run_append] at hreserved ⊢
  exact refused_of_collect
    (Barrier.collect_of_turnedAway (run_turnedAway later hstill.close)) hreserved

end

/-! ## Tickets that are issued on the way -/

/-- A registration that is granted gives a waiting ticket, unless the count is at its end. -/
theorem registered_waits {n : Nat} (hs : s.WellFormed)
    (hanswer : s.answer (.register n) = .registered (.ok t))
    (hroom : s.barrier.frame < Barrier.lastFrame) :
    t.target = min (s.barrier.frame + n) Barrier.lastFrame ∧
      (s.step (.register n)).2.barrier.Waits t ∧ (s.step (.register n)).2.Reserves t := by
  rcases s.barrier.register_cases n with ⟨e, he⟩ | ⟨hok, hn, -⟩
  · simp [answer, step, he] at hanswer
  · simp only [answer, step, hok, BarrierAnswer.registered.injEq, Except.ok.injEq] at hanswer ⊢
    subst hanswer
    refine ⟨rfl, Barrier.waits_withWaiter hs.fresh rfl (lt_min (by omega) hroom), ?_, ?_⟩
    · simp [hs.length]
    · intro u hu
      rw [ticket?_append, if_pos hs.length.symm] at hu
      exact (Option.some.inj hu).symm

/-- A registration that is granted gives a waiting ticket with the target of its frames. -/
theorem registered_spec {n : Nat} (hs : s.WellFormed)
    (hanswer : s.answer (.register n) = .registered (.ok t))
    (hfits : s.barrier.frame + n < UInt64.size) :
    t.target = s.barrier.frame + n ∧ (s.step (.register n)).2.barrier.Waits t ∧
      (s.step (.register n)).2.Reserves t := by
  have hle : s.barrier.frame + n ≤ Barrier.lastFrame := Nat.le_sub_one_of_lt hfits
  have hn : n ≠ 0 := by
    rintro rfl
    cases hanswer
  obtain ⟨htarget, hwaits⟩ := registered_waits hs hanswer (by omega)
  exact ⟨htarget.trans (min_eq_left hle), hwaits⟩

/-- Registering counts no frame. -/
theorem frame_register (s : WaitingRoom) (n : Nat) :
    (s.step (.register n)).2.barrier.frame = s.barrier.frame :=
  (step_effect s (.register n)).frame

section

variable {n : Nat} (hs : s.WellFormed)
  (hanswer : s.answer (.register n) = .registered (.ok t))
  (hfits : s.barrier.frame + n < UInt64.size)

include hs hanswer hfits

theorem run_unreleased (after : List BarrierOp) (hopen : .close ∉ after)
    (hahead : s.barrier.frame + frames after < t.target)
    (hheld : (s.run (.register n :: after)).ticket? t.id ≠ none) :
    (s.run (.register n :: after)).Unreleased t := by
  obtain ⟨-, hwaits, hreserves⟩ := registered_spec hs hanswer hfits
  rw [← frame_register s n] at hahead
  exact unreleased_run hwaits hreserves after hopen hahead hheld

theorem run_collectable (reaching later : List BarrierOp) (hopen : .close ∉ reaching)
    (hreached : s.barrier.frame + frames reaching + 1 = t.target)
    (hunpolled : .poll t.id ∉ later)
    (hheld : (s.run (.register n :: (reaching ++ .advance :: later))).ticket? t.id ≠ none) :
    (s.run (.register n :: (reaching ++ .advance :: later))).Collectable t := by
  obtain ⟨-, hwaits, hreserves⟩ := registered_spec hs hanswer hfits
  have hwellFormed := (step_effect s (.register n)).wellFormed hs
  rw [← frame_register s n] at hreached
  exact collectable_run hwaits hreserves hwellFormed reaching later hopen hreached hunpolled hheld

theorem run_refused (ahead later : List BarrierOp)
    (hahead : s.barrier.frame + frames ahead < t.target) (hopen : .close ∉ ahead)
    (hheld : (s.run (.register n :: (ahead ++ .close :: later))).ticket? t.id ≠ none) :
    (s.run (.register n :: (ahead ++ .close :: later))).Refused t := by
  obtain ⟨-, hwaits, hreserves⟩ := registered_spec hs hanswer hfits
  rw [← frame_register s n] at hahead
  exact refused_run hwaits hreserves ahead later hopen hahead hheld

end

/-! ## Waiters -/

theorem run_concat (s : WaitingRoom) (ops : List BarrierOp) (op : BarrierOp) :
    s.run (ops ++ [op]) = ((s.run ops).step op).2 := run_append s ops [op]

/-- As long as the barrier is open, its waiters have the targets issued that are still ahead. -/
theorem waiters_run_of_open (ops : List BarrierOp) (hlength : ops.length < UInt64.size)
    (hmem : .close ∉ ops) :
    (run {} ops).barrier.waiters.map Ticket.target =
      ((targets ops).map (min · Barrier.lastFrame)).filter (frames ops < ·) := by
  induction ops using List.reverseRecOn with
  | nil => rfl
  | append_singleton ops op ih =>
    rw [List.length_append, List.length_singleton] at hlength
    rw [List.mem_append, not_or, List.mem_singleton] at hmem
    have ih := ih (Nat.lt_of_succ_lt hlength) hmem.1
    have hframe : (run {} ops).barrier.frame = frames ops := by simp [run_frame]
    have hclosed : (run {} ops).barrier.closed = false := by simp [run_closed, hmem.1]
    have hle := frames_add_targets_le ops
    have hlast : frames ops < Barrier.lastFrame := by
      unfold Barrier.lastFrame
      omega
    have heffect := step_effect (run {} ops) op
    rw [run_concat, targets_append, target?_append_length, frames_concat]
    generalize (((run {} ops).step op).2) = after at heffect ⊢
    cases heffect with
    | @refused n hrefused =>
      have hn : n = 0 := by simpa [hclosed] using hrefused
      simpa [hn] using ih
    | registered hn _ _ htarget =>
      simp only [Barrier.withWaiter, List.map_append, ih]
      simp [hmem.1, hn, htarget, hframe, hlast]
    | advanced =>
      have hlater : ((run {} ops).barrier.advance.waiters.map Ticket.target) =
          ((run {} ops).barrier.waiters.map Ticket.target).filter (frames ops + 1 < ·) := by
        simp only [Barrier.advance, hframe, List.filter_map]
        rfl
      rw [hlater, ih, List.filter_filter]
      simp only [Option.toList_none, List.append_nil, if_true]
      apply List.filter_congr
      intro target _
      simpa using fun h : frames ops + 1 < target => Nat.lt_of_succ_lt h
    | closed => exact absurd rfl hmem.2
    | unpolled | unwaited | dropped => simpa using ih
    | polled | waited => simpa [Barrier.collect_snd] using ih

theorem pending_run (ops : List BarrierOp) (hlength : ops.length < UInt64.size) :
    (run {} ops).barrier.pending =
      if .close ∈ ops then 0 else (targets ops).countP (frames ops < ·) := by
  unfold Barrier.pending
  split_ifs with hmem
  · have hclosed : (run {} ops).barrier.closed = true := by simp [run_closed, hmem]
    rw [(run_wellFormed ops wellFormed_empty).closed hclosed]
    rfl
  · have hwaiters := congrArg List.length (waiters_run_of_open ops hlength hmem)
    rw [List.length_map, ← List.countP_eq_length_filter, List.countP_map] at hwaiters
    rw [hwaiters]
    apply List.countP_congr
    intro target htarget
    have hle := frames_add_targets_le ops
    have hpos := List.length_pos_of_mem htarget
    have hlast : frames ops < Barrier.lastFrame := by
      unfold Barrier.lastFrame
      omega
    simp [hlast]

/-- What any operations on a fresh barrier, fewer than 64 bits can count, make of a ticket issued on
the way, and what the barrier then says. As long as its holder keeps it, a ticket is unreleased
below its target while the barrier is open; the frame that reaches the target first lets it be
collected, however late, until it is polled; and a barrier closed before that refuses it, however
far it counts. The waiters are the tickets issued whose targets are ahead, kept or not. -/
theorem ticket_lifetime (ops : List BarrierOp) (hlength : ops.length < UInt64.size) :
    (∀ before n after t, ops = before ++ .register n :: after →
      (run {} before).answer (.register n) = .registered (.ok t) →
      frames before + n < UInt64.size →
      t.target = frames before + n ∧
      ((run {} ops).ticket? t.id ≠ none →
        (frames ops < t.target → .close ∉ after → (run {} ops).Unreleased t) ∧
        (∀ reaching later, after = reaching ++ .advance :: later → .close ∉ reaching →
          frames before + frames reaching + 1 = t.target → .poll t.id ∉ later →
          (run {} ops).Collectable t) ∧
        (∀ ahead later, after = ahead ++ .close :: later → .close ∉ ahead →
          frames before + frames ahead < t.target → (run {} ops).Refused t))) ∧
    (run {} ops).barrier.pending =
      (if .close ∈ ops then 0 else (targets ops).countP (frames ops < ·)) ∧
    (run {} ops).answer (.register 0) = .registered (.error .zeroFrames) ∧
    ∀ n, 0 < n →
      (.close ∈ ops → (run {} ops).answer (.register n) =
        .registered (.error (.closed (min (frames ops + n) Barrier.lastFrame)))) ∧
      (.close ∉ ops → ∃ t, (run {} ops).answer (.register n) = .registered (.ok t)) := by
  have hframe (ops) : (run {} ops).barrier.frame = frames ops := by simp [run_frame]
  have hclosed : (run {} ops).barrier.closed = decide (.close ∈ ops) := by simp [run_closed]
  refine ⟨?_, pending_run ops hlength, rfl, fun n hn => ⟨fun hmem => ?_, fun hmem => ?_⟩⟩
  · rintro before n after t rfl hanswer hfits
    rw [run_append]
    have hs := run_wellFormed before wellFormed_empty
    rw [← hframe before] at hfits ⊢
    refine ⟨(registered_spec hs hanswer hfits).1, fun hheld => ⟨?_, ?_, ?_⟩⟩
    · intro hahead hopen
      apply run_unreleased hs hanswer hfits after hopen _ hheld
      rw [frames_append] at hahead
      simpa [hframe, frames] using hahead
    · rintro reaching later rfl hopen hreached hunpolled
      exact run_collectable hs hanswer hfits reaching later hopen hreached hunpolled hheld
    · rintro ahead later rfl hopen hahead
      exact run_refused hs hanswer hfits ahead later hahead hopen hheld
  · rw [decide_eq_true hmem] at hclosed
    simp [answer, step, Barrier.register_of_closed hn hclosed, hframe]
  · rw [decide_eq_false hmem] at hclosed
    simp [answer, step, Barrier.register_of_open hn hclosed]

/-- A ticket for frame five, which another waits for too, is collected after the barrier is closed
and counts on. -/
theorem ticket_lifetime_collected_late :
    let before : List BarrierOp := [.advance, .advance]
    let reaching : List BarrierOp := [.advance, .poll 0, .register 2, .advance, .drop 1]
    let ops := before ++ .register 3 :: (reaching ++ .advance :: [.close, .advance])
    ops.length < UInt64.size ∧ (run {} ops).Collectable ⟨0, 5⟩ ∧
      (run {} ops).barrier.pending = 0 := by
  intro before reaching ops
  have hlength : ops.length < UInt64.size := by decide
  have hlifetime := ticket_lifetime ops hlength
  obtain ⟨-, hcollected⟩ := hlifetime.1 before 3 _ ⟨0, 5⟩ rfl rfl (by decide)
  exact ⟨hlength, (hcollected (by decide)).2.1 reaching [.close, .advance] rfl (by decide) rfl
    (by decide), hlifetime.2.1⟩

end WaitingRoom

end ConsoleLink
