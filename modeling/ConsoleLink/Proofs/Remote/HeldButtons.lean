import ConsoleLink.Machine.Headless
import ConsoleLink.Proofs.Remote.Exchange

/-! # Buttons held for a number of frames

A request that holds buttons in turns registers for the frames of its overlay, queues the overlay
and waits. The wait is counted from the registration and the overlay from when it is queued, so a
frame between the two is waited for and does not count the overlay down: the answer may then come
while the overlay has frames left. It comes after all of them if and only if at least so many
frames were emulated once the overlay was queued.
-/

namespace ConsoleLink

open Happening (frames framesBefore framesAfter)

variable {σ : Type} {s t : Exchange σ} {p q : ControlPlane σ} {happening : Happening}
  {log : List Happening} {ticket : Ticket} {port : Port} {o : Overlay} {holder : Option Port}

/-! ## The wait -/

/-- A ticket waits unless its frame has come. -/
def Pledged (b : Barrier) (ticket : Ticket) : Prop := b.Waits ticket ∨ ticket.target ≤ b.frame

theorem Pledged.advance {b : Barrier} (h : Pledged b ticket) : Pledged b.advance ticket := by
  rcases h with hwaits | hreached
  · rcases Nat.lt_or_ge (b.frame + 1) ticket.target with hahead | hreached
    · exact .inl (hwaits.advance hahead)
    · exact .inr hreached
  · exact .inr (Nat.le_succ_of_le hreached)

theorem Pledged.collect {b : Barrier} (h : Pledged b ticket) :
    Pledged (b.collect ticket).2 ticket := by
  rcases h with hwaits | hreached
  · exact .inl (hwaits.collect ticket)
  · exact .inr (hreached.trans_eq (b.collect_frame ticket).symm)

/-- What a pledged ticket is answered with is not early. -/
theorem Pledged.reached_of_collect {b : Barrier} {frame : Nat} (h : Pledged b ticket)
    (hcollect : (b.collect ticket).1 = .ok (some frame)) :
    ticket.target ≤ (b.collect ticket).2.frame := by
  rw [b.collect_frame]
  refine h.resolve_left fun hwaits => ?_
  rw [Barrier.collect_of_waits hwaits] at hcollect
  cases hcollect

/-- A request waits for a ticket that is pledged to it; one that got a frame for an answer got it
no earlier than the ticket's target. -/
def Awaits (ticket : Ticket) (holder : Option Port) : Exchange σ → Prop
  | (.waiting pending, p) => pending = .onFrame ticket holder ∧ Pledged p.barrier ticket
  | (.answered (.ok _), p) => ticket.target ≤ p.barrier.frame
  | (.answered (.error _), _) => True

theorem queueOverlay_get (p : ControlPlane σ) (port : Port) (ho : 0 < o.frames) :
    (p.queueOverlay port o).input.get port = (p.input.get port).push o := by
  have hne : o.frames ≠ 0 := Nat.ne_of_gt ho
  simp [ControlPlane.queueOverlay, Input.queue, hne, PortInput.push]

/-- In turns a request that holds buttons is refused, or registers for its frames and queues
nothing yet. -/
theorem start_hold (port : Port) (hmode : p.options.mode = .turnBased)
    (hfresh : p.barrier.Fresh) :
    (∃ e, p.start (.hold port o) = (.answered (.error e), p)) ∨
      0 < o.frames ∧ ∃ (ticket : Ticket) (r : ControlPlane σ),
        p.start (.hold port o) = (.waiting (.queueing port o ticket), r) ∧
        r.input = p.input ∧ r.barrier.frame = p.barrier.frame ∧
        Pledged r.barrier ticket ∧
        ticket.target = min (p.barrier.frame + o.frames) Barrier.lastFrame := by
  have hstart : p.start (.hold port o) = p.waitFor o.frames (.queueing port o) := by
    simp [ControlPlane.start, hmode]
  rw [hstart, ControlPlane.waitFor, ControlPlane.register]
  rcases p.barrier.register_cases o.frames with ⟨e, herror⟩ | ⟨hticket, ho, -⟩
  · rw [herror]
    exact .inl ⟨_, rfl⟩
  · rw [hticket]
    refine .inr ⟨ho, _, _, rfl, rfl, rfl, ?_, rfl⟩
    rcases Nat.lt_or_ge p.barrier.frame (min (p.barrier.frame + o.frames) Barrier.lastFrame) with
      hahead | hreached
    · exact .inl (Barrier.waits_withWaiter hfresh rfl hahead)
    · exact .inr hreached

variable [Machine σ]

/-- One happening while a request waits: it goes on waiting, or has its answer in time. -/
theorem Awaits.happens {pending : Pending} (hs : Awaits ticket holder (.waiting pending, p))
    (h : Happens pending p happening t) :
    Awaits ticket holder t ∧ Counted p (frames [happening]) t.2 := by
  obtain ⟨rfl, hpledged⟩ := hs
  cases h with
  | frame h =>
    refine ⟨⟨rfl, ?_⟩, .of_emulates h⟩
    rw [h.barrier]
    exact hpledged.advance
  | idle h =>
    refine ⟨⟨rfl, ?_⟩, .nil h.input (by rw [h.barrier])⟩
    rwa [h.barrier]
  | action h =>
    rw [resume_onFrame] at h
    obtain rfl := Access.yields_pure_iff.mp h
    refine ⟨?_, .nil rfl (p.barrier.collect_frame ticket)⟩
    rcases hcollect : (p.barrier.collect ticket).1 with e | _ | frame
    · trivial
    · exact ⟨rfl, hpledged.collect⟩
    · exact hpledged.reached_of_collect hcollect
  | expiry =>
    rw [giveUp_onFrame]
    refine ⟨?_, .nil rfl (p.barrier.collect_frame ticket)⟩
    rcases hcollect : (p.barrier.collect ticket).1 with e | _ | frame
    · trivial
    · trivial
    · exact hpledged.reached_of_collect hcollect

theorem Carried.awaits (h : Carried s log t) (hs : Awaits ticket holder s) :
    Awaits ticket holder t ∧ Counted s.2 (frames log) t.2 := by
  induction h with
  | stop s => exact ⟨hs, .nil rfl rfl⟩
  | next h _ ih =>
    obtain ⟨hnext, hone⟩ := hs.happens h
    obtain ⟨hlast, hlater⟩ := ih hnext
    rw [Happening.frames_cons]
    exact ⟨hlast, hone.append hlater⟩

/-! ## The overlay -/

/-- Up to its first action the request does nothing; then its overlay is in the queue and it
waits. -/
theorem Carried.queueing {result : Except RemoteError Json}
    (h : Carried (.waiting (.queueing port o ticket), p) log (.answered result, q))
    (hp : Pledged p.barrier ticket) :
    ∃ r : ControlPlane σ, Counted p (framesBefore log) r ∧ Pledged r.barrier ticket ∧
      ∃ later, frames later = framesAfter log ∧
        Carried (.waiting (.onFrame ticket (some port)), r.queueOverlay port o) later
          (.answered result, q) := by
  generalize hs : ((.waiting (.queueing port o ticket), p) : Exchange σ) = s at h
  generalize ht : ((.answered result, q) : Exchange σ) = t at h
  induction h generalizing p with
  | stop s => cases hs.trans ht.symm
  | next h hlater ih =>
    cases hs
    cases h with
    | frame h =>
      have hpledged := hp.advance
      rw [← h.barrier] at hpledged
      obtain ⟨r, hbefore, hr, later, hafter, hcarried⟩ := ih hpledged rfl ht
      exact ⟨r, (Counted.of_emulates h).append hbefore, hr, later, hafter, hcarried⟩
    | idle h =>
      rw [← h.barrier] at hp
      obtain ⟨r, hbefore, hr, later, hafter, hcarried⟩ := ih hp rfl ht
      have hnone : Counted _ [] _ := .nil h.input (by rw [h.barrier])
      exact ⟨r, hnone.append hbefore, hr, later, hafter, hcarried⟩
    | action h =>
      cases Access.yields_pure_iff.mp h
      subst ht
      exact ⟨_, .nil rfl rfl, hp, _, rfl, hlater⟩
    | expiry => exact ih hp rfl ht

/-- Of an overlay that was queued at some time nothing is left, and the machine was offered it on
all of its frames but the last. -/
def HeldOut (p : ControlPlane σ) (port : Port) (o : Overlay) (log : List Happening)
    (q : ControlPlane σ) : Prop :=
  (q.input.get port).timed =
      (PortInput.advance^[(frames log).length] (p.input.get port)).timed ∧
    offers port (p.input.get port) (frames log) = o.frames - 1

/-- When a request that holds buttons in turns is answered, its overlay was counted down by the
frames since it was queued. The frames before, which count for the wait alone, are those that can
be missing. -/
theorem heldOut_iff {params result : Json}
    (hcall : Command.ofCall "controller" params = .ok (.hold port o))
    (hmode : p.options.mode = .turnBased) (hfresh : p.barrier.Fresh)
    (hrun : Carried (p.call "controller" params) log (.answered (.ok result), q)) :
    (q.input.get port).timed =
        (PortInput.advance^[(frames log).length] (p.input.get port)).timed ++
          o.after (framesAfter log).length ∧
      offers port (p.input.get port) (frames log) =
        min (framesAfter log).length (o.frames - 1) ∧
      (p.barrier.frame + o.frames ≤ Barrier.lastFrame →
        o.frames ≤ (framesBefore log).length + (framesAfter log).length) ∧
      (HeldOut p port o log q ↔ o.frames ≤ (framesAfter log).length) := by
  have hfirst : p.call "controller" params = p.start (.hold port o) := by
    rw [ControlPlane.call, hcall]
  rw [hfirst] at hrun
  rcases start_hold (o := o) port hmode hfresh with
    ⟨e, herror⟩ | ⟨ho, ticket, r, hstart, hinput, hframe, hpledged, htarget⟩
  · rw [herror] at hrun
    cases hrun.of_answered.2
  rw [hstart] at hrun
  obtain ⟨u, hbefore, hu, later, hlater, hcarried⟩ := hrun.queueing hpledged
  obtain ⟨hreached, hafter⟩ := hcarried.awaits ⟨rfl, hu⟩
  rw [hlater] at hafter
  -- the port: it counts down to the queueing, takes the overlay and counts down to the answer
  have hqueued : (u.queueOverlay port o).input.get port =
      (PortInput.advance^[(framesBefore log).length] (p.input.get port)).push o := by
    rw [queueOverlay_get u port ho, hbefore.input, hinput]
  have hport := hafter.input port
  have hoffered := hafter.countsDown port
  rw [hqueued] at hport hoffered
  have htotal : (frames log).length = (framesAfter log).length + (framesBefore log).length := by
    rw [← Happening.framesBefore_append_framesAfter, List.length_append, Nat.add_comm]
  have htimed : (q.input.get port).timed =
      (PortInput.advance^[(frames log).length] (p.input.get port)).timed ++
        o.after (framesAfter log).length := by
    rw [hport, PortInput.iterate_advance_push_timed _ o ho, htotal, Function.iterate_add_apply]
  have hoffers : offers port (p.input.get port) (frames log) =
      min (framesAfter log).length (o.frames - 1) := by
    have hnone := (hbefore.countsDown port).offers_eq_zero
    rw [hinput] at hnone
    rw [← Happening.framesBefore_append_framesAfter, offers_append, hnone,
      hoffered.offers_push ho, Nat.zero_add]
  refine ⟨htimed, hoffers, fun hroom => ?_, ?_⟩
  · have hcount : q.barrier.frame =
        p.barrier.frame + (framesBefore log).length + (framesAfter log).length := by
      rw [hafter.barrier, ← hframe, ← hbefore.barrier]
      rfl
    change ticket.target ≤ q.barrier.frame at hreached
    rw [htarget, Nat.min_eq_left hroom] at hreached
    omega
  · rw [HeldOut, htimed, hoffers, List.append_right_eq_self, Overlay.after_eq_nil_iff]
    omega

/-! ## An early answer -/

def firstPort : Port := (0 : Fin 4)

/-- A press of one button for two frames, as a client writes it. -/
def pressTwice : Json := .object
  [("port", .nat 0), ("buttons", .object [("a", .bool true)]), ("frames", .nat 2)]

def pressedTwice : Overlay := ⟨Button.a.mask, none, none, 2⟩

theorem ofCall_pressTwice :
    Command.ofCall "controller" pressTwice = .ok (.hold firstPort pressedTwice) :=
  rfl

/-- A machine that was just switched on and is played in turns. -/
def freshTurns : ControlPlane Headless where
  options := { mode := .turnBased }
  machine := .make "states" 0

/-- One frame before the overlay is queued and one after it end a wait for two, and the overlay has
a frame left. -/
theorem early_answer : ∃ (log : List Happening) (result : Json) (q : ControlPlane Headless),
    Carried (freshTurns.call "controller" pressTwice) log (.answered (.ok result), q) ∧
      (framesBefore log).length = 1 ∧ (framesAfter log).length = 1 ∧
      (q.input.get firstPort).timed = [{ pressedTwice with frames := 1 }] := by
  let ticket : Ticket := ⟨0, 2⟩
  let r₀ : ControlPlane Headless :=
    { freshTurns with barrier := freshTurns.barrier.withWaiter ticket }
  obtain ⟨s₀, hs₀⟩ := ControlPlane.exists_runFrame_iff (p := r₀) |>.mpr (by decide)
  let r₁ := s₀.queueOverlay firstPort pressedTwice
  have hone : r₁.machine.frame.toNat = 1 :=
    Headless.toNat_frame_of_runFrame (ControlPlane.runFrame_machine hs₀)
  obtain ⟨s₁, hs₁⟩ := ControlPlane.exists_runFrame_iff (p := r₁) |>.mpr (by rw [hone]; decide)
  have hstart : freshTurns.call "controller" pressTwice =
      (.waiting (.queueing firstPort pressedTwice ticket), r₀) := by
    rw [ControlPlane.call, ofCall_pressTwice]
    rfl
  have hjobs : r₁.jobs.pending = [] := congrArg JobQueue.pending (ControlPlane.runFrame_jobs hs₀)
  have hrunning : Machine.runState r₁.machine = .running :=
    Headless.runState_of_runFrame (ControlPlane.runFrame_machine hs₀)
  have hfirst : r₀.Emulates r₀.frame s₀ := ControlPlane.emulates_frame rfl rfl hs₀
  have hsecond : r₁.Emulates r₁.frame s₁ := ControlPlane.emulates_frame hjobs hrunning hs₁
  have hbarrier : s₁.barrier = r₀.barrier.advance.advance := by
    rw [← ControlPlane.runFrame_barrier hs₀, ControlPlane.runFrame_barrier hs₁]
    rfl
  have hcollect : (s₁.barrier.collect ticket).1 = .ok (some 2) := by
    rw [hbarrier]
    rfl
  have hlast : (s₁.resume (.onFrame ticket (some firstPort))).Yields
      (.answered (.ok (ControlPlane.frameAnswer (some firstPort) 2)),
        { s₁ with barrier := (s₁.barrier.collect ticket).2 }) := by
    rw [resume_onFrame, hcollect]
    exact .done _
  have hqueue : (s₁.input.get firstPort).timed = [{ pressedTwice with frames := 1 }] := by
    rw [ControlPlane.runFrame_input_get hs₁, queueOverlay_get _ _ (by decide),
      ControlPlane.runFrame_input_get hs₀]
    rfl
  rw [hstart]
  exact ⟨[.frame r₀.frame, .action, .frame r₁.frame, .action], _, _,
    .next (.frame hfirst) <| .next (.action (.done _)) <| .next (.frame hsecond) <|
      .next (.action hlast) (.stop _), rfl, rfl, hqueue⟩

/-- With a frame on the wrong side of the queueing the overlay is not held out. -/
theorem heldOut_iff_pressTwice :
    ∃ (log : List Happening) (result : Json) (q : ControlPlane Headless),
      Command.ofCall "controller" pressTwice = .ok (.hold firstPort pressedTwice) ∧
      freshTurns.options.mode = .turnBased ∧ freshTurns.barrier.Fresh ∧
      Carried (freshTurns.call "controller" pressTwice) log (.answered (.ok result), q) ∧
      (framesBefore log).length = 1 ∧ (framesAfter log).length = 1 ∧
      offers firstPort (freshTurns.input.get firstPort) (frames log) = 1 ∧
      ¬HeldOut freshTurns firstPort pressedTwice log q := by
  obtain ⟨log, result, q, hrun, hbefore, hafter, -⟩ := early_answer
  obtain ⟨-, hoffers, -, hheld⟩ :=
    heldOut_iff ofCall_pressTwice rfl Barrier.fresh_empty hrun
  rw [hafter] at hoffers hheld
  refine ⟨log, result, q, ofCall_pressTwice, rfl, Barrier.fresh_empty, hrun, hbefore, hafter,
    hoffers, ?_⟩
  rw [hheld]
  decide

/-- It is not so that every overlay is held out when its request is answered. -/
theorem not_forall_heldOut :
    ¬∀ (p q : ControlPlane Headless) (params result : Json) (port : Port) (o : Overlay)
      (log : List Happening),
      Command.ofCall "controller" params = .ok (.hold port o) →
      p.options.mode = .turnBased → p.barrier.Fresh →
      Carried (p.call "controller" params) log (.answered (.ok result), q) →
      HeldOut p port o log q := by
  intro hall
  obtain ⟨log, result, q, hrun, hbefore, hafter, htimed⟩ := early_answer
  have hheld := hall _ _ _ _ _ _ _ ofCall_pressTwice rfl Barrier.fresh_empty hrun
  have hgone := hheld.1
  rw [htimed, ← Happening.framesBefore_append_framesAfter, List.length_append, hbefore,
    hafter] at hgone
  cases hgone

end ConsoleLink
