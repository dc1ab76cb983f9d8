import ConsoleLink.Proofs.Remote.HeldButtons
import ConsoleLink.Proofs.Remote.Hosting

/-! # An overlay and a ticket for its frames

An overlay that is queued and a ticket that is registered for as many frames, at the same count, end
together whatever else happens. Beside a run in which the overlay is not queued, only the pads of
its port differ, and only on the frames in between.
-/

namespace ConsoleLink

open HostEvent (frames history)
open PortInput (advance)

variable {σ : Type} {start p p' q r s : ControlPlane σ} {e : HostEvent}
  {log : List HostEvent} {port : Port} {o : Overlay} {t : Ticket}

section

variable [Machine σ]

/-! ## The overlay -/

theorem Occurs.get_queue (h : Occurs p e q)
    (hqueue : e.inputOp? p.options.mode = some (.queue port o)) (ho : 0 < o.frames) (other : Port) :
    q.input.get other = if other = port then (p.input.get port).push o else p.input.get other := by
  have hinput : q.input = (p.input.queue port o).2 := by
    rcases h.cases with ⟨f, rfl, -⟩ | ⟨-, hacts, -⟩
    · cases hqueue
    · rw [hacts.input, hqueue]
      rfl
  have hne : o.frames ≠ 0 := ho.ne'
  rw [hinput]
  by_cases hother : other = port
  · simp [Input.queue, hne, hother, PortInput.push]
  · have hval : port.val ≠ other.val := fun hval => hother (Fin.ext hval).symm
    simp [Input.queue, hne, hother, hval]

/-- The queue of a port in which an overlay was queued. -/
theorem Runs.timed (h : Runs p log q) (hget : p.input.get port = (r.input.get port).push o)
    (ho : 0 < o.frames) :
    (q.input.get port).timed =
      (advance^[(frames log).length] (r.input.get port)).timed ++ o.after (frames log).length ++
        InputHistory.remaining port (history p.options.mode port log) := by
  rw [h.get, PortInput.timed_follow, h.countsFrames, hget,
    PortInput.iterate_advance_push_timed _ o ho]

/-! ## The ticket -/

/-- A ticket that is registered waits as long as the count is below its target, and the frame that
is counted then releases it. -/
theorem Runs.ticket (h : Runs s log q) {n : Nat} (hfresh : r.barrier.Fresh)
    (hregister : r.barrier.register n = .ok (t, s.barrier)) (hopen : q.barrier.closed = false) :
    t.target = min (r.barrier.frame + n) Barrier.lastFrame ∧
    (q.barrier.frame < t.target → q.barrier.Waits t) ∧
      ∀ f q', q.Emulates f q' → q'.barrier.frame = t.target → q'.barrier.Released t t.target := by
  rcases r.barrier.register_cases n with ⟨_, herror⟩ | ⟨hok, -, -⟩
  · rw [herror] at hregister
    cases hregister
  rw [hok] at hregister
  obtain ⟨rfl, hs⟩ := Prod.mk.inj (Except.ok.inj hregister)
  have hframe : s.barrier.frame = r.barrier.frame := by
    rw [← hs]
    rfl
  have hwaits : q.barrier.frame < min (r.barrier.frame + n) Barrier.lastFrame →
      q.barrier.Waits ⟨r.barrier.issued, min (r.barrier.frame + n) Barrier.lastFrame⟩ := by
    intro hahead
    refine h.waits ?_ hopen hahead
    rw [← hs]
    refine Barrier.waits_withWaiter hfresh rfl ?_
    rw [h.frame_eq, hframe] at hahead
    exact Nat.lt_of_le_of_lt (Nat.le_add_right ..) hahead
  refine ⟨rfl, hwaits, fun f q' hstep hreached => ?_⟩
  rw [hstep.barrier] at hreached ⊢
  have hahead : q.barrier.frame < min (r.barrier.frame + n) Barrier.lastFrame :=
    (Nat.lt_succ_self _).trans_eq hreached
  exact (hwaits hahead).released_advance hreached

end

/-! ## Two runs -/

/-- The same happens in two runs; of a frame only the pads plugged in have to be the same. -/
inductive HostEvent.Like : HostEvent → HostEvent → Prop where
  | frame {f g : Frame} (h : f.live = g.live) : Like (.frame f) (.frame g)
  | same (e : HostEvent) : Like e e

/-- The second of two control planes has what some frames have left of an overlay on a port, and the
first has not; otherwise their input is alike. -/
structure Beside (port : Port) (o : Overlay) (k : Nat) (p q : ControlPlane σ) : Prop where
  mode : q.options.mode = p.options.mode
  others : ∀ other ≠ port, q.input.get other = p.input.get other
  port : Besides o k (p.input.get port) (q.input.get port)

/-- Two frames are handed the same pads, but for an overlay on a port of which so many frames are
counted. -/
structure PadsBeside (port : Port) (o : Overlay) (k : Nat) (f g : Frame) : Prop where
  others : ∀ other : Port, other ≠ port → g.pads.get other = f.pads.get other
  gone : o.frames ≤ k → g.pads = f.pads
  held : k < o.frames → (g.input.get port).enabled = true →
    o.buttons &&& (g.pads.get port).buttons = o.buttons

variable {k : Nat} {e' : HostEvent} {log' : List HostEvent} {q' : ControlPlane σ}

theorem Beside.refl (p : ControlPlane σ) (port : Port) (hk : o.frames ≤ k) : Beside port o k p p :=
  ⟨rfl, fun _ _ => rfl, .refl _ hk⟩

theorem Beside.pads {f g : Frame} (h : Beside port o k q q') (hf : f.input = q.input)
    (hg : g.input = q'.input) (hlive : f.live = g.live) : PadsBeside port o k f g := by
  have hpad : ∀ other, q'.input.get other = q.input.get other →
      g.pads.get other = f.pads.get other := by
    intro other hother
    rw [f.sampled, g.sampled, hf, hg, hother, hlive]
  constructor
  case others => exact fun other hother => hpad other (h.others other hother)
  case gone =>
    intro hk
    refine Vector.ext fun i hi => hpad ⟨i, hi⟩ ?_
    by_cases hother : (⟨i, hi⟩ : Port) = port
    · rw [hother]
      exact h.port.eq hk
    · exact h.others _ hother
  case held =>
    intro hk hon
    rw [g.sampled]
    rw [hg] at hon ⊢
    exact h.port.buttons_status hk hon _

variable [Machine σ]

theorem Beside.occurs (h : Beside port o k p q) (hp : Occurs p e p') (hq : Occurs q e' q')
    (hlike : e.Like e') : Beside port o (k + (frames [e]).length) p' q' := by
  have hops : ∀ other : Port,
      e'.inputOps q.options.mode other = e.inputOps p.options.mode other := by
    intro other
    rw [h.mode]
    cases hlike <;> rfl
  refine ⟨?_, fun other hother => ?_, ?_⟩
  · rw [hp.options, hq.options, h.mode]
  · rw [hp.get, hq.get, hops, h.others other hother]
  · rw [hp.get, hq.get, hops, ← hp.countsFrames port]
    exact h.port.follow port _

theorem HostEvent.Like.cases (h : e.Like e') :
    (∃ f g, e = .frame f ∧ e' = .frame g ∧ f.live = g.live) ∨
      e.frame? = none ∧ e'.frame? = none := by
  cases h with
  | frame h => exact .inl ⟨_, _, rfl, rfl, h⟩
  | same e =>
    cases e with
    | frame f => exact .inl ⟨f, f, rfl, rfl, rfl⟩
    | _ => exact .inr ⟨rfl, rfl⟩

/-- The frames of two runs are handed the same pads, but for an overlay on a port of which so many
frames are counted before. -/
def PadsAlong (port : Port) (o : Overlay) (k : Nat) (fs gs : List Frame) : Prop :=
  ∀ i f g, fs[i]? = some f → gs[i]? = some g → PadsBeside port o (k + i + 1) f g

theorem PadsAlong.cons {f g : Frame} {fs gs : List Frame} (h : PadsBeside port o (k + 1) f g)
    (hlater : PadsAlong port o (k + 1) fs gs) : PadsAlong port o k (f :: fs) (g :: gs) := by
  intro i f' g' hf hg
  cases i with
  | zero =>
    cases hf
    cases hg
    exact h
  | succ i =>
    have hnext := hlater i f' g' hf hg
    rwa [Nat.add_right_comm k 1 i] at hnext

/-- Two control planes that differ in what is left of an overlay go on alike. -/
theorem Beside.runs (h : Beside port o k p q) (hlike : List.Forall₂ HostEvent.Like log log')
    (hp : Runs p log p') (hq : Runs q log' q') :
    Beside port o (k + (frames log).length) p' q' ∧
      PadsAlong port o k (frames log) (frames log') := by
  induction hlike generalizing p q k with
  | nil =>
    cases hp
    cases hq
    exact ⟨h, fun i f g hf => by cases hf⟩
  | @cons e e' log log' he hlog ih =>
    cases hp with
    | next hp hlaterp =>
      cases hq with
      | next hq hlaterq =>
        have hnext := h.occurs hp hq he
        obtain ⟨hlast, hpads⟩ := ih hnext hlaterp hlaterq
        rw [HostEvent.frames_cons e log, HostEvent.frames_cons e' log', List.length_append,
          ← Nat.add_assoc]
        refine ⟨hlast, ?_⟩
        rcases he.cases with ⟨f, g, rfl, rfl, hlive⟩ | ⟨hnone, hnone'⟩
        · rcases hp with ⟨hp⟩
          rcases hq with ⟨hq⟩
          exact .cons (hnext.pads hp.input hq.input hlive) hpads
        · rw [HostEvent.frames_singleton_of_none hnone] at hpads ⊢
          rw [HostEvent.frames_singleton_of_none hnone']
          exact hpads

theorem Beside.queue (h : Beside port o k p q) (hk : o.frames ≤ k) (hevent : Occurs q e q')
    (hqueue : e.inputOp? q.options.mode = some (.queue port o)) (ho : 0 < o.frames) :
    Beside port o 0 p q' := by
  have hget := hevent.get_queue hqueue ho
  refine ⟨by rw [hevent.options, h.mode], fun other hother => ?_, ?_⟩
  · rw [hget, if_neg hother, h.others other hother]
  · rw [hget, if_pos rfl, h.port.eq hk]
    exact .push _ ho

theorem HostEvent.Like.length_frames (h : List.Forall₂ HostEvent.Like log log') :
    (frames log).length = (frames log').length := by
  induction h with
  | nil => rfl
  | @cons e e' log log' he _ ih =>
    rw [HostEvent.frames_cons e log, HostEvent.frames_cons e' log', List.length_append,
      List.length_append, ih]
    rcases he.cases with ⟨f, g, rfl, rfl, -⟩ | ⟨hnone, hnone'⟩
    · rfl
    · rw [HostEvent.frames_singleton_of_none hnone, HostEvent.frames_singleton_of_none hnone']

/-- Before the overlay is queued nothing differs, after that what is left of the overlay does. -/
theorem Runs.pads_beside {before after : List HostEvent} (hbefore : Runs start before p)
    (hevent : Occurs p e p') (hqueue : e.inputOp? p.options.mode = some (.queue port o))
    (ho : 0 < o.frames) (hafter : Runs p' after q) (hlog : Runs start log q')
    (hlike : List.Forall₂ HostEvent.Like log (before ++ after)) :
    ∃ fs gs, frames log = fs ++ gs ∧ fs.length = (frames before).length ∧
      PadsAlong port o o.frames fs (frames before) ∧ PadsAlong port o 0 gs (frames after) := by
  have hfirst := List.forall₂_take_append log before after hlike
  have hrest := List.forall₂_drop_append log before after hlike
  rw [← List.take_append_drop before.length log] at hlog ⊢
  obtain ⟨p₀, hlogBefore, hlogAfter⟩ := Trace.append_iff.mp hlog
  -- nothing differs yet, as if the overlay had had all its frames
  have hsame : Beside port o o.frames start start := .refl start port le_rfl
  obtain ⟨hp₀, hpadsBefore⟩ := hsame.runs hfirst hlogBefore hbefore
  have hqueued := hp₀.queue (Nat.le_add_right ..) hevent hqueue ho
  obtain ⟨-, hpadsAfter⟩ := hqueued.runs hrest hlogAfter hafter
  exact ⟨_, _, HostEvent.frames_append _ _, HostEvent.Like.length_frames hfirst, hpadsBefore,
    hpadsAfter⟩

/-! ## An overlay and a ticket -/

/-- An overlay is queued between two steps and a ticket is registered for as many frames at the same
count. At any later time the overlay is in the queue as long as the count is below the sum of both,
and the ticket waits; the frame that reaches it releases the ticket. A run in which only the
overlay is not queued has the same pads on all other ports and from that frame on; before that, the
buttons of the overlay are pressed on every frame on which its port is switched on. The pads of a
frame are those that the ports are sampled with, and the machine runs it with them. -/
theorem held_in_step {before after : List HostEvent} (hfresh : start.barrier.Fresh)
    (hbefore : Runs start before p) (hevent : Occurs p e p')
    (hqueue : e.inputOp? p.options.mode = some (.queue port o)) (ho : 0 < o.frames)
    (hafter : Runs p' after q) :
    ((q.input.get port).timed =
        (advance^[q.barrier.frame - p.barrier.frame] (p.input.get port)).timed ++
          o.after (q.barrier.frame - p.barrier.frame) ++
          InputHistory.remaining port (history p.options.mode port after) ∧
      (o.after (q.barrier.frame - p.barrier.frame) ≠ [] ↔
        q.barrier.frame < p.barrier.frame + o.frames)) ∧
    (∀ (earlier later : List HostEvent) (r s : ControlPlane σ) (d : HostEvent) (t : Ticket),
      earlier ++ d :: later = before ++ e :: after →
      Runs start earlier r → Occurs r d s → Runs s later q →
      r.barrier.frame = p.barrier.frame → r.barrier.register o.frames = .ok (t, s.barrier) →
      q.barrier.closed = false →
      t.target = min (p.barrier.frame + o.frames) Barrier.lastFrame ∧
        (q.barrier.frame < t.target → q.barrier.Waits t) ∧
        ∀ f q', q.Emulates f q' → q'.barrier.frame = t.target →
          q'.barrier.Released t t.target) ∧
    (∀ (log : List HostEvent) (q' : ControlPlane σ), Runs start log q' →
      List.Forall₂ HostEvent.Like log (before ++ after) →
      ∀ i f g, (frames log)[i]? = some f → (frames (before ++ e :: after))[i]? = some g →
        (∀ other : Port, other ≠ port → g.pads.get other = f.pads.get other) ∧
        (start.barrier.frame + i + 1 ≤ p.barrier.frame ∨
            p.barrier.frame + o.frames ≤ start.barrier.frame + i + 1 → g.pads = f.pads) ∧
        (p.barrier.frame < start.barrier.frame + i + 1 →
          start.barrier.frame + i + 1 < p.barrier.frame + o.frames →
          (g.input.get port).enabled = true →
          o.buttons &&& (g.pads.get port).buttons = o.buttons)) ∧
    ∀ (r s : ControlPlane σ) (f : Frame), Occurs r (.frame f) s →
      ∃ u : ControlPlane σ, r.runJobs.Yields u ∧
        (∀ port : Port, f.pads.get port =
          (r.input.get port).advance.status (Machine.livePad u.machine port)) ∧
        Machine.runFrame f.pads u.machine = some s.machine := by
  have hnone : frames [e] = [] := by
    rcases hevent.cases with ⟨f, rfl, -⟩ | ⟨hnone, -⟩
    · cases hqueue
    · exact HostEvent.frames_singleton_of_none hnone
  have hcount : q.barrier.frame = p.barrier.frame + (frames after).length := by
    have hone := hevent.frame_eq
    rw [hafter.frame_eq, hone, hnone]
    rfl
  refine ⟨⟨?_, ?_⟩, ?_, ?_, ?_⟩
  · rw [hcount, Nat.add_sub_cancel_left, ← hevent.options]
    exact hafter.timed (by rw [hevent.get_queue hqueue ho, if_pos rfl]) ho
  · rw [ne_eq, Overlay.after_eq_nil_iff]
    omega
  · intro earlier later r s d t _ hr _ hs hsame hregister hopen
    rw [← hsame]
    exact hs.ticket (hr.fresh hfresh) hregister hopen
  · intro log q' hlog hlike i f g hf hg
    obtain ⟨fs, gs, hframes, hlength, hpadsBefore, hpadsAfter⟩ :=
      Runs.pads_beside hbefore hevent hqueue ho hafter hlog hlike
    have hstart := hbefore.frame_eq
    rw [HostEvent.frames_append, HostEvent.frames_cons e after, hnone, List.nil_append] at hg
    rw [hframes] at hf
    -- the frame comes before the overlay is queued, or after
    rcases Nat.lt_or_ge i (frames before).length with hearly | hlate
    · rw [List.getElem?_append_left hearly] at hg
      rw [List.getElem?_append_left (hlength ▸ hearly)] at hf
      have hpads := hpadsBefore i f g hf hg
      refine ⟨hpads.others, fun _ => hpads.gone ?_, fun hlate => ?_⟩
      · omega
      · omega
    · rw [List.getElem?_append_right hlate] at hg
      rw [List.getElem?_append_right (hlength ▸ hlate), hlength] at hf
      have hpads := hpadsAfter _ f g hf hg
      refine ⟨hpads.others, fun hnumber => hpads.gone ?_, fun _ hnumber => hpads.held ?_⟩
      · omega
      · omega
  · rintro r s f ⟨hemulates⟩
    exact hemulates.machine

/-- A press for two frames: after the first of them the overlay is still there, the ticket still
waits, and the press was seen. -/
theorem held_in_step_pressTwice :
    ∃ (p p' q q' : ControlPlane Headless) (t : Ticket) (f g : Frame),
      freshTurns.barrier.Fresh ∧
      Runs freshTurns [.call "controller" pressTwice] p ∧
      Occurs p (.resume (.queueing firstPort pressedTwice t)) p' ∧
      Runs p' [.frame g] q ∧
      Runs freshTurns [.call "controller" pressTwice, .frame f] q' ∧ f.live = g.live ∧
      (q.input.get firstPort).timed = [{ pressedTwice with frames := 1 }] ∧
      q.barrier.Waits t ∧
      Button.a.mask &&& (g.pads.get firstPort).buttons = Button.a.mask := by
  let t : Ticket := ⟨0, 2⟩
  let p : ControlPlane Headless := { freshTurns with barrier := freshTurns.barrier.withWaiter t }
  let p' := p.queueOverlay firstPort pressedTwice
  have hcall : freshTurns.call "controller" pressTwice =
      (.waiting (.queueing firstPort pressedTwice t), p) := by
    rw [ControlPlane.call, ofCall_pressTwice]
    rfl
  have hfirst : Occurs freshTurns (.call "controller" pressTwice) p := by
    have hoccurs : Occurs freshTurns (.call "controller" pressTwice)
        (freshTurns.call "controller" pressTwice).2 := .call
    rwa [hcall] at hoccurs
  have hbefore : Runs freshTurns [.call "controller" pressTwice] p := .next hfirst (.stop p)
  have hevent : Occurs p (.resume (.queueing firstPort pressedTwice t)) p' := .resume (.done _)
  obtain ⟨q', hq'⟩ := ControlPlane.exists_runFrame_iff (p := p) |>.mpr (by decide)
  obtain ⟨q, hq⟩ := ControlPlane.exists_runFrame_iff (p := p') |>.mpr (by decide)
  have hafter : Runs p' [.frame p'.frame] q :=
    .one (.frame (ControlPlane.emulates_frame rfl rfl hq))
  have hwithout : Runs freshTurns [.call "controller" pressTwice, .frame p.frame] q' :=
    .next hfirst (.one (.frame (ControlPlane.emulates_frame rfl rfl hq')))
  obtain ⟨⟨htimed, -⟩, hticket, hpads, -⟩ :=
    held_in_step Barrier.fresh_empty hbefore hevent rfl (by decide) hafter
  have hframe : q.barrier.frame = 1 := by
    rw [ControlPlane.runFrame_barrier hq]
    rfl
  have hopen : q.barrier.closed = false := by
    rw [ControlPlane.runFrame_barrier hq]
    rfl
  obtain ⟨-, hwaits, -⟩ := hticket [] _ freshTurns p _ t rfl (.stop _) hfirst
    (.next hevent hafter) rfl rfl hopen
  have hlike : List.Forall₂ HostEvent.Like
      [.call "controller" pressTwice, .frame p.frame]
      ([.call "controller" pressTwice] ++ [.frame p'.frame]) :=
    .cons (.same _) (.cons (.frame rfl) .nil)
  obtain ⟨-, -, hheld⟩ := hpads _ _ hwithout hlike 0 p.frame p'.frame rfl rfl
  have hon : (p'.frame.input.get firstPort).enabled = true := by
    rw [← ControlPlane.runFrame_input hq, ControlPlane.runFrame_input_get hq,
      PortInput.advance_enabled, queueOverlay_get _ _ (by decide)]
    rfl
  refine ⟨p, p', q, q', t, p.frame, p'.frame, Barrier.fresh_empty, hbefore, hevent, hafter,
    hwithout, rfl, ?_, hwaits (hframe ▸ by decide),
    hheld (by decide) (by decide) hon⟩
  rw [htimed, hframe]
  rfl

end ConsoleLink
