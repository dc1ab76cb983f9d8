import ConsoleLink.Proofs.Machine.Orders
import ConsoleLink.Proofs.Remote.Accounts
import ConsoleLink.Proofs.Remote.HeldButtons
import ConsoleLink.Proofs.Remote.Stories

/-! # Paused and running

The run state of a headless machine is the one that a job set last: a pause, a play or a boot that
succeeds. A step emulates a frame if and only if this is not a pause once its jobs are done. From a
pause to the next job that has the machine run, frames stand still, whatever else is asked and done.
-/

namespace ConsoleLink

open ControlPlane Schedule

section

variable {σ : Type} [Machine σ]

/-- The run state that a job sets. A job of the embedding program sets one if it leaves another than
it found. -/
def Work.sets? (w : Work σ) : Option RunState :=
  match w.job with
  | .order (.setRunState state) => some state
  | .order (.boot _) =>
    match w.answer with
    | .ok _ => some .running
    | .error _ => none
  | .custom _ =>
    if Machine.runState w.after = Machine.runState w.before then none
    else some (Machine.runState w.after)
  | _ => none

/-- The run state that was set last. -/
def lastSet? (story : List (Entry σ)) : Option RunState :=
  ((works story).filterMap Work.sets?).getLast?

theorem lastSet?_append (story later : List (Entry σ)) :
    lastSet? (story ++ later) = (lastSet? later).or (lastSet? story) := by
  rw [lastSet?, works_append, List.filterMap_append, List.getLast?_append]
  rfl

theorem lastSet?_cons (entry : Entry σ) (story : List (Entry σ)) :
    lastSet? (entry :: story) = (lastSet? story).or (lastSet? [entry]) :=
  lastSet?_append [entry] story

theorem lastSet?_work (w : Work σ) : lastSet? [Entry.work w] = w.sets? := by
  cases h : w.sets? <;> simp [lastSet?, works, Entry.work?, h]

/-- A machine goes through what some jobs did to it, and nothing else happens to it. -/
def Passes : σ → List (Work σ) → σ → Prop
  | s, [], s' => s' = s
  | s, w :: ws, s' => w.before = s ∧ Passes w.after ws s'

theorem Passes.append {s s' s'' : σ} {ws later : List (Work σ)} (h : Passes s ws s')
    (hlater : Passes s' later s'') : Passes s (ws ++ later) s'' := by
  induction ws generalizing s with
  | nil =>
    obtain rfl : s' = s := h
    exact hlater
  | cons w ws ih => exact ⟨h.1, ih h.2⟩

/-- A job that may change a paused machine and leave it paused: a load that succeeds, or a job of
the embedding program. -/
def Work.Loads (w : Work σ) : Prop :=
  (∃ target, w.job = .order (.load target) ∧ w.answer = .ok .done) ∨
    ∃ effect, w.job = .custom effect

/-- What stands still from one moment to another. -/
structure StandsStill (m : Moment σ) (story : List (Entry σ)) (m' : Moment σ) : Prop where
  /-- No step emulates a frame, or any part of one. -/
  frameless : ∀ e ∈ events story, e.isFrame = false
  /-- No frame is counted. -/
  frame : m'.plane.barrier.frame = m.plane.barrier.frame
  /-- No ticket is released. -/
  releases : m'.plane.barrier.releases.Sublist m.plane.barrier.releases
  /-- No overlay is counted down; new ones are queued behind those that are there. -/
  timed : ∀ port : Port, (∀ e ∈ events story, e.Abstains port) →
    (m.plane.input.get port).timed <+: (m'.plane.input.get port).timed
  /-- The watches are not refreshed. -/
  watches : ∀ memory, WatchOp.resolveAll memory ∉ history (events story)
  /-- Nothing but the jobs themselves changes the machine, -/
  machine : Passes m.plane.machine (works story) m'.plane.machine
  /-- and of these only few do. -/
  kept : ∀ w ∈ works story, w.after = w.before ∨ w.Loads

end

/-! ## The run state -/

/-- What a job on a headless machine comes to. -/
theorem Work.obeyed {w : Work Headless} {order : Order} (hjob : w.job = .order order) :
    Headless.Obeyed w.before order w.answer w.after := by
  have hperformed := w.performed
  rw [hjob] at hperformed
  obtain ⟨⟨answer, machine⟩, hobey, h⟩ := Access.yields_bind_iff.mp hperformed
  obtain ⟨hanswer, hafter⟩ := Prod.mk.inj (Access.yields_pure_iff.mp h)
  rw [hanswer, (Prod.mk.inj hafter).2]
  exact Headless.obey_yields hobey

theorem Work.after_of_resolve {w : Work Headless} {names : List String}
    (hjob : w.job = .resolve names) : w.after = w.before := by
  have hperformed := w.performed
  rw [hjob] at hperformed
  exact congrArg (·.2.2) (Access.yields_pure_iff.mp hperformed)

/-- The run state after a job is the one that it sets, or the one before. -/
theorem Work.runState_after (w : Work Headless) :
    w.after.runState = w.sets?.getD w.before.runState := by
  unfold Work.sets?
  cases hjob : w.job with
  | order order =>
    have hobeyed := Work.obeyed hjob
    generalize w.answer = answer at hobeyed ⊢
    generalize w.after = after at hobeyed ⊢
    cases hobeyed with
    | refused h =>
      cases order with
      | setRunState state => exact absurd rfl (h state)
      | _ => rfl
    | answered h =>
      cases order with
      | boot | load | setRunState => cases h
      | _ => rfl
    | booted | set => rfl
    | loaded h => exact Headless.runState_install h
  | resolve names => rw [Work.after_of_resolve hjob]; rfl
  | custom effect =>
    dsimp only
    split_ifs with hsame
    · exact hsame
    · rfl

variable {m m' m'' : Moment Headless} {entry : Entry Headless} {story later : List (Entry Headless)}

/-- A frame leaves the run state as it is, and nothing else but a job touches the machine. -/
theorem Tells.runState (h : Tells m entry m') :
    m'.plane.machine.runState = (lastSet? [entry]).getD m.plane.machine.runState := by
  cases h with
  | @work p first rest w hpending hjob hwatches hmachine =>
    rw [lastSet?_work]
    exact hmachine ▸ w.runState_after
  | event h he =>
    rcases h.machine he with hsame | ⟨-, pads, -, hframe⟩
    · rw [hsame]
      rfl
    · exact Headless.runState_of_runFrame hframe

theorem Story.runState (h : Story m story m') :
    m'.plane.machine.runState = (lastSet? story).getD m.plane.machine.runState := by
  induction h with
  | stop m => rfl
  | @next m m' m'' entry story hfirst _ ih =>
    rw [ih, hfirst.runState, lastSet?_cons entry story]
    cases lastSet? story <;> rfl

theorem Barrier.Moves.releases_sublist {b b' : Barrier} (h : b.Moves b') :
    b'.releases.Sublist b.releases := by
  cases h with
  | same | registered | closed => exact .refl _
  | collected t =>
    rw [collect_snd]
    exact List.filter_sublist

/-- No step is under way, and the next one emulates no frame unless a job has the machine run. -/
structure Paused (m : Moment Headless) : Prop where
  stage : m.stage = .serving
  runState : m.plane.machine.runState = .paused

namespace StandsStill

theorem refl (m : Moment Headless) : StandsStill m [] m where
  frameless := by simp [events]
  frame := rfl
  releases := .refl _
  timed _ _ := List.prefix_refl _
  watches := by simp [events, history]
  machine := rfl
  kept := by simp [works]

theorem append (h : StandsStill m story m') (hlater : StandsStill m' later m'') :
    StandsStill m (story ++ later) m'' where
  frameless := by
    rw [events_append]
    exact List.forall_mem_append.mpr ⟨h.frameless, hlater.frameless⟩
  frame := hlater.frame.trans h.frame
  releases := hlater.releases.trans h.releases
  timed port hlog := by
    rw [events_append, List.forall_mem_append] at hlog
    exact (h.timed port hlog.1).trans (hlater.timed port hlog.2)
  watches memory := by
    rw [events_append, history_append, List.mem_append, not_or]
    exact ⟨h.watches memory, hlater.watches memory⟩
  machine := by
    rw [works_append]
    exact h.machine.append hlater.machine
  kept := by
    rw [works_append]
    exact List.forall_mem_append.mpr ⟨h.kept, hlater.kept⟩

end StandsStill

/-- Nothing that is not a job begins a frame. -/
theorem Paused.step {e : Event} (hm : Paused m) (h : Step m e m') (he : e.isJob = false) :
    e.isFrame = false ∧ m'.plane.machine = m.plane.machine ∧ Paused m' := by
  have hframeless : e.isFrame = false ∧ m'.stage = .serving := by
    obtain ⟨hstage, hpaused⟩ := hm
    cases h with
    | begin hjobs hrunning => exact nomatch hpaused.symm.trans hrunning
    | sample | emulate | refresh | count => cases hstage
    | _ => exact ⟨rfl, hstage⟩
  rcases h.machine he with hsame | ⟨rfl, -⟩
  · exact ⟨hframeless.1, hsame, hframeless.2, hsame ▸ hm.runState⟩
  · cases hframeless.1

theorem not_resolveAll_of_frameless {e : Event} (h : e.isFrame = false) (memory : Memory) :
    WatchOp.resolveAll memory ∉ e.watchOps := by
  intro hmem
  cases e with
  | refresh => cases h
  | job names m =>
    obtain ⟨name, -, hop⟩ := List.mem_map.mp hmem
    cases hop
  | call =>
    obtain ⟨name, d, hop⟩ := define_of_mem_call hmem
    cases hop
  | define => cases List.mem_singleton.mp hmem
  | _ => cases hmem

theorem Paused.event {e : Event} (hm : Paused m) (h : Step m e m') (he : e.isJob = false) :
    StandsStill m [.event e] m' := by
  obtain ⟨hframeless, hmachine, -⟩ := hm.step h he
  have hmoves : m.plane.barrier.Moves m'.plane.barrier := by
    rcases h.barrier with ⟨rfl, -⟩ | ⟨hmoves, -⟩
    · cases hframeless
    · exact hmoves
  constructor
  case frameless => exact List.forall_mem_singleton.mpr hframeless
  case frame => exact hmoves.frame
  case releases => exact hmoves.releases_sublist
  case timed =>
    intro port hlog
    have hnone : e.samples port = false := by
      cases e with
      | sample => cases hframeless
      | _ => rfl
    rw [h.input_get]
    cases hop : e.inputOp? m.plane.options.mode with
    | none => exact List.prefix_refl _
    | some op =>
      have hcounts : op.countsFrame port = false :=
        (countsFrame_inputOp? (List.forall_mem_singleton.mp hlog) hop).trans hnone
      refine ⟨(op.overlay? port).toList, ?_⟩
      simp [PortInput.follow, InputOp.onPort, hcounts]
  case watches =>
    intro memory
    rw [events, List.map_singleton, history, List.flatMap_singleton]
    exact not_resolveAll_of_frameless hframeless memory
  case machine => exact hmachine
  case kept => simp [works, Entry.work?]

/-- A job that does not have a paused machine run leaves it as it is, unless it is a load or one of
the embedding program. -/
theorem Work.kept {w : Work Headless} (hbefore : w.before.runState = .paused)
    (hsets : w.sets? ≠ some .running) : w.after = w.before ∨ w.Loads := by
  cases hjob : w.job with
  | order order =>
    have hobeyed := Work.obeyed hjob
    rw [Work.sets?, hjob] at hsets
    rw [Work.Loads, hjob]
    generalize w.answer = answer at hobeyed hsets ⊢
    generalize w.after = after at hobeyed ⊢
    cases hobeyed with
    | refused | answered => exact .inl rfl
    | booted => exact absurd rfl hsets
    | loaded => exact .inr (.inl ⟨_, rfl, rfl⟩)
    | @set state =>
      refine .inl ?_
      cases state with
      | running => exact absurd rfl hsets
      | paused => rw [← hbefore]
  | resolve names => exact .inl (Work.after_of_resolve hjob)
  | custom effect => exact .inr (.inr ⟨effect, hjob⟩)

end ConsoleLink
