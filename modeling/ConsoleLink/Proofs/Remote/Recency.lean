import ConsoleLink.Machine.Headless
import ConsoleLink.Proofs.Remote.Lookup
import ConsoleLink.Proofs.Remote.Schedules

/-! # What a watch shows is no older than the frames that were waited for

A step emulates its frame, then refreshes the watches and only then counts the frame. So whoever was
told of a frame finds every value read since the machine ran it, whatever was done in between: jobs
that resolve watches before the frame, and watches that are defined anew at any time.
-/

namespace ConsoleLink

/-! ## Releases are not early -/

namespace Barrier

/-- No release is for a frame that is not counted. -/
def Timely (b : Barrier) : Prop := ∀ r ∈ b.releases, r.2 ≤ b.frame

variable {b b' : Barrier}

theorem Timely.moves (hb : b.Timely) (h : b.Moves b') : b'.Timely := by
  cases h with
  | same | registered | closed => exact hb
  | collected t =>
    rw [collect_snd]
    exact fun r hr => hb r (List.mem_of_mem_filter hr)

theorem Timely.advance (hb : b.Timely) : b.advance.Timely := by
  intro r hr
  rcases List.mem_append.mp hr with hr | hr
  · exact Nat.le_succ_of_le (hb r hr)
  · obtain ⟨t, -, rfl⟩ := List.mem_map.mp hr
    exact le_rfl

theorem Timely.le_of_collect {t : Ticket} {frame : Nat} (hb : b.Timely)
    (h : (b.collect t).1 = .ok (some frame)) : frame ≤ b.frame := by
  unfold collect at h
  split at h
  · rename_i found hfound
    obtain rfl := Option.some.inj (Except.ok.inj h)
    obtain ⟨before, after, hmem, -⟩ := List.lookup_eq_some_iff.mp hfound
    exact hb (t.id, found) (by rw [hmem]; simp)
  · split_ifs at h
    cases h

end Barrier

namespace Schedule

/-- How many frames the machine has run that are not counted yet. -/
def Stage.ahead : Stage → Nat
  | .emulated => 1
  | .refreshed => 1
  | _ => 0

/-- How many frames that are not counted yet every watch has been refreshed after. -/
def Stage.shown : Stage → Nat
  | .refreshed => 1
  | _ => 0

theorem Stage.shown_le_ahead (stage : Stage) : stage.shown ≤ stage.ahead := by
  cases stage with
  | refreshed => exact le_rfl
  | _ => exact Nat.zero_le _

namespace Event

/-- The frame count that the end of a wait reports. -/
def frameCount? : Event → Option Nat
  | .resume (.onFrame _ _) (.answered (.ok answer)) =>
    (answer.member? "frame_count").bind Json.asNat?
  | .giveUp (.onFrame _ _) (.answered (.ok answer)) =>
    (answer.member? "frame_count").bind Json.asNat?
  | .collect _ (.ok (some frame)) => some frame
  | _ => none

/-- The value of a watch that someone is shown. -/
def value? (name : String) : Event → Option String
  | .fetch other value => if other = name then value else none
  | .call method _ (.answered (.ok answer)) =>
    if method = "memwatch_values" then
      ((answer.member? "values").bind (·.member? name)).bind Json.asText?
    else none
  | _ => none

@[simp] theorem value?_fetch (name : String) (value : Option String) :
    (fetch name value).value? name = value := if_pos rfl

/-- A watch is neither defined nor read. -/
def Leaves (name : String) (e : Event) : Prop :=
  WatchHistory.definition? name e.watchOps = none ∧ WatchHistory.memory? name e.watchOps = none

end Event

variable {σ : Type} [Machine σ] {first m m' : Moment σ} {e : Event} {log : List Event}
  {name : String}

/-- A watch was read last on this memory of the machine, which had run at least so many frames. -/
def LastRead (first : Moment σ) (log : List Event) (name : String) (memory : Memory)
    (frames : Nat) : Prop :=
  ∃ (earlier later : List Event) (reading : Event) (m : Moment σ),
    log = earlier ++ reading :: later ∧ Run first earlier m ∧
      memory = Machine.memory m.plane.machine ∧
      WatchHistory.memory? name reading.watchOps = some memory ∧
      (∀ e ∈ later, e.Leaves name) ∧ frames ≤ emulations earlier

/-- A port was sampled with this pad in the frame that began last. -/
def Sampled (first : Moment σ) (log : List Event) (port : Port) (pad : Pad) : Prop :=
  ∃ (earlier later : List Event) (m : Moment σ),
    log = earlier ++ .sample port :: later ∧ .begin ∉ later ∧ Run first earlier m ∧
      pad = (m.plane.input.get port).advance.status (Machine.livePad m.plane.machine port)

theorem Sampled.concat {port : Port} {pad : Pad} (h : Sampled first log port pad)
    (he : e ≠ .begin) : Sampled first (log ++ [e]) port pad := by
  obtain ⟨earlier, later, m, rfl, hlater, hrun, hpad⟩ := h
  refine ⟨earlier, later ++ [e], m, by simp, ?_, hrun, hpad⟩
  rw [List.mem_append, List.mem_singleton]
  exact fun hbegin => hbegin.elim hlater (he ∘ Eq.symm)

theorem LastRead.mono {memory : Memory} {frames fewer : Nat}
    (h : LastRead first log name memory frames) (hle : fewer ≤ frames) :
    LastRead first log name memory fewer := by
  obtain ⟨earlier, later, reading, m, hlog, hrun, heq, hreading, hlater, hframes⟩ := h
  exact ⟨earlier, later, reading, m, hlog, hrun, heq, hreading, hlater, hle.trans hframes⟩

/-! ## One event -/

/-- An event counts a frame that the watches show, or it leaves the frames counted as they are. -/
theorem Step.barrier (h : Step m e m') :
    (e = .count ∧ m.stage = .refreshed ∧ m'.stage = .serving ∧
      m'.plane.barrier = m.plane.barrier.advance) ∨
    m.plane.barrier.Moves m'.plane.barrier ∧
      m'.stage.ahead = m.stage.ahead + (if e.isEmulation then 1 else 0) ∧
      (m'.stage.shown ≤ m.stage.shown ∨ ∃ memory, e = .refresh memory) := by
  cases h with
  | count => exact .inl ⟨rfl, rfl, rfl, rfl⟩
  | refresh => exact .inr ⟨.same, rfl, .inr ⟨_, rfl⟩⟩
  | call => exact .inr ⟨(ControlPlane.call_acts _ _ _).barrier, rfl, .inl le_rfl⟩
  | resume h => exact .inr ⟨(ControlPlane.resume_acts h).barrier, rfl, .inl le_rfl⟩
  | giveUp => exact .inr ⟨(ControlPlane.giveUp_acts _ _).barrier, rfl, .inl le_rfl⟩
  | @register stage p frames ticket b h =>
    refine .inr ⟨?_, rfl, .inl le_rfl⟩
    rcases p.barrier.register_cases frames with ⟨e, he⟩ | ⟨hok, -, -⟩
    · rw [he] at h
      cases h
    · rw [hok] at h
      cases h
      exact .registered rfl
  | collect => exact .inr ⟨.collected _, rfl, .inl le_rfl⟩
  | close => exact .inr ⟨.closed, rfl, .inl le_rfl⟩
  | emulate h =>
    rw [(ControlPlane.emulate_eq_some h).2]
    exact .inr ⟨.same, rfl, .inl le_rfl⟩
  | job | idle | begin | sample | define | fetch | input | submit | take | abandon
  | drop => exact .inr ⟨.same, rfl, .inl le_rfl⟩

theorem Step.frame_le (h : Step m e m') : m.plane.barrier.frame ≤ m'.plane.barrier.frame := by
  rcases h.barrier with ⟨-, -, -, hadvance⟩ | ⟨hmoves, -⟩
  · rw [hadvance]
    exact Nat.le_succ _
  · exact hmoves.frame.ge

theorem Step.timely (h : Step m e m') (hm : m.plane.barrier.Timely) : m'.plane.barrier.Timely := by
  rcases h.barrier with ⟨-, -, -, hadvance⟩ | ⟨hmoves, -⟩
  · rw [hadvance]
    exact hm.advance
  · exact hm.moves hmoves

theorem Step.counted (h : Step m e m') :
    m'.plane.barrier.frame + m'.stage.ahead =
      m.plane.barrier.frame + m.stage.ahead + if e.isEmulation then 1 else 0 := by
  rcases h.barrier with ⟨rfl, hbefore, hafter, hadvance⟩ | ⟨hmoves, hahead, -⟩
  · rw [hadvance, hbefore, hafter]
    rfl
  · rw [hmoves.frame, hahead, Nat.add_assoc]

/-- An event that leaves a watch as it is makes what the watch shows no older. -/
theorem Step.shown_le (h : Step m e m') (hleaves : e.Leaves name) :
    m'.plane.barrier.frame + m'.stage.shown ≤ m.plane.barrier.frame + m.stage.shown := by
  rcases h.barrier with ⟨-, hbefore, hafter, hadvance⟩ | ⟨hmoves, -, hshown | ⟨memory, rfl⟩⟩
  · rw [hadvance, hbefore, hafter]
    rfl
  · rw [hmoves.frame]
    omega
  · cases hleaves.2

theorem isEmulation_of_memory? {memory : Memory}
    (h : WatchHistory.memory? name e.watchOps = some memory) : e.isEmulation = false := by
  cases e with
  | emulate => cases h
  | _ => rfl

/-- The first action of a request defines watches and reads none. -/
theorem define_of_mem_call {method : String} {params : Json} {progress : Progress} {op : WatchOp}
    (h : op ∈ (Event.call method params progress).watchOps) : ∃ name d, op = .define name d := by
  unfold Event.watchOps at h
  dsimp only at h
  split at h
  · unfold Command.watchOps at h
    split at h
    · obtain ⟨d, -, rfl⟩ := List.mem_map.mp h
      exact ⟨d.1, d.2, rfl⟩
    · cases h
  · cases h

/-- An event reads watches on one memory or defines watches, and never both. -/
theorem Event.watchOps_cases (e : Event) :
    (∃ memory, ∀ op ∈ e.watchOps, (∃ name, op = .resolve name memory) ∨ op = .resolveAll memory) ∨
      ∀ op ∈ e.watchOps, ∃ name d, op = .define name d := by
  cases e with
  | job names memory =>
    refine .inl ⟨memory, fun op hop => ?_⟩
    obtain ⟨name, -, rfl⟩ := List.mem_map.mp hop
    exact .inl ⟨name, rfl⟩
  | refresh memory => exact .inl ⟨memory, fun op hop => .inr (List.mem_singleton.mp hop)⟩
  | define name d => exact .inr fun op hop => ⟨name, d, List.mem_singleton.mp hop⟩
  | call => exact .inr fun op hop => define_of_mem_call hop
  | _ => exact .inr nofun

theorem definition?_of_memory? {memory : Memory}
    (h : WatchHistory.memory? name e.watchOps = some memory) :
    WatchHistory.definition? name e.watchOps = none := by
  obtain ⟨op, hop, hread⟩ := WatchHistory.exists_op_of_memory? _ _ h
  rcases e.watchOps_cases with ⟨m, hreads⟩ | hdefines
  · rw [Option.eq_none_iff_forall_ne_some]
    intro d hd
    obtain ⟨other, hother, hdefined⟩ := WatchHistory.exists_op_of_definition? _ _ hd
    rcases hreads other hother with ⟨n, rfl⟩ | rfl <;> cases hdefined
  · obtain ⟨n, d, rfl⟩ := hdefines op hop
    cases hread

/-- What is read is the memory of the machine. -/
theorem Step.memory_eq {memory : Memory} (h : Step m e m')
    (hread : WatchHistory.memory? name e.watchOps = some memory) :
    memory = Machine.memory m.plane.machine := by
  obtain ⟨op, hop, hop'⟩ := WatchHistory.exists_op_of_memory? _ _ hread
  cases h with
  | job =>
    obtain ⟨n, -, rfl⟩ := List.mem_map.mp hop
    exact (Option.some.inj (Option.ite_none_right_eq_some.mp hop').2).symm
  | refresh =>
    rw [List.mem_singleton.mp hop] at hop'
    exact (Option.some.inj hop').symm
  | call =>
    obtain ⟨n, d, rfl⟩ := define_of_mem_call hop
    cases hop'
  | define =>
    rw [List.mem_singleton.mp hop] at hop'
    cases hop'
  | _ => cases hop

/-- The pads of a frame are those that its ports were sampled with so far. -/
theorem Step.sampling {pads : Pads} {ports : List Port} (h : Step m e m')
    (hstage : m'.stage = .sampling pads ports) :
    (m.stage = .sampling pads ports ∧ e ≠ .begin) ∨ ports = List.finRange portCount ∨
      ∃ port before, e = .sample port ∧ m.stage = .sampling before (port :: ports) ∧
        pads = before.set port (m.plane.samplePort port).1 port.isLt := by
  cases h with
  | job | idle | emulate | refresh | count => cases hstage
  | begin =>
    cases hstage
    exact .inr (.inl rfl)
  | sample =>
    cases hstage
    exact .inr (.inr ⟨_, _, rfl, rfl, rfl⟩)
  | _ => exact .inl ⟨hstage, nofun⟩

/-- The machine runs a frame once every port is sampled. -/
theorem Step.emulation (h : Step m .emulate m') :
    ∃ pads, m.stage = .sampling pads [] ∧
      Machine.runFrame pads m.plane.machine = some m'.plane.machine := by
  cases h with
  | emulate h => exact ⟨_, rfl, (ControlPlane.emulate_eq_some h).1⟩

/-! ## Schedules -/

/-- What holds after every schedule that starts with a machine that is not served yet. -/
structure Known (first : Moment σ) (log : List Event) (m : Moment σ) : Prop where
  run : Run first log m
  counted : emulations log = m.plane.barrier.frame + m.stage.ahead
  timely : m.plane.barrier.Timely
  recent : ∀ name memory, WatchHistory.memory? name (history log) = some memory →
    LastRead first log name memory (m.plane.barrier.frame + m.stage.shown)
  sampled : ∀ pads ports, m.stage = .sampling pads ports → ∀ port : Port, port ∉ ports →
    Sampled first log port (pads.get port)

theorem known_start (options : Options) (machine : σ) :
    Known (start options machine) [] (start options machine) where
  run := .stop _
  counted := rfl
  timely := nofun
  recent := nofun
  sampled := nofun

theorem Known.step (hm : Known first log m) (h : Step m e m') : Known first (log ++ [e]) m' where
  run := hm.run.append (.one h)
  counted := by
    rw [emulations_concat, hm.counted, h.counted]
  timely := h.timely hm.timely
  recent name memory hmemory := by
    rw [history_concat, WatchHistory.memory?_append_history] at hmemory
    cases hread : WatchHistory.memory? name e.watchOps with
    | some found =>
      -- the event itself is the reading
      rw [definition?_of_memory? hread, hread] at hmemory
      obtain rfl := Option.some.inj hmemory
      refine ⟨log, [], e, m, rfl, hm.run, h.memory_eq hread, hread, by simp, ?_⟩
      have hcount := h.counted
      rw [isEmulation_of_memory? hread] at hcount
      have hshown := m'.stage.shown_le_ahead
      rw [hm.counted]
      simp only [Bool.false_eq_true, if_false] at hcount
      omega
    | none =>
      rw [hread] at hmemory
      split_ifs at hmemory with hdefined
      rw [Option.none_or] at hmemory
      have hleaves : e.Leaves name := ⟨Option.not_isSome_iff_eq_none.mp hdefined, hread⟩
      obtain ⟨earlier, later, reading, m₁, rfl, hrun, heq, hreading, hlater, hframes⟩ :=
        hm.recent name memory hmemory
      refine ⟨earlier, later ++ [e], reading, m₁, by simp, hrun, heq, hreading, ?_,
        (h.shown_le hleaves).trans hframes⟩
      intro other hother
      rcases List.mem_append.mp hother with hother | hother
      · exact hlater other hother
      · rwa [List.mem_singleton.mp hother]
  sampled pads ports hstage port hport := by
    rcases h.sampling hstage with ⟨hsame, he⟩ | rfl | ⟨other, before, rfl, hbefore, rfl⟩
    · exact (hm.sampled pads ports hsame port hport).concat he
    · exact absurd (List.mem_finRange port) hport
    · by_cases hother : port = other
      · subst hother
        refine ⟨log, [], m, rfl, List.not_mem_nil, hm.run, ?_⟩
        rw [← ControlPlane.samplePort_fst]
        exact Vector.getElem_set_self _
      · have hval : other.val ≠ port.val := fun hval => hother (Fin.ext hval).symm
        have hearlier := hm.sampled before (other :: ports) hbefore port
          (List.not_mem_cons_of_ne_of_not_mem hother hport)
        have hpad : (before.set other (m.plane.samplePort other).1 other.isLt).get port =
            before.get port := Vector.getElem_set_ne _ _ hval
        rw [hpad]
        exact hearlier.concat nofun

theorem Run.known {options : Options} {machine : σ} (h : Run (start options machine) log m) :
    Known (start options machine) log m :=
  h.keeps_along (Known (start options machine)) Known.step [] (known_start options machine)

/-! ## Frames that are reported and values that are shown -/

theorem asNat?_frameAnswer (holder : Option Port) (frame : Nat) :
    ((ControlPlane.frameAnswer holder frame).member? "frame_count").bind Json.asNat? =
      some (frame % UInt64.size) := by
  have hcount : ((ControlPlane.frameAnswer holder frame).member? "frame_count") =
      some (.nat frame) := by
    cases holder <;>
      simp [ControlPlane.frameAnswer, Result.ok, Result.queued, Result.frameCount, Result.port,
        Json.object, Json.member?, NameMap.ofList, NameMap.find?_insert]
  rw [hcount]
  simp [Json.nat, Json.asNat?, Number.ofNat, Number.toNat?]

/-- No frame is reported that is not counted. -/
theorem Step.le_of_frameCount? {frames : Nat} (h : Step m e m')
    (hm : m.plane.barrier.Timely) (hframes : e.frameCount? = some frames) :
    frames ≤ m.plane.barrier.frame := by
  have hreported : ∀ {t : Ticket} {holder : Option Port} {frame : Nat},
      (m.plane.barrier.collect t).1 = .ok (some frame) →
      ((ControlPlane.frameAnswer holder frame).member? "frame_count").bind Json.asNat? =
        some frames → frames ≤ m.plane.barrier.frame := by
    intro t holder frame hcollect hframe
    rw [asNat?_frameAnswer, Option.some.injEq] at hframe
    rw [← hframe]
    exact (Nat.mod_le _ _).trans (hm.le_of_collect hcollect)
  cases h with
  | @resume stage p q pending progress h =>
    cases pending with
    | onFrame ticket holder =>
      rw [resume_onFrame] at h
      obtain ⟨rfl, -⟩ := Prod.mk.inj (Access.yields_pure_iff.mp h)
      rcases hcollect : (p.barrier.collect ticket).1 with e | _ | frame <;>
        rw [hcollect] at hframes
      · cases hframes
      · cases hframes
      · exact hreported hcollect hframes
    | _ => cases hframes
  | @giveUp stage p pending =>
    cases pending with
    | onFrame ticket holder =>
      rw [giveUp_onFrame] at hframes
      rcases hcollect : (p.barrier.collect ticket).1 with e | _ | frame <;>
        rw [hcollect] at hframes
      · cases hframes
      · cases hframes
      · exact hreported hcollect hframes
    | _ => cases hframes
  | @collect stage p ticket =>
    rcases hcollect : (p.barrier.collect ticket).1 with e | _ | frame <;>
      rw [hcollect] at hframes
    · cases hframes
    · cases hframes
    · obtain rfl := Option.some.inj hframes
      exact hm.le_of_collect hcollect
  | _ => cases hframes

theorem Step.value?_of_value? {v : String} (h : Step m e m') (hv : e.value? name = some v) :
    m.plane.watches.value? name = some v := by
  cases h with
  | fetch =>
    unfold Event.value? at hv
    dsimp only at hv
    split_ifs at hv with hname
    rwa [hname] at hv
  | @call stage p method params =>
    rcases hprogress : (p.call method params).1 with (error | answer) | pending
    · rw [hprogress] at hv
      cases hv
    · rw [hprogress] at hv
      unfold Event.value? at hv
      dsimp only at hv
      split_ifs at hv with hmethod
      subst hmethod
      obtain ⟨shown, hshown, htext⟩ := Option.bind_eq_some_iff.mp hv
      cases shown with
      | text s =>
        cases htext
        exact ControlPlane.value?_of_answered hprogress hshown
      | _ => cases htext
    · rw [hprogress] at hv
      cases hv
  | _ => cases hv

theorem Run.frame_le (h : Run m log m') : m.plane.barrier.frame ≤ m'.plane.barrier.frame := by
  induction h with
  | stop m => exact le_rfl
  | next hfirst _ ih => exact hfirst.frame_le.trans ih

/-- Whatever the order in which the parts of the steps, the jobs and the actions of requests come:
the frames counted are those that the machine has run, but for one that it has run and that is not
counted yet, and no job changes either. A value that is shown after a wait has reported a frame is
that of the watch as it is defined then, on what the memory was when the watch was read last, and by
then the machine had run at least so many frames. What the machine runs is its own frame, with the
pads that the ports were sampled with since the frame began. -/
theorem values_recent {options : Options} {machine : σ}
    (h : Run (start options machine) log m) :
    (emulations log = m.plane.barrier.frame ∨ emulations log = m.plane.barrier.frame + 1) ∧
    (∀ names memory m', Step m (.job names memory) m' → m'.plane.barrier = m.plane.barrier) ∧
    (∀ before told between shown after frames name v,
      log = before ++ told :: between ++ shown :: after → told.frameCount? = some frames →
      shown.value? name = some v →
      ∃ d memory, WatchHistory.definition? name (history (before ++ told :: between)) = some d ∧
        v = Watch.resolve memory d ∧
        LastRead (start options machine) (before ++ told :: between) name memory frames) ∧
    ∀ m', Step m .emulate m' →
      ∃ pads, (∀ port : Port, Sampled (start options machine) log port (pads.get port)) ∧
        Machine.runFrame pads m.plane.machine = some m'.plane.machine := by
  refine ⟨?_, ?_, ?_, ?_⟩
  · have hcounted := h.known.counted
    cases hstage : m.stage <;> rw [hstage] at hcounted
    · exact .inl hcounted
    · exact .inl hcounted
    · exact .inr hcounted
    · exact .inr hcounted
  · intro names memory m' hjob
    cases hjob
    rfl
  · rintro before told between shown after frames name v rfl hframes hv
    obtain ⟨m₂, hrun, hlater⟩ := Trace.append_iff.mp h
    obtain ⟨m₁, hbefore, hbetween⟩ := Trace.append_iff.mp hrun
    rcases hbetween with _ | ⟨htold, hbetween⟩
    rcases hlater with _ | ⟨hshown, -⟩
    have hframe : frames ≤ m₂.plane.barrier.frame :=
      (htold.le_of_frameCount? (Run.known hbefore).timely hframes).trans
        (htold.frame_le.trans (Run.frame_le hbetween))
    have hvalue := hshown.value?_of_value? hv
    rw [Run.value? hrun, WatchHistory.value?, Option.bind_eq_some_iff] at hvalue
    obtain ⟨d, hd, hvalue⟩ := hvalue
    obtain ⟨memory, hmemory, rfl⟩ := Option.map_eq_some_iff.mp hvalue
    exact ⟨d, memory, hd, rfl, ((Run.known hrun).recent name memory hmemory).mono (by omega)⟩
  · intro m' hemulate
    obtain ⟨pads, hstage, hmachine⟩ := hemulate.emulation
    exact ⟨pads, fun port => h.known.sampled pads [] hstage port List.not_mem_nil, hmachine⟩

/-- A wait for one frame, as a client writes it. -/
def waitOnce : Json := .object [("frames", .nat 1)]

/-- The first byte of RAM. -/
def coins : WatchDescriptor := ⟨Headless.ramBase, [], 1⟩

/-- A watch that is defined while the frame is under way shows, once the frame is waited for, what
the machine made of that frame. -/
theorem values_recent_coins :
    ∃ (before : List Event) (told shown : Event) (m : Moment Headless) (v : String),
      Run (start {} (Headless.make "states" 1)) (before ++ told :: [] ++ shown :: []) m ∧
      told.frameCount? = some 1 ∧ shown.value? "coins" = some v ∧
      ∃ d memory, WatchHistory.definition? "coins" (history (before ++ told :: [])) = some d ∧
        v = Watch.resolve memory d ∧
        LastRead (start {} (Headless.make "states" 1)) (before ++ told :: []) "coins" memory 1 := by
  let p : ControlPlane Headless := { machine := .make "states" 1 }
  let ticket : Ticket := ⟨0, 1⟩
  let r : ControlPlane Headless := { p with barrier := p.barrier.withWaiter ticket }
  let q := r.samplePads.2
  let q' : ControlPlane Headless := { q with watches := q.watches.define "coins" coins }
  have hmachine : q'.machine = r.machine := by
    change r.samplePads.2.machine = r.machine
    rw [ControlPlane.samplePads_snd]
  obtain ⟨s, hs⟩ : ∃ s, Machine.runFrame r.samplePads.1 q'.machine = some s := by
    rw [hmachine]
    exact Headless.exists_runFrame_iff.mpr (by decide)
  let u := ControlPlane.countFrame (ControlPlane.refreshWatches { q' with machine := s })
  have hcall : p.call "wait_frames" waitOnce = (.waiting (.onFrame ticket none), r) := rfl
  have hwait : Step ⟨.serving, p⟩ (.call "wait_frames" waitOnce (.waiting (.onFrame ticket none)))
      ⟨.serving, r⟩ := by
    have hstep : Step ⟨.serving, p⟩ (.call "wait_frames" waitOnce (p.call "wait_frames" waitOnce).1)
        ⟨.serving, (p.call "wait_frames" waitOnce).2⟩ := .call
    rwa [hcall] at hstep
  have hframe : Run ⟨.sampling r.samplePads.1 [], q⟩
      [.define "coins" coins, .emulate, .refresh _, .count] ⟨.serving, u⟩ :=
    .next .define <| .next (.emulate (ControlPlane.emulate_of_runFrame hs)) <|
      .next .refresh (.one .count)
  have hbegin : Run (start {} (Headless.make "states" 1)) _ ⟨.serving, u⟩ :=
    .next hwait (.next (.begin rfl rfl) ((sampling r _ _).append hframe))
  have hbarrier : u.barrier = (p.barrier.withWaiter ticket).advance := by
    change r.samplePads.2.barrier.advance = _
    rw [ControlPlane.samplePads, ControlPlane.samplePorts_snd]
  have hcollect : (u.barrier.collect ticket).1 = .ok (some 1) := by
    rw [hbarrier]
    rfl
  have htold : (u.resume (.onFrame ticket none)).Yields
      (.answered (.ok (ControlPlane.frameAnswer none 1)),
        { u with barrier := (u.barrier.collect ticket).2 }) := by
    rw [resume_onFrame, hcollect]
    exact .done _
  have hvalue : u.watches.value? "coins" =
      some (Watch.resolve (Machine.memory s) coins) := by
    change ((q.watches.define "coins" coins).resolveAll _).value? "coins" = _
    rw [Registry.value?, Registry.resolveAll, NameMap.find?_mapValues, Registry.find?_define,
      if_pos rfl]
    rfl
  have hreported : (Event.resume (.onFrame ticket none)
      (.answered (.ok (ControlPlane.frameAnswer none 1)))).frameCount? = some 1 :=
    asNat?_frameAnswer none 1
  have hshown : (Event.fetch "coins" (u.watches.value? "coins")).value? "coins" =
      some (Watch.resolve (Machine.memory s) coins) := by
    rw [Event.value?_fetch, hvalue]
  have hfetch : Step ⟨.serving, { u with barrier := (u.barrier.collect ticket).2 }⟩
      (.fetch "coins" (u.watches.value? "coins"))
      ⟨.serving, { u with barrier := (u.barrier.collect ticket).2 }⟩ := .fetch
  have hrun := (hbegin.append (.one (.resume htold))).append (.one hfetch)
  exact ⟨_, _, _, _, _, hrun, hreported, hshown,
    (values_recent hrun).2.2.1 _ _ [] _ [] 1 "coins" _ rfl hreported hshown⟩

end Schedule

end ConsoleLink
