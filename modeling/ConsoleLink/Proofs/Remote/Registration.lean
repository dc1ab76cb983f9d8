import ConsoleLink.Proofs.Remote.Errands
import ConsoleLink.Proofs.Text.Listing

/-! # Watches are found under the names they were given

A request that defines watches waits until each of them was read, and is answered with their names.
From then on, as long as nobody defines them anew, every listing of their names reads them back.
-/

namespace ConsoleLink

variable {σ : Type} {params : Json} {ds : List (String × WatchDescriptor)}

namespace Command

/-- What can be defined can be looked up. -/
theorem Defines.isLookupName {entry : String × Json} {d : String × WatchDescriptor}
    (h : Defines entry d) : isLookupName d.1 = true := by
  obtain ⟨spec, -, hd⟩ := h
  rw [name_of_definition hd]
  unfold definition at hd
  split_ifs at hd with hname
  · exact hname
  · cases hd

end Command

/-- Items that have no names but these are listed. -/
theorem listed_of_subset {items : List ListItem} {names : List String}
    (hitems : listedIn items ⊆ names) (hnames : ∀ name ∈ names, Command.isLookupName name = true) :
    ∀ item ∈ items, item.Listed := by
  intro item hitem
  by_cases hempty : item.name = ""
  · exact .inl hempty
  · have hmem : item.name ∈ listedIn items :=
      List.mem_filter.mpr ⟨List.mem_map_of_mem hitem, by simpa [String.isEmpty_iff] using hempty⟩
    exact .inr (hnames _ (hitems hmem))

namespace ControlPlane

theorem call_memwatch_of_accepted (p : ControlPlane σ) {command : Command}
    (h : Command.ofCall "memwatch" params = .ok command) :
    ∃ ds, List.Forall₂ Command.Defines (Command.watchMembers params) ds ∧
      (∀ progress, (Schedule.Event.call "memwatch" params progress).watchOps =
        ds.map fun d => .define d.1 d.2) ∧
      p.call "memwatch" params = (.waiting (.resolving ds), p.defineWatches ds) := by
  have hcall : Command.ofCall "memwatch" params = Command.memwatch params := rfl
  rcases Command.memwatch_cases params with ⟨ds, hds, hall⟩ | ⟨fault, hfault, -⟩
  · refine ⟨ds, hall, fun progress => ?_, ?_⟩
    · rw [Schedule.Event.watchOps, hcall, hds]
      rfl
    · rw [call, hcall, hds]
      rfl
  · rw [hcall, hfault] at h
    cases h

theorem resume_resolving (p : ControlPlane σ) (ds : List (String × WatchDescriptor))
    (h : p.jobs.dropped = false) :
    p.resume (.resolving ds) =
      pure (.waiting (.onJob (.defineWatches ds) p.jobs.issued),
        { p with jobs := Desk.withJob p.jobs (.resolve (ds.map Prod.fst)) true }) := by
  unfold resume
  dsimp only
  rcases p.handIn_cases (.defineWatches ds) (.resolve (ds.map Prod.fst)) with
    ⟨hdropped, -⟩ | ⟨-, hhanded⟩
  · rw [h] at hdropped
    cases hdropped
  · rw [hhanded]

/-- A request for values that names watches in a listing is answered at once. -/
theorem call_listing (p : ControlPlane σ) {items : List ListItem}
    (hparams : params.member? "names" = some (.text (listing items)))
    (hlisted : ∀ item ∈ items, item.Listed) (hitems : listedIn items ≠ []) :
    p.call "memwatch_values" params =
      (.answered (Result.values p.watches (listedIn items)), p) := by
  refine p.call_memwatchValues ?_
  rw [Command.memwatchValues_of_text hparams, listedNames_listing hlisted, if_neg hitems]

end ControlPlane

namespace Schedule

variable [Machine σ] {first m m' : Moment σ} {log later : List Event} {p : ControlPlane σ}
  {id : Nat} {options : Options} {machine : σ} {stage : Stage}

/-! ## Definitions that stay -/

/-- These definitions are the latest of their names. -/
def Defined (ds : List (String × WatchDescriptor)) (log : List Event) : Prop :=
  ∀ d ∈ ds, WatchHistory.definition? d.1 (history log) = some d.2

theorem Defined.append (h : Defined ds log) (hquiet : Quiet (ds.map Prod.fst) later) :
    Defined ds (log ++ later) := by
  intro d hd
  have hkept := hquiet.kept d.1 (List.mem_map_of_mem hd)
  have hnone := (WatchHistory.definition?_eq_none_iff d.1 _).mpr hkept
  rw [history_append, WatchHistory.definition?_append_history, hnone, Option.none_or]
  exact h d hd

theorem defined_of_watchOps {e : Event} (hnames : (ds.map Prod.fst).Nodup)
    (h : e.watchOps = ds.map fun d => .define d.1 d.2) (log : List Event) :
    Defined ds (log ++ [e]) := by
  intro d hd
  rw [history_concat, WatchHistory.definition?_append_history, h,
    WatchHistory.definition?_of_defines hnames hd, Option.some_or]

/-! ## What is read back -/

/-- Every listing of the names of watches that are defined reads them back: it is answered with
these watches alone, each with what its definition shows on the memory that it was read on last. A
listing with names that no watch with a value has is refused with those names. -/
structure ReadsBack (first : Moment σ) (log : List Event) (p : ControlPlane σ)
    (ds : List (String × WatchDescriptor)) : Prop where
  found : ∀ (params : Json) (items : List ListItem),
    params.member? "names" = some (.text (listing items)) → listedIn items ≠ [] →
    listedIn items ⊆ ds.map Prod.fst →
    ∃ values : NameMap Json,
      p.call "memwatch_values" params =
        (.answered (.ok (.members [("values", .members values)])), p) ∧
      values.Ordered ∧ (∀ name, name ∈ values.keys ↔ name ∈ listedIn items) ∧
      ∀ e ∈ values, ∃ d memory, (e.1, d) ∈ ds ∧ e.2 = .text (Watch.resolve memory d) ∧
        LastRead first log e.1 memory p.barrier.frame
  valued : ∀ d ∈ ds, (WatchHistory.value? d.1 (history log)).isSome
  refused : ∀ (params : Json) (items : List ListItem),
    params.member? "names" = some (.text (listing items)) → (∀ item ∈ items, item.Listed) →
    let missing := (listedIn items).filter fun name =>
      (WatchHistory.value? name (history log)).isNone
    missing ≠ [] →
    ∃ e, p.call "memwatch_values" params = (.answered (.error e), p) ∧ e.code = -32602 ∧
      e.message = "Unknown or unresolved memory watch: " ++ ", ".intercalate missing

theorem readsBack (hrun : Run (start options machine) log ⟨stage, p⟩)
    (hlookup : ∀ d ∈ ds, Command.isLookupName d.1 = true) (hdefined : Defined ds log)
    (hshown : Shown (ds.map Prod.fst) log) : ReadsBack (start options machine) log p ds := by
  have hvalue : ∀ d ∈ ds, ∃ memory, WatchHistory.memory? d.1 (history log) = some memory ∧
      p.watches.value? d.1 = some (Watch.resolve memory d.2) := by
    intro d hd
    obtain ⟨memory, hmemory⟩ := Option.isSome_iff_exists.mp (hshown d.1 (List.mem_map_of_mem hd))
    refine ⟨memory, hmemory, ?_⟩
    rw [hrun.value? d.1, WatchHistory.value?, hdefined d hd, hmemory]
    rfl
  refine ⟨?_, ?_, ?_⟩
  · intro params items hparams hitems hnames
    have hresolved : Result.missing p.watches (listedIn items) = [] := by
      rw [Result.missing_eq_nil_iff]
      intro name hname
      obtain ⟨d, hd, rfl⟩ := List.mem_map.mp (hnames hname)
      obtain ⟨memory, -, hv⟩ := hvalue d hd
      rw [hv]
      rfl
    have hordered : (Result.valueMembers p.watches (listedIn items)).Ordered :=
      NameMap.ordered_ofList _
    refine ⟨Result.valueMembers p.watches (listedIn items), ?_, hordered, ?_, ?_⟩
    · have hlisted := listed_of_subset hnames (List.forall_mem_map.mpr hlookup)
      rw [p.call_listing hparams hlisted hitems, Result.values_of_resolved hresolved]
      rfl
    · intro name
      rw [NameMap.mem_keys_iff, Result.find?_valueMembers]
      split_ifs with hname
      · obtain ⟨d, hd, rfl⟩ := List.mem_map.mp (hnames hname)
        obtain ⟨memory, -, hv⟩ := hvalue d hd
        simp [hv, hname]
      · simp [hname]
    · rintro ⟨name, shown⟩ he
      have hfind := hordered.find?_eq_some_iff.mpr he
      rw [Result.find?_valueMembers, Option.ite_none_right_eq_some] at hfind
      obtain ⟨hname, hshown⟩ := hfind
      obtain ⟨d, hd, rfl⟩ := List.mem_map.mp (hnames hname)
      obtain ⟨memory, hmemory, hv⟩ := hvalue d hd
      rw [hv] at hshown
      refine ⟨d.2, memory, hd, (Option.some.inj hshown).symm, ?_⟩
      exact (hrun.known.recent d.1 memory hmemory).mono (Nat.le_add_right _ _)
  · intro d hd
    obtain ⟨memory, -, hv⟩ := hvalue d hd
    rw [← hrun.value?, hv]
    rfl
  · intro params items hparams hlisted missing hmissing
    have hitems : listedIn items ≠ [] := by
      intro hnil
      apply hmissing
      change (listedIn items).filter _ = []
      rw [hnil]
      rfl
    have heq : Result.missing p.watches (listedIn items) = missing := by
      unfold Result.missing
      simp only [hrun.value?]
      rfl
    refine ⟨.invalidParams (.unresolvedWatches missing), ?_, rfl, rfl⟩
    rw [p.call_listing hparams hlisted hitems, Result.values_of_missing (heq ▸ hmissing), heq]
    rfl

/-! ## From the request to the values -/

namespace Event

/-- A request defines watches. -/
def defining (params : Json) (ds : List (String × WatchDescriptor)) : Event :=
  .call "memwatch" params (.waiting (.resolving ds))

/-- It hands in the job that reads them. -/
def handingIn (ds : List (String × WatchDescriptor)) (id : Nat) : Event :=
  .resume (.resolving ds) (.waiting (.onJob (.defineWatches ds) id))

/-- It is answered with their names. -/
def registering (ds : List (String × WatchDescriptor)) (id : Nat) : Event :=
  .resume (.onJob (.defineWatches ds) id)
    (.answered (.ok (.members [("registered", .array (ds.map fun d => .text d.1))])))

end Event

omit [Machine σ] in
theorem Entrusted.resume (hm : Entrusted id (ds.map Prod.fst) log ⟨stage, p⟩) :
    (p.resume (.onJob (.defineWatches ds) id) =
        pure (.waiting (.onJob (.defineWatches ds) id), p) ∧
      id ∈ p.jobs.pending.map (·.id)) ∨
    (p.resume (.onJob (.defineWatches ds) id) =
        pure (.answered (.ok (.members [("registered", .array (ds.map fun d => .text d.1))])),
          { p with jobs := (p.jobs.collect id).2 }) ∧
      Shown (ds.map Prod.fst) log) := by
  have hnames : Result.registered (ds.map Prod.fst) =
      .members [("registered", .array (ds.map fun d => .text d.1))] := by
    rw [Result.registered, List.map_map]
    rfl
  rw [← hnames]
  unfold ControlPlane.resume
  dsimp only
  rcases hm.collect with ⟨hdone, hshown⟩ | ⟨hnone, hqueued⟩
  · rcases hcollect : p.jobs.collect id with ⟨found, jobs⟩
    have hfound : found = some (.ok .done) := (congrArg Prod.fst hcollect).symm.trans hdone
    subst hfound
    exact .inr ⟨rfl, hshown⟩
  · have hcollect : p.jobs.collect id = (none, p.jobs) := hnone
    rw [hcollect]
    exact .inl ⟨rfl, hqueued⟩

theorem Step.resume_eq (stage : Stage) {q : ControlPlane σ} {pending : Pending}
    {progress : Progress} (h : p.resume pending = pure (progress, q)) :
    Step ⟨stage, p⟩ (.resume pending progress) ⟨stage, q⟩ :=
  .resume (h ▸ .done _)

theorem quiet_resume (names : List String) (pending : Pending) (progress : Progress) :
    Quiet names [.resume pending progress] where
  stays := by simp
  kept := by simp [history, Event.watchOps]

/-- Parameters that are accepted define the watches that they write. The request hands in a job that
reads these watches and, as soon as the job is done, is answered with an object that lists their
names, in the order of their bytes, and has nothing else; it waits no longer than until the
simulation has gone through its jobs. Then every listing of the names reads the watches back, until
one of them is defined anew. -/
theorem reads_back_registered {params : Json.Document} {log₀ : List Event} {stage₀ : Stage}
    {p₀ : ControlPlane σ} {command : Command} (hrun : Run (start options machine) log₀ ⟨stage₀, p₀⟩)
    (hserved : p₀.jobs.dropped = false)
    (haccepted : Command.ofCall "memwatch" params.value = .ok command) :
    ∃ ds p₁, List.Forall₂ Command.Defines (Command.watchMembers params.value) ds ∧
      ds.map Prod.fst = (Command.watchMembers params.value).map Prod.fst ∧
      (ds.map Prod.fst).Pairwise (fun a b => Text.utf8Bytes a < Text.utf8Bytes b) ∧
      p₀.call "memwatch" params.value = (.waiting (.resolving ds), p₁) ∧
      ∀ log₁ stage₁ p₂, Run ⟨stage₀, p₁⟩ log₁ ⟨stage₁, p₂⟩ → Quiet (ds.map Prod.fst) log₁ →
      ∃ id p₃, p₂.resume (.resolving ds) = pure (.waiting (.onJob (.defineWatches ds) id), p₃) ∧
      ∀ log₂ stage₂ p₄, Run ⟨stage₁, p₃⟩ log₂ ⟨stage₂, p₄⟩ → Quiet (ds.map Prod.fst) log₂ →
        (∀ e ∈ log₂, e.attended? ≠ some id) →
        (p₄.resume (.onJob (.defineWatches ds) id) =
            pure (.waiting (.onJob (.defineWatches ds) id), p₄) ∧
          Event.begin ∉ log₂ ∧ Event.idle ∉ log₂) ∨
        ∃ p₅, p₄.resume (.onJob (.defineWatches ds) id) =
            pure (.answered (.ok (.members [("registered", .array (ds.map fun d => .text d.1))])),
              p₅) ∧
          ∀ log₃ stage₃ p₆, Run ⟨stage₂, p₅⟩ log₃ ⟨stage₃, p₆⟩ → Quiet (ds.map Prod.fst) log₃ →
            ReadsBack (start options machine)
              (log₀ ++ [.defining params.value ds] ++ log₁ ++ [.handingIn ds id] ++ log₂ ++
                [.registering ds id] ++ log₃) p₆ ds := by
  obtain ⟨ds, hdefines, hops, hcall⟩ := p₀.call_memwatch_of_accepted haccepted
  have hnames := Command.names_of_forall₂_defines hdefines
  have hsortedNames : (ds.map Prod.fst).Pairwise (· < ·) :=
    hnames ▸ Command.names_watchMembers params
  have hlookup : ∀ d ∈ ds, Command.isLookupName d.1 = true := by
    intro d hd
    obtain ⟨entry, -, hentry⟩ := exists_mem_of_forall₂ hdefines hd
    exact hentry.isLookupName
  have hdefining : Step ⟨stage₀, p₀⟩ (.defining params.value ds) ⟨stage₀, p₀.defineWatches ds⟩ := by
    have hstep : Step ⟨stage₀, p₀⟩
        (.call "memwatch" params.value (p₀.call "memwatch" params.value).1)
        ⟨stage₀, (p₀.call "memwatch" params.value).2⟩ := .call
    rwa [hcall] at hstep
  have hdefined : Defined ds (log₀ ++ [.defining params.value ds]) :=
    defined_of_watchOps (hsortedNames.imp ne_of_lt) (hops _) log₀
  refine ⟨ds, p₀.defineWatches ds, hdefines, hnames.symm,
    hsortedNames.imp Text.lt_iff_utf8Bytes_lt.mp, hcall, ?_⟩
  intro log₁ stage₁ p₂ hrun₁ hquiet₁
  have hasked := (hrun.append (.one hdefining)).append hrun₁
  have hopen : p₂.jobs.dropped = false := (hrun₁.dropped_eq hquiet₁.stays).trans hserved
  let p₃ : ControlPlane σ :=
    { p₂ with jobs := Desk.withJob p₂.jobs (.resolve (ds.map Prod.fst)) true }
  have hhanded : p₂.resume (.resolving ds) =
      pure (.waiting (.onJob (.defineWatches ds) p₂.jobs.issued), p₃) :=
    p₂.resume_resolving ds hopen
  have hhanding := Step.resume_eq stage₁ hhanded
  have hgiven : Entrusted p₂.jobs.issued (ds.map Prod.fst)
      (log₀ ++ [.defining params.value ds] ++ log₁ ++ [.handingIn ds p₂.jobs.issued])
      ⟨stage₁, p₃⟩ :=
    entrusted_withJob (Run.numbered hasked ⟨nofun, nofun⟩) rfl
  refine ⟨p₂.jobs.issued, p₃, hhanded, ?_⟩
  intro log₂ stage₂ p₄ hrun₂ hquiet₂ hspares
  rcases (hrun₂.entrusted hquiet₂ hspares hgiven).resume with
    ⟨hwaits, hqueued⟩ | ⟨hanswered, hshown⟩
  · have hunserved : ¬(Event.begin ∈ log₂ ∨ Event.idle ∈ log₂) := fun hserved =>
      hrun₂.not_queued (Nat.lt_succ_self _) hserved hqueued
    exact .inl ⟨hwaits, not_or.mp hunserved⟩
  · have hregistering := Step.resume_eq stage₂ hanswered
    refine .inr ⟨_, hanswered, fun log₃ stage₃ p₆ hrun₃ hquiet₃ => ?_⟩
    have hend := (((hasked.append (.one hhanding)).append hrun₂).append (.one hregistering)).append
      hrun₃
    refine readsBack hend hlookup ?_ ?_
    · exact ((((hdefined.append hquiet₁).append (quiet_resume _ _ _)).append hquiet₂).append
        (quiet_resume _ _ _)).append hquiet₃
    · exact (hshown.append (quiet_resume _ _ _)).append hquiet₃

/-- The parameters of a request for a watch on the first byte of RAM. -/
def coinsParams : Json.Document :=
  .object [("coins", .object [("address", .text "80000000"), ("size", .nat 1)])]

/-- A listing in which a name stands twice, once between blanks, with a gap between the two. -/
def coinsTwice : List ListItem :=
  [{ before := [' '], name := "coins", after := ['\t', ' '] }, { name := "" }, { name := "coins" }]

/-- A machine is handed a watch, does the job in its next step and is asked for the value. -/
theorem reads_back_registered_coins :
    ∃ (log : List Event) (stage : Stage) (p : ControlPlane Headless) (values : NameMap Json),
      Run (start {} (Headless.make "states" 1)) (log ++ [.registering [("coins", coins)] 0])
        ⟨stage, p⟩ ∧
      p.call "memwatch_values" (.members [("names", .text " coins\t ,,coins")]) =
        (.answered (.ok (.members [("values", .members values)])), p) ∧
      ∀ name, name ∈ values.keys ↔ name = "coins" := by
  have haccepted : Command.ofCall "memwatch" coinsParams.value =
      .ok (.defineWatches [("coins", coins)]) := rfl
  obtain ⟨ds, p₁, -, -, -, hcall, hrest⟩ := reads_back_registered
    (Trace.stop (start {} (Headless.make "states" 1))) rfl haccepted
  let p₀ : ControlPlane Headless := { machine := .make "states" 1 }
  have hwaiting : p₀.call "memwatch" coinsParams.value =
      (.waiting (.resolving [("coins", coins)]), p₀.defineWatches [("coins", coins)]) := rfl
  obtain ⟨hds, rfl⟩ := Prod.mk.inj (hwaiting.symm.trans hcall)
  cases hds
  have hdefining : Step ⟨.serving, p₀⟩ (.defining coinsParams.value [("coins", coins)])
      ⟨.serving, p₀.defineWatches [("coins", coins)]⟩ := .call
  obtain ⟨id, p₃, hresume, hrest⟩ := hrest [] _ _ (.stop _) ⟨nofun, nofun⟩
  have hhanding := Step.resume_eq .serving hresume
  rw [ControlPlane.resume_resolving _ _ rfl] at hresume
  obtain ⟨hid, rfl⟩ := Prod.mk.inj (Access.done.inj hresume)
  cases hid
  let p₃ : ControlPlane Headless :=
    { p₀.defineWatches [("coins", coins)] with
      jobs := Desk.withJob {} (.resolve ["coins"]) true }
  let p₄ : ControlPlane Headless :=
    { p₃ with
      jobs := Desk.withoutFirst p₃.jobs ⟨0, .resolve ["coins"], true⟩ [] (.ok .done)
      watches := p₃.watches.resolveNames (Machine.memory p₃.machine) ["coins"] }
  have hqueued : p₃.jobs.pending = [⟨0, .resolve ["coins"], true⟩] := rfl
  have hran : (p₃.jobs.runNext ControlPlane.perform (p₃.watches, p₃.machine)).Yields
      (p₄.jobs, p₄.watches, p₄.machine) := .done _
  have hjob : Step ⟨.serving, p₃⟩ (.job ["coins"] (Machine.memory p₃.machine)) ⟨.serving, p₄⟩ :=
    .job hqueued hran
  have hbegin : Step ⟨.serving, p₄⟩ .begin
      ⟨.sampling (.replicate portCount .neutral) (List.finRange portCount), p₄⟩ := .begin rfl rfl
  rcases hrest _ _ p₄ (.next hjob (.one hbegin)) ⟨by simp, by simp [history, Event.watchOps]⟩
      (by simp [Event.attended?]) with ⟨-, hunserved, -⟩ | ⟨p₅, hanswered, hrest⟩
  · simp at hunserved
  · have hregistering := Step.resume_eq (.sampling (.replicate portCount .neutral)
      (List.finRange portCount)) hanswered
    have hlisted : listedIn coinsTwice = ["coins", "coins"] := by simp [listedIn, coinsTwice]
    obtain ⟨values, hvalues, -, hkeys, -⟩ := (hrest [] _ _ (.stop _) ⟨nofun, nofun⟩).found
      (.members [("names", .text " coins\t ,,coins")]) coinsTwice rfl (by simp [hlisted])
      (by simp [hlisted])
    have hrun :=
      Trace.next hdefining (.next hhanding (.next hjob (.next hbegin (.one hregistering))))
    refine ⟨[_, _, _, _], _, p₅, values, hrun, hvalues, fun name => ?_⟩
    rw [hkeys, hlisted]
    simp

end Schedule

end ConsoleLink
