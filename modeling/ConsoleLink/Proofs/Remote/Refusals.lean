import ConsoleLink.Machine.Headless
import ConsoleLink.Proofs.Remote.Exchange
import ConsoleLink.Proofs.Watch.Definitions

/-! # Requests that are refused

A malformed request is refused by its first action, which then changes nothing. Once a request waits
it can still fail, but no longer as malformed, whatever happens to the control plane in between.
-/

namespace ConsoleLink

namespace RemoteError

theorem isClientError_iff (e : RemoteError) :
    e.isClientError = true ↔ e.code = -32602 ∨ e.code = -32601 := by
  have hcode : e.code = invalidParamsCode ∨ e.code = unknownMethodCode ∨ e.code = serverCode := by
    unfold code
    split <;> simp
  unfold isClientError
  rcases hcode with h | h | h <;> rw [h] <;> decide

end RemoteError

/-- An error that tells of a failure of the server. -/
def ServerError (e : RemoteError) : Prop := e.isClientError = false

namespace Barrier

theorem collect_error {b : Barrier} {t : Ticket} {e : WaitError} (h : (b.collect t).1 = .error e) :
    e = .closed t.target := by
  unfold collect at h
  split at h
  · cases h
  · split at h
    · cases h
    · exact (Except.error.inj h).symm

end Barrier

variable {σ : Type} {p q : ControlPlane σ} {e : RemoteError}

namespace Result

theorem picture_error {f : Framebuffer} (h : picture f = .error e) : ServerError e := by
  unfold picture at h
  split at h
  · cases h
  · cases h
    rfl

theorem savePicture_error {f : Framebuffer} {path : String}
    (h : (savePicture f path).Yields (.error e)) : ServerError e := by
  unfold savePicture at h
  rw [Access.yields_bind_iff] at h
  obtain ⟨made, -, h⟩ := h
  cases made with
  | error reason =>
    cases Access.yields_pure_iff.mp h
    rfl
  | ok done =>
    dsimp only at h
    split at h
    · obtain ⟨written, -, h⟩ := Access.yields_bind_iff.mp h
      cases written with
      | error reason =>
        cases Access.yields_pure_iff.mp h
        rfl
      | ok done => cases Access.yields_pure_iff.mp h
    · obtain ⟨written, -, h⟩ := Access.yields_bind_iff.mp h
      cases written with
      | error reason =>
        cases Access.yields_pure_iff.mp h
        rfl
      | ok done =>
        cases Access.yields_pure_iff.mp h
        rfl

end Result

namespace ControlPlane

/-! ## First actions -/

theorem handIn_error {command : Command} {job : Job σ}
    (h : p.handIn command job = (.answered (.error e), q)) : q = p ∧ ServerError e := by
  unfold handIn at h
  split at h
  · cases h
  · cases h
    exact ⟨rfl, rfl⟩

theorem waitFor_error {frames : Nat} {next : Ticket → Pending}
    (h : p.waitFor frames next = (.answered (.error e), q)) : q = p := by
  unfold waitFor at h
  split at h
  · cases h
  · cases h
    rfl

/-- A command that fails at once has changed nothing. -/
theorem start_error {command : Command} (h : p.start command = (.answered (.error e), q)) :
    q = p := by
  cases command with
  | latch | enable | defineWatches => cases h
  | hold port overlay =>
    unfold start at h
    dsimp only at h
    split at h
    · cases h
    · exact waitFor_error h
  | readWatches names => exact (Prod.mk.inj h).2.symm
  | waitFrames frames => exact waitFor_error h
  | boot | save | load | describe | setRunState | screenshot | status => exact (handIn_error h).1

theorem call_error {method : String} {params : Json}
    (h : p.call method params = (.answered (.error e), q)) : q = p := by
  unfold call at h
  split at h
  · exact start_error h
  · exact (Prod.mk.inj h).2.symm

/-! ## Later actions -/

theorem answer_error {command : Command} {reply : Reply}
    (h : (p.answer command reply).Yields (.error e)) : ServerError e := by
  unfold answer at h
  split at h
  case h_8 => exact Result.picture_error (Access.yields_pure_iff.mp h).symm
  case h_9 => exact Result.savePicture_error h
  all_goals
    first
    | (cases Access.yields_pure_iff.mp h; rfl)
    | cases Access.yields_pure_iff.mp h

theorem resume_error {pending : Pending}
    (h : (p.resume pending).Yields (.answered (.error e), q)) : ServerError e := by
  cases pending with
  | queueing port overlay ticket => cases Access.yields_pure_iff.mp h
  | resolving definitions => exact (handIn_error (Access.yields_pure_iff.mp h).symm).2
  | onFrame ticket holder =>
    rw [resume_onFrame] at h
    have hanswer := congrArg Prod.fst (Access.yields_pure_iff.mp h)
    dsimp only at hanswer
    split at hanswer
    · cases hanswer
    · cases hanswer
    · rename_i cause hcause
      cases hanswer
      rw [Barrier.collect_error hcause]
      rfl
  | onJob command id =>
    unfold resume at h
    dsimp only at h
    split at h
    · cases Access.yields_pure_iff.mp h
    · cases Access.yields_pure_iff.mp h
      rfl
    · obtain ⟨result, hresult, h⟩ := Access.yields_bind_iff.mp h
      cases Access.yields_pure_iff.mp h
      exact answer_error hresult

theorem giveUp_error {pending : Pending} (h : p.giveUp pending = (.answered (.error e), q)) :
    ServerError e := by
  cases pending with
  | queueing | resolving => cases h
  | onFrame ticket holder =>
    rw [giveUp_onFrame] at h
    have hanswer := congrArg Prod.fst h
    dsimp only at hanswer
    split at hanswer
    · cases hanswer
      rfl
    · cases hanswer
    · rename_i cause hcause
      cases hanswer
      rw [Barrier.collect_error hcause]
      rfl
  | onJob command id =>
    unfold giveUp at h
    dsimp only at h
    split at h <;> cases h
    rfl

end ControlPlane

/-! ## Whole requests -/

/-- The course of a request: its actions one after another, each on whatever control plane it finds
and with what it makes of it. -/
inductive Course : Progress → List (ControlPlane σ × ControlPlane σ) → Progress → Prop where
  | stop (s : Progress) : Course s [] s
  | resume {p q : ControlPlane σ} {pending : Pending} {s t : Progress}
      {actions : List (ControlPlane σ × ControlPlane σ)}
      (h : (p.resume pending).Yields (s, q)) (hlater : Course s actions t) :
      Course (.waiting pending) ((p, q) :: actions) t
  | giveUp {p q : ControlPlane σ} {pending : Pending} {s t : Progress}
      {actions : List (ControlPlane σ × ControlPlane σ)}
      (h : p.giveUp pending = (s, q)) (hlater : Course s actions t) :
      Course (.waiting pending) ((p, q) :: actions) t

/-- What a request fails with is a failure of the server, unless it failed at once. -/
theorem Course.error {s t : Progress} {actions : List (ControlPlane σ × ControlPlane σ)}
    (h : Course s actions t) (ht : t = .answered (.error e)) :
    s = .answered (.error e) ∧ actions = [] ∨ ServerError e := by
  induction h with
  | stop s => exact .inl ⟨ht, rfl⟩
  | resume h _ ih =>
    rcases ih ht with ⟨hs, -⟩ | hserver
    · rw [hs] at h
      exact .inr (ControlPlane.resume_error h)
    · exact .inr hserver
  | giveUp h _ ih =>
    rcases ih ht with ⟨hs, -⟩ | hserver
    · rw [hs] at h
      exact .inr (ControlPlane.giveUp_error h)
    · exact .inr hserver

/-! ## All watches or none -/

/-- Exactly these watches were defined anew, none of them with a value yet. -/
structure Stored (p : ControlPlane σ) (ds : List (String × WatchDescriptor))
    (q : ControlPlane σ) : Prop where
  rest : q = { p with watches := q.watches }
  defined : ∀ d ∈ ds, NameMap.find? d.1 q.watches.entries = some ⟨d.2, none⟩
  kept : ∀ name ∉ ds.map Prod.fst,
    NameMap.find? name q.watches.entries = NameMap.find? name p.watches.entries

theorem stored_defineWatches (p : ControlPlane σ) {ds : List (String × WatchDescriptor)}
    (hnames : (ds.map Prod.fst).Nodup) : Stored p ds (p.defineWatches ds) where
  rest := rfl
  defined _ hd := p.watches.find?_defineAll_of_mem hnames hd
  kept _ hname := p.watches.find?_defineAll_of_not_mem hname

/-- Of the watches that a request writes all are stored, or it is refused and none is. -/
def AllOrNone (p : ControlPlane σ) (params : Json) : Prop :=
  (∃ ds q, List.Forall₂ Command.Defines (Command.watchMembers params) ds ∧
    p.call "memwatch" params = (.waiting (.resolving ds), q) ∧ Stored p ds q) ∨
  ∃ e, e.isClientError = true ∧ p.call "memwatch" params = (.answered (.error e), p) ∧
    (Command.watchMembers params = [] ∨
      ∃ entry ∈ Command.watchMembers params, ∀ d, ¬Command.Defines entry d)

theorem allOrNone_of_nodup (p : ControlPlane σ) {params : Json}
    (hnames : ((Command.watchMembers params).map Prod.fst).Nodup) : AllOrNone p params := by
  have hcall : Command.ofCall "memwatch" params = Command.memwatch params := rfl
  rcases Command.memwatch_cases params with ⟨ds, hds, hall⟩ | ⟨fault, hfault, hbad⟩
  · refine .inl ⟨ds, p.defineWatches ds, hall, ?_, stored_defineWatches p ?_⟩
    · rw [ControlPlane.call, hcall, hds]
      rfl
    · rwa [← Command.names_of_forall₂_defines hall]
  · refine .inr ⟨.invalidParams fault, rfl, ?_, hbad⟩
    rw [ControlPlane.call, hcall, hfault]
    rfl

/-- What a text writes has each of its watches once. -/
theorem allOrNone (p : ControlPlane σ) (params : Json.Document) : AllOrNone p params.value :=
  allOrNone_of_nodup p ((Command.names_watchMembers params).imp ne_of_lt)

theorem define_cases (p : ControlPlane σ) {specs : NameMap WatchSpec}
    (hnames : (NameMap.keys specs).Nodup) :
    (∃ ds q, List.Forall₂ (fun s d => Command.definition s.1 s.2 = .ok d) specs ds ∧
      p.define specs = (.ok (NameMap.keys specs), q) ∧ Stored p ds q) ∨
    ∃ e, e.isClientError = true ∧ p.define specs = (.error e, p) ∧
      ∃ s ∈ specs, Command.definition s.1 s.2 = .error e := by
  rcases Command.definitions_cases specs with ⟨ds, hds, hall⟩ | ⟨fault, hfault, hbad⟩
  · have hkeys := Command.names_of_forall₂_definition hall
    refine .inl ⟨ds, p.defineWatches ds, hall, ?_, stored_defineWatches p ?_⟩
    · rw [ControlPlane.define, hds]
      dsimp only
      rw [hkeys]
    · rwa [hkeys]
  · refine .inr ⟨.invalidParams fault, rfl, ?_, hbad⟩
    rw [ControlPlane.define, hfault]
    rfl

/-- A request that is answered as malformed had no effect: it was refused by its first action, which
left the control plane as it was. Of the watches that a request or the start of a session defines,
all are stored or none is; an object names each of them once. -/
theorem refused_without_effect (σ : Type) :
    (∀ (p q : ControlPlane σ) (method : String) (params : Json) (first : Progress)
        (actions : List (ControlPlane σ × ControlPlane σ)) (e : RemoteError),
      p.call method params = (first, q) → Course first actions (.answered (.error e)) →
      e.isClientError = true →
      (e.code = -32602 ∨ e.code = -32601) ∧ q = p ∧ actions = []) ∧
    (∀ (p : ControlPlane σ) (params : Json),
      ((Command.watchMembers params).map Prod.fst).Nodup →
      (∃ ds q, List.Forall₂ Command.Defines (Command.watchMembers params) ds ∧
        p.call "memwatch" params = (.waiting (.resolving ds), q) ∧ Stored p ds q) ∨
      ∃ e, e.isClientError = true ∧ p.call "memwatch" params = (.answered (.error e), p) ∧
        (Command.watchMembers params = [] ∨
          ∃ entry ∈ Command.watchMembers params, ∀ d, ¬Command.Defines entry d)) ∧
    ∀ (p : ControlPlane σ) (specs : NameMap WatchSpec), (NameMap.keys specs).Nodup →
      (∃ ds q, List.Forall₂ (fun s d => Command.definition s.1 s.2 = .ok d) specs ds ∧
        p.define specs = (.ok (NameMap.keys specs), q) ∧ Stored p ds q) ∨
      ∃ e, e.isClientError = true ∧ p.define specs = (.error e, p) ∧
        ∃ s ∈ specs, Command.definition s.1 s.2 = .error e := by
  refine ⟨?_, fun p _ hnames => allOrNone_of_nodup p hnames,
    fun p _ hnames => define_cases p hnames⟩
  intro p q method params first actions e hcall hcourse hclient
  rcases hcourse.error rfl with ⟨rfl, hactions⟩ | hserver
  · exact ⟨e.isClientError_iff.mp hclient, ControlPlane.call_error hcall, hactions⟩
  · rw [ServerError, hclient] at hserver
    cases hserver

/-- A control plane that nothing has been done to. -/
def untouched : ControlPlane Headless where
  machine := .make "states" 0

/-- Parameters that write two watches, the second of them badly. -/
def halfWritten : Json := .members
  [("coins", .members [("address", .text "80000000"), ("size", .nat 2)]), ("lives", .null)]

/-- A wire form whose size is out of bounds. -/
def widthless : NameMap WatchSpec := [("coins", ⟨"80000000", none, 0⟩)]

/-- Neither of two watches is stored if the second one is at fault. -/
theorem refused_without_effect_halfWritten :
    ((Command.watchMembers halfWritten).map Prod.fst).Nodup ∧ (NameMap.keys widthless).Nodup ∧
    ∃ e : RemoteError, untouched.call "memwatch" halfWritten = (.answered (.error e), untouched) ∧
      e.isClientError = true ∧ (e.code = -32602 ∨ e.code = -32601) ∧
      ∃ fault, untouched.define widthless = (.error fault, untouched) := by
  have hmembers : ((Command.watchMembers halfWritten).map Prod.fst).Nodup := by decide
  have hkeys : (NameMap.keys widthless).Nodup := by decide
  have hlives : Command.specOf "lives" .null =
      Command.refuse (.incompleteWatch "address" "lives") := rfl
  have hcoins : Command.definition "coins" ⟨"80000000", none, 0⟩ =
      Command.refuse (.badWatch "coins" (.invalidSize 0)) := by decide
  obtain ⟨hrefused, hmemwatch, hdefine⟩ := refused_without_effect Headless
  refine ⟨hmembers, hkeys, ?_⟩
  rcases hmemwatch untouched halfWritten hmembers with ⟨ds, q, hall, -⟩ | ⟨e, hclient, hcall, -⟩
  · cases hall with
    | cons _ hall =>
      cases hall with
      | cons hd _ =>
        obtain ⟨spec, hspec, -⟩ := hd
        rw [hlives] at hspec
        cases hspec
  · obtain ⟨hcode, -⟩ := hrefused _ _ _ _ _ _ _ hcall (.stop _) hclient
    refine ⟨e, hcall, hclient, hcode, ?_⟩
    rcases hdefine untouched widthless hkeys with ⟨ds, q, hall, -⟩ | ⟨fault, -, hfault, -⟩
    · cases hall with
      | cons hd _ =>
        rw [hcoins] at hd
        cases hd
    · exact ⟨fault, hfault⟩

end ConsoleLink
