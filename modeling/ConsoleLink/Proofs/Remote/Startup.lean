import ConsoleLink.Program
import ConsoleLink.Proofs.Json.Sorted
import ConsoleLink.Proofs.Remote.Schedules
import ConsoleLink.Proofs.Watch.WireForms

/-! # Watches from the start and watches from a request

The program may start with watches that are written in a text, and a client may ask for watches.
From the text of one object both come to the same watches with the same values, or both refuse it.
The exception is a surrogate without a partner: no request can carry it, but the start passes over
it where nothing is looked for.
-/

namespace ConsoleLink

/-! ## The watches that definitions come to -/

/-- The watches are the defined ones, each with what it shows on a memory. -/
def Registry.Shows (r : Registry) (m : Memory) (ds : List (String × WatchDescriptor)) : Prop :=
  (∀ name, name ∈ r.names ↔ name ∈ ds.map Prod.fst) ∧
    ∀ d ∈ ds, NameMap.find? d.1 r.entries = some ⟨d.2, some (Watch.resolve m d.2)⟩

/-- The watches of some definitions, resolved in turn. -/
def Registry.resolved (m : Memory) (ds : List (String × WatchDescriptor)) : Registry :=
  (({} : Registry).defineAll ds).resolveNames m (ds.map Prod.fst)

theorem Registry.shows_resolved (m : Memory) {ds : List (String × WatchDescriptor)}
    (hnames : (ds.map Prod.fst).Nodup) : (resolved m ds).Shows m ds := by
  have hfollow : resolved m ds = follow {} (ds.map (fun d => .define d.1 d.2) ++
      (ds.map Prod.fst).map fun name => .resolve name m) := by
    rw [resolved, defineAll_eq_follow, resolveNames_eq_follow, follow_append]
  constructor
  · intro name
    rw [hfollow, mem_names_follow]
    simp [names, NameMap.keys]
  · intro d hd
    have hresolves : WatchHistory.definition? d.1
        ((ds.map Prod.fst).map fun name => .resolve name m) = none := by
      simp [WatchHistory.definition?_eq_none_iff]
    have hmemory := WatchHistory.memory?_of_resolves d.1 (List.mem_map_of_mem hd) m
    rw [hfollow, find?_follow_empty, WatchHistory.definition?_append_history, hresolves,
      Option.none_or, WatchHistory.definition?_of_defines hnames hd,
      WatchHistory.memory?_append_history, hresolves, hmemory]
    rfl

namespace Command

/-- A request whose watches are an object stands for their definitions, if these can be had. -/
theorem ofCall_memwatch_eq_ok_iff {members : List (String × Json)} (hsome : members ≠ [])
    {ds : List (String × WatchDescriptor)} :
    ofCall "memwatch" (.members [("watches", .members members)]) = .ok (.defineWatches ds) ↔
      ∃ specs, members.mapM (fun e => specOf e.1 e.2) = .ok specs ∧ definitions specs = .ok ds := by
  have hcall : ofCall "memwatch" (.members [("watches", .members members)]) = (do
      let specs ← members.mapM fun e => specOf e.1 e.2
      return .defineWatches (← definitions specs)) := by
    cases members with
    | nil => exact absurd rfl hsome
    | cons m members => rfl
  rw [hcall]
  constructor
  · intro h
    obtain ⟨specs, hspecs, h⟩ := bind_eq_ok.mp h
    obtain ⟨ds', hds, h⟩ := bind_eq_ok.mp h
    cases h
    exact ⟨specs, hspecs, hds⟩
  · rintro ⟨specs, hspecs, hds⟩
    exact (bind_of_ok hspecs _).trans (bind_of_ok hds _)

end Command

variable {σ : Type} [Machine σ]

namespace ControlPlane

/-! ## The start -/

/-- Starts with the watches of a text: whether they are accepted, and what watches there are
then. -/
def startedWith (p : ControlPlane σ) (text : String) : Bool × Registry :=
  match Config.readWatches text with
  | .error _ => (false, p.watches)
  | .ok specs =>
    match Program.startWatches p specs with
    | .ok q => (true, q.watches)
    | .error _ => (false, (p.define specs).2.watches)

variable (options : Options) (s : σ)

/-- The start takes the watches of a text over, or it refuses them and there are none. -/
theorem startedWith_cases (text : String) :
    (∃ specs ds, Config.readWatches text = .ok specs ∧ Command.definitions specs = .ok ds ∧
      ({ options := options, machine := s } : ControlPlane σ).startedWith text =
        (true, .resolved (Machine.memory s) ds)) ∨
    (∀ specs ds, Config.readWatches text = .ok specs → Command.definitions specs ≠ .ok ds) ∧
      ({ options := options, machine := s } : ControlPlane σ).startedWith text = (false, {}) := by
  unfold startedWith
  cases hspecs : Config.readWatches text with
  | error e => exact .inr ⟨nofun, rfl⟩
  | ok specs =>
    cases hds : Command.definitions specs with
    | ok ds =>
      refine .inl ⟨specs, ds, rfl, hds, ?_⟩
      simp only [Program.startWatches, define, hds]
      rfl
    | error e =>
      refine .inr ⟨?_, ?_⟩
      · rintro _ ds ⟨⟩
        rw [hds]
        nofun
      · simp only [Program.startWatches, define, hds]

/-! ## A request -/

/-- Carries out a request whose watches are written in a text: whether they are accepted, and what
watches there are then. A text that writes no value is in no request. -/
def requestedWith (p : ControlPlane σ) (text : String) : Access (Bool × Registry) :=
  match Json.parse text with
  | .error _ => pure (false, p.watches)
  | .ok v => do
    let (result, q) ← Program.answerPaused "memwatch" (.members [("watches", v)]) p
    return (result.isOk, q.watches)

variable {text : String}

/-- A request takes the watches of an object over, or one of them is at fault and there are none. -/
theorem requestedWith_cases {members : List (String × Json)} (hsome : members ≠ [])
    (hparse : Json.parse text = .ok (.members members)) :
    (∃ specs ds, members.mapM (fun e => Command.specOf e.1 e.2) = .ok specs ∧
      Command.definitions specs = .ok ds ∧ List.Forall₂ Command.Defines members ds ∧
      ({ options := options, machine := s } : ControlPlane σ).requestedWith text =
        pure (true, .resolved (Machine.memory s) ds)) ∨
    (∀ specs ds, members.mapM (fun e => Command.specOf e.1 e.2) = .ok specs →
        Command.definitions specs ≠ .ok ds) ∧
      (∃ entry ∈ members, ∀ d, ¬Command.Defines entry d) ∧
      ({ options := options, machine := s } : ControlPlane σ).requestedWith text =
        pure (false, {}) := by
  rw [requestedWith, hparse]
  dsimp only
  rcases Command.memwatch_cases (.members [("watches", .members members)]) with
    ⟨ds, hds, hall⟩ | ⟨fault, hfault, hbad⟩
  · change Command.ofCall "memwatch" _ = _ at hds
    obtain ⟨specs, hspecs, hdefinitions⟩ := (Command.ofCall_memwatch_eq_ok_iff hsome).mp hds
    refine .inl ⟨specs, ds, hspecs, hdefinitions, hall, ?_⟩
    rw [Program.answerPaused, call, hds]
    rfl
  · change Command.ofCall "memwatch" _ = _ at hfault
    refine .inr ⟨fun specs ds hspecs hdefinitions => ?_, hbad.resolve_left hsome, ?_⟩
    · have hok := (Command.ofCall_memwatch_eq_ok_iff hsome).mpr ⟨specs, hspecs, hdefinitions⟩
      exact nomatch hok.symm.trans hfault
    · rw [Program.answerPaused, call, hfault]
      rfl

/-- A text with a surrogate that has no partner is in no request. -/
theorem requestedWith_of_not_paired {levels : Nat} {v : Json}
    (htext : Json.WritesText Json.Passable levels text v) (hle : levels ≤ Json.maxLevels)
    (hpaired : ¬Json.WritesText Json.Paired levels text v) (p : ControlPlane σ) :
    p.requestedWith text = pure (false, p.watches) := by
  cases hparse : Json.parse text with
  | ok w => exact absurd (htext.paired hle hparse) hpaired
  | error e => rw [requestedWith, hparse]

/-! ## One outcome -/

/-- From a text with all surrogates in pairs, the start and a request come to the same watches, or
some member is at fault and both refuse it. -/
theorem outcome_of_paired {levels : Nat} {members : List (String × Json)}
    (htext : Json.WritesText Json.Paired levels text (.members members))
    (hle : levels ≤ Json.maxLevels) (hsome : members ≠ [])
    (hobjects : ∀ m ∈ members, ∃ fields, m.2 = .members fields) :
    let p : ControlPlane σ := { options := options, machine := s }
    (∃ ds, List.Forall₂ Command.Defines members ds ∧
      p.startedWith text = (true, .resolved (Machine.memory s) ds) ∧
      p.requestedWith text = pure (true, .resolved (Machine.memory s) ds)) ∨
    (∃ entry ∈ members, ∀ d, ¬Command.Defines entry d) ∧
      p.startedWith text = (false, {}) ∧ p.requestedWith text = pure (false, {}) := by
  intro p
  have hread : ∀ {specs}, Config.readWatches text = .ok specs ↔
      members.mapM (fun e => Command.specOf e.1 e.2) = .ok specs :=
    readWatches_eq_ok_iff htext hle hobjects
  rcases startedWith_cases options s text with
    ⟨specs, ds, hspecs, hds, hstarted⟩ | ⟨hnone, hstarted⟩ <;>
  rcases requestedWith_cases options s hsome (htext.parse hle) with
    ⟨specs', ds', hspecs', hds', hdefines, hrequested⟩ | ⟨hnone', hbad, hrequested⟩
  · obtain rfl : specs = specs' := Except.ok.inj ((hread.mp hspecs).symm.trans hspecs')
    obtain rfl : ds = ds' := Except.ok.inj (hds.symm.trans hds')
    exact .inl ⟨ds, hdefines, hstarted, hrequested⟩
  · exact absurd hds (hnone' specs ds (hread.mp hspecs))
  · exact absurd hds' (hnone specs' ds' (hread.mpr hspecs'))
  · exact .inr ⟨hbad, hstarted, hrequested⟩

/-- From the text of an object of objects, the start and a request have the same outcome: whether
the watches are accepted, and what watches there are then. Accepted, they are the definitions that
the members stand for, with what these show; refused, there are none, and some member is at fault.
If only the start accepts a text, a surrogate in it has no partner, and it is in no request. -/
theorem requestedWith_eq_startedWith_or {members : List (String × Json)}
    (htext : Json.WritesText Json.Passable 99 text (.members members)) (hsome : members ≠ [])
    (hobjects : ∀ m ∈ members, ∃ fields, m.2 = .members fields) :
    let p : ControlPlane σ := { options := options, machine := s }
    let paired := Json.WritesText Json.Paired 99 text (.members members)
    ∃ requested, p.requestedWith text = pure requested ∧
      (requested = p.startedWith text ∨
        ¬paired ∧ requested = (false, {}) ∧ (p.startedWith text).1 = true) ∧
      ((p.startedWith text).1 = false → (p.startedWith text).2 = {}) ∧
      (requested.1 = false → requested.2 = {}) ∧
      (requested.1 = true → paired ∧ ∃ ds, List.Forall₂ Command.Defines members ds ∧
        requested.2.Shows (Machine.memory s) ds) ∧
      (paired → requested.1 = false → ∃ entry ∈ members, ∀ d, ¬Command.Defines entry d) := by
  have hlevels : 99 ≤ Json.maxLevels := by decide
  intro p paired
  by_cases hpaired : paired
  case pos =>
    rcases outcome_of_paired options s hpaired hlevels hsome hobjects with
      ⟨ds, hdefines, hstarted, hrequested⟩ | ⟨hbad, hstarted, hrequested⟩
    · have hnames : (ds.map Prod.fst).Nodup := by
        rw [← Command.names_of_forall₂_defines hdefines]
        cases Json.sorted_of_parse (hpaired.parse hlevels) with
        | members hkeys =>
          exact (NameMap.ordered_iff.mp hkeys).imp fun hlt => ne_of_lt hlt
      have hshows := Registry.shows_resolved (Machine.memory s) hnames
      refine ⟨_, hrequested, .inl hstarted.symm, ?_, nofun,
        fun _ => ⟨hpaired, ds, hdefines, hshows⟩,
        nofun⟩
      rw [hstarted]
      nofun
    · refine ⟨_, hrequested, .inl hstarted.symm, ?_, fun _ => rfl, nofun, fun _ _ => hbad⟩
      rw [hstarted]
      exact fun _ => rfl
  case neg =>
    refine ⟨_, requestedWith_of_not_paired htext hlevels hpaired p, ?_, ?_, fun _ => rfl, nofun,
      fun h => absurd h hpaired⟩ <;>
    rcases startedWith_cases options s text with
      ⟨_, _, -, -, hstarted⟩ | ⟨-, hstarted⟩
    · exact .inr ⟨hpaired, rfl, congrArg Prod.fst hstarted⟩
    · exact .inl hstarted.symm
    · exact fun h => nomatch h.symm.trans (congrArg Prod.fst hstarted)
    · exact fun _ => congrArg Prod.snd hstarted

/-- A text with a watch on the first byte of RAM. -/
def coinsText : String := "\x7b\"coins\":\x7b\"address\":\"80000000\",\"size\":1\x7d\x7d"

/-- The only member of that text. -/
def coinsMember : String × Json :=
  ("coins", .object [("address", .text "80000000"), ("size", .nat 1)])

/-- A start and a request take over a watch on the first byte of RAM. -/
theorem requestedWith_eq_startedWith_coins :
    let p : ControlPlane Headless := { machine := .make "states" 1 }
    ∃ watches : Registry, p.startedWith coinsText = (true, watches) ∧
      p.requestedWith coinsText = pure (true, watches) ∧
      watches.Shows (Machine.memory p.machine) [("coins", ⟨Headless.ramBase, [], 1⟩)] := by
  intro p
  have hwrites : Json.WritesText Json.Passable 99 coinsText (.object [coinsMember]) := by
    rw [coinsText, coinsMember]
    exact ⟨[], .object rfl (.member rfl rfl (.of_read rfl) rfl
        (.object rfl
          (.member rfl rfl (.of_read rfl) rfl (.text rfl (.of_read rfl))
            (.member rfl rfl (.of_read rfl) rfl (.number (.of_read rfl)) (.noMember rfl)))
          (by decide))
        (.noMember rfl)) (by decide), rfl⟩
  obtain ⟨v, hparse⟩ : ∃ v, Json.parse coinsText = .ok v := exists_ok_of_isOk (by decide +kernel)
  have hpaired := hwrites.paired (by decide) hparse
  have hspec : Command.specOf coinsMember.1 coinsMember.2 = .ok ("coins", ⟨"80000000", none, 1⟩) :=
    rfl
  have hdefines : Command.Defines coinsMember ("coins", ⟨Headless.ramBase, [], 1⟩) :=
    ⟨⟨"80000000", none, 1⟩, hspec, rfl⟩
  obtain ⟨⟨accepted, watches⟩, hrequested, hsame, -, -, haccepted, hrefused⟩ :=
    requestedWith_eq_startedWith_or {} p.machine hwrites (List.cons_ne_nil _ _)
      (List.forall_mem_singleton.mpr ⟨_, rfl⟩)
  have hstarted := hsame.resolve_right fun h => h.1 hpaired
  cases accepted with
  | false =>
    obtain ⟨entry, hentry, hbad⟩ := hrefused hpaired rfl
    rw [List.mem_singleton.mp hentry] at hbad
    exact absurd hdefines (hbad _)
  | true =>
    refine ⟨watches, hstarted.symm, hrequested, ?_⟩
    obtain ⟨-, ds, hall, hshows⟩ := haccepted rfl
    cases hall with
    | cons hd hnil =>
      cases hnil
      rw [Command.Defines.of_specOf hspec] at hd hdefines
      rwa [← Except.ok.inj (hdefines.symm.trans hd)] at hshows

/-- A text with a watch that has a member of no meaning, in which a surrogate stands alone. -/
def loneText : String :=
  "\x7b\"a\":\x7b\"address\":\"80000000\",\"size\":1,\"note\":\"\\ud800\"\x7d\x7d"

/-- The line of a request for the watches of that text. -/
def loneLine : String :=
  "\x7b\"jsonrpc\":\"2.0\",\"id\":1,\"method\":\"memwatch\"," ++
    "\"params\":\x7b\"watches\":" ++ loneText ++ "\x7d\x7d"

/-- The start accepts a text that no request can carry. -/
theorem startedWith_of_lone_surrogate :
    let p : ControlPlane Headless := { machine := .make "states" 1 }
    ∃ members : List (String × Json),
      Json.WritesText Json.Passable 99 loneText (.members members) ∧ members ≠ [] ∧
      (∀ m ∈ members, ∃ fields, m.2 = .members fields) ∧
      (p.startedWith loneText).1 = true ∧ p.requestedWith loneText = pure (false, {}) ∧
      ∃ message, Rpc.answerText Program.answerPaused loneLine p =
        pure (.failure .null Rpc.parseErrorCode message, p) := by
  intro p
  have hwrites : Json.WritesText Json.Passable 99 loneText
      (.object [("a", .object [("address", .text "80000000"), ("size", .nat 1),
        ("note", .text "")])]) := by
    have hchars : loneText.toList =
      ['\x7b', '"', 'a', '"', ':', '\x7b', '"', 'a', 'd', 'd', 'r', 'e', 's', 's', '"', ':', '"',
        '8', '0', '0', '0', '0', '0', '0', '0', '"', ',', '"', 's', 'i', 'z', 'e', '"', ':', '1',
        ',', '"', 'n', 'o', 't', 'e', '"', ':', '"', '\\', 'u', 'd', '8', '0', '0', '"', '\x7d',
        '\x7d'] := by
      decide
    rw [Json.WritesText, hchars]
    exact ⟨[], .object rfl (.member rfl rfl (.of_read rfl) rfl
        (.object rfl
          (.member rfl rfl (.of_read rfl) rfl (.text rfl (.of_read rfl))
            (.member rfl rfl (.of_read rfl) rfl (.number (.of_read rfl))
              (.member rfl rfl (.of_read rfl) rfl (.text rfl (.of_fault rfl (.inr rfl)))
                (.noMember rfl))))
          (by decide))
        (.noMember rfl)) (by decide), rfl⟩
  obtain ⟨fault, hparse⟩ : ∃ e, Json.parse loneText = .error e :=
    exists_error_of_not_isOk (by decide +kernel)
  obtain ⟨fault', hcall⟩ : ∃ e, Rpc.Call.decoder.decode loneLine = .error e :=
    exists_error_of_not_isOk (by decide +kernel)
  refine ⟨_, hwrites, List.cons_ne_nil _ _, List.forall_mem_singleton.mpr ⟨_, rfl⟩,
    by decide +kernel, ?_, ?_⟩
  · rw [requestedWith, hparse]
  · rw [Rpc.answerText, hcall]
    exact ⟨_, rfl⟩

end ControlPlane

end ConsoleLink
