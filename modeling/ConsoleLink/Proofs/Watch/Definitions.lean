import ConsoleLink.Proofs.Except
import ConsoleLink.Proofs.Json.Sorted
import ConsoleLink.Remote.Command
import ConsoleLink.Watch.Registry

/-! # Watches that are defined together

Definitions that are written together are read one after another, and the first that is faulty fails
them all. Those that are all right are stored one after another; each name then has the definition
that was given for it last and no value yet.
-/

namespace ConsoleLink

namespace Registry

theorem find?_define (r : Registry) (name other : String) (d : WatchDescriptor) :
    NameMap.find? other (r.define name d).entries =
      if other = name then some ⟨d, none⟩ else NameMap.find? other r.entries :=
  NameMap.find?_insert name other _ r.entries

theorem find?_defineAll_of_not_mem {name : String} {definitions : List (String × WatchDescriptor)}
    (r : Registry) (h : name ∉ definitions.map Prod.fst) :
    NameMap.find? name (r.defineAll definitions).entries = NameMap.find? name r.entries := by
  induction definitions generalizing r with
  | nil => rfl
  | cons d definitions ih =>
    rw [List.map_cons, List.mem_cons, not_or] at h
    exact (ih (r.define d.1 d.2) h.2).trans (by rw [find?_define, if_neg h.1])

/-- A name that is given once has the definition that is given for it. -/
theorem find?_defineAll_of_mem {d : String × WatchDescriptor}
    {definitions : List (String × WatchDescriptor)} (r : Registry)
    (hnames : (definitions.map Prod.fst).Nodup) (h : d ∈ definitions) :
    NameMap.find? d.1 (r.defineAll definitions).entries = some ⟨d.2, none⟩ := by
  induction definitions generalizing r with
  | nil => cases h
  | cons first definitions ih =>
    rw [List.map_cons, List.nodup_cons] at hnames
    rcases List.mem_cons.mp h with rfl | hmem
    · refine (find?_defineAll_of_not_mem (r.define d.1 d.2) hnames.1).trans ?_
      rw [find?_define, if_pos rfl]
    · exact ih (r.define first.1 first.2) hnames.2 hmem

end Registry

namespace Command

theorem definition_cases (name : String) (spec : WatchSpec) :
    (∃ d, definition name spec = .ok (name, d)) ∨ ∃ fault, definition name spec = refuse fault := by
  unfold definition
  split_ifs
  · cases h : WatchDescriptor.ofSpec spec with
    | ok d => exact .inl ⟨d, rfl⟩
    | error e => exact .inr ⟨_, rfl⟩
  · exact .inr ⟨_, rfl⟩

theorem specOf_cases (name : String) (v : Json) :
    (∃ spec, specOf name v = .ok (name, spec)) ∨ ∃ fault, specOf name v = refuse fault := by
  unfold specOf
  split
  · exact .inr ⟨_, rfl⟩
  · split
    · exact .inl ⟨_, rfl⟩
    · exact .inr ⟨_, rfl⟩

/-- If single items are read or refused, a list of them is read or refused. -/
theorem mapM_refuse_cases {α β : Type} {f : α → Except RemoteError β} (xs : List α)
    (hf : ∀ x, (∃ y, f x = .ok y) ∨ ∃ fault, f x = refuse fault) :
    (∃ ys, xs.mapM f = .ok ys ∧ List.Forall₂ (fun x y => f x = .ok y) xs ys) ∨
      ∃ fault, xs.mapM f = refuse fault ∧ ∃ x ∈ xs, f x = refuse fault := by
  rcases mapM_cases f xs with h | ⟨e, he, good, bad, rest, rfl, -, hbad⟩
  · exact .inl h
  · rcases hf bad with ⟨y, hy⟩ | ⟨fault, hfault⟩
    · rw [hy] at hbad
      cases hbad
    · rw [hfault] at hbad
      cases hbad
      exact .inr ⟨fault, he, bad, by simp, hfault⟩

theorem specs_cases (entries : List (String × Json)) :
    (∃ specs, entries.mapM (fun e => specOf e.1 e.2) = .ok specs ∧
      List.Forall₂ (fun e s => specOf e.1 e.2 = .ok s) entries specs) ∨
    ∃ fault, entries.mapM (fun e => specOf e.1 e.2) = refuse fault ∧
      ∃ e ∈ entries, specOf e.1 e.2 = refuse fault :=
  mapM_refuse_cases entries fun e => (specOf_cases e.1 e.2).imp_left fun ⟨_, h⟩ => ⟨_, h⟩

/-- The definitions of some wire forms, all of them or none. -/
theorem definitions_cases (specs : NameMap WatchSpec) :
    (∃ ds, definitions specs = .ok ds ∧
      List.Forall₂ (fun e d => definition e.1 e.2 = .ok d) specs ds) ∨
    ∃ fault, definitions specs = refuse fault ∧ ∃ e ∈ specs, definition e.1 e.2 = refuse fault :=
  mapM_refuse_cases specs fun e => (definition_cases e.1 e.2).imp_left fun ⟨_, h⟩ => ⟨_, h⟩

theorem name_of_definition {name : String} {spec : WatchSpec} {d : String × WatchDescriptor}
    (h : definition name spec = .ok d) : d.1 = name := by
  rcases definition_cases name spec with ⟨_, hd⟩ | ⟨_, hfault⟩
  · rw [hd] at h
    cases h
    rfl
  · rw [hfault] at h
    cases h

theorem names_of_forall₂_definition {specs : NameMap WatchSpec}
    {ds : List (String × WatchDescriptor)}
    (h : List.Forall₂ (fun s d => definition s.1 s.2 = .ok d) specs ds) :
    ds.map Prod.fst = NameMap.keys specs := by
  induction h with
  | nil => rfl
  | cons hd _ ih => rw [List.map_cons, name_of_definition hd, ih]; rfl

/-- The members of a request that write watches. -/
def watchMembers (params : Json) : List (String × Json) :=
  match (params.member? "watches").getD params with
  | .members entries => entries
  | _ => []

/-- The watches that a request writes come in the order of their names, each name once. -/
theorem names_watchMembers (params : Json.Document) :
    ((watchMembers params.value).map Prod.fst).Pairwise (· < ·) := by
  have hwatches : ((params.value.member? "watches").getD params.value).Sorted := by
    cases hmember : params.value.member? "watches" with
    | none => exact params.sorted
    | some watches => exact params.sorted.member? hmember
  unfold watchMembers
  generalize (params.value.member? "watches").getD params.value = watches at hwatches ⊢
  cases hwatches with
  | members hkeys => exact NameMap.ordered_iff.mp hkeys
  | _ => exact .nil

/-- What a member of a request defines, if neither its shape nor its name nor its definition is at
fault. -/
def Defines (entry : String × Json) (d : String × WatchDescriptor) : Prop :=
  ∃ spec, specOf entry.1 entry.2 = .ok (entry.1, spec) ∧ definition entry.1 spec = .ok d

/-- The only definition that a member can stand for is that of its wire form. -/
theorem Defines.of_specOf {entry : String × Json} {spec : String × WatchSpec}
    {d : String × WatchDescriptor} (hspec : specOf entry.1 entry.2 = .ok spec) :
    Defines entry d ↔ definition spec.1 spec.2 = .ok d := by
  rcases specOf_cases entry.1 entry.2 with ⟨named, hnamed⟩ | ⟨fault, hfault⟩
  · rw [hnamed, Except.ok.injEq] at hspec
    subst hspec
    constructor
    · rintro ⟨other, hother, hd⟩
      rw [hnamed] at hother
      cases hother
      exact hd
    · exact fun hd => ⟨named, hnamed, hd⟩
  · rw [hfault] at hspec
    cases hspec

theorem forall₂_defines {entries : List (String × Json)} {specs : NameMap WatchSpec}
    {ds : List (String × WatchDescriptor)}
    (hspecs : List.Forall₂ (fun e s => specOf e.1 e.2 = .ok s) entries specs)
    (hds : List.Forall₂ (fun s d => definition s.1 s.2 = .ok d) specs ds) :
    List.Forall₂ Defines entries ds := by
  induction hspecs generalizing ds with
  | nil =>
    cases hds
    exact .nil
  | cons hspec _ ih =>
    cases hds with
    | cons hd hds => exact .cons ((Defines.of_specOf hspec).mpr hd) (ih hds)

theorem names_of_forall₂_defines {entries : List (String × Json)}
    {ds : List (String × WatchDescriptor)} (h : List.Forall₂ Defines entries ds) :
    entries.map Prod.fst = ds.map Prod.fst := by
  induction h with
  | nil => rfl
  | cons hd _ ih =>
    obtain ⟨spec, -, hd⟩ := hd
    rw [List.map_cons, List.map_cons, name_of_definition hd, ih]

/-- A request defines every watch that it writes, or it is refused: it writes none, or one of them
is at fault. -/
theorem memwatch_cases (params : Json) :
    (∃ ds, memwatch params = .ok (.defineWatches ds) ∧
      List.Forall₂ Defines (watchMembers params) ds) ∨
    ∃ fault, memwatch params = refuse fault ∧
      (watchMembers params = [] ∨ ∃ entry ∈ watchMembers params, ∀ d, ¬Defines entry d) := by
  unfold memwatch watchMembers
  split
  case h_1 hnone => exact .inr ⟨_, rfl, .inl (by rw [hnone])⟩
  case h_2 entries _ hentries =>
    rw [hentries]
    dsimp only
    rcases specs_cases entries with
      ⟨specs, hspecs, hall⟩ | ⟨fault, hfault, entry, hmem, hbad⟩
    · rw [hspecs]
      rcases definitions_cases specs with ⟨ds, hds, hdefined⟩ | ⟨fault, hfault, spec, hmem, hbad⟩
      · refine .inl ⟨ds, ?_, forall₂_defines hall hdefined⟩
        change (do return Command.defineWatches (← definitions specs)) = _
        rw [hds]
        rfl
      · obtain ⟨entry, hentry, hspec⟩ := exists_mem_of_forall₂ hall hmem
        refine .inr ⟨fault, ?_, .inr ⟨entry, hentry, fun d => ?_⟩⟩
        · change (do return Command.defineWatches (← definitions specs)) = _
          rw [hfault]
          rfl
        · rw [Defines.of_specOf hspec, hbad]
          exact fun h => by cases h
    · rw [hfault]
      refine .inr ⟨fault, rfl, .inr ⟨entry, hmem, ?_⟩⟩
      rintro d ⟨spec, hspec, -⟩
      rw [hbad] at hspec
      cases hspec
  case h_3 hmembers =>
    refine .inr ⟨_, rfl, .inl ?_⟩
    split
    case h_1 entries hentries => exact absurd hentries (hmembers entries)
    case h_2 => rfl

end Command

end ConsoleLink
