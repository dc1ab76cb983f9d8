import ConsoleLink.Remote.Request
import ConsoleLink.Proofs.NameMap.Order

/-! # Looking up watches

A request for values names watches in one text. It is answered with the value of every watch named,
or refused with those names that have none.
-/

namespace ConsoleLink

variable {σ : Type} {watches : Registry} {names : List String} {answer : Json}

namespace Result

/-- Of some names, those that have no value. -/
def missing (watches : Registry) (names : List String) : List String :=
  names.filter fun name => (watches.value? name).isNone

/-- The values of watches that all have one. -/
def valueMembers (watches : Registry) (names : List String) : NameMap Json :=
  NameMap.ofList (names.filterMap fun name =>
    (watches.value? name).map fun value => (name, .text value))

theorem values_of_resolved (h : missing watches names = []) :
    values watches names = .ok (.object [("values", .members (valueMembers watches names))]) := by
  unfold values
  unfold missing at h
  rw [h]
  rfl

theorem values_of_missing (h : missing watches names ≠ []) :
    values watches names = Command.refuse (.unresolvedWatches (missing watches names)) := by
  unfold values
  unfold missing at h ⊢
  split
  · contradiction
  · rfl

theorem missing_eq_nil_iff :
    missing watches names = [] ↔ ∀ name ∈ names, (watches.value? name).isSome = true := by
  simp [missing, List.filter_eq_nil_iff, Option.isSome_iff_ne_none]

theorem find?_valueMembers (watches : Registry) (names : List String) (name : String) :
    NameMap.find? name (valueMembers watches names) =
      if name ∈ names then (watches.value? name).map .text else none := by
  have hpairs := NameMap.find?_ofList_filterMap (fun n => (watches.value? n).map Json.text) names
    name
  simp only [Option.map_map] at hpairs
  exact hpairs

theorem member?_values (members : NameMap Json) :
    (Json.object [("values", .members members)]).member? "values" = some (.members members) := by
  simp [Json.object, Json.member?, NameMap.ofList, NameMap.find?_insert]

end Result

namespace Command

theorem memwatchValues_of_text {params : Json} {text : String}
    (h : params.member? "names" = some (.text text)) :
    memwatchValues params = if listedNames text = [] then refuse .noWatchNames
      else .ok (.readWatches (listedNames text)) := by
  have hrequired : requiredText params "names" = .ok text := by
    unfold requiredText
    rw [h]
    rfl
  unfold memwatchValues
  rw [hrequired]
  simp only [bind, Except.bind]
  split
  · rename_i hnil
    rw [hnil, if_pos rfl]
  · rename_i hnames
    rw [if_neg hnames]
    rfl

theorem memwatchValues_cases (params : Json) :
    (∃ fault, memwatchValues params = refuse fault) ∨
      ∃ names, memwatchValues params = .ok (.readWatches names) := by
  cases hnames : params.member? "names" with
  | none =>
    unfold memwatchValues requiredText
    rw [hnames]
    exact .inl ⟨_, rfl⟩
  | some v =>
    cases v with
    | text text =>
      rw [memwatchValues_of_text hnames]
      split_ifs
      · exact .inl ⟨_, rfl⟩
      · exact .inr ⟨_, rfl⟩
    | null | bool | number | array | members =>
      unfold memwatchValues requiredText
      rw [hnames]
      exact .inl ⟨_, rfl⟩

end Command

namespace ControlPlane

theorem call_memwatchValues (p : ControlPlane σ) {params : Json} {names : List String}
    (h : Command.memwatchValues params = .ok (.readWatches names)) :
    p.call "memwatch_values" params = (.answered (Result.values p.watches names), p) := by
  have hcall : Command.ofCall "memwatch_values" params = Command.memwatchValues params := rfl
  rw [call, hcall, h]
  rfl

/-- What a request for values is answered with are values of the watches at that moment. -/
theorem value?_of_answered {p : ControlPlane σ} {params : Json} {name value : String}
    (h : (p.call "memwatch_values" params).1 = .answered (.ok answer))
    (hvalue : (answer.member? "values").bind (·.member? name) = some (.text value)) :
    p.watches.value? name = some value := by
  rcases Command.memwatchValues_cases params with ⟨fault, hfault⟩ | ⟨names, hnames⟩
  · have hcall : Command.ofCall "memwatch_values" params = Command.memwatchValues params := rfl
    rw [call, hcall, hfault] at h
    cases h
  · rw [p.call_memwatchValues hnames] at h
    have hanswer : Result.values p.watches names = .ok answer := Progress.answered.inj h
    by_cases hmissing : Result.missing p.watches names = []
    · rw [Result.values_of_resolved hmissing] at hanswer
      cases hanswer
      rw [Result.member?_values, Option.bind_some] at hvalue
      change NameMap.find? name (Result.valueMembers p.watches names) = _ at hvalue
      rw [Result.find?_valueMembers] at hvalue
      split_ifs at hvalue
      obtain ⟨v, hv, htext⟩ := Option.map_eq_some_iff.mp hvalue
      cases htext
      exact hv
    · rw [Result.values_of_missing hmissing] at hanswer
      cases hanswer

end ControlPlane

end ConsoleLink
