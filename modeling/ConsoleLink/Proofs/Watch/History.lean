import ConsoleLink.Proofs.NameMap.Order
import ConsoleLink.Proofs.Text.ByteOrder
import ConsoleLink.Proofs.Watch.Definitions
import ConsoleLink.Proofs.Watch.Resolution
import Mathlib.Data.List.DropRight

/-! # What the watches show, from the history of their registry

A history is the list of the operations on a registry, the oldest first, each refresh with the
memory that it reads. The value of a watch is read off the history without running it: the latest
definition of its name, on the memory of the latest refresh since.
-/

namespace ConsoleLink

/-- An operation on the watches. -/
inductive WatchOp where
  | define (name : String) (d : WatchDescriptor)
  | resolve (name : String) (m : Memory)
  | resolveAll (m : Memory)

namespace WatchOp

/-- The name of the only watch that an operation can change; refreshing all has none. -/
def name? : WatchOp → Option String
  | .define name _ => some name
  | .resolve name _ => some name
  | .resolveAll _ => none

/-- The definition that an operation gives a name. -/
def definition? (name : String) : WatchOp → Option WatchDescriptor
  | .define other d => if other = name then some d else none
  | _ => none

/-- The memory on which an operation resolves a name. -/
def memory? (name : String) : WatchOp → Option Memory
  | .define _ _ => none
  | .resolve other m => if other = name then some m else none
  | .resolveAll m => some m

end WatchOp

namespace Registry

/-- Carries out an operation. -/
def apply (r : Registry) : WatchOp → Registry
  | .define name d => r.define name d
  | .resolve name m => (r.resolve m name).2
  | .resolveAll m => r.resolveAll m

/-- Carries out the operations of a history. -/
def follow (r : Registry) (history : List WatchOp) : Registry := history.foldl apply r

end Registry

namespace WatchHistory

/-- The definition that a name was given last. -/
def definition? (name : String) (history : List WatchOp) : Option WatchDescriptor :=
  (history.filterMap (WatchOp.definition? name)).getLast?

/-- The operations since a name was defined last, all of them if it never was. -/
def sinceDefined (name : String) (history : List WatchOp) : List WatchOp :=
  history.rtakeWhile fun op => (op.definition? name).isNone

/-- The memory on which a name was resolved last since it was defined last. -/
def memory? (name : String) (history : List WatchOp) : Option Memory :=
  ((sinceDefined name history).filterMap (WatchOp.memory? name)).getLast?

/-- The value of a watch of the history alone: its latest definition on the memory of the latest
refresh since. -/
def value? (name : String) (history : List WatchOp) : Option String :=
  (definition? name history).bind fun d => (memory? name history).map fun m => Watch.resolve m d

/-! ## One operation more -/

variable (name : String) (history : List WatchOp) (op : WatchOp)

theorem definition?_append :
    definition? name (history ++ [op]) = (op.definition? name).or (definition? name history) := by
  unfold definition?
  rw [List.filterMap_append]
  cases h : op.definition? name <;> simp [h]

theorem memory?_append :
    memory? name (history ++ [op]) =
      if (op.definition? name).isSome then none
      else (op.memory? name).or (memory? name history) := by
  unfold memory? sinceDefined
  rw [List.rtakeWhile_concat]
  cases h : op.definition? name with
  | some d => simp
  | none =>
    simp only [Option.isNone_none, if_true, Option.isSome_none, Bool.false_eq_true, if_false,
      List.filterMap_append]
    cases hm : op.memory? name <;> simp [hm]

/-! ## A history and what follows it -/

variable (later : List WatchOp)

theorem definition?_append_history :
    definition? name (history ++ later) =
      (definition? name later).or (definition? name history) := by
  unfold definition?
  rw [List.filterMap_append, List.getLast?_append]

theorem memory?_append_history :
    memory? name (history ++ later) =
      if (definition? name later).isSome then memory? name later
      else (memory? name later).or (memory? name history) := by
  induction later using List.reverseRecOn with
  | nil => simp [definition?, memory?, sinceDefined]
  | append_singleton later op ih =>
    rw [← List.append_assoc, memory?_append, ih, memory?_append, definition?_append]
    cases op.definition? name with
    | some d => simp
    | none =>
      cases op.memory? name with
      | some m => simp
      | none => simp

theorem exists_op_of_memory? {m : Memory} (h : memory? name history = some m) :
    ∃ op ∈ history, op.memory? name = some m := by
  obtain ⟨op, hop, hm⟩ := List.mem_filterMap.mp (List.mem_of_getLast? h)
  exact ⟨op, (List.rtakeWhile_suffix _ history).mem hop, hm⟩

theorem exists_op_of_definition? {d : WatchDescriptor} (h : definition? name history = some d) :
    ∃ op ∈ history, op.definition? name = some d :=
  List.mem_filterMap.mp (List.mem_of_getLast? h)

theorem definition?_eq_none_iff :
    definition? name history = none ↔ ∀ d, WatchOp.define name d ∉ history := by
  rw [definition?, List.getLast?_eq_none_iff, List.filterMap_eq_nil_iff]
  constructor
  · intro h d hmem
    have hnone := h _ hmem
    rw [WatchOp.definition?, if_pos rfl] at hnone
    cases hnone
  · intro h op hop
    cases op with
    | define other d =>
      rw [WatchOp.definition?, if_neg]
      rintro rfl
      exact h d hop
    | resolve | resolveAll => rfl

/-- Definitions of different names are the latest of those names. -/
theorem definition?_of_defines {definitions : List (String × WatchDescriptor)}
    (hnames : (definitions.map Prod.fst).Nodup) {d : String × WatchDescriptor}
    (hd : d ∈ definitions) :
    definition? d.1 (definitions.map fun d => .define d.1 d.2) = some d.2 := by
  cases hfound : definition? d.1 (definitions.map fun d => .define d.1 d.2) with
  | none =>
    exact absurd (List.mem_map_of_mem hd) ((definition?_eq_none_iff _ _).mp hfound d.2)
  | some found =>
    obtain ⟨op, hop, hdefined⟩ := exists_op_of_definition? _ _ hfound
    obtain ⟨other, hother, rfl⟩ := List.mem_map.mp hop
    obtain ⟨hname, hsame⟩ := Option.ite_none_right_eq_some.mp hdefined
    rw [← hsame, List.inj_on_of_nodup_map hnames hother hd hname]

/-- Names that are resolved in turn are resolved on the memory that is there. -/
theorem memory?_of_resolves {names : List String} (h : name ∈ names) (m : Memory) :
    memory? name (names.map fun name => .resolve name m) = some m := by
  induction names using List.reverseRecOn with
  | nil => cases h
  | append_singleton names last ih =>
    rw [List.map_append, List.map_singleton, memory?_append]
    by_cases hlast : last = name
    · simp [WatchOp.definition?, WatchOp.memory?, hlast]
    · have hmem : name ∈ names := by simpa [Ne.symm hlast] using h
      simp [WatchOp.definition?, WatchOp.memory?, hlast, ih hmem]

end WatchHistory

namespace Registry

variable {r : Registry} {name : String}

theorem follow_append (r : Registry) (history later : List WatchOp) :
    r.follow (history ++ later) = (r.follow history).follow later := List.foldl_append

theorem find?_apply (r : Registry) (op : WatchOp) (name : String) :
    NameMap.find? name (r.apply op).entries =
      ((op.definition? name).map fun d => WatchEntry.mk d none).or
        ((NameMap.find? name r.entries).map fun e =>
          (op.memory? name).elim e fun m => e.refresh m) := by
  cases op with
  | define other d =>
    change NameMap.find? name (r.define other d).entries = _
    rw [find?_define]
    by_cases h : other = name
    · simp [WatchOp.definition?, h]
    · simp [WatchOp.definition?, WatchOp.memory?, h, Ne.symm h]
  | resolve other m =>
    change NameMap.find? name (NameMap.modify other (WatchEntry.refresh m) r.entries) = _
    rw [NameMap.find?_modify]
    by_cases h : other = name
    · simp [WatchOp.definition?, WatchOp.memory?, h]
    · simp [WatchOp.definition?, WatchOp.memory?, h, Ne.symm h]
  | resolveAll m =>
    change NameMap.find? name (NameMap.mapValues (WatchEntry.refresh m) r.entries) = _
    rw [NameMap.find?_mapValues]
    simp [WatchOp.definition?, WatchOp.memory?]

/-- An entry has the latest definition of its name and what that showed at the latest refresh. -/
theorem find?_follow_empty (history : List WatchOp) (name : String) :
    NameMap.find? name (follow {} history).entries =
      (WatchHistory.definition? name history).map fun d =>
        ⟨d, (WatchHistory.memory? name history).map fun m => Watch.resolve m d⟩ := by
  induction history using List.reverseRecOn with
  | nil => rfl
  | append_singleton history op ih =>
    rw [follow_append]
    change NameMap.find? name ((follow {} history).apply op).entries = _
    rw [find?_apply, ih, WatchHistory.definition?_append, WatchHistory.memory?_append]
    cases hd : op.definition? name with
    | some d => simp
    | none =>
      cases hm : op.memory? name <;> simp [WatchEntry.refresh, Function.comp_def]

theorem value?_follow_empty (history : List WatchOp) (name : String) :
    (follow {} history).value? name = WatchHistory.value? name history := by
  rw [value?, find?_follow_empty, WatchHistory.value?, Option.bind_map]
  rfl

/-! ## Names -/

theorem names_apply (r : Registry) (op : WatchOp) :
    name ∈ (r.apply op).names ↔ (∃ d, op = .define name d) ∨ name ∈ r.names := by
  cases op with
  | define other d =>
    change name ∈ NameMap.keys (NameMap.insert other _ r.entries) ↔ _
    rw [NameMap.mem_keys_insert]
    simp [names, eq_comm]
  | resolve other m =>
    change name ∈ NameMap.keys (NameMap.modify other _ r.entries) ↔ _
    rw [NameMap.keys_modify]
    simp [names]
  | resolveAll m =>
    change name ∈ NameMap.keys (NameMap.mapValues _ r.entries) ↔ _
    rw [NameMap.keys_mapValues]
    simp [names]

theorem ordered_apply (op : WatchOp) (h : r.entries.Ordered) : (r.apply op).entries.Ordered := by
  cases op with
  | define other d => exact h.insert other _
  | resolve other m =>
    rw [NameMap.ordered_iff] at h ⊢
    change (NameMap.keys (NameMap.modify other _ r.entries)).Pairwise _
    rwa [NameMap.keys_modify]
  | resolveAll m =>
    rw [NameMap.ordered_iff] at h ⊢
    change (NameMap.keys (NameMap.mapValues _ r.entries)).Pairwise _
    rwa [NameMap.keys_mapValues]

theorem mem_names_follow {history : List WatchOp} :
    name ∈ (r.follow history).names ↔
      (∃ d, WatchOp.define name d ∈ history) ∨ name ∈ r.names := by
  induction history generalizing r with
  | nil => simp [follow]
  | cons op history ih =>
    change name ∈ ((r.apply op).follow history).names ↔ _
    rw [ih, names_apply]
    simp only [List.mem_cons, exists_or, eq_comm]
    tauto

theorem ordered_follow (history : List WatchOp) (h : r.entries.Ordered) :
    (r.follow history).entries.Ordered := by
  induction history generalizing r with
  | nil => exact h
  | cons op history ih => exact ih (ordered_apply op h)

end Registry

/-! ## Values -/

/-- Whatever the memory, a watch shows the fault value or two digits for each of its bytes. -/
theorem Watch.resolve_shape (m : Memory) (d : WatchDescriptor) :
    resolve m d = "0" ∨
      (resolve m d).toList.length = 2 * d.size ∧
        ∀ c ∈ (resolve m d).toList, c ∈ Text.upperDigits := by
  unfold resolve
  cases hbytes : bytes? m d with
  | none => exact .inl rfl
  | some bytes =>
    obtain ⟨address, -, hread⟩ := Option.bind_eq_some_iff.mp hbytes
    obtain ⟨-, hread⟩ := Option.ite_none_right_eq_some.mp hread
    have hlength : bytes.length = d.size := by
      rw [← Option.some.inj hread]
      simp [Memory.read]
    dsimp only
    rw [String.toList_ofList, Text.hexText_length, hlength]
    exact .inr ⟨rfl, fun c hc => Text.mem_upperDigits_of_mem_hexText hc⟩

/-- After any operations, each refresh on a memory of its own, a watch has the value that the
history gives it, in the form that its definition asks for. Operations on other names do not change
the value. The names are those ever defined, in the order of their bytes. -/
theorem Registry.values_of_history (history : List WatchOp) :
    (∀ name, (follow {} history).value? name = WatchHistory.value? name history) ∧
      (∀ name v, (follow {} history).value? name = some v →
        ∃ d, WatchHistory.definition? name history = some d ∧
          (v = "0" ∨ v.toList.length = 2 * d.size ∧ ∀ c ∈ v.toList, c ∈ Text.upperDigits)) ∧
      (∀ name other op, op.name? = some other → other ≠ name →
        (follow {} (history ++ [op])).value? name = (follow {} history).value? name) ∧
      (follow {} history).names.Pairwise (fun a b => Text.utf8Bytes a < Text.utf8Bytes b) ∧
      ∀ name, name ∈ (follow {} history).names ↔ ∃ d, WatchOp.define name d ∈ history := by
  refine ⟨value?_follow_empty history, ?_, ?_, ?_, ?_⟩
  · intro name v hv
    rw [value?_follow_empty, WatchHistory.value?, Option.bind_eq_some_iff] at hv
    obtain ⟨d, hd, hv⟩ := hv
    obtain ⟨m, -, rfl⟩ := Option.map_eq_some_iff.mp hv
    exact ⟨d, hd, Watch.resolve_shape m d⟩
  · intro name other op hop hother
    have helse : op.definition? name = none ∧ op.memory? name = none := by
      cases op <;> simp_all [WatchOp.name?, WatchOp.definition?, WatchOp.memory?]
    rw [value?_follow_empty, value?_follow_empty, WatchHistory.value?, WatchHistory.value?,
      WatchHistory.definition?_append, WatchHistory.memory?_append, helse.1, helse.2]
    simp
  · have hordered : (follow {} history).entries.Ordered := ordered_follow history .nil
    exact (NameMap.ordered_iff.mp hordered).imp Text.lt_iff_utf8Bytes_lt.mp
  · intro name
    rw [mem_names_follow]
    simp [names, NameMap.keys]

end ConsoleLink
