import ConsoleLink.NameMap
import Mathlib.Data.String.Basic
import Mathlib.Tactic

/-! # Keys of maps from names

What is under a key after each operation, and which keys there are. The keys are ascending, so each
occurs once.
-/

namespace ConsoleLink.NameMap

variable {α : Type} {key : String} {m : NameMap α}

theorem find?_modify (key other : String) (f : α → α) (m : NameMap α) :
    find? other (modify key f m) =
      if other = key then (find? other m).map f else find? other m := by
  induction m with
  | nil => simp [modify]
  | cons e rest ih =>
    obtain ⟨k, v⟩ := e
    change find? other ((if k = key then (k, f v) else (k, v)) :: modify key f rest) = _
    by_cases hk : k = key
    · subst hk
      by_cases ho : other = k <;> simp [find?, ho, ih]
    · by_cases ho : other = k
      · simp [find?, ho, hk]
      · simp [find?, ho, hk, ih]

@[simp] theorem keys_modify (key : String) (f : α → α) (m : NameMap α) :
    keys (modify key f m) = keys m := by
  unfold keys modify
  rw [List.map_map]
  refine List.map_congr_left fun e _ => ?_
  dsimp only [Function.comp_apply]
  split_ifs <;> rfl

theorem mem_keys_insert {other : String} {value : α} :
    other ∈ keys (insert key value m) ↔ other = key ∨ other ∈ keys m := by
  induction m with
  | nil => simp [insert, keys]
  | cons e rest ih =>
    obtain ⟨k, v⟩ := e
    unfold insert
    split_ifs with hlt heq
    · simp [keys]
    · simp [keys, heq]
    · simp only [keys, List.map_cons, List.mem_cons] at ih ⊢
      rw [ih]
      tauto

theorem mem_of_mem_insert {value : α} {e : String × α} (h : e ∈ insert key value m) :
    e = (key, value) ∨ e ∈ m := by
  induction m with
  | nil => exact .inl (List.mem_singleton.mp h)
  | cons first rest ih =>
    unfold insert at h
    split_ifs at h
    · exact (List.mem_cons.mp h)
    · exact (List.mem_cons.mp h).imp_right (List.mem_cons_of_mem _)
    · rcases List.mem_cons.mp h with rfl | h
      · exact .inr List.mem_cons_self
      · exact (ih h).imp_right (List.mem_cons_of_mem _)

theorem mem_of_find? {value : α} (h : find? key m = some value) : (key, value) ∈ m := by
  induction m with
  | nil => cases h
  | cons e rest ih =>
    unfold find? at h
    split_ifs at h with hkey
    · obtain rfl := Option.some.inj h
      rw [hkey]
      exact List.mem_cons_self
    · exact List.mem_cons_of_mem _ (ih h)

theorem ordered_iff : Ordered m ↔ (keys m).Pairwise (· < ·) := List.pairwise_map.symm

/-- Each key occurs once, so what is in the map is what is found. -/
theorem Ordered.find?_eq_some_iff {value : α} (h : Ordered m) :
    find? key m = some value ↔ (key, value) ∈ m := by
  refine ⟨mem_of_find?, fun hmem => ?_⟩
  induction m with
  | nil => cases hmem
  | cons e rest ih =>
    obtain ⟨hhead, hrest⟩ := List.pairwise_cons.mp h
    unfold find?
    rcases List.mem_cons.mp hmem with heq | hmem
    · rw [← heq, if_pos rfl]
    · rw [if_neg (hhead _ hmem).ne']
      exact ih hrest hmem

theorem mem_keys_iff : key ∈ keys m ↔ (find? key m).isSome = true := by
  induction m with
  | nil => simp [keys]
  | cons e rest ih =>
    change key ∈ e.1 :: keys rest ↔ _
    unfold find?
    rw [List.mem_cons, ih]
    split_ifs with h <;> simp [h]

theorem Ordered.insert (h : Ordered m) (key : String) (value : α) :
    Ordered (insert key value m) := by
  rw [ordered_iff] at h ⊢
  induction m with
  | nil => exact List.pairwise_singleton _ _
  | cons e rest ih =>
    obtain ⟨k, v⟩ := e
    obtain ⟨hhead, hrest⟩ := List.pairwise_cons.mp h
    unfold NameMap.insert
    split_ifs with hlt heq
    · refine List.pairwise_cons.mpr ⟨fun other hother => ?_, h⟩
      rcases List.mem_cons.mp hother with rfl | hother
      · exact hlt
      · exact hlt.trans (hhead other hother)
    · subst heq
      exact h
    · refine List.pairwise_cons.mpr ⟨fun other hother => ?_, ih hrest⟩
      rcases mem_keys_insert.mp hother with rfl | hother
      · exact lt_of_le_of_ne (not_lt.mp hlt) (Ne.symm heq)
      · exact hhead other hother

/-! ## Maps of lists -/

theorem Ordered.foldl_insert (h : Ordered m) (pairs : List (String × α)) :
    Ordered (pairs.foldl (fun m e => NameMap.insert e.1 e.2 m) m) := by
  induction pairs generalizing m with
  | nil => exact h
  | cons e pairs ih => exact ih (h.insert e.1 e.2)

theorem ordered_ofList (pairs : List (String × α)) : Ordered (ofList pairs) :=
  Ordered.foldl_insert .nil pairs

/-- A new key goes to its place, and nothing else changes its place. -/
theorem insert_perm {value : α} (h : key ∉ keys m) :
    (insert key value m).Perm ((key, value) :: m) := by
  induction m with
  | nil => exact .refl _
  | cons e rest ih =>
    obtain ⟨k, v⟩ := e
    obtain ⟨hk, hrest⟩ := not_or.mp (mt List.mem_cons.mpr h)
    unfold insert
    rw [if_neg hk]
    split_ifs
    · exact .refl _
    · exact ((ih hrest).cons _).trans (.swap _ _ _)

theorem foldl_insert_perm {pairs : List (String × α)}
    (h : (keys m ++ pairs.map Prod.fst).Nodup) :
    (pairs.foldl (fun m e => insert e.1 e.2 m) m).Perm (m ++ pairs) := by
  induction pairs generalizing m with
  | nil => rw [List.append_nil]; exact .refl _
  | cons e pairs ih =>
    have hfresh : e.1 ∉ keys m := fun hmem =>
      List.disjoint_of_nodup_append h hmem List.mem_cons_self
    have hinsert : (insert e.1 e.2 m).Perm (e :: m) := insert_perm hfresh
    have hkeys : (keys (insert e.1 e.2 m) ++ pairs.map Prod.fst).Perm
        (keys m ++ (e :: pairs).map Prod.fst) :=
      ((hinsert.map Prod.fst).append_right _).trans List.perm_middle.symm
    exact (ih (hkeys.nodup_iff.mpr h)).trans
      ((hinsert.append_right pairs).trans List.perm_middle.symm)

/-- The map of pairs with different keys holds these pairs, in the order of the keys. -/
theorem ofList_perm {pairs : List (String × α)} (h : (pairs.map Prod.fst).Nodup) :
    (ofList pairs).Perm pairs :=
  foldl_insert_perm (m := []) h

theorem Ordered.nodup_keys (h : Ordered m) : (m.map Prod.fst).Nodup :=
  (ordered_iff.mp h).imp fun hlt => hlt.ne

/-- Pairs are put in their order. -/
theorem Ordered.ofList_of_perm {pairs : List (String × α)} (h : Ordered m) (hperm : pairs.Perm m) :
    ofList pairs = m := by
  have hkeys : (pairs.map Prod.fst).Nodup := (hperm.map Prod.fst).nodup_iff.mpr h.nodup_keys
  exact ((ofList_perm hkeys).trans hperm).eq_of_pairwise
    (fun _ _ _ _ hlt hgt => absurd hgt hlt.asymm) (ordered_ofList pairs) h

/-- Pairs that are in order already are the map of themselves. -/
theorem Ordered.ofList_eq (h : Ordered m) : ofList m = m := h.ofList_of_perm (.refl m)

/-- A map of names, each with what a function gives it, is the function on those names. -/
theorem find?_ofList_filterMap (f : String → Option α) (names : List String) (key : String) :
    find? key (ofList (names.filterMap fun n => (f n).map fun v => (n, v))) =
      if key ∈ names then f key else none := by
  induction names using List.reverseRecOn with
  | nil => rfl
  | append_singleton names name ih =>
    rw [ofList] at ih ⊢
    rw [List.filterMap_append, List.foldl_append]
    cases hf : f name with
    | none =>
      have hnone : (if key = name then f key else none) = none := by
        split_ifs with h
        · rw [h, hf]
        · rfl
      simp only [List.filterMap_cons, List.filterMap_nil, hf, Option.map_none, List.foldl_nil, ih,
        List.mem_append, List.mem_singleton]
      split_ifs at hnone ⊢ <;> simp_all
    | some v =>
      simp only [List.filterMap_cons, List.filterMap_nil, hf, Option.map_some, List.foldl_cons,
        List.foldl_nil, find?_insert, ih, List.mem_append, List.mem_singleton]
      split_ifs <;> simp_all

end ConsoleLink.NameMap
