import ConsoleLink.Proofs.Json.Reading
import ConsoleLink.Proofs.NameMap.Order

/-! # Objects are sorted

The members of an object are ascending by key, each key once. This holds, all through the value, of
whatever is read from a text.
-/

namespace ConsoleLink.Json

/-- Every object in a value has its members ascending by key. -/
inductive Sorted : Json → Prop where
  | null : Sorted .null
  | bool (b : Bool) : Sorted (.bool b)
  | number (n : Number) : Sorted (.number n)
  | text (s : String) : Sorted (.text s)
  | array {items : List Json} (h : ∀ v ∈ items, Sorted v) : Sorted (.array items)
  | members {fields : List (String × Json)} (hkeys : NameMap.Ordered fields)
      (h : ∀ e ∈ fields, Sorted e.2) : Sorted (.members fields)

theorem Sorted.insert {key : String} {v : Json} {fields : NameMap Json} (hv : v.Sorted)
    (h : (Json.members fields).Sorted) : (Json.members (NameMap.insert key v fields)).Sorted := by
  cases h with
  | members hkeys h =>
    refine .members (hkeys.insert key v) fun e he => ?_
    rcases NameMap.mem_of_mem_insert he with rfl | he
    · exact hv
    · exact h e he

theorem Sorted.foldl_insert {done fields : List (String × Json)}
    (hdone : (Json.members done).Sorted) (h : ∀ e ∈ fields, e.2.Sorted) :
    (Json.members (fields.foldl (fun m e => NameMap.insert e.1 e.2 m) done)).Sorted := by
  induction fields generalizing done with
  | nil => exact hdone
  | cons e fields ih =>
    obtain ⟨he, hrest⟩ := List.forall_mem_cons.mp h
    exact ih (he.insert hdone) hrest

/-- An object whose members are sorted is sorted. -/
theorem sorted_object {fields : List (String × Json)} (h : ∀ e ∈ fields, e.2.Sorted) :
    (Json.object fields).Sorted :=
  Sorted.foldl_insert (.members .nil (List.forall_mem_nil _)) h

/-- What the three readers read with so much fuel is sorted. -/
structure ReadsSorted (fuel : Nat) : Prop where
  value : ∀ {levels : Nat} {cs rest : List Char} {v : Json},
    readValueWith fuel levels cs = .ok (v, rest) → v.Sorted
  items : ∀ {levels : Nat} {first : Bool} {done items : List Json} {cs rest : List Char},
    (∀ v ∈ done, v.Sorted) → readItemsWith fuel levels first done cs = .ok (items, rest) →
    ∀ v ∈ items, v.Sorted
  fields : ∀ {levels : Nat} {first : Bool} {done fields : NameMap Json} {cs rest : List Char},
    (Json.members done).Sorted → readFieldsWith fuel levels first done cs = .ok (fields, rest) →
    (Json.members fields).Sorted

variable {fuel : Nat}

theorem readsSorted_zero : ReadsSorted 0 where
  value h := nomatch fuel_of_readValue h
  items _ h := nomatch fuel_of_readItems h
  fields _ h := nomatch fuel_of_readFields h

theorem ReadsSorted.succ (hfuel : ReadsSorted fuel) : ReadsSorted (fuel + 1) where
  value {levels cs rest v} h := by
    rw [readValueWith_ok_iff] at h
    generalize skipSpace cs = ds at h
    cases h with
    | null => exact .null
    | yes => exact .bool true
    | no => exact .bool false
    | negative => exact .number _
    | digit => exact .number _
    | text => exact .text _
    | array h => exact .array (hfuel.items (List.forall_mem_nil _) h)
    | members h => exact hfuel.fields (.members .nil (List.forall_mem_nil _)) h
  items {levels first done items cs rest} hdone h := by
    rcases readItemsWith_ok_iff.mp h with ⟨_, -, hitems⟩ | ⟨_, v, _, -, hv, hrest⟩
    · cases hitems
      exact fun v hv => hdone v (List.mem_reverse.mp hv)
    · exact hfuel.items (List.forall_mem_cons.mpr ⟨hfuel.value hv, hdone⟩) hrest
  fields {levels first done fields cs rest} hdone h := by
    rcases readFieldsWith_ok_iff.mp h with
      ⟨_, -, hfields⟩ | ⟨_, key, _, _, v, _, -, -, -, hv, hrest⟩
    · cases hfields
      exact hdone
    · exact hfuel.fields ((hfuel.value hv).insert hdone) hrest

theorem readsSorted (fuel : Nat) : ReadsSorted fuel := by
  induction fuel with
  | zero => exact readsSorted_zero
  | succ fuel ih => exact ih.succ

/-- Every value that a text writes is sorted. -/
theorem sorted_of_parse {s : String} {v : Json} (h : parse s = .ok v) : v.Sorted := by
  obtain ⟨⟨read, rest⟩, hread, h⟩ := bind_eq_ok.mp h
  obtain ⟨_, -, h⟩ := bind_eq_ok.mp h
  cases h
  exact (readsSorted _).value hread

/-- What is under a key of a sorted object is sorted. -/
theorem Sorted.member? {v found : Json} {key : String} (h : v.Sorted)
    (hfound : v.member? key = some found) : found.Sorted := by
  cases h with
  | members hkeys h => exact h (key, found) (NameMap.mem_of_find? hfound)
  | _ => cases hfound

/-- A value whose objects are sorted, as they are in every value that a text writes. -/
structure Document where
  value : Json
  sorted : value.Sorted

namespace Document

def text (s : String) : Document := ⟨.text s, .text s⟩

def nat (n : Nat) : Document := ⟨.nat n, .number _⟩

/-- An object of the given members, of which the last with a key counts. -/
def object (fields : List (String × Document)) : Document where
  value := .object (fields.map fun e => (e.1, e.2.value))
  sorted := sorted_object <| List.forall_mem_map.mpr fun e _ => e.2.sorted

end Document

end ConsoleLink.Json
