/-! # Maps from names, in the order of their keys

An association list whose keys are kept ascending by code points, which is also the order of their
UTF-8 bytes. `insert` replaces the value of a key that is there.
-/

namespace ConsoleLink

abbrev NameMap (α : Type) := List (String × α)

namespace NameMap

variable {α β : Type}

/-- Puts a value under a key, in the key's place. -/
def insert (key : String) (value : α) : NameMap α → NameMap α
  | [] => [(key, value)]
  | (k, v) :: rest =>
    if key < k then (key, value) :: (k, v) :: rest
    else if key = k then (key, value) :: rest
    else (k, v) :: insert key value rest

/-- The value under a key. -/
def find? (key : String) : NameMap α → Option α
  | [] => none
  | (k, v) :: rest => if key = k then some v else find? key rest

/-- Changes the value under a key, if there is one. -/
def modify (key : String) (f : α → α) (m : NameMap α) : NameMap α :=
  m.map fun e => if e.1 = key then (e.1, f e.2) else e

def mapValues (f : α → β) (m : NameMap α) : NameMap β := m.map fun e => (e.1, f e.2)

def keys (m : NameMap α) : List String := m.map Prod.fst

/-- The map of a list of pairs, of which the last with a key counts. -/
def ofList (pairs : List (String × α)) : NameMap α :=
  pairs.foldl (fun m e => insert e.1 e.2 m) []

/-- Keys strictly ascending. -/
def Ordered (m : NameMap α) : Prop := m.Pairwise fun a b => a.1 < b.1

@[simp] theorem find?_nil (key : String) : find? key ([] : NameMap α) = none := rfl

theorem find?_insert (key other : String) (value : α) (m : NameMap α) :
    find? other (insert key value m) = if other = key then some value else find? other m := by
  induction m with
  | nil => simp [insert, find?]
  | cons e rest ih =>
    obtain ⟨k, v⟩ := e
    by_cases hk : key < k
    · simp [insert, hk, find?]
    · by_cases he : key = k
      · subst he
        by_cases ho : other = key <;> simp [insert, find?, ho]
      · by_cases ho : other = key
        · subst ho; simp [insert, hk, he, find?, ih]
        · by_cases hok : other = k
          · subst hok; simp [insert, hk, he, find?, ho]
          · simp [insert, hk, he, find?, ih, ho, hok]

theorem find?_mapValues (f : α → β) (key : String) (m : NameMap α) :
    find? key (mapValues f m) = (find? key m).map f := by
  induction m with
  | nil => rfl
  | cons e rest ih =>
    by_cases h : key = e.1 <;> simp_all [mapValues, find?]

@[simp] theorem keys_mapValues (f : α → β) (m : NameMap α) : keys (mapValues f m) = keys m := by
  simp [keys, mapValues]

end NameMap

end ConsoleLink
