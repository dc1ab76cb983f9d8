import ConsoleLink.NameMap
import ConsoleLink.Watch.Resolve

/-! # The watches of a session

Named watches with the value each had when it was last resolved. A watch that is defined anew has
no value until it is resolved again.
-/

namespace ConsoleLink

/-- A definition with its latest value. -/
structure WatchEntry where
  descriptor : WatchDescriptor
  value : Option String := none
  deriving DecidableEq

/-- Reads the value anew. -/
def WatchEntry.refresh (m : Memory) (e : WatchEntry) : WatchEntry :=
  { e with value := some (Watch.resolve m e.descriptor) }

/-- Watches by name. -/
structure Registry where
  entries : NameMap WatchEntry := []
  deriving DecidableEq

namespace Registry

/-- Defines a watch, in the place of one of the same name. -/
def define (r : Registry) (name : String) (d : WatchDescriptor) : Registry :=
  ⟨NameMap.insert name ⟨d, none⟩ r.entries⟩

/-- Defines several watches in turn. -/
def defineAll (r : Registry) (definitions : List (String × WatchDescriptor)) : Registry :=
  definitions.foldl (fun r d => r.define d.1 d.2) r

/-- The latest value of a watch. -/
def value? (r : Registry) (name : String) : Option String :=
  (NameMap.find? name r.entries).bind WatchEntry.value

/-- Resolves one watch; its new value, if there is such a watch. -/
def resolve (r : Registry) (m : Memory) (name : String) : Option String × Registry :=
  let r : Registry := ⟨NameMap.modify name (WatchEntry.refresh m) r.entries⟩
  (r.value? name, r)

/-- Resolves the watches of several names in turn. -/
def resolveNames (r : Registry) (m : Memory) (names : List String) : Registry :=
  names.foldl (fun r name => (r.resolve m name).2) r

/-- Resolves every watch. -/
def resolveAll (r : Registry) (m : Memory) : Registry :=
  ⟨NameMap.mapValues (WatchEntry.refresh m) r.entries⟩

/-- The names of the watches, in order. -/
def names (r : Registry) : List String := NameMap.keys r.entries

def size (r : Registry) : Nat := r.entries.length

end Registry

end ConsoleLink
