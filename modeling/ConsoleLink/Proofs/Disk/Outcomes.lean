import ConsoleLink.Disk.Access

/-! # What accesses can come to

The outcomes of a computation over every way in which its accesses may turn out. What holds of all
of them holds on every file system, however it may fail.
-/

namespace ConsoleLink.Access

variable {α β : Type} {a : α} {b : β}

/-- A computation comes to an outcome for some answers to its accesses. -/
inductive Yields : Access α → α → Prop where
  | done (a : α) : Yields (.done a) a
  | readFile {path : String} {next : Except FileError ByteArray → Access α} {a : α}
      (r : Except FileError ByteArray) (h : Yields (next r) a) : Yields (.readFile path next) a
  | writeFile {path : String} {bytes : ByteArray} {next : Except FileError Unit → Access α} {a : α}
      (r : Except FileError Unit) (h : Yields (next r) a) : Yields (.writeFile path bytes next) a
  | makeDirectories {path : String} {next : Except FileError Unit → Access α} {a : α}
      (r : Except FileError Unit) (h : Yields (next r) a) : Yields (.makeDirectories path next) a

theorem pure_bind (c : α) (f : α → Access β) : (pure c >>= f) = f c := rfl

@[simp] theorem yields_pure_iff {c : α} : (pure c : Access α).Yields a ↔ a = c := by
  constructor
  · intro h
    cases h
    rfl
  · rintro rfl
    exact .done a

theorem Yields.bind {x : Access α} {f : α → Access β} (hx : x.Yields a) (hf : (f a).Yields b) :
    (x >>= f).Yields b := by
  change (x.bind f).Yields b
  induction hx with
  | done a => exact hf
  | readFile r _ ih => exact .readFile r (ih hf)
  | writeFile r _ ih => exact .writeFile r (ih hf)
  | makeDirectories r _ ih => exact .makeDirectories r (ih hf)

theorem yields_bind_iff {x : Access α} {f : α → Access β} :
    (x >>= f).Yields b ↔ ∃ a, x.Yields a ∧ (f a).Yields b := by
  refine ⟨fun h => ?_, fun ⟨a, hx, hf⟩ => hx.bind hf⟩
  change (x.bind f).Yields b at h
  induction x with
  | done a => exact ⟨a, .done a, h⟩
  | readFile path next ih =>
    cases h with
    | readFile r h =>
      obtain ⟨a, hx, hf⟩ := ih r h
      exact ⟨a, .readFile r hx, hf⟩
  | writeFile path bytes next ih =>
    cases h with
    | writeFile r h =>
      obtain ⟨a, hx, hf⟩ := ih r h
      exact ⟨a, .writeFile r hx, hf⟩
  | makeDirectories path next ih =>
    cases h with
    | makeDirectories r h =>
      obtain ⟨a, hx, hf⟩ := ih r h
      exact ⟨a, .makeDirectories r hx, hf⟩

/-- What accesses come to on any files. -/
theorem yields_runOn {φ : Type} [FileSystem φ] (x : Access α) (d : φ) : x.Yields (x.runOn d).1 := by
  induction x generalizing d with
  | done a => exact .done a
  | readFile path next ih => exact .readFile _ (ih _ d)
  | writeFile path bytes next ih => exact .writeFile _ (ih _ _)
  | makeDirectories path next ih => exact .makeDirectories _ (ih _ _)

end ConsoleLink.Access
