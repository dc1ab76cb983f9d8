import ConsoleLink.Machine.Headless
import Mathlib.Tactic

/-! # What a frame makes of a headless machine

A frame has the next number, which the machine counts before it does anything else. Only a machine
with the largest number has none, and panics. RAM keeps its size, and what is no part of a frame
stays as it is.
-/

namespace ConsoleLink.Headless

variable {s s' : Headless} {pads : Pads}

/-! ## The number -/

theorem nextNumber?_eq_some_iff {frame next : UInt64} :
    nextNumber? frame = some next ↔ next.toNat = frame.toNat + 1 := by
  have hbelow : next.toNat < UInt64.size := next.toNat_lt
  have hsum : frame.toNat + 1 < UInt64.size → (frame + 1).toNat = frame.toNat + 1 := by
    intro h
    rw [UInt64.toNat_add]
    exact Nat.mod_eq_of_lt h
  unfold nextNumber?
  split_ifs with hless
  · rw [Option.some.injEq, ← hsum hless, UInt64.toNat_inj, eq_comm]
  · exact iff_of_false nofun (by omega)

theorem nextNumber?_eq_none_iff {frame : UInt64} :
    nextNumber? frame = none ↔ frame.toNat + 1 = UInt64.size := by
  have hbelow : frame.toNat < UInt64.size := frame.toNat_lt
  unfold nextNumber?
  split_ifs with hless
  · exact iff_of_false nofun hless.ne
  · exact iff_of_true rfl (by omega)

/-! ## The machine

The fields are compared after `atFrame` is unfolded: by definition alone, whole machines would be
compared, and RAM would be published to that end. -/

theorem runFrame_eq_some_iff :
    s.runFrame pads = some s' ↔
      ∃ frame : UInt64, frame.toNat = s.frame.toNat + 1 ∧ s' = s.atFrame frame pads := by
  rw [runFrame, Option.map_eq_some_iff]
  refine exists_congr fun frame => ?_
  rw [nextNumber?_eq_some_iff, eq_comm (a := s')]

/-- A machine panics over a frame if and only if it has counted as far as it can. -/
theorem runFrame_eq_none_iff : s.runFrame pads = none ↔ s.frame.toNat + 1 = UInt64.size := by
  rw [runFrame, Option.map_eq_none_iff, nextNumber?_eq_none_iff]

theorem exists_runFrame_iff :
    (∃ s', s.runFrame pads = some s') ↔ s.frame.toNat + 1 ≠ UInt64.size := by
  rw [← Option.ne_none_iff_exists', ne_eq, runFrame_eq_none_iff]

/-- A frame raises the number by one. -/
theorem toNat_frame_of_runFrame (h : s.runFrame pads = some s') :
    s'.frame.toNat = s.frame.toNat + 1 := by
  obtain ⟨frame, hframe, rfl⟩ := runFrame_eq_some_iff.mp h
  exact hframe

theorem runState_of_runFrame (h : s.runFrame pads = some s') : s'.runState = s.runState := by
  obtain ⟨frame, -, rfl⟩ := runFrame_eq_some_iff.mp h
  rw [atFrame]

theorem stateDirectory_of_runFrame (h : s.runFrame pads = some s') :
    s'.stateDirectory = s.stateDirectory := by
  obtain ⟨frame, -, rfl⟩ := runFrame_eq_some_iff.mp h
  rw [atFrame]

theorem game_of_runFrame (h : s.runFrame pads = some s') : s'.game = s.game := by
  obtain ⟨frame, -, rfl⟩ := runFrame_eq_some_iff.mp h
  rw [atFrame]

theorem ram_of_runFrame (h : s.runFrame pads = some s') :
    s'.ram = publish s.ram s'.frame pads := by
  obtain ⟨frame, -, rfl⟩ := runFrame_eq_some_iff.mp h
  rw [atFrame]

/-- The machine after it was told to run a frame; one that panics stays as it is. -/
def afterFrame (pads : Pads) (s : Headless) : Headless := (s.runFrame pads).getD s

theorem afterFrame_cases (pads : Pads) (s : Headless) :
    s.runFrame pads = some (s.afterFrame pads) ∨
      s.runFrame pads = none ∧ s.afterFrame pads = s := by
  unfold afterFrame
  cases s.runFrame pads with
  | some s' => exact .inl rfl
  | none => exact .inr ⟨rfl, rfl⟩

end ConsoleLink.Headless
