import ConsoleLink.Proofs.Pad.History

/-! # A port with and without one overlay

Two inputs of a port that differ in one overlay go through the same operations. They stay alike but
for what is left of the overlay, and become equal with the last of its frames.
-/

namespace ConsoleLink

/-- What an operation does to one port. -/
def InputOp.onPort (port : Nat) (op : InputOp) (P : PortInput) : PortInput where
  enabled := (op.enabled? port).getD P.enabled
  latch := if (op.enabled? port == some true) && !P.enabled then .neutral
    else (op.latch? port).getD P.latch
  timed := (if op.countsFrame port then Overlay.tick P.timed else P.timed) ++
    (op.overlay? port).toList

namespace PortInput

/-- The input of a port after the operations of a history. -/
def follow (port : Nat) (P : PortInput) (history : List InputOp) : PortInput :=
  history.foldl (fun P op => op.onPort port P) P

theorem follow_append (port : Nat) (P : PortInput) (history later : List InputOp) :
    P.follow port (history ++ later) = (P.follow port history).follow port later :=
  List.foldl_append

open InputHistory (frames remaining)

/-- A queue holds what is left of what it held at first, then what is left of the overlays that the
history queues. -/
theorem timed_follow (port : Nat) (P : PortInput) (history : List InputOp) :
    (P.follow port history).timed =
      (advance^[frames port history] P).timed ++ remaining port history := by
  induction history using List.reverseRecOn with
  | nil => exact (List.append_nil _).symm
  | append_singleton history op ih =>
    rw [follow_append, InputHistory.remaining_append, InputHistory.frames_append]
    change (if op.countsFrame port then Overlay.tick (P.follow port history).timed
      else (P.follow port history).timed) ++ (op.overlay? port).toList = _
    rw [ih]
    cases op.countsFrame port with
    | true =>
      simp [Function.iterate_succ_apply', advance_eq]
    | false => simp

end PortInput

/-! ## The buttons of a queue -/

namespace Overlay

theorem and_or_of_and {mask word : UInt16} (h : mask &&& word = mask) (other : UInt16) :
    mask &&& (word ||| other) = mask := by
  apply UInt16.eq_of_toBitVec_eq
  ext i hi
  have hbit := congrArg (fun w : UInt16 => w.toBitVec[i]) h
  simp only [UInt16.toBitVec_and, UInt16.toBitVec_or, BitVec.getElem_and, BitVec.getElem_or]
    at hbit ⊢
  rw [Bool.and_or_distrib_left, hbit]
  cases mask.toBitVec[i] <;> simp

theorem and_or_self (mask word : UInt16) : mask &&& (word ||| mask) = mask := by
  apply UInt16.eq_of_toBitVec_eq
  ext i hi
  simp only [UInt16.toBitVec_and, UInt16.toBitVec_or, BitVec.getElem_and, BitVec.getElem_or]
  cases mask.toBitVec[i] <;> simp

/-- A pad that overlays are laid over has the buttons of each of them. -/
theorem and_foldl_buttons {o : Overlay} {overlays : List Overlay} (h : o ∈ overlays)
    (base : UInt16) :
    o.buttons &&& overlays.foldl (fun word o => word ||| o.buttons) base = o.buttons := by
  induction overlays using List.reverseRecOn with
  | nil => cases h
  | append_singleton overlays last ih =>
    rw [List.foldl_append, List.foldl_cons, List.foldl_nil]
    rcases List.mem_append.mp h with hmem | hlast
    · exact and_or_of_and (ih hmem) _
    · cases List.mem_singleton.mp hlast
      exact and_or_self _ _

end Overlay

/-! ## One overlay more -/

/-- The second input has what some frames have left of an overlay and the first has not; otherwise
they are alike. -/
structure Besides (o : Overlay) (frames : Nat) (P Q : PortInput) : Prop where
  enabled : Q.enabled = P.enabled
  latch : Q.latch = P.latch
  timed : ∃ older newer, P.timed = older ++ newer ∧ Q.timed = older ++ o.after frames ++ newer

namespace Besides

variable {o : Overlay} {k : Nat} {P Q : PortInput}

theorem push (P : PortInput) (ho : 0 < o.frames) : Besides o 0 P (P.push o) :=
  ⟨rfl, rfl, P.timed, [], by simp, by simp [PortInput.push, o.after_zero ho]⟩

theorem refl (P : PortInput) (hk : o.frames ≤ k) : Besides o k P P :=
  ⟨rfl, rfl, P.timed, [], by simp, by simp [(o.after_eq_nil_iff k).mpr hk]⟩

theorem onPort (h : Besides o k P Q) (port : Nat) (op : InputOp) :
    Besides o (k + (op.countsFrame port).toNat) (op.onPort port P) (op.onPort port Q) := by
  obtain ⟨older, newer, hP, hQ⟩ := h.timed
  refine ⟨by simp only [InputOp.onPort, h.enabled],
    by simp only [InputOp.onPort, h.enabled, h.latch], ?_⟩
  simp only [InputOp.onPort, hP, hQ]
  -- a new overlay comes behind what the two have in common
  cases op.countsFrame port with
  | true =>
    refine ⟨Overlay.tick older, Overlay.tick newer ++ (op.overlay? port).toList, ?_, ?_⟩
    · simp
    · simp [Overlay.tick_after]
  | false => exact ⟨older, newer ++ (op.overlay? port).toList, by simp, by simp⟩

theorem follow (h : Besides o k P Q) (port : Nat) (history : List InputOp) :
    Besides o (k + InputHistory.frames port history) (P.follow port history)
      (Q.follow port history) := by
  induction history generalizing k P Q with
  | nil => exact h
  | cons op history ih =>
    have hcount : InputHistory.frames port (op :: history) =
        (op.countsFrame port).toNat + InputHistory.frames port history := by
      cases hop : op.countsFrame port <;> simp [InputHistory.frames, hop, Nat.add_comm]
    rw [hcount, ← Nat.add_assoc]
    exact ih (h.onPort port op)

/-- Nothing is left of the difference once the overlay has had its frames. -/
theorem eq (h : Besides o k P Q) (hk : o.frames ≤ k) : Q = P := by
  obtain ⟨older, newer, hP, hQ⟩ := h.timed
  rw [(o.after_eq_nil_iff k).mpr hk, List.append_nil, ← hP] at hQ
  cases P
  cases Q
  rw [PortInput.mk.injEq]
  exact ⟨h.enabled, h.latch, hQ⟩

/-- While the overlay has frames left, a port that is switched on shows its buttons. -/
theorem buttons_status (h : Besides o k P Q) (hk : k < o.frames) (hon : Q.enabled = true)
    (live : Pad) : o.buttons &&& (Q.status live).buttons = o.buttons := by
  obtain ⟨older, newer, -, hQ⟩ := h.timed
  have hsynthetic : o.buttons &&& Q.synthetic.buttons = o.buttons := by
    have hafter : o.after k = [{ o with frames := o.frames - k }] := if_pos hk
    rw [PortInput.synthetic, hQ, hafter, InputHistory.foldl_onto]
    exact Overlay.and_foldl_buttons (o := { o with frames := o.frames - k }) (by simp) _
  rw [PortInput.status, if_pos hon]
  exact Overlay.and_or_of_and hsynthetic _

end Besides

end ConsoleLink
