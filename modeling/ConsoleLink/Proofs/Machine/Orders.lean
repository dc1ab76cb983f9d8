import ConsoleLink.Proofs.Machine.StateFiles

/-! # What a headless machine makes of an order

All that an order can come to, whatever the files say: a boot or a load that succeeds and a run
state that is set change the machine, and nothing else does.
-/

namespace ConsoleLink

/-- An order that leaves the machine as it is and is answered. -/
def Order.isInquiry : Order → Bool
  | .boot _ | .load _ | .setRunState _ => false
  | _ => true

namespace Headless

/-- The order, its answer and the machine after it. -/
inductive Obeyed (s : Headless) : Order → Except JobError Reply → Headless → Prop where
  | refused {order : Order} {e : JobError} (h : ∀ state, order ≠ .setRunState state) :
      Obeyed s order (.error e) s
  | answered {order : Order} {reply : Reply} (h : order.isInquiry = true) :
      Obeyed s order (.ok reply) s
  | booted {path : String} {image : ByteArray} :
      Obeyed s (.boot path) (.ok .done) (s.start path image)
  | loaded {target : StateTarget} {saved : Snapshot} {s' : Headless}
      (h : s.install saved = .ok s') :
      Obeyed s (.load target) (.ok .done) s'
  | set {state : RunState} : Obeyed s (.setRunState state) (.ok .done) { s with runState := state }

variable {s s' : Headless} {order : Order} {answer : Except JobError Reply}

theorem boot_yields {path : String} {r : Except MachineError Headless}
    (h : (s.boot path).Yields r) : (∃ e, r = .error e) ∨ ∃ image, r = .ok (s.start path image) := by
  rw [boot_eq, Access.yields_map_read_iff] at h
  obtain ⟨e | image, rfl⟩ := h
  · exact .inl ⟨_, rfl⟩
  · rw [bootedFrom]
    split_ifs
    · exact .inl ⟨_, rfl⟩
    · exact .inr ⟨image, rfl⟩

theorem load_yields {target : StateTarget} {r : Except MachineError Headless}
    (h : (s.load target).Yields r) : (∃ e, r = .error e) ∨ ∃ saved, r = s.install saved := by
  rw [load_eq, Access.yields_map_read_iff] at h
  obtain ⟨found, rfl⟩ := h
  rw [loadedFrom]
  rcases savedIn found with e | _ | saved
  · exact .inl ⟨_, rfl⟩
  · exact .inl ⟨_, rfl⟩
  · exact .inr ⟨saved, rfl⟩

/-- The answer to an inquiry is a reply or an error, and the machine stays as it is. -/
theorem obeyed_inquiry (horder : order.isInquiry = true) (hanswer : s' = s) :
    Obeyed s order answer s' := by
  rw [hanswer]
  cases answer with
  | ok reply => exact .answered horder
  | error e =>
    refine .refused fun state hstate => ?_
    rw [hstate] at horder
    cases horder

theorem obey_yields (h : (obey order s).Yields (answer, s')) : Obeyed s order answer s' := by
  cases order with
  | boot path =>
    obtain ⟨r, hboot, h⟩ := Access.yields_bind_iff.mp h
    rcases boot_yields hboot with ⟨e, rfl⟩ | ⟨image, rfl⟩
    · cases Access.yields_pure_iff.mp h
      exact .refused nofun
    · cases Access.yields_pure_iff.mp h
      exact .booted
  | load target =>
    obtain ⟨r, hload, h⟩ := Access.yields_bind_iff.mp h
    rcases load_yields hload with ⟨e, rfl⟩ | ⟨saved, rfl⟩
    · cases Access.yields_pure_iff.mp h
      exact .refused nofun
    · cases hinstall : s.install saved with
      | error e =>
        rw [hinstall] at h
        cases Access.yields_pure_iff.mp h
        exact .refused nofun
      | ok restored =>
        rw [hinstall] at h
        cases Access.yields_pure_iff.mp h
        exact .loaded hinstall
  | setRunState state =>
    cases Access.yields_pure_iff.mp h
    exact .set
  | save target | describe target =>
    obtain ⟨r, -, h⟩ := Access.yields_bind_iff.mp h
    exact obeyed_inquiry rfl (congrArg Prod.snd (Access.yields_pure_iff.mp h))
  | reportRunState | grabFrame =>
    exact obeyed_inquiry rfl (congrArg Prod.snd (Access.yields_pure_iff.mp h))

theorem runState_install {saved : Snapshot} (h : s.install saved = .ok s') :
    s'.runState = s.runState := by
  obtain ⟨-, rfl⟩ := install_eq_ok_iff.mp h
  rfl

end Headless

end ConsoleLink
