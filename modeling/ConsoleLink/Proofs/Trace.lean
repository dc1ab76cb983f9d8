/-! # Labelled steps, one after another

The lists of labels that lead from one state to another, for any kind of step.
-/

namespace ConsoleLink

variable {S L : Type} {step : S → L → S → Prop} {s s' s'' : S} {label : L} {labels later : List L}

/-- Steps with these labels lead from one state to another. -/
inductive Trace (step : S → L → S → Prop) : S → List L → S → Prop where
  | stop (s : S) : Trace step s [] s
  | next {s s' s'' : S} {label : L} {labels : List L} (h : step s label s')
      (hlater : Trace step s' labels s'') : Trace step s (label :: labels) s''

namespace Trace

theorem append_iff :
    Trace step s (labels ++ later) s' ↔
      ∃ between, Trace step s labels between ∧ Trace step between later s' := by
  induction labels generalizing s with
  | nil =>
    constructor
    · exact fun h => ⟨s, .stop s, h⟩
    · rintro ⟨_, ⟨⟩, h⟩
      exact h
  | cons label labels ih =>
    constructor
    · rintro (_ | ⟨h, hlater⟩)
      obtain ⟨between, hlabels, hrest⟩ := ih.mp hlater
      exact ⟨between, .next h hlabels, hrest⟩
    · rintro ⟨between, _ | ⟨h, hlabels⟩, hrest⟩
      exact .next h (ih.mpr ⟨between, hlabels, hrest⟩)

theorem append (h : Trace step s labels s') (hlater : Trace step s' later s'') :
    Trace step s (labels ++ later) s'' := append_iff.mpr ⟨s', h, hlater⟩

theorem one (h : step s label s') : Trace step s [label] s' := .next h (.stop s')

/-- What holds of the labels so far and the state and is kept by every step holds after the last
one. -/
theorem keeps_along (I : List L → S → Prop)
    (hstep : ∀ {earlier : List L} {s s' : S} {label : L}, I earlier s → step s label s' →
      I (earlier ++ [label]) s') (earlier : List L) (h : Trace step s labels s')
    (hs : I earlier s) : I (earlier ++ labels) s' := by
  induction h generalizing earlier with
  | stop s => rwa [List.append_nil]
  | next hfirst _ ih =>
    rw [List.append_cons]
    exact ih _ (hstep hs hfirst)

/-- What holds at first and is kept by every step holds after the last one. -/
theorem keeps (I : S → Prop) (hstep : ∀ {s s' : S} {label : L}, I s → step s label s' → I s')
    (h : Trace step s labels s') (hs : I s) : I s' :=
  h.keeps_along (fun _ => I) hstep [] hs

end Trace

end ConsoleLink
