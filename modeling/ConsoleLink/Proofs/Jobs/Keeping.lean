import ConsoleLink.Proofs.Jobs.Desk

/-! # A job that is kept

Jobs get new numbers, so nothing comes under the number of a job but what becomes of that job. Until
someone takes the answer, the job is in the queue or its answer is kept.
-/

namespace ConsoleLink

theorem Desk.mem_withoutFirst_iff {Job Reply : Type} {q : JobQueue Job Reply}
    {first : QueuedJob Job} {rest : List (QueuedJob Job)} {answer : Except JobError Reply}
    {a : Nat × Except JobError Reply} :
    a ∈ (withoutFirst q first rest answer).answers ↔
      a ∈ q.answers ∨ first.awaited = true ∧ a = (first.id, answer) := by
  unfold withoutFirst
  cases first.awaited <;> simp

/-! ## Numbers are given out once -/

namespace JobQueue

variable {Job Reply : Type} {q q' : JobQueue Job Reply} {id : Nat}

/-- Whoever takes an answer leaves those of the other jobs where they are. -/
theorem mem_collect_of_ne {a : Nat × Except JobError Reply} (ha : a ∈ q.answers) (hid : a.1 ≠ id) :
    a ∈ (q.collect id).2.answers := by
  rcases (q.collect_snd id).2.2.2 with hsame | hfilter
  · rwa [hsame]
  · rw [hfilter]
    exact List.mem_filter.mpr ⟨ha, by simpa using hid⟩

/-- The number of the next job is not in use. -/
structure Numbered (q : JobQueue Job Reply) : Prop where
  pending : ∀ j ∈ q.pending, j.id < q.issued
  answers : ∀ a ∈ q.answers, a.1 < q.issued

theorem Numbered.withJob (hq : q.Numbered) (job : Job) (awaited : Bool) :
    (Desk.withJob q job awaited).Numbered where
  pending j hj := by
    rcases List.mem_append.mp hj with hj | hj
    · exact Nat.lt_succ_of_lt (hq.pending j hj)
    · rw [List.mem_singleton.mp hj]
      exact Nat.lt_succ_self _
  answers a ha := Nat.lt_succ_of_lt (hq.answers a ha)

theorem Numbered.collect (hq : q.Numbered) (id : Nat) : (q.collect id).2.Numbered := by
  obtain ⟨hpending, hissued, -, -⟩ := q.collect_snd id
  constructor
  · rw [hpending, hissued]
    exact hq.pending
  · rw [hissued]
    exact fun a ha => hq.answers a (mem_of_mem_collect ha)

theorem Numbered.abandon (hq : q.Numbered) (id : Nat) : (q.abandon id).Numbered where
  pending j hj := by
    obtain ⟨k, hk, rfl⟩ := List.mem_map.mp hj
    have hlt := hq.pending k hk
    split_ifs <;> exact hlt
  answers a ha := hq.answers a (List.mem_of_mem_filter ha)

theorem Numbered.withoutFirst (hq : q.Numbered) {first : QueuedJob Job}
    {rest : List (QueuedJob Job)} (answer : Except JobError Reply)
    (hpending : q.pending = first :: rest) :
    (Desk.withoutFirst q first rest answer).Numbered where
  pending j hj := hq.pending j (hpending ▸ List.mem_cons_of_mem _ hj)
  answers a ha := by
    rcases Desk.mem_withoutFirst ha with ha | rfl
    · exact hq.answers a ha
    · exact hq.pending first (hpending ▸ List.mem_cons_self)

/-! ## Until its answer is taken -/

/-- A job that someone waits for is in the queue, or its answer is kept, and holds what is asked of
it. -/
structure Kept (q : JobQueue Job Reply) (id : Nat) (job : Job) (P : Except JobError Reply → Prop) :
    Prop where
  numbered : q.Numbered
  queued : ∀ j ∈ q.pending, j.id = id → j.job = job ∧ j.awaited = true
  answered : ∀ a ∈ q.answers, a.1 = id → P a.2
  there : id ∈ q.pending.map (·.id) ∨ id ∈ q.answers.map Prod.fst

variable {job : Job} {P P' : Except JobError Reply → Prop}

theorem kept_withJob (hq : q.Numbered) (job : Job) (P : Except JobError Reply → Prop) :
    (Desk.withJob q job true).Kept q.issued job P where
  numbered := hq.withJob _ _
  queued j hj hid := by
    rcases List.mem_append.mp hj with hold | hnew
    · exact absurd hid (hq.pending j hold).ne
    · rw [List.mem_singleton.mp hnew]
      exact ⟨rfl, rfl⟩
  answered a ha hid := absurd hid (hq.answers a ha).ne
  there := .inl (List.mem_map.mpr ⟨_, List.mem_append_right _ List.mem_cons_self, rfl⟩)

namespace Kept

theorem lt (hq : q.Kept id job P) : id < q.issued := by
  rcases hq.there with hqueued | hanswered
  · obtain ⟨j, hj, rfl⟩ := List.mem_map.mp hqueued
    exact hq.numbered.pending j hj
  · obtain ⟨a, ha, rfl⟩ := List.mem_map.mp hanswered
    exact hq.numbered.answers a ha

theorem mono (hq : q.Kept id job P) (h : ∀ answer, P answer → P' answer) : q.Kept id job P' :=
  ⟨hq.numbered, hq.queued, fun a ha hid => h _ (hq.answered a ha hid), hq.there⟩

theorem withJob (hq : q.Kept id job P) (other : Job) (awaited : Bool) :
    (Desk.withJob q other awaited).Kept id job P where
  numbered := hq.numbered.withJob _ _
  queued j hj hid := by
    refine hq.queued j ((List.mem_append.mp hj).resolve_right fun hnew => ?_) hid
    rw [List.mem_singleton.mp hnew] at hid
    exact hq.lt.ne' hid
  answered := hq.answered
  there := hq.there.imp_left fun hqueued => by
    rw [Desk.withJob, List.map_append]
    exact List.mem_append_left _ hqueued

theorem collect {other : Nat} (hq : q.Kept id job P) (hne : id ≠ other) :
    (q.collect other).2.Kept id job P where
  numbered := hq.numbered.collect other
  queued j hj := hq.queued j ((q.collect_snd other).1 ▸ hj)
  answered a ha := hq.answered a (mem_of_mem_collect ha)
  there := by
    rw [(q.collect_snd other).1]
    refine hq.there.imp_right fun hmem => ?_
    obtain ⟨a, ha, rfl⟩ := List.mem_map.mp hmem
    exact List.mem_map_of_mem (mem_collect_of_ne ha hne)

theorem abandon {other : Nat} (hq : q.Kept id job P) (hne : id ≠ other) :
    (q.abandon other).Kept id job P where
  numbered := hq.numbered.abandon other
  queued j hj hid := by
    obtain ⟨k, hk, rfl⟩ := List.mem_map.mp hj
    split_ifs at hid ⊢ with hother
    · exact absurd (hid.symm.trans hother) hne
    · exact hq.queued k hk hid
  answered a ha := hq.answered a (List.mem_of_mem_filter ha)
  there := by
    rw [map_pending_abandon _ fun _ => rfl]
    refine hq.there.imp_right fun hmem => ?_
    obtain ⟨a, ha, rfl⟩ := List.mem_map.mp hmem
    exact List.mem_map_of_mem (List.mem_filter.mpr ⟨ha, by simpa using hne⟩)

/-- The first job of the queue is done; if it is the job at hand, its answer is kept. -/
theorem withoutFirst (hq : q.Kept id job P) {first : QueuedJob Job} {rest : List (QueuedJob Job)}
    {answer : Except JobError Reply} (hpending : q.pending = first :: rest)
    (hanswer : first.id = id → P answer) :
    (Desk.withoutFirst q first rest answer).Kept id job P where
  numbered := hq.numbered.withoutFirst answer hpending
  queued j hj := hq.queued j (hpending ▸ List.mem_cons_of_mem _ hj)
  answered a ha hid := by
    rcases Desk.mem_withoutFirst ha with hold | rfl
    · exact hq.answered a hold hid
    · exact hanswer hid
  there := by
    by_cases hid : first.id = id
    · have hawaited := (hq.queued first (hpending ▸ List.mem_cons_self) hid).2
      rw [← hid]
      exact .inr (List.mem_map_of_mem (Desk.mem_withoutFirst_iff.mpr (.inr ⟨hawaited, rfl⟩)))
    · have hthere := hq.there
      rw [hpending, List.map_cons, List.mem_cons] at hthere
      rcases hthere with (hfirst | hrest) | hanswers
      · exact absurd hfirst.symm hid
      · exact .inl hrest
      · obtain ⟨a, ha, rfl⟩ := List.mem_map.mp hanswers
        exact .inr (List.mem_map_of_mem (Desk.mem_withoutFirst_iff.mpr (.inl ha)))

/-- Whoever looks for the answer finds it, or the job is in the queue. -/
theorem collect_cases (hq : q.Kept id job P) :
    (∃ answer, (q.collect id).1 = some answer ∧ P answer) ∨
      q.collect id = (none, q) ∧ id ∈ q.pending.map (·.id) := by
  cases hanswer : q.answers.lookup id with
  | some answer =>
    obtain ⟨before, after, hmem, -⟩ := List.lookup_eq_some_iff.mp hanswer
    exact .inl ⟨answer, collect_of_lookup hanswer,
      hq.answered (id, answer) (by rw [hmem]; simp) rfl⟩
  | none =>
    have hqueued : id ∈ q.pending.map (·.id) := by
      refine hq.there.resolve_right fun hmem => ?_
      obtain ⟨a, ha, rfl⟩ := List.mem_map.mp hmem
      have hne := List.lookup_eq_none_iff.mp hanswer a ha
      simp at hne
    exact .inr ⟨collect_of_queued hanswer hqueued, hqueued⟩

end Kept

end JobQueue

end ConsoleLink
