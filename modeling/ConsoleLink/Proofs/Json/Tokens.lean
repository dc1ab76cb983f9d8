import ConsoleLink.Proofs.Json.Skipping

/-! # Strings and numbers that are passed over

Of what can be passed over, only two things cannot be read: a number that no double comes near, and
a string with a surrogate that has no partner. Everything else is read up to the same character.
-/

namespace ConsoleLink.Json

variable {negative : Bool} {n k taken : Nat} {e : Int} {cs rest : List Char}

/-! ## Numbers -/

/-- A number is read up to a character, or it is out of range. -/
def ReadsTo (read : Reading Number) (rest : List Char) : Prop :=
  (∃ x, read = .ok (x, rest)) ∨ read = refuse .numberOutOfRange

theorem readsTo_floating (negative : Bool) (n : Nat) (e : Int) (rest : List Char) :
    ReadsTo (floating negative n e rest) rest := by
  unfold floating
  split
  · exact .inl ⟨_, rfl⟩
  · exact .inr rfl

theorem readsTo_wholeNumber (negative : Bool) (n : Nat) (rest : List Char) :
    ReadsTo (wholeNumber negative n rest) rest := by
  unfold wholeNumber
  split_ifs
  · exact .inl ⟨_, rfl⟩
  · exact readsTo_floating true n 0 rest
  · exact .inl ⟨_, rfl⟩

theorem readsTo_exponent (h : skipExponent cs = .ok rest) :
    ReadsTo (readExponent negative n e cs) rest := by
  unfold readExponent
  split
  next down digits hsign =>
    rw [skipExponent_of_sign hsign] at h
    split_ifs at h with hdigit
    · cases h
      cases digits with
      | nil => cases hdigit
      | cons c ds =>
        rw [startsWithDigit_cons, Option.isSome_iff_ne_none] at hdigit
        dsimp only
        rw [if_neg (by simpa using hdigit)]
        exact readsTo_floating _ _ _ _
    · cases h

theorem readsTo_tail (h : skipTail cs = .ok rest) : ReadsTo (readTail negative n e cs) rest := by
  unfold skipTail at h
  split at h
  · exact readsTo_exponent h
  · exact readsTo_exponent h
  · next hsmall hlarge =>
    cases h
    unfold readTail
    split
    · exact absurd rfl (hsmall _)
    · exact absurd rfl (hlarge _)
    · exact readsTo_floating _ _ _ _

theorem le_taken (n taken : Nat) (cs : List Char) : taken ≤ (takeDigits n taken cs).2.1 := by
  induction cs generalizing n taken with
  | nil => exact Nat.le_refl taken
  | cons c cs ih =>
    rw [takeDigits]
    split
    · exact Nat.le_refl taken
    · split_ifs
      · exact Nat.le_of_succ_le (ih _ _)
      · exact Nat.le_refl taken

/-- Digits that are there are taken, unless the first one already no longer fits. -/
theorem startsWithDigit_of_none_taken (h : startsWithDigit cs = true)
    (hnone : (takeDigits n 0 cs).2.1 = 0) : startsWithDigit (takeDigits n 0 cs).2.2 = true := by
  cases cs with
  | nil => cases h
  | cons c cs =>
    rw [startsWithDigit_cons] at h
    obtain ⟨d, hd⟩ := Option.isSome_iff_exists.mp h
    have hcons : takeDigits n 0 (c :: cs) = if n * 10 + d < UInt64.size then
        takeDigits (n * 10 + d) 1 cs else (n, 0, c :: cs) := by
      rw [takeDigits, hd]
    rw [hcons] at hnone ⊢
    split_ifs at hnone ⊢
    · exact absurd (le_taken (n * 10 + d) 1 cs) (by omega)
    · exact h

theorem readsTo_fraction (h : skipAfterWhole ('.' :: cs) = .ok rest) :
    ReadsTo (readFraction negative n e cs) rest := by
  rw [skipAfterWhole_point] at h
  split_ifs at h with hdigit
  · have hend := dropDigits_takeDigits n 0 cs
    have hnone := startsWithDigit_of_none_taken (n := n) hdigit
    unfold readFraction
    generalize takeDigits n 0 cs = digits at hend hnone
    obtain ⟨m, count, left⟩ := digits
    dsimp only at hend hnone ⊢
    rw [← hend] at h
    split_ifs with hmore hcount hempty
    · exact readsTo_tail h
    · exact absurd (hnone hcount) hmore
    · exact absurd (hnone hcount) hmore
    · rw [dropDigits_of_not (by simpa using hmore)] at h
      exact readsTo_tail h
  · cases h

theorem readsTo_afterWhole (h : skipAfterWhole cs = .ok rest) :
    ReadsTo (readAfterWhole negative n cs) rest := by
  unfold readAfterWhole
  split
  · exact readsTo_fraction h
  · exact readsTo_exponent h
  · exact readsTo_exponent h
  · rw [skipAfterWhole] at h
    · cases h
      exact readsTo_wholeNumber negative n _
    all_goals assumption

/-- A number that is passed over is read up to the same character, or it is out of range. -/
theorem readsTo_number (h : skipNumber cs = .ok rest) : ReadsTo (readNumber negative cs) rest := by
  unfold readNumber
  split
  · cases h
  · rw [skipNumber] at h
    split_ifs at h with hdigit
    · cases h
    · rw [if_neg hdigit]
      exact readsTo_afterWhole h
  · next c ds hzero =>
    rw [skipNumber_cons hzero, ← dropDigits_takeDigits 0 0] at h
    split_ifs at h with hdigit
    · rw [startsWithDigit_cons, Option.isSome_iff_ne_none] at hdigit
      rw [if_neg (by simpa using hdigit)]
      generalize takeDigits 0 0 (c :: ds) = digits at h
      obtain ⟨m, _, left⟩ := digits
      dsimp only at h ⊢
      generalize dropDigits 0 left = digits at h
      obtain ⟨dropped, left⟩ := digits
      dsimp only at h ⊢
      split_ifs
      · exact readsTo_afterWhole h
      · split
        · exact readsTo_fraction h
        · rw [skipAfterWhole_of_no_point (by assumption)] at h
          exact readsTo_tail h
    · cases h

theorem startsWithDigit_of_skip (h : skipNumber cs = .ok rest) : startsWithDigit cs = true := by
  unfold skipNumber at h
  split at h
  · rfl
  · split_ifs at h with hdigit
    · exact hdigit
    · cases h

/-! ## Strings -/

/-- A string is not read because one of its surrogates has no partner. -/
def SurrogateFault {α : Type} (read : Reading α) : Prop :=
  read = refuse .loneSurrogate ∨ read = refuse .unpairedSurrogate

theorem skipText_unit {a b c d : Char} {m : Nat} (h : quad? a b c d = some m) :
    skipText ('\\' :: 'u' :: a :: b :: c :: d :: cs) = skipText cs := by
  rw [skipText, h]

theorem skipText_no_unit {a b c d : Char} (h : quad? a b c d = none) :
    skipText ('\\' :: 'u' :: a :: b :: c :: d :: cs) = refuse .invalidEscape := by
  rw [skipText, h]

theorem skipText_short {digits : List Char}
    (h : ∀ a b c d rest, digits = a :: b :: c :: d :: rest → False) :
    skipText ('\\' :: 'u' :: digits) = refuse (quadFault digits) := by
  rw [skipText]
  exact h

theorem readTextFrom_of_skip {done : List Char} (h : skipText cs = .ok rest) :
    (∃ s, readTextFrom done cs = .ok (s, rest)) ∨ SurrogateFault (readTextFrom done cs) := by
  fun_induction readTextFrom done cs with
  | case2 =>
    cases h
    exact .inl ⟨_, rfl⟩
  -- the faults of surrogates
  | case4 | case7 => exact .inr (.inl rfl)
  | case11 => exact .inr (.inr rfl)
  -- what goes on after an escape or a character
  | case6 _ _ _ _ _ _ hhigh _ _ _ _ _ _ _ _ hlow _ ih =>
    rw [skipText_unit hhigh, skipText_unit hlow] at h
    exact ih h
  | case12 _ _ _ _ _ _ _ hquad _ _ ih =>
    rw [skipText_unit hquad] at h
    exact ih h
  | case14 _ _ _ hquad hu _ he ih =>
    rw [skipText, he] at h
    · exact ih h
    · exact hquad
    · exact hu
  | case18 _ _ _ _ _ _ _ _ hcontrol ih =>
    rw [skipText, if_neg hcontrol] at h
    · exact ih h
    all_goals assumption
  -- what cannot be passed over
  | case3 _ _ _ _ _ _ hquad =>
    rw [skipText_no_unit hquad] at h
    cases h
  | case5 _ _ _ _ _ _ hhigh _ _ _ _ _ _ _ hlow =>
    rw [skipText_unit hhigh, skipText_no_unit hlow] at h
    cases h
  | case8 _ _ _ _ _ _ hquad _ _ _ hshort =>
    rw [skipText_unit hquad, skipText_short hshort] at h
    cases h
  | case9 _ _ _ _ _ _ hquad | case10 _ _ _ _ _ _ hquad =>
    rw [skipText_unit hquad] at h
    cases h
  | case13 _ _ hshort =>
    rw [skipText_short hshort] at h
    cases h
  | case15 _ _ _ hquad hu he =>
    rw [skipText, he] at h
    · cases h
    · exact hquad
    · exact hu
  | case17 _ _ _ _ _ _ _ _ hcontrol =>
    rw [skipText, if_pos hcontrol] at h
    · cases h
    all_goals assumption
  | case1 | case16 => cases h

/-- A string that is passed over is read up to the same character, or it has a surrogate without a
partner. -/
theorem readText_of_skip (h : skipText cs = .ok rest) :
    (∃ s, readText cs = .ok (s, rest)) ∨ SurrogateFault (readText cs) :=
  readTextFrom_of_skip h

/-! ## What is left -/

theorem length_skipText (h : skipText cs = .ok rest) : rest.length < cs.length := by
  fun_induction skipText cs with
  | case2 =>
    cases h
    exact Nat.lt_succ_self _
  | case4 _ _ _ _ _ _ _ ih | case6 _ _ _ _ _ _ ih | case10 _ _ _ _ _ _ _ _ ih =>
    have hless := ih h
    simp only [List.length_cons]
    omega
  | _ => cases h

theorem length_dropDigits (cs : List Char) : (dropDigits k cs).2.length ≤ cs.length := by
  rw [dropDigits_snd]
  exact List.length_dropWhile_le _ cs

theorem length_skipExponent (h : skipExponent cs = .ok rest) : rest.length ≤ cs.length := by
  unfold skipExponent at h
  dsimp only at h
  split_ifs at h
  · cases h
    refine (length_dropDigits _).trans ?_
    split <;> simp
  · cases h

theorem length_skipTail (h : skipTail cs = .ok rest) : rest.length ≤ cs.length := by
  unfold skipTail at h
  split at h
  · exact (length_skipExponent h).trans (Nat.le_succ _)
  · exact (length_skipExponent h).trans (Nat.le_succ _)
  · cases h
    exact Nat.le_refl _

theorem length_skipAfterWhole (h : skipAfterWhole cs = .ok rest) : rest.length ≤ cs.length := by
  by_cases hpoint : ∃ ds, cs = '.' :: ds
  · obtain ⟨ds, rfl⟩ := hpoint
    rw [skipAfterWhole_point] at h
    split_ifs at h
    · exact ((length_skipTail h).trans (length_dropDigits ds)).trans (Nat.le_succ _)
    · cases h
  · rw [skipAfterWhole_of_no_point (not_exists.mp hpoint)] at h
    exact length_skipTail h

theorem length_skipNumber (h : skipNumber cs = .ok rest) : rest.length < cs.length := by
  cases cs with
  | nil => cases h
  | cons c cs =>
    by_cases hzero : c = '0'
    · subst hzero
      rw [skipNumber] at h
      split_ifs at h
      · cases h
      · exact Nat.lt_succ_of_le (length_skipAfterWhole h)
    · rw [skipNumber_cons hzero] at h
      split_ifs at h with hdigit
      · have hdrop := length_skipAfterWhole h
        rw [startsWithDigit_cons] at hdigit
        rw [dropDigits_snd, List.dropWhile_cons, if_pos hdigit] at hdrop
        exact Nat.lt_succ_of_le (hdrop.trans (List.length_dropWhile_le _ cs))
      · cases h

end ConsoleLink.Json
