import ConsoleLink.Proofs.Json.Reading
import Mathlib.Data.List.DropRight

/-! # Values passed over

A value that is passed over is looked at less closely than one that is read: neither surrogates nor
the range of numbers nor the depth of nesting count. Where both are possible they end at the same
character.
-/

namespace ConsoleLink.Json

variable {negative : Bool} {n k taken : Nat} {e : Int} {cs rest : List Char} {x : Number}

/-! ## Digits -/

theorem startsWithDigit_cons (c : Char) (cs : List Char) :
    startsWithDigit (c :: cs) = (digit? c).isSome := rfl

theorem dropDigits_snd (k : Nat) (cs : List Char) :
    (dropDigits k cs).2 = cs.dropWhile fun c => (digit? c).isSome := by
  induction cs generalizing k with
  | nil => rfl
  | cons c cs ih =>
    rw [dropDigits, List.dropWhile_cons]
    split
    · exact ih _
    · rfl

theorem dropDigits_of_not (h : startsWithDigit cs = false) : dropDigits k cs = (k, cs) := by
  cases cs with
  | nil => rfl
  | cons c cs =>
    rw [startsWithDigit_cons] at h
    rw [dropDigits, h]
    rfl

theorem takeDigits_of_not (h : startsWithDigit cs = false) :
    takeDigits n taken cs = (n, taken, cs) := by
  cases cs with
  | nil => rfl
  | cons c cs =>
    rw [startsWithDigit_cons, Option.isSome_eq_false_iff, Option.isNone_iff_eq_none] at h
    rw [takeDigits, h]

/-- The digits that no longer fit end where all the digits end. -/
theorem dropDigits_takeDigits (n taken : Nat) (cs : List Char) :
    (dropDigits 0 (takeDigits n taken cs).2.2).2 = (dropDigits 0 cs).2 := by
  induction cs generalizing n taken with
  | nil => rfl
  | cons c cs ih =>
    rw [takeDigits]
    split
    · rfl
    · next d hd =>
      split_ifs
      · rw [ih, dropDigits_snd, dropDigits_snd, List.dropWhile_cons, if_pos (by rw [hd]; rfl)]
      · rfl

/-! ## Numbers -/

theorem floating_rest (h : floating negative n e cs = .ok (x, rest)) : rest = cs := by
  unfold floating at h
  split at h
  · cases h
    rfl
  · cases h

theorem wholeNumber_rest (h : wholeNumber negative n cs = .ok (x, rest)) : rest = cs := by
  unfold wholeNumber at h
  split_ifs at h
  · cases h
    rfl
  · exact floating_rest h
  · cases h
    rfl

/-- The digits of an exponent start after its sign. -/
theorem skipExponent_of_sign {down : Bool} {digits : List Char}
    (h : (match cs with
      | '+' :: rest => (false, rest)
      | '-' :: rest => (true, rest)
      | _ => (false, cs)) = (down, digits)) :
    skipExponent cs = if startsWithDigit digits then .ok (dropDigits 0 digits).2
      else refuse .invalidNumber := by
  split at h
  · cases h
    rfl
  · cases h
    rfl
  · next hplus hminus =>
    cases h
    unfold skipExponent
    split
    · exact absurd rfl (hplus _)
    · exact absurd rfl (hminus _)
    · rfl

theorem skipExponent_of_read (h : readExponent negative n e cs = .ok (x, rest)) :
    skipExponent cs = .ok rest := by
  unfold readExponent at h
  split at h
  next down digits hsign =>
    rw [skipExponent_of_sign hsign]
    split at h
    · cases h
    · split at h
      · cases h
      · next c ds hc =>
        obtain rfl := floating_rest h
        exact if_pos (by simpa [startsWithDigit, Option.isSome_iff_ne_none] using hc)

/-- What follows the digits of a number, where no point can follow. -/
def skipTail : List Char → Except Error (List Char)
  | 'e' :: rest => skipExponent rest
  | 'E' :: rest => skipExponent rest
  | rest => .ok rest

theorem skipAfterWhole_point (cs : List Char) :
    skipAfterWhole ('.' :: cs) =
      if startsWithDigit cs then skipTail (dropDigits 0 cs).2 else refuse .invalidNumber := rfl

theorem skipTail_of_read (h : readTail negative n e cs = .ok (x, rest)) :
    skipTail cs = .ok rest := by
  unfold readTail at h
  split at h
  · exact skipExponent_of_read h
  · exact skipExponent_of_read h
  · rw [floating_rest h, skipTail] <;> assumption

theorem skipFraction_of_read (h : readFraction negative n e cs = .ok (x, rest)) :
    skipAfterWhole ('.' :: cs) = .ok rest := by
  unfold readFraction at h
  rw [skipAfterWhole_point]
  have hend := dropDigits_takeDigits n 0 cs
  have hnone : startsWithDigit cs = false → takeDigits n 0 cs = (n, 0, cs) := takeDigits_of_not
  split at h
  next m count left htake =>
  rw [htake] at hend hnone
  have hdigit : startsWithDigit left ∨ count ≠ 0 → startsWithDigit cs := by
    intro h
    by_contra hcs
    cases hnone (by simpa using hcs)
    simp_all
  split_ifs at h with hmore hcount hempty
  · rw [if_pos (hdigit (.inl hmore)), ← hend]
    exact skipTail_of_read h
  · cases h
  · cases h
  · rw [if_pos (hdigit (.inr hcount)), ← hend, dropDigits_of_not (by simpa using hmore)]
    exact skipTail_of_read h

theorem skipAfterWhole_of_no_point (hpoint : ∀ ds, cs ≠ '.' :: ds) :
    skipAfterWhole cs = skipTail cs := by
  unfold skipAfterWhole
  split
  · exact absurd rfl (hpoint _)
  · rfl
  · rfl
  · rw [skipTail] <;> assumption

theorem skipAfterWhole_of_read (h : readAfterWhole negative n cs = .ok (x, rest)) :
    skipAfterWhole cs = .ok rest := by
  unfold readAfterWhole at h
  split at h
  · exact skipFraction_of_read h
  · exact skipExponent_of_read h
  · exact skipExponent_of_read h
  · rw [wholeNumber_rest h, skipAfterWhole] <;> assumption

theorem skipNumber_cons {c : Char} {ds : List Char} (hzero : c ≠ '0') :
    skipNumber (c :: ds) = if startsWithDigit (c :: ds) then
      skipAfterWhole (dropDigits 0 (c :: ds)).2 else refuse .invalidNumber := by
  rw [skipNumber]
  simpa using hzero

/-- A number that can be read is passed over up to where it was read to. -/
theorem skipNumber_of_read (h : readNumber negative cs = .ok (x, rest)) :
    skipNumber cs = .ok rest := by
  unfold readNumber at h
  split at h
  · cases h
  · split_ifs at h with hdigit
    · cases h
    · exact (if_neg hdigit).trans (skipAfterWhole_of_read h)
  · next c ds hzero =>
    rw [skipNumber_cons hzero, ← dropDigits_takeDigits 0 0]
    split_ifs at h with hnone
    · cases h
    · rw [if_pos (by simpa [startsWithDigit, Option.isSome_iff_ne_none] using hnone)]
      generalize takeDigits 0 0 (c :: ds) = digits at h
      obtain ⟨m, _, left⟩ := digits
      dsimp only at h ⊢
      generalize dropDigits 0 left = digits at h
      obtain ⟨dropped, left⟩ := digits
      dsimp only at h ⊢
      split_ifs at h
      · exact skipAfterWhole_of_read h
      · split at h
        · exact skipFraction_of_read h
        · rw [skipAfterWhole_of_no_point (by assumption)]
          exact skipTail_of_read h

/-! ## Texts -/

theorem skipText_of_readFrom {done : List Char} {s : String}
    (h : readTextFrom done cs = .ok (s, rest)) : skipText cs = .ok rest := by
  fun_induction readTextFrom done cs with
  | case2 done after =>
    cases h
    rfl
  | case6 done a b c d high hhigh hnot hsur a' b' c' d' after low hlow hsur' ih =>
    -- a pair of surrogates is one character that is read and two that are passed over
    rw [skipText, hhigh, skipText, hlow]
    exact ih h
  | case12 done a b c d after n hquad hnot hnot' ih =>
    rw [skipText, hquad]
    exact ih h
  | case14 done c after hquad hu e he ih =>
    rw [skipText, he]
    · exact ih h
    · exact hquad
    · exact hu
  | case18 done c after _ _ _ _ _ hlow ih =>
    rw [skipText, if_neg hlow]
    · exact ih h
    all_goals assumption
  | _ => cases h

/-- A string that can be read is passed over up to where it was read to. -/
theorem skipText_of_read {s : String} (h : readText cs = .ok (s, rest)) :
    skipText cs = .ok rest :=
  skipText_of_readFrom h

/-! ## Punctuation -/

variable {g : Nat} {first after : Bool} {item inner out : List Char} {around : List Bracket}

theorem skipSpace_skipSpace (cs : List Char) : skipSpace (skipSpace cs) = skipSpace cs :=
  List.dropWhile_idempotent _ _

theorem skipInto_skipSpace (g : Nat) (around : List Bracket) (cs : List Char) :
    skipInto g around (skipSpace cs) = skipInto g around cs := by
  cases g with
  | zero => rw [skipInto, skipInto]
  | succ g => rw [skipInto, skipInto, skipSpace_skipSpace]

/-- No digit starts a value of another kind. -/
theorem skipInto_of_digit {c : Char} {ds : List Char} (h : skipSpace cs = c :: ds)
    (hdigit : (digit? c).isSome = true) :
    skipInto (g + 1) around cs =
      skipNumber (c :: ds) >>= fun rest => skipOut g true around rest := by
  rw [skipInto, h]
  split
  case h_9 hcons =>
    cases hcons
    exact if_pos hdigit
  case h_1 hcons => cases hcons
  all_goals
    next hcons =>
    cases hcons
    exact absurd hdigit (by decide)

theorem skipMember_skipSpace (g : Nat) (around : List Bracket) (cs : List Char) :
    skipMember g around (skipSpace cs) = skipMember g around cs := by
  cases g with
  | zero => rw [skipMember, skipMember]
  | succ g => rw [skipMember, skipMember, skipSpace_skipSpace]

theorem skipOut_close_list (h : nextItem first cs = .ok (.close rest)) :
    skipOut (g + 1) after (.list :: around) cs = skipOut g true around rest := by
  unfold nextItem at h
  rw [skipOut]
  generalize skipSpace cs = ds at h ⊢
  split at h
  · cases h
  · cases h
    rfl
  · split_ifs at h
    · cases h
    · split at h <;> cases h
    · cases h

theorem skipOut_more_list (h : nextItem first cs = .ok (.more item)) :
    skipOut (g + 1) (!first) (.list :: around) cs = skipInto g (.list :: around) item := by
  unfold nextItem at h
  rw [skipOut]
  generalize skipSpace cs = ds at h ⊢
  split at h
  · cases h
  · cases h
  · cases first with
    | true =>
      cases h
      split <;> simp_all
    | false =>
      simp only [Bool.false_eq_true, if_false] at h
      split_ifs at h with hcomma
      · subst hcomma
        split at h
        · cases h
        · cases h
        · cases h
          exact (skipInto_skipSpace _ _ _).symm
      · cases h

theorem skipOut_close_object (h : nextKey first cs = .ok (.close rest)) :
    skipOut (g + 1) after (.object :: around) cs = skipOut g true around rest := by
  unfold nextKey at h
  rw [skipOut]
  generalize skipSpace cs = ds at h ⊢
  split at h
  · cases h
  · cases h
    rfl
  · split_ifs at h
    · cases h
    · cases h
    · split at h <;> cases h
    · cases h

theorem skipOut_more_object (h : nextKey first cs = .ok (.more inner)) :
    skipOut (g + 1) (!first) (.object :: around) cs = skipMember g around ('"' :: inner) := by
  unfold nextKey at h
  rw [skipOut]
  generalize skipSpace cs = ds at h ⊢
  split at h
  · cases h
  · cases h
  · cases first with
    | true =>
      simp only [if_true] at h
      split_ifs at h with hquote
      · cases h
        subst hquote
        rfl
      · cases h
    | false =>
      simp only [Bool.false_eq_true, if_false] at h
      split_ifs at h with hcomma
      · subst hcomma
        split at h
        · cases h
        · next key hkey =>
          cases h
          rw [← hkey, skipMember_skipSpace]
          rfl
        · cases h
        · cases h
      · cases h

theorem skipInto_of_skipMember {key : String} {colon : List Char}
    (hkey : readText inner = .ok (key, rest)) (hcolon : afterColon rest = .ok colon)
    (h : skipMember g around ('"' :: inner) = .ok out) :
    ∃ g', skipInto g' (.object :: around) colon = .ok out := by
  cases g with
  | zero =>
    rw [skipMember] at h
    cases h
  | succ g =>
    rw [skipMember] at h
    obtain ⟨_, htext, h⟩ := bind_eq_ok.mp h
    obtain ⟨_, hcolon', h⟩ := bind_eq_ok.mp h
    cases (skipText_of_read hkey).symm.trans htext
    cases hcolon.symm.trans hcolon'
    exact ⟨g, h⟩

/-! ## Values -/

/-- What the three readers read with so much fuel is passed over up to where it was read to: what
is left of passing over it and what closes the containers around it goes on from there. -/
structure Passes (fuel : Nat) : Prop where
  value : ∀ {levels g : Nat} {cs rest out : List Char} {v : Json} {around : List Bracket},
    readValueWith fuel levels cs = .ok (v, rest) → skipInto g around cs = .ok out →
    ∃ g', skipOut g' true around rest = .ok out
  items : ∀ {levels g : Nat} {first : Bool} {done items : List Json} {cs rest out : List Char}
    {around : List Bracket}, readItemsWith fuel levels first done cs = .ok (items, rest) →
    skipOut g (!first) (.list :: around) cs = .ok out → ∃ g', skipOut g' true around rest = .ok out
  fields : ∀ {levels g : Nat} {first : Bool} {done fields : NameMap Json} {cs rest out : List Char}
    {around : List Bracket}, readFieldsWith fuel levels first done cs = .ok (fields, rest) →
    skipOut g (!first) (.object :: around) cs = .ok out →
    ∃ g', skipOut g' true around rest = .ok out

variable {fuel : Nat}

theorem passes_zero : Passes 0 where
  value h _ := nomatch fuel_of_readValue h
  items h _ := nomatch fuel_of_readItems h
  fields h _ := nomatch fuel_of_readFields h

/-- A value without parts is passed over in one piece. -/
theorem exists_skipOut {x : Except Error (List Char)} (hx : x = .ok rest)
    (hskip : (x >>= fun rest => skipOut g true around rest) = .ok out) :
    ∃ g', skipOut g' true around rest = .ok out := by
  rw [hx] at hskip
  exact ⟨g, hskip⟩

theorem Passes.succ (hfuel : Passes fuel) : Passes (fuel + 1) where
  value {levels g cs rest out v around} hread hskip := by
    cases g with
    | zero =>
      rw [skipInto] at hskip
      cases hskip
    | succ g =>
    rw [readValueWith_ok_iff] at hread
    generalize hds : skipSpace cs = ds at hread
    cases hread with
    | null h | yes h | no h =>
      rw [skipInto, hds] at hskip
      exact exists_skipOut h hskip
    | negative h =>
      rw [skipInto, hds] at hskip
      exact exists_skipOut (skipNumber_of_read h) hskip
    | digit hdigit h =>
      rw [skipInto_of_digit hds hdigit] at hskip
      exact exists_skipOut (skipNumber_of_read h) hskip
    | text h =>
      rw [skipInto, hds] at hskip
      exact exists_skipOut (skipText_of_read h) hskip
    | array h =>
      rw [skipInto, hds] at hskip
      exact hfuel.items h hskip
    | members h =>
      rw [skipInto, hds] at hskip
      exact hfuel.fields h hskip
  items {levels g first done items cs rest out around} hread hskip := by
    cases g with
    | zero =>
      rw [skipOut] at hskip
      cases hskip
    | succ g =>
    rcases readItemsWith_ok_iff.mp hread with ⟨_, hnext, hitems⟩ | ⟨_, _, _, hnext, hv, hrest⟩
    · cases hitems
      exact ⟨g, (skipOut_close_list hnext).symm.trans hskip⟩
    · rw [skipOut_more_list hnext] at hskip
      obtain ⟨g', hskip⟩ := hfuel.value hv hskip
      exact hfuel.items hrest hskip
  fields {levels g first done fields cs rest out around} hread hskip := by
    cases g with
    | zero =>
      rw [skipOut] at hskip
      cases hskip
    | succ g =>
    rcases readFieldsWith_ok_iff.mp hread with
      ⟨_, hnext, hfields⟩ | ⟨_, _, _, _, _, _, hnext, hkey, hcolon, hv, hrest⟩
    · cases hfields
      exact ⟨g, (skipOut_close_object hnext).symm.trans hskip⟩
    · rw [skipOut_more_object hnext] at hskip
      obtain ⟨g, hskip⟩ := skipInto_of_skipMember hkey hcolon hskip
      obtain ⟨g', hskip⟩ := hfuel.value hv hskip
      exact hfuel.fields hrest hskip

theorem passes (fuel : Nat) : Passes fuel := by
  induction fuel with
  | zero => exact passes_zero
  | succ fuel ih => exact ih.succ

/-- A value that can be both read and passed over ends at the same character. -/
theorem skipValue_of_read {levels : Nat} {v : Json}
    (hread : readValueWith fuel levels cs = .ok (v, rest)) (hskip : skipValue cs = .ok out) :
    out = rest := by
  obtain ⟨g, hout⟩ := (passes fuel).value hread hskip
  cases g with
  | zero =>
    rw [skipOut] at hout
    cases hout
  | succ g =>
    rw [skipOut] at hout
    · cases hout
      rfl
    · exact Nat.succ_ne_zero g

end ConsoleLink.Json
