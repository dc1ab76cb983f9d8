import ConsoleLink.Json.Reader
import ConsoleLink.Proofs.Except

/-! # How a value is read

What the first character of a value decides, and what there is between the brackets of an array or
object. A reading that succeeds has fuel, and with more fuel it reads the same.
-/

namespace ConsoleLink.Json

variable {fuel fuel' levels : Nat} {first : Bool} {cs rest : List Char}

/-! ## What is read -/

/-- A value is read from characters that start with it. -/
inductive Reads (fuel : Nat) : (levels : Nat) → List Char → Json → List Char → Prop where
  | null {levels : Nat} {cs rest : List Char} (h : expectChars ['u', 'l', 'l'] cs = .ok rest) :
      Reads fuel levels ('n' :: cs) .null rest
  | yes {levels : Nat} {cs rest : List Char} (h : expectChars ['r', 'u', 'e'] cs = .ok rest) :
      Reads fuel levels ('t' :: cs) (.bool true) rest
  | no {levels : Nat} {cs rest : List Char}
      (h : expectChars ['a', 'l', 's', 'e'] cs = .ok rest) :
      Reads fuel levels ('f' :: cs) (.bool false) rest
  | negative {levels : Nat} {cs rest : List Char} {n : Number}
      (h : readNumber true cs = .ok (n, rest)) : Reads fuel levels ('-' :: cs) (.number n) rest
  | digit {levels : Nat} {c : Char} {cs rest : List Char} {n : Number}
      (hdigit : (digit? c).isSome = true) (h : readNumber false (c :: cs) = .ok (n, rest)) :
      Reads fuel levels (c :: cs) (.number n) rest
  | text {levels : Nat} {cs rest : List Char} {s : String} (h : readText cs = .ok (s, rest)) :
      Reads fuel levels ('"' :: cs) (.text s) rest
  | array {levels : Nat} {cs rest : List Char} {items : List Json}
      (h : readItemsWith fuel levels true [] cs = .ok (items, rest)) :
      Reads fuel (levels + 1) ('[' :: cs) (.array items) rest
  | members {levels : Nat} {cs rest : List Char} {fields : NameMap Json}
      (h : readFieldsWith fuel levels true [] cs = .ok (fields, rest)) :
      Reads fuel (levels + 1) ('\x7b' :: cs) (.members fields) rest

theorem readValueWith_ok_iff {v : Json} : readValueWith (fuel + 1) levels cs = .ok (v, rest) ↔
    Reads fuel levels (skipSpace cs) v rest := by
  rw [readValueWith]
  generalize skipSpace cs = ds
  constructor
  · intro h
    split at h
    · cases h
    · obtain ⟨_, hread, hv⟩ := map_eq_ok.mp h
      cases hv
      exact .null hread
    · obtain ⟨_, hread, hv⟩ := map_eq_ok.mp h
      cases hv
      exact .yes hread
    · obtain ⟨_, hread, hv⟩ := map_eq_ok.mp h
      cases hv
      exact .no hread
    · obtain ⟨_, hread, hv⟩ := map_eq_ok.mp h
      cases hv
      exact .negative hread
    · obtain ⟨_, hread, hv⟩ := map_eq_ok.mp h
      cases hv
      exact .text hread
    · split at h
      · cases h
      · obtain ⟨_, hread, hv⟩ := map_eq_ok.mp h
        cases hv
        exact .array hread
    · split at h
      · cases h
      · obtain ⟨_, hread, hv⟩ := map_eq_ok.mp h
        cases hv
        exact .members hread
    · split at h
      · next hdigit =>
        obtain ⟨_, hread, hv⟩ := map_eq_ok.mp h
        cases hv
        exact .digit hdigit hread
      · cases h
  · intro h
    cases h with
    | digit hdigit h =>
      -- no digit starts a value of another kind
      split
      case h_9 hcons =>
        cases hcons
        rw [if_pos hdigit]
        exact map_eq_ok.mpr ⟨_, h, rfl⟩
      case h_1 hcons => cases hcons
      all_goals
        next hcons =>
        cases hcons
        exact absurd hdigit (by decide)
    | _ h => exact map_eq_ok.mpr ⟨_, h, rfl⟩

theorem readItemsWith_ok_iff {done : List Json} {r : List Json × List Char} :
    readItemsWith (fuel + 1) levels first done cs = .ok r ↔
      (∃ rest, nextItem first cs = .ok (.close rest) ∧ r = (done.reverse, rest)) ∨
      ∃ item v rest, nextItem first cs = .ok (.more item) ∧
        readValueWith fuel levels item = .ok (v, rest) ∧
        readItemsWith fuel levels false (v :: done) rest = .ok r := by
  rw [readItemsWith]
  constructor
  · intro h
    obtain ⟨next, hnext, h⟩ := bind_eq_ok.mp h
    cases next with
    | close rest =>
      cases h
      exact .inl ⟨rest, hnext, rfl⟩
    | more item =>
      obtain ⟨⟨v, rest⟩, hv, h⟩ := bind_eq_ok.mp h
      exact .inr ⟨item, v, rest, hnext, hv, h⟩
  · rintro (⟨rest, hnext, rfl⟩ | ⟨item, v, rest, hnext, hv, h⟩)
    · exact bind_eq_ok.mpr ⟨_, hnext, rfl⟩
    · exact bind_eq_ok.mpr ⟨_, hnext, bind_eq_ok.mpr ⟨_, hv, h⟩⟩

theorem readFieldsWith_ok_iff {done : NameMap Json} {r : NameMap Json × List Char} :
    readFieldsWith (fuel + 1) levels first done cs = .ok r ↔
      (∃ rest, nextKey first cs = .ok (.close rest) ∧ r = (done, rest)) ∨
      ∃ inner key after colon v rest, nextKey first cs = .ok (.more inner) ∧
        readText inner = .ok (key, after) ∧ afterColon after = .ok colon ∧
        readValueWith fuel levels colon = .ok (v, rest) ∧
        readFieldsWith fuel levels false (NameMap.insert key v done) rest = .ok r := by
  rw [readFieldsWith]
  constructor
  · intro h
    obtain ⟨next, hnext, h⟩ := bind_eq_ok.mp h
    cases next with
    | close rest =>
      cases h
      exact .inl ⟨rest, hnext, rfl⟩
    | more inner =>
      obtain ⟨⟨key, after⟩, hkey, h⟩ := bind_eq_ok.mp h
      obtain ⟨colon, hcolon, h⟩ := bind_eq_ok.mp h
      obtain ⟨⟨v, rest⟩, hv, h⟩ := bind_eq_ok.mp h
      exact .inr ⟨inner, key, after, colon, v, rest, hnext, hkey, hcolon, hv, h⟩
  · rintro (⟨rest, hnext, rfl⟩ | ⟨inner, key, after, colon, v, rest, hnext, hkey, hcolon, hv, h⟩)
    · exact bind_eq_ok.mpr ⟨_, hnext, rfl⟩
    · refine bind_eq_ok.mpr ⟨_, hnext, bind_eq_ok.mpr ⟨_, hkey, ?_⟩⟩
      exact bind_eq_ok.mpr ⟨_, hcolon, bind_eq_ok.mpr ⟨_, hv, h⟩⟩

/-! ## Fuel -/

theorem fuel_of_readValue {r : Json × List Char} (h : readValueWith fuel levels cs = .ok r) :
    ∃ less, fuel = less + 1 := by
  cases fuel with
  | zero =>
    rw [readValueWith] at h
    cases h
  | succ less => exact ⟨less, rfl⟩

theorem fuel_of_readItems {done : List Json} {r : List Json × List Char}
    (h : readItemsWith fuel levels first done cs = .ok r) : ∃ less, fuel = less + 1 := by
  cases fuel with
  | zero =>
    rw [readItemsWith] at h
    cases h
  | succ less => exact ⟨less, rfl⟩

theorem fuel_of_readFields {done : NameMap Json} {r : NameMap Json × List Char}
    (h : readFieldsWith fuel levels first done cs = .ok r) : ∃ less, fuel = less + 1 := by
  cases fuel with
  | zero =>
    rw [readFieldsWith] at h
    cases h
  | succ less => exact ⟨less, rfl⟩

/-- What the three readers read with so much fuel they read with more. -/
structure Grows (fuel : Nat) : Prop where
  value : ∀ {levels : Nat} {cs : List Char} {r : Json × List Char},
    readValueWith fuel levels cs = .ok r → readValueWith (fuel + 1) levels cs = .ok r
  items : ∀ {levels : Nat} {first : Bool} {done : List Json} {cs : List Char}
    {r : List Json × List Char}, readItemsWith fuel levels first done cs = .ok r →
    readItemsWith (fuel + 1) levels first done cs = .ok r
  fields : ∀ {levels : Nat} {first : Bool} {done : NameMap Json} {cs : List Char}
    {r : NameMap Json × List Char}, readFieldsWith fuel levels first done cs = .ok r →
    readFieldsWith (fuel + 1) levels first done cs = .ok r

theorem grows_zero : Grows 0 where
  value h := nomatch fuel_of_readValue h
  items h := nomatch fuel_of_readItems h
  fields h := nomatch fuel_of_readFields h

theorem Grows.succ (hfuel : Grows fuel) : Grows (fuel + 1) where
  value {levels cs r} h := by
    obtain ⟨v, rest⟩ := r
    rw [readValueWith_ok_iff] at h ⊢
    generalize skipSpace cs = ds at h ⊢
    cases h with
    | null h => exact .null h
    | yes h => exact .yes h
    | no h => exact .no h
    | negative h => exact .negative h
    | digit hdigit h => exact .digit hdigit h
    | text h => exact .text h
    | array h => exact .array (hfuel.items h)
    | members h => exact .members (hfuel.fields h)
  items {levels first done cs r} h := by
    rw [readItemsWith_ok_iff] at h ⊢
    rcases h with hclose | ⟨item, v, rest, hnext, hv, h⟩
    · exact .inl hclose
    · exact .inr ⟨item, v, rest, hnext, hfuel.value hv, hfuel.items h⟩
  fields {levels first done cs r} h := by
    rw [readFieldsWith_ok_iff] at h ⊢
    rcases h with hclose | ⟨inner, key, after, colon, v, rest, hnext, hkey, hcolon, hv, h⟩
    · exact .inl hclose
    · exact .inr ⟨inner, key, after, colon, v, rest, hnext, hkey, hcolon, hfuel.value hv,
        hfuel.fields h⟩

theorem grows (fuel : Nat) : Grows fuel := by
  induction fuel with
  | zero => exact grows_zero
  | succ fuel ih => exact ih.succ

theorem readValueWith_mono {r : Json × List Char} (hle : fuel ≤ fuel')
    (h : readValueWith fuel levels cs = .ok r) : readValueWith fuel' levels cs = .ok r := by
  induction fuel', hle using Nat.le_induction with
  | base => exact h
  | succ fuel' _ ih => exact (grows fuel').value ih

/-- Two readings of a value that succeed read the same. -/
theorem readValueWith_unique {r r' : Json × List Char} (h : readValueWith fuel levels cs = .ok r)
    (h' : readValueWith fuel' levels cs = .ok r') : r = r' :=
  Except.ok.inj ((readValueWith_mono (Nat.le_max_left fuel fuel') h).symm.trans
    (readValueWith_mono (Nat.le_max_right fuel fuel') h'))

end ConsoleLink.Json
