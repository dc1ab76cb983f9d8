import ConsoleLink.Text.Digits
import Mathlib.Data.Nat.Digits.Defs
import Mathlib.Data.List.Forall2
import Mathlib.Tactic

/-! # Numerals in base sixteen

A numeral is a plus sign or none and then at least one digit, the most significant first and
letters in either case. `unsigned?` reads the numerals of numbers below its bound and nothing else.
-/

namespace ConsoleLink.Text

def lowerDigits : List Char := "0123456789abcdef".toList

/-- The digits of base sixteen in the form that watches show. -/
def upperDigits : List Char := "0123456789ABCDEF".toList

/-- The character is a digit that counts `d`. -/
def HexDigit (c : Char) (d : Nat) : Prop := lowerDigits[d]? = some c ∨ upperDigits[d]? = some c

instance (c : Char) (d : Nat) : Decidable (HexDigit c d) := inferInstanceAs (Decidable (_ ∨ _))

/-- The digits write `n`, the most significant first. -/
def HexDigits (digits : List Char) (n : Nat) : Prop :=
  ∃ ds, List.Forall₂ HexDigit digits ds ∧ n = Nat.ofDigits 16 ds.reverse

/-- The characters are a numeral of `n`. -/
def Numeral (cs : List Char) (n : Nat) : Prop :=
  ∃ sign digits, (sign = [] ∨ sign = ['+']) ∧ digits ≠ [] ∧ cs = sign ++ digits ∧ HexDigits digits n

theorem digitValue?_eq_some_iff {c : Char} {d : Nat} :
    digitValue? 16 c = some d ↔ HexDigit c d := by
  constructor
  · intro h
    have hall : ∀ n < 0x67, ∀ d ∈ digitValue? 16 (Char.ofNat n), HexDigit (Char.ofNat n) d := by
      decide
    have hlast : c.toNat < 0x67 := by
      by_contra hbeyond
      simp only [digitValue?, Bool.and_eq_true, decide_eq_true_eq] at h
      split_ifs at h <;> omega
    simpa using hall c.toNat hlast d (by simpa using h)
  · have hlower : ∀ p ∈ lowerDigits.zipIdx, digitValue? 16 p.1 = some p.2 := by decide
    have hupper : ∀ p ∈ upperDigits.zipIdx, digitValue? 16 p.1 = some p.2 := by decide
    rintro (h | h)
    · exact hlower (c, d) (List.mem_zipIdx_iff_getElem?.mpr h)
    · exact hupper (c, d) (List.mem_zipIdx_iff_getElem?.mpr h)

/-- Reading goes on from what the digits before have written. -/
theorem digitsValue?_eq_some_iff {acc n : Nat} {cs : List Char} :
    digitsValue? 16 acc cs = some n ↔
      ∃ ds, List.Forall₂ HexDigit cs ds ∧
        n = acc * 16 ^ ds.length + Nat.ofDigits 16 ds.reverse := by
  induction cs generalizing acc with
  | nil =>
    constructor
    · intro h
      exact ⟨[], .nil, by simpa [digitsValue?, eq_comm] using h⟩
    · rintro ⟨ds, hds, rfl⟩
      cases hds
      simp [digitsValue?]
  | cons c cs ih =>
    have hstep : ∀ (d : Nat) (ds : List Nat),
        (acc * 16 + d) * 16 ^ ds.length + Nat.ofDigits 16 ds.reverse =
          acc * 16 ^ (d :: ds).length + Nat.ofDigits 16 (d :: ds).reverse := by
      intro d ds
      rw [List.reverse_cons, Nat.ofDigits_append, List.length_reverse, Nat.ofDigits_singleton,
        List.length_cons]
      ring
    rw [digitsValue?, Option.bind_eq_some_iff]
    constructor
    · rintro ⟨d, hd, hrest⟩
      obtain ⟨ds, hds, rfl⟩ := ih.mp hrest
      exact ⟨d :: ds, .cons (digitValue?_eq_some_iff.mp hd) hds, hstep d ds⟩
    · rintro ⟨ds, hds, rfl⟩
      cases hds with
      | cons hd hds =>
        exact ⟨_, digitValue?_eq_some_iff.mpr hd, ih.mpr ⟨_, hds, (hstep _ _).symm⟩⟩

theorem digitsValue?_zero_eq_some_iff {n : Nat} {cs : List Char} :
    digitsValue? 16 0 cs = some n ↔ HexDigits cs n := by
  simp only [digitsValue?_eq_some_iff, Nat.zero_mul, Nat.zero_add, HexDigits]

/-- What is written with at least one digit starts with one. -/
theorem HexDigits.exists_cons {cs : List Char} {n : Nat} (h : HexDigits cs n) (hcs : cs ≠ []) :
    ∃ c rest d, cs = c :: rest ∧ HexDigit c d := by
  obtain ⟨ds, hds, -⟩ := h
  cases hds with
  | nil => exact absurd rfl hcs
  | cons hd _ => exact ⟨_, _, _, rfl, hd⟩

theorem not_hexDigit_of_digitValue? {c : Char} (h : digitValue? 16 c = none) (d : Nat) :
    ¬HexDigit c d := fun hd => by
  rw [digitValue?_eq_some_iff.mpr hd] at h
  cases h

theorem filter_digitsValue?_eq_some_iff {limit n : Nat} {c : Char} {rest : List Char} :
    (digitsValue? 16 0 (c :: rest)).filter (· < limit) = some n ↔
      HexDigits (c :: rest) n ∧ n < limit := by
  rw [Option.filter_eq_some_iff, digitsValue?_zero_eq_some_iff, decide_eq_true_eq]

theorem unsigned?_plus {limit n : Nat} (digits : List Char) :
    unsigned? 16 limit ('+' :: digits) = some n ↔
      (digits ≠ [] ∧ HexDigits digits n) ∧ n < limit := by
  cases digits with
  | nil => exact ⟨nofun, fun h => absurd rfl h.1.1⟩
  | cons c rest =>
    refine filter_digitsValue?_eq_some_iff.trans (and_congr_left fun _ => ?_)
    exact (and_iff_right (List.cons_ne_nil c rest)).symm

theorem unsigned?_of_no_plus {limit n : Nat} {cs : List Char} (h : ∀ rest, cs ≠ '+' :: rest) :
    unsigned? 16 limit cs = some n ↔ (cs ≠ [] ∧ HexDigits cs n) ∧ n < limit := by
  cases cs with
  | nil => exact ⟨nofun, fun h => absurd rfl h.1.1⟩
  | cons c rest =>
    have hread : unsigned? 16 limit (c :: rest) =
        (digitsValue? 16 0 (c :: rest)).filter (· < limit) := by
      unfold unsigned?
      split
      · next hplus => exact absurd hplus (h _)
      · rfl
    rw [hread, filter_digitsValue?_eq_some_iff]
    exact and_congr_left fun _ => (and_iff_right (List.cons_ne_nil c rest)).symm

/-- The numerals are what is read, up to the bound. -/
theorem unsigned?_eq_some_iff {limit n : Nat} {cs : List Char} :
    unsigned? 16 limit cs = some n ↔ Numeral cs n ∧ n < limit := by
  by_cases hplus : ∃ digits, cs = '+' :: digits
  · obtain ⟨digits, rfl⟩ := hplus
    refine (unsigned?_plus digits).trans (and_congr_left fun _ => ?_)
    constructor
    · rintro ⟨hne, hdigits⟩
      exact ⟨['+'], digits, .inr rfl, hne, rfl, hdigits⟩
    · rintro ⟨sign, digits', rfl | rfl, hne, heq, hdigits⟩
      · -- a digit is no sign
        obtain ⟨c, rest, d, rfl, hd⟩ := hdigits.exists_cons hne
        cases heq
        exact absurd hd (not_hexDigit_of_digitValue? (by decide) d)
      · cases heq
        exact ⟨hne, hdigits⟩
  · refine (unsigned?_of_no_plus (not_exists.mp hplus)).trans (and_congr_left fun _ => ?_)
    constructor
    · rintro ⟨hne, hdigits⟩
      exact ⟨[], cs, .inl rfl, hne, rfl, hdigits⟩
    · rintro ⟨sign, digits, rfl | rfl, hne, rfl, hdigits⟩
      · exact ⟨hne, hdigits⟩
      · exact absurd ⟨digits, rfl⟩ hplus

/-- What a numeral is made of. -/
theorem Numeral.mem_symbols {cs : List Char} {n : Nat} {c : Char} (h : Numeral cs n)
    (hc : c ∈ cs) : c ∈ '+' :: (lowerDigits ++ upperDigits) := by
  obtain ⟨sign, digits, hsign, -, rfl, ds, hds, -⟩ := h
  rcases List.mem_append.mp hc with hc | hc
  · rcases hsign with rfl | rfl
    · cases hc
    · exact List.mem_cons.mpr (.inl (List.mem_singleton.mp hc))
  · have hmem : ∀ c d, HexDigit c d → c ∈ lowerDigits ++ upperDigits ∧ HexDigit c d :=
      fun c d hd =>
        ⟨List.mem_append.mpr (hd.imp List.mem_of_getElem? List.mem_of_getElem?), hd⟩
    exact List.mem_cons_of_mem _ (((List.forall₂_and_left _ _).mp (hds.imp hmem)).1 c hc)

theorem exists_hexDigits {ds : List Nat} (h : ∀ d ∈ ds, d < 16) :
    ∃ cs, List.Forall₂ HexDigit cs ds := by
  induction ds with
  | nil => exact ⟨[], .nil⟩
  | cons d ds ih =>
    obtain ⟨hd, hds⟩ := List.forall_mem_cons.mp h
    obtain ⟨cs, hcs⟩ := ih hds
    have hlower : d < lowerDigits.length := hd
    exact ⟨lowerDigits[d] :: cs, .cons (.inl (List.getElem?_eq_getElem hlower)) hcs⟩

/-- Every number has a numeral. -/
theorem exists_numeral (n : Nat) : ∃ cs, Numeral cs n := by
  -- The zero in front is there for the number zero, which has no digits otherwise.
  have hdigits : ∀ d ∈ 0 :: (Nat.digits 16 n).reverse, d < 16 := by
    simpa using fun d hd => Nat.digits_lt_base (by decide) hd
  obtain ⟨cs, hcs⟩ := exists_hexDigits hdigits
  refine ⟨cs, [], cs, .inl rfl, ?_, rfl, _, hcs, ?_⟩
  · rintro rfl
    cases hcs
  · simp [Nat.ofDigits_append, Nat.ofDigits_digits]

end ConsoleLink.Text
