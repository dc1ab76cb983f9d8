import ConsoleLink.Proofs.Memory.Ranges

/-! # The probes of a range, in words of 32 bits

The check of a range is done here once more with addresses and page numbers as words, where a sum
or product that does not fit has no value. All of them fit, so that the check has the value that
`isValidRange` gives; and in a memory without small holes that value is right for every range, up
to one that ends at the last address.
-/

namespace ConsoleLink.Memory

/-- A number as a word of 32 bits, if it fits. -/
def word? (n : Nat) : Option UInt32 := if n < UInt32.size then some (UInt32.ofNat n) else none

/-- The sum of two words, if it fits. -/
def sum? (a b : UInt32) : Option UInt32 := word? (a.toNat + b.toNat)

/-- The product of two words, if it fits. -/
def product? (a b : UInt32) : Option UInt32 := word? (a.toNat * b.toNat)

/-- A page as a word. -/
def pageWord : UInt32 := 4096

/-- The words from the first to the last one. -/
def wordsBetween (first last : UInt32) : List UInt32 :=
  (List.range' first.toNat (last.toNat + 1 - first.toNat)).map UInt32.ofNat

/-- Where the pages start that a range reaches after the page of its first address. -/
def pageStarts? (first last : UInt32) : Option (List UInt32) := do
  let page ← sum? (first / pageWord) 1
  (wordsBetween page (last / pageWord)).mapM fun page => product? page pageWord

/-- The check of a range in words. That a range runs past the last address is an answer; any other
sum or product that does not fit leaves the check without one. -/
def isValidRange? (m : Memory) (address length : UInt32) : Option Bool :=
  if length = 0 then some (m.isValid address)
  else match sum? address (length - 1) with
    | none => some false
    | some last => do
      let starts ← pageStarts? address last
      return m.isValid address && m.isValid last && starts.all m.isValid

/-! ## Everything fits -/

theorem word?_of_lt {n : Nat} (h : n < UInt32.size) : word? n = some (UInt32.ofNat n) := if_pos h

theorem word?_of_le {n : Nat} (h : UInt32.size ≤ n) : word? n = none := if_neg (Nat.not_lt.mpr h)

theorem mapM_eq_some {α β : Type} {f : α → Option β} {g : α → β} {l : List α}
    (h : ∀ a ∈ l, f a = some (g a)) : l.mapM f = some (l.map g) := by
  induction l with
  | nil => rfl
  | cons a l ih =>
    obtain ⟨ha, hl⟩ := List.forall_mem_cons.mp h
    rw [List.mapM_cons, ha, ih hl]
    rfl

theorem toNat_div_pageWord (a : UInt32) : (a / pageWord).toNat = a.toNat / pageSize := rfl

/-- The number of a page, and where it starts, are words. -/
theorem pageStarts?_eq (first last : UInt32) :
    pageStarts? first last = some
      ((List.range' (first.toNat / pageSize + 1)
        (last.toNat / pageSize + 1 - (first.toNat / pageSize + 1))).map fun page =>
          UInt32.ofNat (page * pageSize)) := by
  have hfirst := first.toNat_lt
  have hlast := last.toNat_lt
  have hsize : UInt32.size = 4294967296 := rfl
  have hpage : sum? (first / pageWord) 1 = some (UInt32.ofNat (first.toNat / pageSize + 1)) := by
    refine word?_of_lt ?_
    rw [toNat_div_pageWord]
    change first.toNat / 4096 + 1 < UInt32.size
    omega
  have hnumber :
      (UInt32.ofNat (first.toNat / pageSize + 1)).toNat = first.toNat / pageSize + 1 := by
    refine ofNat_toNat_of_lt ?_
    unfold pageSize
    omega
  unfold pageStarts? wordsBetween
  rw [hpage, Option.bind_eq_bind, Option.bind_some, hnumber, toNat_div_pageWord, List.mapM_map]
  refine mapM_eq_some fun page hmem => ?_
  rw [List.mem_range'_1] at hmem
  unfold pageSize at hmem ⊢
  have hword : (UInt32.ofNat page).toNat = page := ofNat_toNat_of_lt (by omega)
  change word? ((UInt32.ofNat page).toNat * 4096) = _
  rw [hword, word?_of_lt (by omega)]

/-- The check in words has the value of the check in numbers. -/
theorem isValidRange?_eq (m : Memory) (address length : UInt32) :
    m.isValidRange? address length = some (m.isValidRange address length.toNat) := by
  unfold isValidRange? isValidRange
  by_cases hzero : length = 0
  · subst hzero
    rfl
  · have hpos : 0 < length.toNat := Nat.pos_of_ne_zero fun h => hzero (UInt32.toNat_inj.mp h)
    have hone : (length - 1).toNat = length.toNat - 1 :=
      UInt32.toNat_sub_of_le length 1 (UInt32.le_iff_toNat_le.mpr hpos)
    rw [if_neg hzero, if_neg (Nat.ne_of_gt hpos), sum?, hone]
    dsimp only
    rcases Nat.lt_or_ge (address.toNat + (length.toNat - 1)) UInt32.size with hfits | hover
    · rw [word?_of_lt hfits, if_neg hfits.not_ge]
      dsimp only
      rw [pageStarts?_eq, ofNat_toNat_of_lt hfits, Option.bind_eq_bind, Option.bind_some,
        List.all_map]
      rfl
    · rw [word?_of_le hover, if_pos hover]

/-- Where every hole is a page long at least, a range passes the check exactly if it does not run
past the last address and every byte of it is valid; nothing in the check is out of bounds. -/
theorem isValidRange_exact (m : Memory) (hholes : m.HolesSpanPages) (address length : UInt32)
    (hlength : 0 < length) :
    (m.isValidRange address length.toNat = true ↔
      address.toNat + length.toNat - 1 ≤ 0xFFFFFFFF ∧
        ∀ j < length.toNat, m.isValid (address + UInt32.ofNat j) = true) ∧
    m.isValidRange? address length = some (m.isValidRange address length.toNat) := by
  have hpos : 0 < length.toNat := UInt32.lt_iff_toNat_lt.mp hlength
  have hend : address.toNat + length.toNat - 1 ≤ 0xFFFFFFFF ↔
      address.toNat + (length.toNat - 1) < UInt32.size := by
    unfold UInt32.size
    omega
  refine ⟨?_, isValidRange?_eq m address length⟩
  rw [hend]
  exact isValidRange_iff hholes hpos

/-- Two shores of a hole of exactly a page, which starts in the middle of one; the upper shore
reaches to the last address. -/
def shores : Memory where
  byteAt _ := 0
  isValid a := a < 0xFFFFD800 || 0xFFFFE800 ≤ a

theorem shores_holesSpanPages : shores.HolesSpanPages := by
  intro lo hi hlo hhi hlt hhole
  have hbetween : ∀ n, lo.toNat < n → n < hi.toNat → 0xFFFFD800 ≤ n ∧ n < 0xFFFFE800 := by
    intro n hlon hnhi
    have hsize := hi.toNat_lt
    have hn := ofNat_toNat_of_lt (n := n) (by unfold UInt32.size; omega)
    have hinvalid := hhole (UInt32.ofNat n) (by rw [UInt32.lt_iff_toNat_lt]; omega)
      (by rw [UInt32.lt_iff_toNat_lt]; omega)
    simp [shores, UInt32.lt_iff_toNat_lt, UInt32.le_iff_toNat_le] at hinvalid
    omega
  simp [shores, UInt32.lt_iff_toNat_lt, UInt32.le_iff_toNat_le] at hlo hhi
  have hnext := hbetween (lo.toNat + 1) (by omega) (by omega)
  have hprevious := hbetween (hi.toNat - 1) (by omega) (by omega)
  omega

/-- The whole upper shore is valid and a byte more is not there; a range from shore to shore is not
valid, though both its ends are. -/
theorem isValidRange_exact_shores :
    shores.HolesSpanPages ∧
      (∀ j < 0x1800, shores.isValid (0xFFFFE800 + UInt32.ofNat j) = true) ∧
      shores.isValidRange 0xFFFFE800 0x1801 = false ∧
      (shores.isValid 0xFFFFD7FF = true ∧ shores.isValid (0xFFFFD7FF + 0x1001) = true ∧
        ¬∀ j < 0x1002, shores.isValid (0xFFFFD7FF + UInt32.ofNat j) = true) := by
  obtain ⟨hshore, -⟩ :=
    isValidRange_exact shores shores_holesSpanPages 0xFFFFE800 0x1800 (by decide)
  obtain ⟨hacross, -⟩ :=
    isValidRange_exact shores shores_holesSpanPages 0xFFFFD7FF 0x1002 (by decide)
  refine ⟨shores_holesSpanPages, (hshore.mp (by decide)).2, by decide, by decide, by decide,
    fun hall => ?_⟩
  have hpasses := hacross.mpr ⟨by decide, hall⟩
  exact absurd hpasses (by decide)

end ConsoleLink.Memory
