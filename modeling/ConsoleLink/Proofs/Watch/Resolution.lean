import ConsoleLink.Watch.Resolve
import ConsoleLink.Proofs.Memory.Ranges
import ConsoleLink.Proofs.Text.Numerals

/-! # What a watch shows, and when it shows a fault

The addresses that a watch visits are defined one by one, and a fault by which of them have to be
valid. In a memory whose holes are never smaller than a page a watch shows the fault value exactly
at a fault, and otherwise the bytes of its range, two digits for each.
-/

namespace ConsoleLink

namespace Text

theorem upperDigits_getElem? {n : Nat} (h : n < 16) :
    upperDigits[n]? = some (digitChar true n) := by
  have hall : ∀ k : Fin 16, upperDigits[k.val]? = some (digitChar true k.val) := by decide
  exact hall ⟨n, h⟩

theorem hexText_cons (upper : Bool) (b : UInt8) (bytes : List UInt8) :
    hexText upper (b :: bytes) =
      digitChar upper (b.toNat / 16) :: digitChar upper (b.toNat % 16) :: hexText upper bytes :=
  rfl

theorem hexText_length (upper : Bool) (bytes : List UInt8) :
    (hexText upper bytes).length = 2 * bytes.length := by
  induction bytes with
  | nil => rfl
  | cons b bytes ih => rw [hexText_cons, List.length_cons, List.length_cons, ih]; simp; omega

/-- The pair of digits at a place writes the byte at that place. -/
theorem hexText_getElem? {bytes : List UInt8} {i : Nat} {b : UInt8} (h : bytes[i]? = some b) :
    (hexText true bytes)[2 * i]? = upperDigits[b.toNat / 16]? ∧
      (hexText true bytes)[2 * i + 1]? = upperDigits[b.toNat % 16]? := by
  have hb := b.toNat_lt
  rw [upperDigits_getElem? (by omega), upperDigits_getElem? (by omega)]
  induction bytes generalizing i with
  | nil => simp at h
  | cons c bytes ih =>
    rw [hexText_cons]
    cases i with
    | zero =>
      rw [List.getElem?_cons_zero, Option.some.injEq] at h
      subst h
      exact ⟨rfl, rfl⟩
    | succ i => exact ih h

theorem mem_upperDigits_of_mem_hexText {bytes : List UInt8} {c : Char}
    (h : c ∈ hexText true bytes) : c ∈ upperDigits := by
  obtain ⟨b, -, hc⟩ := List.mem_flatMap.mp h
  have hb := b.toNat_lt
  have hdigit : ∀ n < 16, digitChar true n ∈ upperDigits := fun n hn =>
    List.mem_of_getElem? (upperDigits_getElem? hn)
  rw [hexPair, List.mem_cons, List.mem_singleton] at hc
  rcases hc with rfl | rfl
  · exact hdigit _ (by omega)
  · exact hdigit _ (by omega)

end Text

namespace Watch

variable {m : Memory} {d : WatchDescriptor}

/-! ## The way of a watch -/

/-- The address after so many offsets: each is added to the word at the address before. -/
def hop (m : Memory) (address : UInt32) (offsets : List UInt32) : Nat → UInt32
  | 0 => address
  | i + 1 => UInt32.ofNat (m.wordValue (hop m address offsets i)) + offsets.getD i 0

theorem hop_cons (address offset : UInt32) (offsets : List UInt32) (i : Nat) :
    hop m address (offset :: offsets) (i + 1) =
      hop m (UInt32.ofNat (m.wordValue address) + offset) offsets i := by
  induction i with
  | zero => rfl
  | succ i ih => rw [hop, ih]; rfl

/-- A chain is followed to its end if every address on the way is valid, the last one included; a
chain without offsets has no way. -/
theorem chase_eq_some_iff {address target : UInt32} {offsets : List UInt32} :
    chase m address offsets = some target ↔
      (0 < offsets.length → ∀ i ≤ offsets.length,
        m.isValid (hop m address offsets i) = true) ∧
      target = hop m address offsets offsets.length := by
  induction offsets generalizing address with
  | nil =>
    rw [chase, Option.some.injEq, eq_comm]
    exact ⟨fun h => ⟨fun hpos => absurd hpos (Nat.lt_irrefl 0), h⟩, fun h => h.2⟩
  | cons offset offsets ih =>
    have hfirst : (∀ i ≤ (offset :: offsets).length,
          m.isValid (hop m address (offset :: offsets) i) = true) ↔
        m.isValid address = true ∧ ∀ i ≤ offsets.length,
          m.isValid (hop m (UInt32.ofNat (m.wordValue address) + offset) offsets i) = true := by
      constructor
      · intro h
        refine ⟨h 0 (Nat.zero_le _), fun i hi => ?_⟩
        rw [← hop_cons]
        exact h (i + 1) (Nat.succ_le_succ hi)
      · rintro ⟨hfirst, hrest⟩ i hi
        cases i with
        | zero => exact hfirst
        | succ i => rw [hop_cons]; exact hrest i (Nat.le_of_succ_le_succ hi)
    -- the address that an offset leads to is checked even where no further offset follows
    have hnext : ∀ next, (m.isValid next = true ∧ (0 < offsets.length →
          ∀ i ≤ offsets.length, m.isValid (hop m next offsets i) = true)) ↔
        ∀ i ≤ offsets.length, m.isValid (hop m next offsets i) = true := by
      intro next
      constructor
      · rintro ⟨hvalid, hrest⟩ i hi
        cases i with
        | zero => exact hvalid
        | succ i => exact hrest (by omega) (i + 1) hi
      · exact fun h => ⟨h 0 (Nat.zero_le _), fun _ => h⟩
    rw [hfirst, List.length_cons, hop_cons, ← hnext, chase, Memory.readWord_eq]
    simp only [Option.ite_none_right_eq_some, ih, Nat.succ_pos, forall_const, and_assoc]

/-! ## Faults -/

/-- The address of the first byte that a watch shows. -/
def target (m : Memory) (d : WatchDescriptor) : UInt32 :=
  hop m d.address d.offsets d.offsets.length

/-- What is at fault: an address on the way of a chain is not valid, the range ends after the last
address, or a byte of it is not valid. -/
def Fault (m : Memory) (d : WatchDescriptor) : Prop :=
  (0 < d.offsets.length ∧
      ∃ i ≤ d.offsets.length, m.isValid (hop m d.address d.offsets i) = false) ∨
    0xFFFFFFFF < (target m d).toNat + d.size - 1 ∨
    ∃ j < d.size, m.isValid (target m d + UInt32.ofNat j) = false

theorem bytes?_eq_some_iff (hholes : m.HolesSpanPages) (hsize : 0 < d.size) {bytes : List UInt8} :
    bytes? m d = some bytes ↔ ¬Fault m d ∧ m.read (target m d) d.size = bytes := by
  have hend : ¬0xFFFFFFFF < (target m d).toNat + d.size - 1 ↔
      (target m d).toNat + (d.size - 1) < UInt32.size := by
    unfold UInt32.size
    omega
  have hrange : m.isValidRange (target m d) d.size = true ↔
      ¬0xFFFFFFFF < (target m d).toNat + d.size - 1 ∧
        ∀ j < d.size, m.isValid (target m d + UInt32.ofNat j) = true := by
    rw [hend]
    exact Memory.isValidRange_iff hholes hsize
  have hfault : ¬Fault m d ↔
      (0 < d.offsets.length →
        ∀ i ≤ d.offsets.length, m.isValid (hop m d.address d.offsets i) = true) ∧
      m.isValidRange (target m d) d.size = true := by
    rw [hrange]
    simp [Fault]
  unfold bytes?
  simp only [Option.bind_eq_some_iff, chase_eq_some_iff, Option.ite_none_right_eq_some,
    Option.some.injEq]
  constructor
  · rintro ⟨_, ⟨hway, rfl⟩, hvalid, hbytes⟩
    exact ⟨hfault.mpr ⟨hway, hvalid⟩, hbytes⟩
  · rintro ⟨hnot, hbytes⟩
    obtain ⟨hway, hvalid⟩ := hfault.mp hnot
    exact ⟨target m d, ⟨hway, rfl⟩, hvalid, hbytes⟩

theorem bytes?_eq_none_iff (hholes : m.HolesSpanPages) (hsize : 0 < d.size) :
    bytes? m d = none ↔ Fault m d := by
  rw [Option.eq_none_iff_forall_ne_some]
  constructor
  · intro h
    by_contra hnot
    exact h _ ((bytes?_eq_some_iff hholes hsize).mpr ⟨hnot, rfl⟩)
  · intro h bytes hbytes
    exact ((bytes?_eq_some_iff hholes hsize).mp hbytes).1 h

theorem resolve_of_not_fault (hholes : m.HolesSpanPages) (hsize : 0 < d.size) (h : ¬Fault m d) :
    (resolve m d).toList = Text.hexText true (m.read (target m d) d.size) := by
  have hbytes := (bytes?_eq_some_iff hholes hsize).mpr ⟨h, rfl⟩
  simp [resolve, hbytes]

theorem resolve_of_fault (hholes : m.HolesSpanPages) (hsize : 0 < d.size) (h : Fault m d) :
    resolve m d = faultValue := by
  rw [resolve, (bytes?_eq_none_iff hholes hsize).mpr h]

/-- A watch shows the fault value exactly at a fault. Otherwise it shows two digits for each byte of
its range, which together write that byte. -/
theorem resolve_digits_or_fault (m : Memory) (d : WatchDescriptor) (hholes : m.HolesSpanPages)
    (hsize : 0 < d.size) :
    (resolve m d = "0" ↔ Fault m d) ∧
      (¬Fault m d →
        (resolve m d).toList.length = 2 * d.size ∧
        (∀ c ∈ (resolve m d).toList, c ∈ Text.upperDigits) ∧
        ∀ i < d.size,
          (resolve m d).toList[2 * i]? =
            Text.upperDigits[(m.byteAt (target m d + UInt32.ofNat i)).toNat / 16]? ∧
          (resolve m d).toList[2 * i + 1]? =
            Text.upperDigits[(m.byteAt (target m d + UInt32.ofNat i)).toNat % 16]?) := by
  have hlength : ¬Fault m d → (resolve m d).toList.length = 2 * d.size := by
    intro hnot
    rw [resolve_of_not_fault hholes hsize hnot, Text.hexText_length]
    simp [Memory.read]
  refine ⟨⟨?_, ?_⟩, fun hnot => ⟨hlength hnot, ?_, ?_⟩⟩
  · intro hzero
    by_contra hnot
    have hone : (resolve m d).toList.length = 1 := by rw [hzero]; rfl
    have htwo := hlength hnot
    omega
  · intro hfault
    rw [resolve, (bytes?_eq_none_iff hholes hsize).mpr hfault]
    rfl
  · intro c hc
    rw [resolve_of_not_fault hholes hsize hnot] at hc
    exact Text.mem_upperDigits_of_mem_hexText hc
  · intro i hi
    rw [resolve_of_not_fault hholes hsize hnot]
    refine Text.hexText_getElem? ?_
    simp [Memory.read, hi]

/-- Two short islands with a hole of exactly a page between them that no page starts with. -/
def islands : Memory where
  byteAt a := if a < 0x10 || (0x1010 ≤ a && a < 0x1020) then a.toUInt8 else 0
  isValid a := a < 0x10 || (0x1010 ≤ a && a < 0x1020)

theorem islands_holesSpanPages : islands.HolesSpanPages := by
  intro lo hi hlo hhi hlt hhole
  have hbetween : ∀ n, lo.toNat < n → n < hi.toNat → ¬(n < 0x10 ∨ 0x1010 ≤ n ∧ n < 0x1020) := by
    intro n hlon hnhi hn
    have hsize := hi.toNat_lt
    have hn_toNat := Memory.ofNat_toNat_of_lt (n := n) (by unfold UInt32.size; omega)
    have hinvalid := hhole (UInt32.ofNat n) (by rw [UInt32.lt_iff_toNat_lt]; omega)
      (by rw [UInt32.lt_iff_toNat_lt]; omega)
    simp [islands, UInt32.lt_iff_toNat_lt, UInt32.le_iff_toNat_le] at hinvalid
    omega
  simp [islands, UInt32.lt_iff_toNat_lt, UInt32.le_iff_toNat_le] at hlo hhi
  have hnext := hbetween (lo.toNat + 1) (by omega) (by omega)
  have hprevious := hbetween (hi.toNat - 1) (by omega) (by omega)
  omega

/-- A pointer on one island leads to bytes of the other, and a range that runs off an island is at
fault. -/
theorem resolve_digits_or_fault_islands :
    islands.HolesSpanPages ∧
      resolve islands ⟨0, [0x1012 - 0x00010203], 3⟩ = "121314" ∧
      ¬Fault islands ⟨0, [0x1012 - 0x00010203], 3⟩ ∧ Fault islands ⟨0xE, [], 0x1004⟩ := by
  have hchain : resolve islands ⟨0, [0x1012 - 0x00010203], 3⟩ = "121314" := by decide
  have hrange : resolve islands ⟨0xE, [], 0x1004⟩ = "0" := by decide
  refine ⟨islands_holesSpanPages, hchain, ?_, ?_⟩
  · have hdigits := resolve_digits_or_fault islands ⟨0, [0x1012 - 0x00010203], 3⟩
      islands_holesSpanPages (by decide)
    rw [← hdigits.1, hchain]
    decide
  · have hdigits := resolve_digits_or_fault islands ⟨0xE, [], 0x1004⟩
      islands_holesSpanPages (by decide)
    exact hdigits.1.mp hrange

end Watch

end ConsoleLink
