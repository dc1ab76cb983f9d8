import ConsoleLink.Proofs.Memory.FlatRam
import ConsoleLink.Proofs.Watch.Resolution

/-! # The bytes that a watch reads

A watch reads the four bytes of a pointer for each of its offsets and then the bytes it shows. Of a
pointer only the first byte is checked, so a pointer that is cut off by the end of a region is
followed all the same. These are the only bytes that can lack RAM where a value is shown: the value
comes from RAM alone if and only if no pointer on the way is cut off.
-/

namespace ConsoleLink

namespace Memory

variable {m : Memory} {address : UInt32}

/-- The addresses of the bytes of a range; after the last address they go on at zero. -/
def addresses (address : UInt32) (count : Nat) : List UInt32 :=
  (List.range count).map fun i => address + UInt32.ofNat i

theorem forall_mem_addresses {p : UInt32 → Prop} {count : Nat} :
    (∀ a ∈ addresses address count, p a) ↔ ∀ j < count, p (address + UInt32.ofNat j) := by
  simp [addresses]

theorem read_congr {m' : Memory} {count : Nat}
    (h : ∀ a ∈ addresses address count, m'.byteAt a = m.byteAt a) :
    m'.read address count = m.read address count := by
  rw [forall_mem_addresses] at h
  apply List.map_congr_left
  intro j hj
  exact h j (List.mem_range.mp hj)

theorem wordValue_congr {m' : Memory} (h : ∀ a ∈ addresses address 4, m'.byteAt a = m.byteAt a) :
    m'.wordValue address = m.wordValue address := by
  have h₀ := h (address + 0) (by simp [addresses, List.range_succ])
  have h₁ := h (address + 1) (by simp [addresses, List.range_succ])
  have h₂ := h (address + 2) (by simp [addresses, List.range_succ])
  have h₃ := h (address + 3) (by simp [addresses, List.range_succ])
  rw [UInt32.add_zero] at h₀
  rw [wordValue, wordValue, h₀, h₁, h₂, h₃]

/-- A word is cut off if it begins in RAM and some byte of it is not in RAM. -/
def CutOff (m : Memory) (address : UInt32) : Prop :=
  m.isValid address = true ∧ ∃ a ∈ addresses address 4, m.isValid a = false

theorem not_cutOff_iff (h : m.isValid address = true) :
    ¬m.CutOff address ↔ ∀ a ∈ addresses address 4, m.isValid a = true := by
  simp [CutOff, h]

/-- A hole is too long to lie inside a word, so a word that ends in RAM is not cut off. -/
theorem cutOff_iff (hholes : m.HolesSpanPages) (hroom : address.toNat + 3 < UInt32.size) :
    m.CutOff address ↔ m.isValid address = true ∧ m.isValid (address + 3) = false := by
  constructor
  · rintro ⟨hfirst, hcut⟩
    refine ⟨hfirst, ?_⟩
    by_contra hlast
    obtain ⟨a, ha, hinvalid⟩ := hcut
    obtain ⟨j, hj, rfl⟩ := List.mem_map.mp ha
    rw [List.mem_range] at hj
    rw [Bool.not_eq_false] at hlast
    change m.isValid (address + UInt32.ofNat 3) = true at hlast
    rw [add_ofNat_eq] at hlast
    rw [← UInt32.ofNat_toNat (x := address)] at hfirst
    have hhole : ¬m.isValid (UInt32.ofNat (address.toNat + j)) = true := by
      rw [← add_ofNat_eq, hinvalid]
      exact Bool.false_ne_true
    obtain ⟨lo, hi, hlo, hwide, hhi, -⟩ :=
      hholes.exists_hole hroom hfirst hlast hhole (by omega) (by omega)
    unfold pageSize at hwide
    omega
  · rintro ⟨hfirst, hlast⟩
    exact ⟨hfirst, address + 3, by simp [addresses, List.range_succ], hlast⟩

end Memory

namespace Watch

variable {m : Memory} {d : WatchDescriptor}

/-- The addresses of the bytes that a watch reads: those of the pointer for each offset, then those
of the range it shows. -/
def addressesRead (m : Memory) (d : WatchDescriptor) : List UInt32 :=
  ((List.range d.offsets.length).flatMap fun i =>
    Memory.addresses (hop m d.address d.offsets i) 4) ++ Memory.addresses (target m d) d.size

theorem forall_mem_addressesRead {p : UInt32 → Prop} :
    (∀ a ∈ addressesRead m d, p a) ↔
      (∀ i < d.offsets.length, ∀ a ∈ Memory.addresses (hop m d.address d.offsets i) 4, p a) ∧
        ∀ a ∈ Memory.addresses (target m d) d.size, p a := by
  simp only [addressesRead, List.forall_mem_append, List.mem_flatMap, List.mem_range]
  constructor
  · rintro ⟨hpointers, hrange⟩
    exact ⟨fun i hi a ha => hpointers a ⟨i, hi, ha⟩, hrange⟩
  · rintro ⟨hpointers, hrange⟩
    exact ⟨fun a ⟨i, hi, ha⟩ => hpointers i hi a ha, hrange⟩

/-! ## What is shown depends on these bytes alone -/

theorem hop_congr {m' : Memory} {address : UInt32} {offsets : List UInt32} {k : Nat}
    (h : ∀ i < k, ∀ a ∈ Memory.addresses (hop m address offsets i) 4, m'.byteAt a = m.byteAt a) :
    ∀ i ≤ k, hop m' address offsets i = hop m address offsets i := by
  intro i hi
  induction i with
  | zero => rfl
  | succ i ih =>
    have hbefore := ih (Nat.le_of_succ_le hi)
    rw [hop, hop, hbefore, Memory.wordValue_congr (h i hi)]

theorem chase_congr {m' : Memory} (hvalid : ∀ a, m'.isValid a = m.isValid a)
    (hhop : ∀ i ≤ d.offsets.length,
      hop m' d.address d.offsets i = hop m d.address d.offsets i) :
    chase m' d.address d.offsets = chase m d.address d.offsets := by
  ext address
  have hway : (∀ i ≤ d.offsets.length, m'.isValid (hop m' d.address d.offsets i) = true) ↔
      ∀ i ≤ d.offsets.length, m.isValid (hop m d.address d.offsets i) = true := by
    refine forall₂_congr fun i hi => ?_
    rw [hvalid, hhop i hi]
  rw [chase_eq_some_iff, chase_eq_some_iff, hway, hhop _ le_rfl]

/-- Memories that agree on which addresses are valid and on the bytes read show the same. -/
theorem resolve_congr {m' : Memory} (hvalid : ∀ a, m'.isValid a = m.isValid a)
    (hbytes : ∀ a ∈ addressesRead m d, m'.byteAt a = m.byteAt a) :
    resolve m' d = resolve m d := by
  obtain ⟨hpointers, hrange⟩ := forall_mem_addressesRead.mp hbytes
  have hhop := hop_congr hpointers
  have hchase := chase_congr hvalid hhop
  have hranges : ∀ address length, m'.isValidRange address length =
      m.isValidRange address length := by
    intro address length
    simp only [Memory.isValidRange, hvalid]
  have hall : bytes? m' d = bytes? m d := by
    unfold bytes?
    rw [hchase]
    cases htarget : chase m d.address d.offsets with
    | none => rfl
    | some address =>
      have hend : address = target m d := (chase_eq_some_iff.mp htarget).2
      rw [hend, Option.bind_some, Option.bind_some, hranges, Memory.read_congr hrange]
  rw [resolve, resolve, hall]

/-! ## Which of these bytes are in RAM -/

/-- Where a watch shows a value, every pointer begins in RAM and every byte shown is in RAM. All the
bytes read are in RAM if and only if no pointer is cut off, that is, if the last byte of each
pointer is in RAM too, unless the pointer goes over the last address. -/
theorem reads_of_shown (m : Memory) (d : WatchDescriptor) (hholes : m.HolesSpanPages)
    (hsize : 0 < d.size) (hshown : resolve m d ≠ "0") :
    (∀ i < d.offsets.length, m.isValid (hop m d.address d.offsets i) = true) ∧
      (∀ a ∈ Memory.addresses (target m d) d.size, m.isValid a = true) ∧
      ((∀ a ∈ addressesRead m d, m.isValid a = true) ↔
        ∀ i < d.offsets.length, ¬m.CutOff (hop m d.address d.offsets i)) ∧
      ∀ i < d.offsets.length, (hop m d.address d.offsets i).toNat + 3 < UInt32.size →
        (m.CutOff (hop m d.address d.offsets i) ↔
          m.isValid (hop m d.address d.offsets i + 3) = false) := by
  have hnot : ¬Fault m d := fun hfault => hshown (resolve_of_fault hholes hsize hfault)
  simp only [Fault, not_or, not_and, not_exists, Bool.not_eq_false] at hnot
  obtain ⟨hway, -, hrange⟩ := hnot
  have hpointers : ∀ i < d.offsets.length, m.isValid (hop m d.address d.offsets i) = true :=
    fun i hi => hway (Nat.zero_lt_of_lt hi) i (Nat.le_of_lt hi)
  have hshownBytes : ∀ a ∈ Memory.addresses (target m d) d.size, m.isValid a = true :=
    Memory.forall_mem_addresses.mpr hrange
  refine ⟨hpointers, hshownBytes, ?_, ?_⟩
  · rw [forall_mem_addressesRead, and_iff_left hshownBytes]
    refine forall₂_congr fun i hi => ?_
    rw [Memory.not_cutOff_iff (hpointers i hi)]
  · intro i hi hroom
    rw [Memory.cutOff_iff hholes hroom, and_iff_right (hpointers i hi)]

/-! ## A pointer at the end of RAM -/

/-- Sixteen bytes of RAM, the last of which is the first byte of a pointer to their start. -/
def pointerAtEnd : Headless := (Headless.make "states" 16).poke 0x8000000F [0x80]

/-- The byte that this pointer leads to. -/
def throughEnd : WatchDescriptor := ⟨0x8000000F, [0], 1⟩

/-- The same byte by way of the last whole word. -/
def throughLastWord : WatchDescriptor := ⟨0x8000000C, [0x7FFFFF80], 1⟩

theorem resolve_throughEnd : resolve pointerAtEnd.memory throughEnd = "00" := by decide

/-- The pointer at the end is cut off and followed; the word before it is whole. -/
theorem reads_of_shown_pointerAtEnd :
    pointerAtEnd.memory.HolesSpanPages ∧ resolve pointerAtEnd.memory throughEnd ≠ "0" ∧
      resolve pointerAtEnd.memory throughLastWord ≠ "0" ∧
      ¬(∀ a ∈ addressesRead pointerAtEnd.memory throughEnd,
        pointerAtEnd.memory.isValid a = true) ∧
      ∀ a ∈ addressesRead pointerAtEnd.memory throughLastWord,
        pointerAtEnd.memory.isValid a = true := by
  have hholes := pointerAtEnd.holesSpanPages_memory
  have hend : resolve pointerAtEnd.memory throughEnd ≠ "0" := by
    rw [resolve_throughEnd]
    decide
  have hword : resolve pointerAtEnd.memory throughLastWord ≠ "0" := by decide
  obtain ⟨-, -, hcut, hiff⟩ := reads_of_shown _ throughEnd hholes (by decide) hend
  obtain ⟨-, -, hwhole, hiff'⟩ := reads_of_shown _ throughLastWord hholes (by decide) hword
  refine ⟨hholes, hend, hword, ?_, hwhole.mpr ?_⟩
  · rw [hcut]
    exact fun h => h 0 (by decide) ((hiff 0 (by decide) (by decide)).mpr (by decide))
  · intro i hi
    have hfirst : i = 0 := Nat.lt_one_iff.mp hi
    subst hfirst
    rw [hiff' 0 (by decide) (by decide)]
    decide

/-- It is not so that a watch shows a value only if every byte read on the way is in RAM, not even
where whatever is outside RAM reads as zero. -/
theorem not_forall_reads_valid :
    ¬∀ (m : Memory) (d : WatchDescriptor), m.HolesSpanPages →
      (∀ a, m.isValid a = false → m.byteAt a = 0) → 0 < d.size → d.size ≤ maxWatchSize →
      resolve m d ≠ "0" → ∀ a ∈ addressesRead m d, m.isValid a = true := by
  intro hall
  have hvalid := hall pointerAtEnd.memory throughEnd pointerAtEnd.holesSpanPages_memory
    (fun _ => Headless.byteAt_memory_of_not_valid) (by decide) (by decide)
    (by rw [resolve_throughEnd]; decide) 0x80000010 (by decide)
  have hinvalid : pointerAtEnd.memory.isValid 0x80000010 = false := by decide
  rw [hinvalid] at hvalid
  cases hvalid

end Watch

end ConsoleLink
