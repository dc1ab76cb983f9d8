import ConsoleLink.Machine.Headless
import ConsoleLink.Proofs.Memory.Ranges

/-! # Flat RAM

The memory of the headless machine is one range from `Headless.ramBase` up, as long as its RAM, with
zeros outside. Such a memory has no holes at all.
-/

namespace ConsoleLink.Headless

variable {s : Headless} {size : Nat} {address : UInt32}

theorem isSome_offset?_iff :
    (offset? size address).isSome = true ↔
      ramBase.toNat ≤ address.toNat ∧ address.toNat < ramBase.toNat + size := by
  unfold offset?
  simp only [UInt32.le_iff_toNat_le]
  generalize ramBase.toNat = base
  split_ifs <;> simp <;> omega

theorem isValid_memory : s.memory.isValid address = (offset? s.ram.size address).isSome := rfl

theorem byteAt_memory : s.memory.byteAt address = s.byteAt address := rfl

theorem byteAt_memory_of_not_valid (h : s.memory.isValid address = false) :
    s.memory.byteAt address = 0 := by
  rw [isValid_memory, Option.isSome_eq_false_iff, Option.isNone_iff_eq_none] at h
  rw [byteAt_memory, byteAt, h]

/-- Between two addresses in RAM there are only addresses in RAM. -/
theorem holesSpanPages_memory (s : Headless) : s.memory.HolesSpanPages := by
  intro lo hi hlo hhi hlt hhole
  have hsize := hi.toNat_lt
  have hnext : (UInt32.ofNat (lo.toNat + 1)).toNat = lo.toNat + 1 :=
    Memory.ofNat_toNat_of_lt (by unfold UInt32.size; omega)
  have hinvalid := hhole (UInt32.ofNat (lo.toNat + 1))
    (by rw [UInt32.lt_iff_toNat_lt]; omega) (by rw [UInt32.lt_iff_toNat_lt]; omega)
  rw [isValid_memory, isSome_offset?_iff] at hlo hhi
  have hvalid : s.memory.isValid (UInt32.ofNat (lo.toNat + 1)) = true := by
    rw [isValid_memory, isSome_offset?_iff]
    omega
  rw [hvalid] at hinvalid
  cases hinvalid

end ConsoleLink.Headless
