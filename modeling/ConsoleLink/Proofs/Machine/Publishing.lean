import ConsoleLink.Proofs.Machine.Life
import ConsoleLink.Proofs.Memory.FlatRam

/-! # What a frame writes into RAM

A frame writes its number and the pads that it was handed into low memory, as far as there is RAM,
and leaves every other byte of RAM as it was.
-/

namespace ConsoleLink

/-- One of the bytes that write a number, the first of which has the most weight. -/
def bigEndianByte (width n k : Nat) : UInt8 := UInt8.ofNat (n / 256 ^ (width - 1 - k))

/-- One of the four bytes in which a pad is published. -/
def Pad.mailByte (p : Pad) : Nat → UInt8
  | 0 => bigEndianByte 2 p.buttons.toNat 0
  | 1 => bigEndianByte 2 p.buttons.toNat 1
  | 2 => p.stick.x
  | _ => p.stick.y

namespace Headless

variable {ram : ByteArray} {address : UInt32} {bytes : List UInt8} {i k : Nat}

/-! ## The bytes that are written -/

theorem getElem?_wordBytes (n : UInt32) (hk : k < 4) :
    (wordBytes n)[k]? = some (bigEndianByte 4 n.toNat k) := by
  have hbyte : ∀ e : UInt32, e.toNat < 32 →
      (n >>> e).toUInt8 = UInt8.ofNat (n.toNat / 2 ^ e.toNat) := by
    intro e he
    apply UInt8.toNat.inj
    rw [UInt32.toNat_toUInt8, UInt32.toNat_shiftRight, Nat.mod_eq_of_lt he,
      Nat.shiftRight_eq_div_pow,
      UInt8.toNat_ofNat']
  unfold wordBytes bigEndianByte
  interval_cases k
  · exact congrArg some (hbyte 24 (by decide))
  · exact congrArg some (hbyte 16 (by decide))
  · exact congrArg some (hbyte 8 (by decide))
  · refine congrArg some (UInt8.toNat.inj ?_)
    simp

theorem getElem?_mailBytes (p : Pad) (hk : k < 4) : (mailBytes p)[k]? = some (p.mailByte k) := by
  unfold mailBytes
  interval_cases k
  · refine congrArg some (UInt8.toNat.inj ?_)
    simp [Pad.mailByte, bigEndianByte, Nat.shiftRight_eq_div_pow]
  · refine congrArg some (UInt8.toNat.inj ?_)
    simp [Pad.mailByte, bigEndianByte]
  · rfl
  · rfl

/-! ## Writing -/

theorem getElem?_set (ram : ByteArray) (place : Fin ram.size) (b : UInt8) (i : Nat) :
    (ram.set place b place.isLt)[i]? = if place.val = i then some b else ram[i]? := by
  have hdata : ∀ bytes : ByteArray, bytes[i]? = bytes.data[i]? := fun bytes => by
    rw [getElem?_def, getElem?_def]
    rfl
  rw [hdata, hdata]
  exact Array.getElem?_set place.isLt

/-- A byte is written where its address is in RAM. -/
theorem getElem?_setByte (ram : ByteArray) (address : UInt32) (b : UInt8) (i : Nat) :
    (setByte ram address b)[i]? =
      if address.toNat = ramBase.toNat + i ∧ i < ram.size then some b else ram[i]? := by
  unfold setByte offset?
  simp only [UInt32.le_iff_toNat_le]
  generalize ramBase.toNat = base
  split
  · next place hplace =>
    rw [getElem?_set]
    split_ifs at hplace with hbase hsize
    cases hplace
    congr 1
    rw [eq_iff_iff]
    dsimp only
    omega
  · next hplace =>
    rw [if_neg]
    rintro ⟨haddress, hi⟩
    split_ifs at hplace <;> omega

/-- Of bytes at consecutive addresses those are written that are in RAM. -/
theorem getElem?_setBytes (hend : address.toNat + bytes.length < UInt32.size) (hi : i < ram.size) :
    (setBytes ram address bytes)[i]? =
      if address.toNat ≤ ramBase.toNat + i ∧ ramBase.toNat + i < address.toNat + bytes.length
      then bytes[ramBase.toNat + i - address.toNat]? else ram[i]? := by
  induction bytes generalizing ram address with
  | nil =>
    rw [if_neg (by rw [List.length_nil]; omega)]
    rfl
  | cons b bytes ih =>
    rw [List.length_cons] at hend ⊢
    have hnext : (address + 1).toNat = address.toNat + 1 := by
      rw [UInt32.toNat_add]
      exact Nat.mod_eq_of_lt (by change _ + 1 < UInt32.size; omega)
    rw [setBytes, ih (by omega) (by rwa [size_setByte]), getElem?_setByte, hnext]
    generalize ramBase.toNat + i = place
    rcases Nat.lt_trichotomy place address.toNat with hbelow | hat | habove
    · rw [if_neg (by omega), if_neg (by omega), if_neg (by omega)]
    · rw [if_neg (by omega), if_pos (by omega), if_pos (by omega), hat, Nat.sub_self]
      rfl
    · have hplace : place - address.toNat = place - (address.toNat + 1) + 1 := by omega
      rw [if_neg (by omega : ¬(address.toNat = place ∧ i < ram.size)), hplace,
        List.getElem?_cons_succ]
      congr 1
      rw [eq_iff_iff]
      omega

/-! ## Publishing -/

/-- Writes the bytes of one pad. -/
def mail (pads : Pads) (ram : ByteArray) (port : Port) : ByteArray :=
  setBytes ram (mailbox + UInt32.ofNat (4 * port)) (mailBytes (pads.get port))

theorem toNat_mailbox_add (port : Port) :
    (mailbox + UInt32.ofNat (4 * port)).toNat = ramBase.toNat + (0x100 + 4 * port) := by
  revert port
  decide

@[simp] theorem size_mail (pads : Pads) (ram : ByteArray) (port : Port) :
    (mail pads ram port).size = ram.size := size_setBytes ..

theorem getElem?_mail (pads : Pads) (port : Port) (hi : i < ram.size) :
    (mail pads ram port)[i]? =
      if 0x100 + 4 * port ≤ i ∧ i < 0x100 + 4 * port + 4 then
        some ((pads.get port).mailByte (i - (0x100 + 4 * port)))
      else ram[i]? := by
  have hlength : (mailBytes (pads.get port)).length = 4 := rfl
  have hport : port.val < 4 := port.isLt
  have hsize : UInt32.size = ramBase.toNat + 0x80000000 := by decide
  rw [mail, getElem?_setBytes (by rw [toNat_mailbox_add, hlength]; omega) hi, toNat_mailbox_add,
    hlength]
  generalize ramBase.toNat = base
  split_ifs with hbytes hplace hplace
  · have hk : base + i - (base + (0x100 + 4 * port.val)) = i - (0x100 + 4 * port) := by omega
    rw [hk]
    exact getElem?_mailBytes _ (by omega)
  · omega
  · omega
  · rfl

/-- Each pad has four bytes of its own, whatever pads are written before and after it. -/
theorem getElem?_foldl_mail (pads : Pads) (ports : List Port) (hi : i < ram.size) :
    (ports.foldl (mail pads) ram)[i]? =
      match ports.find? fun port => 0x100 + 4 * port.val ≤ i ∧ i < 0x100 + 4 * port.val + 4 with
      | some port => some ((pads.get port).mailByte (i - (0x100 + 4 * port)))
      | none => ram[i]? := by
  induction ports generalizing ram with
  | nil => rfl
  | cons port ports ih =>
    rw [List.foldl_cons, ih (by rwa [size_mail]), getElem?_mail pads port hi, List.find?_cons]
    by_cases hport : 0x100 + 4 * port.val ≤ i ∧ i < 0x100 + 4 * port.val + 4
    · simp only [hport, and_self, decide_true, if_true]
      split
      · next later hlater =>
        -- a byte is in the mail of one port only
        have hplace := List.find?_some hlater
        rw [decide_eq_true_eq] at hplace
        obtain rfl : later = port := Fin.ext (by omega)
        rfl
      · rfl
    · simp only [hport, decide_false, if_false]

/-- The machine after a frame has published a number and pads, as far as there is RAM, and all else
in memory is what it was before. -/
structure Publishes (s : Headless) (n : Nat) (pads : Port → Pad) (s' : Headless) : Prop where
  valid : s'.memory.isValid = s.memory.isValid
  /-- The number, as a word of 32 bits. -/
  number : ∀ k < 4, s.memory.isValid (UInt32.ofNat (0x800000F0 + k)) = true →
    s'.memory.byteAt (UInt32.ofNat (0x800000F0 + k)) = bigEndianByte 4 (n % 2 ^ 32) k
  mail : ∀ port : Port, ∀ k < 4,
    s.memory.isValid (UInt32.ofNat (0x80000100 + 4 * port + k)) = true →
    s'.memory.byteAt (UInt32.ofNat (0x80000100 + 4 * port + k)) = (pads port).mailByte k
  kept : ∀ address : UInt32, ¬(0x800000F0 ≤ address ∧ address ≤ 0x800000F3) →
    ¬(0x80000100 ≤ address ∧ address ≤ 0x8000010F) →
    s'.memory.byteAt address = s.memory.byteAt address
  /-- So is what RAM there is beyond the last address. -/
  beyond : ∀ i, 0x80000000 ≤ i → s'.ram[i]? = s.ram[i]?

theorem publish_eq (ram : ByteArray) (frame : UInt64) (pads : Pads) :
    publish ram frame pads = (List.finRange portCount).foldl (Headless.mail pads)
      (setBytes ram frameCounter (wordBytes frame.toUInt32)) := rfl

theorem getElem?_number (frame : UInt64) (hi : i < ram.size) :
    (setBytes ram frameCounter (wordBytes frame.toUInt32))[i]? =
      if 0xF0 ≤ i ∧ i < 0xF4 then some (bigEndianByte 4 (frame.toNat % 2 ^ 32) (i - 0xF0))
      else ram[i]? := by
  have hlength : (wordBytes frame.toUInt32).length = 4 := rfl
  have hcounter : frameCounter.toNat = ramBase.toNat + 0xF0 := by decide
  have hsize : UInt32.size = ramBase.toNat + 0x80000000 := by decide
  rw [getElem?_setBytes (by rw [hcounter, hlength]; omega) hi, hcounter, hlength]
  generalize ramBase.toNat = base
  split_ifs with hbytes hplace hplace
  · have hk : base + i - (base + 0xF0) = i - 0xF0 := by omega
    rw [hk, getElem?_wordBytes _ (by omega), UInt64.toNat_toUInt32]
  · omega
  · omega
  · rfl

/-- A published number stands before the mail, which leaves it. -/
theorem getElem?_publish_number (frame : UInt64) (pads : Pads) (hk : k < 4)
    (hi : 0xF0 + k < ram.size) :
    (publish ram frame pads)[0xF0 + k]? = some (bigEndianByte 4 (frame.toNat % 2 ^ 32) k) := by
  rw [publish_eq, getElem?_foldl_mail pads _ (by rwa [size_setBytes])]
  split
  · next port hport =>
    have hplace := List.find?_some hport
    rw [decide_eq_true_eq] at hplace
    omega
  · rw [getElem?_number frame hi, if_pos (by omega), Nat.add_sub_cancel_left]

theorem getElem?_publish_mail (frame : UInt64) (pads : Pads) (port : Port) (hk : k < 4)
    (hi : 0x100 + 4 * port.val + k < ram.size) :
    (publish ram frame pads)[0x100 + 4 * port.val + k]? = some ((pads.get port).mailByte k) := by
  rw [publish_eq, getElem?_foldl_mail pads _ (by rwa [size_setBytes])]
  split
  · next other hother =>
    have hplace := List.find?_some hother
    rw [decide_eq_true_eq] at hplace
    obtain rfl : other = port := Fin.ext (by omega)
    rw [Nat.add_sub_cancel_left]
  · next hnone =>
    have hport := List.find?_eq_none.mp hnone port (List.mem_finRange port)
    rw [decide_eq_true_eq] at hport
    omega

theorem getElem?_publish_rest (ram : ByteArray) (frame : UInt64) (pads : Pads)
    (hnumber : ¬(0xF0 ≤ i ∧ i < 0xF4)) (hmail : ¬(0x100 ≤ i ∧ i < 0x110)) :
    (publish ram frame pads)[i]? = ram[i]? := by
  rcases Nat.lt_or_ge i ram.size with hi | hi
  · rw [publish_eq, getElem?_foldl_mail pads _ (by rwa [size_setBytes])]
    split
    · next port hport =>
      have hplace := List.find?_some hport
      have hbound : port.val < 4 := port.isLt
      rw [decide_eq_true_eq] at hplace
      omega
    · rw [getElem?_number frame hi, if_neg hnumber]
  · rw [getElem?_neg _ _ (by rw [size_publish]; omega), getElem?_neg _ _ (by omega)]

/-! ## Guest memory -/

variable {s : Headless}

theorem offset?_of_toNat {size : Nat} (h : address.toNat = ramBase.toNat + i) :
    offset? size address = if hi : i < size then some ⟨i, hi⟩ else none := by
  unfold offset?
  simp only [UInt32.le_iff_toNat_le, h, Nat.le_add_right, if_true, Nat.add_sub_cancel_left]

theorem isValid_memory_of_toNat (h : address.toNat = ramBase.toNat + i) :
    s.memory.isValid address = true ↔ i < s.ram.size := by
  rw [isValid_memory, offset?_of_toNat h]
  split_ifs with hi <;> simp [hi]

theorem byteAt_memory_of_toNat (h : address.toNat = ramBase.toNat + i) :
    s.memory.byteAt address = s.ram[i]?.getD 0 := by
  rw [byteAt_memory, byteAt, offset?_of_toNat h]
  by_cases hi : i < s.ram.size
  · rw [dif_pos hi, getElem?_pos s.ram i hi]
    rfl
  · rw [dif_neg hi, getElem?_neg s.ram i hi]
    rfl

/-- A frame publishes its number and the pads that the machine was handed. -/
theorem publishes_of_runFrame {s' : Headless} {pads : Pads} (h : s.runFrame pads = some s') :
    s.Publishes s'.frame.toNat pads.get s' := by
  have hram := ram_of_runFrame h
  have hbase : ramBase.toNat = 0x80000000 := by decide
  have haddress : ∀ n < 0x80000000, (UInt32.ofNat (0x80000000 + n)).toNat = ramBase.toNat + n := by
    intro n hn
    have hsize : 0x80000000 + n < UInt32.size := by
      unfold UInt32.size
      omega
    exact (Memory.ofNat_toNat_of_lt hsize).trans (congrArg (· + n) hbase.symm)
  constructor
  case valid => exact isValid_eq_of_size_ram (size_ram_of_runFrame h)
  case number =>
    intro k hk hvalid
    have hplace := haddress (0xF0 + k) (by omega)
    rw [← Nat.add_assoc] at hplace
    rw [byteAt_memory_of_toNat hplace, hram,
      getElem?_publish_number _ _ hk ((isValid_memory_of_toNat hplace).mp hvalid)]
    rfl
  case mail =>
    intro port k hk hvalid
    have hport : port.val < 4 := port.isLt
    have hplace := haddress (0x100 + 4 * port + k) (by omega)
    rw [← Nat.add_assoc, ← Nat.add_assoc] at hplace
    rw [byteAt_memory_of_toNat hplace, hram,
      getElem?_publish_mail _ _ _ hk ((isValid_memory_of_toNat hplace).mp hvalid)]
    rfl
  case kept =>
    intro address hnumber hmail
    simp only [UInt32.le_iff_toNat_le] at hnumber hmail
    have hliterals : (0x800000F0 : UInt32).toNat = 0x800000F0 ∧
        (0x800000F3 : UInt32).toNat = 0x800000F3 ∧ (0x80000100 : UInt32).toNat = 0x80000100 ∧
        (0x8000010F : UInt32).toNat = 0x8000010F := by decide
    obtain ⟨h₀, h₁, h₂, h₃⟩ := hliterals
    rw [h₀, h₁] at hnumber
    rw [h₂, h₃] at hmail
    rcases Nat.lt_or_ge address.toNat ramBase.toNat with hbelow | habove
    · have hinvalid : ∀ t : Headless, t.memory.isValid address = false := fun t => by
        rw [isValid_memory, Bool.eq_false_iff, ne_eq, isSome_offset?_iff]
        omega
      rw [byteAt_memory_of_not_valid (hinvalid _), byteAt_memory_of_not_valid (hinvalid s)]
    · obtain ⟨i, hi⟩ := Nat.exists_eq_add_of_le habove
      rw [byteAt_memory_of_toNat hi, byteAt_memory_of_toNat hi, hram, getElem?_publish_rest]
      · omega
      · omega
  case beyond =>
    intro i hi
    rw [hram, getElem?_publish_rest s.ram _ pads (by omega) (by omega)]

end Headless

end ConsoleLink
