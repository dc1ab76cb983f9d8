import ConsoleLink.MessagePack
import Mathlib.Tactic

/-! # Written forms and their readers

A value is written after whatever is there, and its form does not depend on that. Where a form
stands, reading gives the value back and ends after the form.
-/

namespace ConsoleLink.MessagePack

/-! ## Bytes at a place -/

/-- From a place on there are the given bytes. -/
def StandsAt (bytes : ByteArray) (start : Nat) (xs : List UInt8) : Prop :=
  ∃ before after, bytes.data.toList = before ++ (xs ++ after) ∧ before.length = start

variable {bytes done : ByteArray} {start n count : Nat} {x : UInt8} {xs ys : List UInt8}

theorem getElem?_eq (bytes : ByteArray) (i : Nat) : bytes[i]? = bytes.data.toList[i]? := by
  simp [ByteArray.getElem_eq_getElem_data, getElem?_def]

theorem standsAt_zero (h : bytes.data.toList = xs) : StandsAt bytes 0 xs :=
  ⟨[], [], by simpa using h, rfl⟩

namespace StandsAt

theorem left (h : StandsAt bytes start (xs ++ ys)) : StandsAt bytes start xs := by
  obtain ⟨before, after, hbytes, hstart⟩ := h
  exact ⟨before, ys ++ after, by rw [hbytes, List.append_assoc], hstart⟩

theorem right (h : StandsAt bytes start (xs ++ ys)) : StandsAt bytes (start + xs.length) ys := by
  obtain ⟨before, after, hbytes, hstart⟩ := h
  refine ⟨before ++ xs, after, ?_, ?_⟩
  · rw [hbytes, List.append_assoc, List.append_assoc]
  · rw [List.length_append, hstart]

theorem tail (h : StandsAt bytes start (x :: xs)) : StandsAt bytes (start + 1) xs :=
  (show StandsAt bytes start ([x] ++ xs) from h).right

theorem head (h : StandsAt bytes start (x :: xs)) : bytes[start]? = some x := by
  obtain ⟨before, after, hbytes, rfl⟩ := h
  rw [getElem?_eq, hbytes]
  simp

/-- Bytes that stand somewhere are cut out whole. -/
theorem slice_eq (h : StandsAt bytes start done.data.toList) :
    slice bytes start done.size = some (done, start + done.size) := by
  obtain ⟨before, after, hbytes, rfl⟩ := h
  have hlength := congrArg List.length hbytes
  have hcut : bytes.extract before.length (before.length + done.size) = done := by
    apply ByteArray.ext
    apply Array.toList_inj.mp
    rw [ByteArray.data_extract, Array.toList_extract, hbytes]
    simp
  unfold slice
  rw [hcut, if_pos]
  simp at hlength
  omega

end StandsAt

/-! ## Numbers of a fixed number of bytes -/

/-- The low bytes of a number, the one of most weight first. -/
def bigEndian (n : Nat) : Nat → List UInt8
  | 0 => []
  | count + 1 => UInt8.ofNat (n >>> (8 * count)) :: bigEndian n count

theorem length_bigEndian (n count : Nat) : (bigEndian n count).length = count := by
  induction count with
  | zero => rfl
  | succ count ih => rw [bigEndian, List.length_cons, ih]

theorem toList_pushBytes (done : ByteArray) (n count : Nat) :
    (pushBytes n count done).data.toList = done.data.toList ++ bigEndian n count := by
  induction count generalizing done with
  | zero => simp [pushBytes, bigEndian]
  | succ count ih => simp [pushBytes, bigEndian, ih]

theorem natAt_of_standsAt (h : StandsAt bytes start (bigEndian n count)) (acc : Nat) :
    natAt bytes start count acc = some (acc * 256 ^ count + n % 256 ^ count) := by
  induction count generalizing start acc with
  | zero => simp [natAt, Nat.mod_one]
  | succ count ih =>
    have hbyte : (UInt8.ofNat (n >>> (8 * count))).toNat = n / 256 ^ count % 256 := by
      rw [UInt8.toNat_ofNat', Nat.shiftRight_eq_div_pow, Nat.pow_mul]
    rw [natAt, h.head]
    dsimp only
    rw [ih h.tail, hbyte, Option.some.injEq, Nat.pow_succ, Nat.mod_mul]
    ring

/-- A head whose value takes some bytes is read from its code and these bytes. -/
theorem sized_of_standsAt (h : StandsAt bytes start (x :: bigEndian n count)) (hn : n < 256 ^ count)
    (head : Nat → Head) :
    sized bytes (start + 1) count head =
      some (head n, start + (x :: bigEndian n count).length) := by
  rw [sized, natAt_of_standsAt h.tail, Nat.mod_eq_of_lt hn, List.length_cons, length_bigEndian]
  simp [Nat.add_comm, Nat.add_left_comm]

/-! ## Heads -/

/-- The written form of a number. -/
def natForm (n : Nat) : List UInt8 :=
  if n < 128 then [UInt8.ofNat n]
  else if n < 0x100 then 0xCC :: bigEndian n 1
  else if n < 0x10000 then 0xCD :: bigEndian n 2
  else if n < 0x100000000 then 0xCE :: bigEndian n 4
  else 0xCF :: bigEndian n 8

/-- The written form of what comes before the bytes of a text. -/
def textHeadForm (n : Nat) : List UInt8 :=
  if n < 32 then [UInt8.ofNat (0xA0 + n)]
  else if n < 0x100 then 0xD9 :: bigEndian n 1
  else if n < 0x10000 then 0xDA :: bigEndian n 2
  else 0xDB :: bigEndian n 4

/-- The written form of what comes before the items of an array. -/
def arrayHeadForm (n : Nat) : List UInt8 :=
  if n < 16 then [UInt8.ofNat (0x90 + n)]
  else if n < 0x10000 then 0xDC :: bigEndian n 2
  else 0xDD :: bigEndian n 4

theorem toList_pushNat (done : ByteArray) (n : Nat) :
    (pushNat done n).data.toList = done.data.toList ++ natForm n := by
  unfold pushNat natForm
  split_ifs <;> simp [toList_pushBytes]

theorem toList_pushByte (done : ByteArray) (b : UInt8) :
    (pushByte done b).data.toList = done.data.toList ++ natForm b.toNat := by
  have hb := b.toNat_lt
  have hform : natForm b.toNat = if b < 128 then [b] else [0xCC, b] := by
    have hiff : b < 128 ↔ b.toNat < 128 := UInt8.lt_iff_toNat_lt
    unfold natForm
    by_cases h : b < 128
    · rw [if_pos h, if_pos (hiff.mp h), UInt8.ofNat_toNat]
    · rw [if_neg h, if_neg (fun hlt => h (hiff.mpr hlt)), if_pos hb]
      simp [bigEndian]
  rw [hform]
  unfold pushByte
  split_ifs <;> simp

theorem toList_pushText (done : ByteArray) (s : String) :
    (pushText done s).data.toList =
      done.data.toList ++ (textHeadForm s.utf8ByteSize ++ s.toUTF8.data.toList) := by
  unfold pushText textHeadForm
  dsimp only
  split_ifs <;> simp [toList_pushBytes]

theorem toList_pushArrayHead (done : ByteArray) (n : Nat) :
    (pushArrayHead done n).data.toList = done.data.toList ++ arrayHeadForm n := by
  unfold pushArrayHead arrayHeadForm
  split_ifs <;> simp [toList_pushBytes]

theorem readHead_nil (h : StandsAt bytes start [0xC0]) :
    readHead bytes start = some (.nil, start + 1) := by
  rw [readHead, h.head]
  rfl

theorem readHead_natForm (h : StandsAt bytes start (natForm n)) (hn : n < UInt64.size) :
    readHead bytes start = some (.natural n, start + (natForm n).length) := by
  unfold natForm at h ⊢
  split_ifs at h ⊢ with hsmall
  · have hbyte : (UInt8.ofNat n).toNat = n := by
      rw [UInt8.toNat_ofNat']
      omega
    rw [readHead, h.head]
    dsimp only
    rw [hbyte, if_pos hsmall]
    rfl
  · rw [readHead, h.head]
    exact sized_of_standsAt h (by omega) .natural
  · rw [readHead, h.head]
    exact sized_of_standsAt h (by omega) .natural
  · rw [readHead, h.head]
    exact sized_of_standsAt h (by omega) .natural
  · rw [readHead, h.head]
    exact sized_of_standsAt h hn .natural

theorem readHead_textHeadForm (h : StandsAt bytes start (textHeadForm n))
    (hn : n < UInt32.size) :
    readHead bytes start = some (.text n, start + (textHeadForm n).length) := by
  unfold textHeadForm at h ⊢
  split_ifs at h ⊢
  · have hbyte : (UInt8.ofNat (0xA0 + n)).toNat = 0xA0 + n := by
      rw [UInt8.toNat_ofNat']
      omega
    rw [readHead, h.head]
    dsimp only
    rw [hbyte, if_neg (by omega), if_neg (by omega), if_neg (by omega), if_pos (by omega),
      Nat.add_sub_cancel_left]
    rfl
  · rw [readHead, h.head]
    exact sized_of_standsAt h (by omega) .text
  · rw [readHead, h.head]
    exact sized_of_standsAt h (by omega) .text
  · rw [readHead, h.head]
    exact sized_of_standsAt h hn .text

theorem readHead_arrayHeadForm (h : StandsAt bytes start (arrayHeadForm n))
    (hn : n < UInt32.size) :
    readHead bytes start = some (.array n, start + (arrayHeadForm n).length) := by
  unfold arrayHeadForm at h ⊢
  split_ifs at h ⊢
  · have hbyte : (UInt8.ofNat (0x90 + n)).toNat = 0x90 + n := by
      rw [UInt8.toNat_ofNat']
      omega
    rw [readHead, h.head]
    dsimp only
    rw [hbyte, if_neg (by omega), if_neg (by omega), if_pos (by omega), Nat.add_sub_cancel_left]
    rfl
  · rw [readHead, h.head]
    exact sized_of_standsAt h (by omega) .array
  · rw [readHead, h.head]
    exact sized_of_standsAt h hn .array

/-! ## Bytes as numbers -/

theorem readNat_natForm (h : StandsAt bytes start (natForm n)) (hn : n < UInt64.size) :
    readNat bytes start = some (n, start + (natForm n).length) := by
  rw [readNat, readHead_natForm h hn]

/-- The bytes after those that are done. -/
def pushAll (done : ByteArray) (xs : List UInt8) : ByteArray := xs.foldl ByteArray.push done

theorem toList_pushAll (done : ByteArray) (xs : List UInt8) :
    (pushAll done xs).data.toList = done.data.toList ++ xs := by
  induction xs generalizing done with
  | nil => simp [pushAll]
  | cons x xs ih =>
    change (pushAll (done.push x) xs).data.toList = _
    rw [ih]
    simp

theorem pushAll_empty (bytes : ByteArray) : pushAll .empty bytes.data.toList = bytes := by
  apply ByteArray.ext
  apply Array.toList_inj.mp
  rw [toList_pushAll]
  rfl

theorem readByteNumbers_of_standsAt
    (h : StandsAt bytes start (xs.flatMap fun b => natForm b.toNat)) (done : ByteArray) :
    readByteNumbers bytes xs.length start done =
      some (pushAll done xs, start + (xs.flatMap fun b => natForm b.toNat).length) := by
  induction xs generalizing start done with
  | nil => rfl
  | cons x xs ih =>
    have hx := x.toNat_lt
    rw [List.flatMap_cons] at h ⊢
    rw [List.length_cons, readByteNumbers, readNat_natForm h.left (by unfold UInt64.size; omega)]
    dsimp only
    rw [if_pos hx, ih h.right, UInt8.ofNat_toNat, List.length_append, Nat.add_assoc]
    rfl

theorem foldl_loop_eq {β : Type} (f : β → UInt8 → β) (bytes : ByteArray) (left place : Nat)
    (h : left + place = bytes.size) (init : β) :
    ByteArray.foldlM.loop (m := Id) (fun b x => pure (f b x)) bytes bytes.size (Nat.le_refl _) left
      place init = (bytes.data.toList.drop place).foldl f init := by
  induction left generalizing place init with
  | zero =>
    rw [ByteArray.foldlM.loop, List.drop_of_length_le (by simp; omega)]
    split <;> rfl
  | succ left ih =>
    have hplace : place < bytes.size := by omega
    have hdrop : bytes.data.toList.drop place =
        bytes[place] :: bytes.data.toList.drop (place + 1) := by
      rw [List.drop_eq_getElem_cons (by simpa using hplace)]
      simp [ByteArray.getElem_eq_getElem_data]
    rw [ByteArray.foldlM.loop, dif_pos hplace, hdrop]
    exact ih (place + 1) (by omega) (f init bytes[place])

theorem foldl_eq {β : Type} (f : β → UInt8 → β) (init : β) (bytes : ByteArray) :
    bytes.foldl f init = bytes.data.toList.foldl f init := by
  rw [ByteArray.foldl, ByteArray.foldlM]
  simp only [Nat.le_refl, dite_true, Nat.sub_zero]
  exact foldl_loop_eq f bytes bytes.size 0 rfl init

theorem toList_foldl_pushByte (done : ByteArray) (xs : List UInt8) :
    (xs.foldl pushByte done).data.toList =
      done.data.toList ++ xs.flatMap fun b => natForm b.toNat := by
  induction xs generalizing done with
  | nil => simp
  | cons x xs ih =>
    rw [List.foldl_cons, ih, toList_pushByte, List.flatMap_cons, List.append_assoc]

theorem toList_pushByteNumbers (done bytes : ByteArray) :
    (pushByteNumbers done bytes).data.toList =
      done.data.toList ++
        (arrayHeadForm bytes.size ++ bytes.data.toList.flatMap fun b => natForm b.toNat) := by
  rw [pushByteNumbers, foldl_eq, toList_foldl_pushByte, toList_pushArrayHead, List.append_assoc]

/-! ## Lengths that are read -/

theorem natAt_lt {acc : Nat} (h : natAt bytes start count acc = some n) :
    n < (acc + 1) * 256 ^ count := by
  induction count generalizing start acc with
  | zero =>
    rw [natAt, Option.some.injEq] at h
    omega
  | succ count ih =>
    unfold natAt at h
    split at h
    · rename_i b _
      have hb := b.toNat_lt
      refine (ih h).trans_le ?_
      rw [Nat.pow_succ', ← Nat.mul_assoc]
      exact Nat.mul_le_mul_right _ (by omega)
    · cases h

theorem size_of_slice {raw : ByteArray} {next : Nat}
    (h : slice bytes start n = some (raw, next)) : raw.size = n := by
  unfold slice at h
  split_ifs at h
  cases h
  rw [ByteArray.size_extract]
  omega

/-- The length that a head gives for the bytes of a text or of binary data. -/
def Head.length? : Head → Option Nat
  | .text n => some n
  | .binary n => some n
  | _ => none

/-- A head gives no length of more than 32 bits. -/
def Head.Short (head : Head) : Prop := ∀ n, head.length? = some n → n < UInt32.size

theorem Head.short_of_length? {head : Head} (h : head.length? = none) : head.Short := by
  intro n hn
  rw [h] at hn
  cases hn

theorem short_of_sized {head : Nat → Head} {found : Head} {next : Nat}
    (hshort : ∀ k < 256 ^ count, (head k).Short)
    (h : sized bytes start count head = some (found, next)) : found.Short := by
  obtain ⟨k, hk, h⟩ := Option.map_eq_some_iff.mp h
  have hlt := natAt_lt hk
  cases h
  exact hshort k (by simpa using hlt)

theorem short_of_fixed {head found : Head} {next : Nat} (hshort : head.Short)
    (h : fixed bytes start count head = some (found, next)) : found.Short := by
  unfold fixed at h
  split_ifs at h
  cases h
  exact hshort

theorem short_text {k : Nat} (h : k < UInt32.size) : (Head.text k).Short := fun _ hn =>
  (Option.some.inj hn) ▸ h

theorem short_binary {k : Nat} (h : k < UInt32.size) : (Head.binary k).Short := fun _ hn =>
  (Option.some.inj hn) ▸ h

theorem short_readHead {head : Head} {next : Nat} (h : readHead bytes start = some (head, next)) :
    head.Short := by
  unfold readHead at h
  split at h
  · cases h
  · rename_i b _
    dsimp only at h
    have hb := b.toNat_lt
    have hwide : ∀ k < 256 ^ 4, k < UInt32.size := fun k hk => hk
    split_ifs at h
    · cases h
      exact Head.short_of_length? rfl
    · cases h
      exact Head.short_of_length? rfl
    · cases h
      exact Head.short_of_length? rfl
    · cases h
      exact short_text (hwide _ (by omega))
    · cases h
      exact Head.short_of_length? rfl
    · split at h
      all_goals first
        | exact short_of_sized (fun _ _ => Head.short_of_length? rfl) h
        | exact short_of_sized (fun k hk => short_text (hwide k (by omega))) h
        | exact short_of_sized (fun k hk => short_binary (hwide k (by omega))) h
        | exact short_of_fixed (Head.short_of_length? rfl) h
        | (cases h; exact Head.short_of_length? rfl)
        | cases h

end ConsoleLink.MessagePack
