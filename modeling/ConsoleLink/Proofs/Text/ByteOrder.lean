import Mathlib.Data.String.Basic
import Mathlib.Tactic

/-! # The order of texts is that of their bytes

Texts are compared character by character. UTF-8 writes a later character by bytes that come later,
and the two differ at a byte that both have. So the bytes of texts are in the order of the texts.
-/

namespace ConsoleLink.Text

/-- The bytes of a text in UTF-8. -/
def utf8Bytes (s : String) : List UInt8 := s.toUTF8.data.toList

theorem utf8Bytes_eq (s : String) : utf8Bytes s = s.toList.flatMap String.utf8EncodeChar := by
  have hs : s.toByteArray = s.toList.utf8Encode := by
    rw [← String.toByteArray_ofList, String.ofList_toList]
  change s.toByteArray.data.toList = _
  rw [hs, List.utf8Encode, List.data_toByteArray]

/-- Two lists are equal up to a place at which the first has the smaller byte. -/
inductive Precedes : List UInt8 → List UInt8 → Prop where
  | here {x y : UInt8} {xs ys : List UInt8} (h : x < y) : Precedes (x :: xs) (y :: ys)
  | later {x : UInt8} {xs ys : List UInt8} (h : Precedes xs ys) : Precedes (x :: xs) (x :: ys)

namespace Precedes

variable {xs ys : List UInt8} {m n : Nat}

theorem append (h : Precedes xs ys) (xs' ys' : List UInt8) : Precedes (xs ++ xs') (ys ++ ys') := by
  induction h with
  | here h => exact .here h
  | later _ ih => exact .later ih

theorem lt (h : Precedes xs ys) : xs < ys := by
  induction h with
  | here h => exact .rel h
  | later _ ih => exact .cons ih

theorem ofNat_here (h : m < n) (hn : n < 256) :
    Precedes (UInt8.ofNat m :: xs) (UInt8.ofNat n :: ys) := by
  refine .here ?_
  rw [UInt8.lt_iff_toNat_lt, UInt8.toNat_ofNat', UInt8.toNat_ofNat']
  omega

/-- The first byte is no greater, and if it is equal the rest precedes. -/
theorem ofNat (h : m ≤ n) (hn : n < 256) (hrest : m = n → Precedes xs ys) :
    Precedes (UInt8.ofNat m :: xs) (UInt8.ofNat n :: ys) := by
  rcases Nat.lt_or_eq_of_le h with hlt | rfl
  · exact ofNat_here hlt hn
  · exact .later (hrest rfl)

end Precedes

/-- The bytes of a character precede those of a later one. -/
theorem precedes_utf8EncodeChar {c d : Char} (h : c < d) :
    Precedes (String.utf8EncodeChar c) (String.utf8EncodeChar d) := by
  have hlt : c.val.toNat < d.val.toNat := h
  have hmax : d.val.toNat < 0x110000 := by
    have hvalid := d.valid
    simp only [UInt32.isValidChar, Nat.isValidChar] at hvalid
    omega
  unfold String.utf8EncodeChar
  dsimp only
  generalize c.val.toNat = m at *
  generalize d.val.toNat = n at *
  -- the later character has at least as many bytes, and with more bytes a greater first byte
  split_ifs
  all_goals first
    | omega
    | exact .ofNat_here (by omega) (by omega)
    | exact .ofNat (by omega) (by omega) fun _ => .ofNat_here (by omega) (by omega)
    | exact .ofNat (by omega) (by omega) fun _ => .ofNat (by omega) (by omega) fun _ =>
        .ofNat_here (by omega) (by omega)
    | exact .ofNat (by omega) (by omega) fun _ => .ofNat (by omega) (by omega) fun _ =>
        .ofNat (by omega) (by omega) fun _ => .ofNat_here (by omega) (by omega)

theorem flatMap_utf8EncodeChar_lt {cs ds : List Char} (h : cs < ds) :
    cs.flatMap String.utf8EncodeChar < ds.flatMap String.utf8EncodeChar := by
  induction h with
  | @nil d ds =>
    obtain ⟨b, bs, hd⟩ := List.exists_cons_of_ne_nil (String.utf8EncodeChar_ne_nil (c := d))
    rw [List.flatMap_cons, hd]
    exact .nil
  | cons _ ih =>
    rw [List.flatMap_cons, List.flatMap_cons]
    exact List.Lex.append_left _ ih _
  | rel h =>
    rw [List.flatMap_cons, List.flatMap_cons]
    exact ((precedes_utf8EncodeChar h).append _ _).lt

/-- A text comes before another exactly if its bytes do. -/
theorem lt_iff_utf8Bytes_lt {s t : String} : s < t ↔ utf8Bytes s < utf8Bytes t := by
  have hmono : ∀ {s t : String}, s < t → utf8Bytes s < utf8Bytes t := by
    intro s t h
    rw [utf8Bytes_eq, utf8Bytes_eq]
    exact flatMap_utf8EncodeChar_lt (String.lt_iff_toList_lt.mp h)
  refine ⟨hmono, fun h => ?_⟩
  rcases lt_trichotomy s t with hlt | rfl | hgt
  · exact hlt
  · exact absurd h (List.lt_irrefl _)
  · exact absurd h (List.lt_asymm (hmono hgt))

end ConsoleLink.Text
