import ConsoleLink.Proofs.Text.Listing
import ConsoleLink.Proofs.Text.Numerals
import ConsoleLink.Watch.Notation

/-! # The spellings of addresses and offsets

An address is spelled with a mark of the base or none and a numeral, blanks around them. An offset
is spelled like an address or with a minus sign before that. Every spelling is read as what it
spells, and no other text is read at all.
-/

namespace ConsoleLink.Watch

open Text (isBlank trimChars Numeral)

/-- The characters are a mark of the base or none and then a numeral of `n`. -/
def Marked (cs : List Char) (n : Nat) : Prop :=
  ∃ mark numeral, (mark = [] ∨ mark = ['0', 'x'] ∨ mark = ['0', 'X']) ∧ cs = mark ++ numeral ∧
    Numeral numeral n

/-- The characters are a spelling of `n`, which may have blanks around it. -/
def Spells (cs : List Char) (n : Nat) : Prop :=
  ∃ before body after, cs = before ++ body ++ after ∧ (∀ c ∈ before, isBlank c = true) ∧
    (∀ c ∈ after, isBlank c = true) ∧ Marked body n

/-- The characters are a minus sign, blanks or none before it, and then a spelling of `n`. -/
def SpellsNegative (cs : List Char) (n : Nat) : Prop :=
  ∃ before rest, cs = before ++ '-' :: rest ∧ (∀ c ∈ before, isBlank c = true) ∧ Spells rest n

/-! ## Without the blanks -/

theorem Marked.mem_symbols {cs : List Char} {n : Nat} {c : Char} (h : Marked cs n) (hc : c ∈ cs) :
    c ∈ ['x', 'X', '+'] ++ (Text.lowerDigits ++ Text.upperDigits) := by
  obtain ⟨mark, numeral, hmark, rfl, hnumeral⟩ := h
  rcases List.mem_append.mp hc with hc | hc
  · rcases hmark with rfl | rfl | rfl
    · cases hc
    · rcases List.mem_pair.mp hc with rfl | rfl <;> decide
    · rcases List.mem_pair.mp hc with rfl | rfl <;> decide
  · exact List.mem_cons_of_mem _ (List.mem_cons_of_mem _ (hnumeral.mem_symbols hc))

theorem Marked.not_blank {cs : List Char} {n : Nat} (h : Marked cs n) :
    ∀ c ∈ cs, isBlank c = false := by
  have hsymbols : (['x', 'X', '+'] ++ (Text.lowerDigits ++ Text.upperDigits)).all
      (fun c => !isBlank c) = true := by
    decide
  intro c hc
  simpa using List.all_eq_true.mp hsymbols c (h.mem_symbols hc)

theorem Marked.minus_not_mem {cs : List Char} {n : Nat} (h : Marked cs n) : '-' ∉ cs := fun hc =>
  absurd (h.mem_symbols hc) (by decide)

theorem trimChars_of_not_blank {cs : List Char} (h : ∀ c ∈ cs, isBlank c = false) :
    trimChars cs = cs := by
  have hkeep : ∀ cs : List Char, (∀ c ∈ cs, isBlank c = false) → cs.dropWhile isBlank = cs := by
    intro cs h
    cases cs with
    | nil => rfl
    | cons c cs => exact List.dropWhile_cons_of_neg (by simp [h c List.mem_cons_self])
  rw [trimChars, Text.trimStart, hkeep cs h, Text.trimEnd, hkeep, List.reverse_reverse]
  exact fun c hc => h c (List.mem_reverse.mp hc)

theorem spells_iff_marked {cs : List Char} {n : Nat} : Spells cs n ↔ Marked (trimChars cs) n := by
  constructor
  · rintro ⟨before, body, after, rfl, hbefore, hafter, hbody⟩
    rwa [Text.trimChars_padded _ _ _ hbefore hafter, trimChars_of_not_blank hbody.not_blank]
  · intro h
    obtain ⟨before, after, hcs, hbefore, hafter⟩ := Text.exists_padded cs
    exact ⟨before, _, after, hcs, hbefore, hafter, h⟩

theorem Marked.ne_nil {cs : List Char} {n : Nat} (h : Marked cs n) : cs ≠ [] := by
  obtain ⟨mark, numeral, -, rfl, sign, digits, -, hdigits, rfl, -⟩ := h
  simp [hdigits]

/-- Nothing is trimmed off a text whose first and last characters are not blank. -/
theorem trimChars_cons_append {c : Char} {inner body : List Char} (hc : isBlank c = false)
    (hne : body ≠ []) (hbody : ∀ c ∈ body, isBlank c = false) :
    trimChars (c :: (inner ++ body)) = c :: (inner ++ body) := by
  have hlast : isBlank (body.getLast hne) = false := hbody _ (List.getLast_mem hne)
  rw [trimChars, Text.trimStart, List.dropWhile_cons_of_neg (by simp [hc]),
    ← List.dropLast_append_getLast hne]
  simp [Text.trimEnd, hlast]

theorem spellsNegative_iff {cs : List Char} {n : Nat} :
    SpellsNegative cs n ↔ ∃ rest, trimChars cs = '-' :: rest ∧ Spells rest n := by
  constructor
  · rintro ⟨before, -, rfl, hbefore, inner, body, after, rfl, hinner, hafter, hbody⟩
    have hcut : before ++ '-' :: (inner ++ body ++ after) =
        before ++ '-' :: (inner ++ body) ++ after := by simp
    refine ⟨inner ++ body, ?_, inner, body, [], by simp, hinner, List.forall_mem_nil _, hbody⟩
    rw [hcut, Text.trimChars_padded _ _ _ hbefore hafter]
    exact trimChars_cons_append (by decide) hbody.ne_nil hbody.not_blank
  · rintro ⟨rest, hrest, hspelled⟩
    obtain ⟨before, after, hcs, hbefore, hafter⟩ := Text.exists_padded cs
    rw [hrest, List.append_assoc] at hcs
    refine ⟨before, rest ++ after, hcs, hbefore, ?_⟩
    obtain ⟨inner, body, outer, rfl, hinner, houter, hbody⟩ := hspelled
    exact ⟨inner, body, outer ++ after, by simp, hinner,
      List.forall_mem_append.mpr ⟨houter, hafter⟩, hbody⟩

theorem Spells.minus_not_mem {cs : List Char} {n : Nat} (h : Spells cs n) : '-' ∉ cs := by
  obtain ⟨before, body, after, rfl, hbefore, hafter, hbody⟩ := h
  have hblank : isBlank '-' = false := by decide
  simp only [List.mem_append, not_or]
  refine ⟨⟨fun hc => ?_, hbody.minus_not_mem⟩, fun hc => ?_⟩
  · simpa [hblank] using hbefore _ hc
  · simpa [hblank] using hafter _ hc

theorem SpellsNegative.minus_mem {cs : List Char} {n : Nat} (h : SpellsNegative cs n) :
    '-' ∈ cs := by
  obtain ⟨before, rest, rfl, -⟩ := h
  simp

/-! ## Addresses -/

/-- Without the mark of the base, a numeral is left. -/
theorem numeral_hexDigits_iff {cs : List Char} {n : Nat} :
    Numeral (hexDigits cs) n ↔ Marked cs n := by
  constructor
  · intro h
    unfold hexDigits at h
    split at h
    · exact ⟨['0', 'x'], _, .inr (.inl rfl), rfl, h⟩
    · exact ⟨['0', 'X'], _, .inr (.inr rfl), rfl, h⟩
    · exact ⟨[], _, .inl rfl, rfl, h⟩
  · rintro ⟨mark, numeral, rfl | rfl | rfl, rfl, h⟩
    · unfold hexDigits
      split
      · exact absurd (h.mem_symbols (by simp : 'x' ∈ _)) (by decide)
      · exact absurd (h.mem_symbols (by simp : 'X' ∈ _)) (by decide)
      · exact h
    · exact h
    · exact h

/-- An address is read as what its text spells. -/
theorem readHex_eq_ok_iff {text : String} {v : UInt32} :
    readHex text = .ok v ↔ Spells text.toList v.toNat := by
  have hread : Text.unsigned? 16 UInt32.size (hexDigits (trimChars text.toList)) = some v.toNat ↔
      Spells text.toList v.toNat := by
    rw [Text.unsigned?_eq_some_iff, numeral_hexDigits_iff, ← spells_iff_marked]
    exact and_iff_left v.toNat_lt_size
  rw [← hread, readHex]
  cases hnumber : Text.unsigned? 16 UInt32.size (hexDigits (trimChars text.toList)) with
  | none => simp
  | some n =>
    have hn : n < UInt32.size := (Text.unsigned?_eq_some_iff.mp hnumber).2
    rw [Except.ok.injEq, Option.some.injEq]
    constructor
    · rintro rfl
      exact (UInt32.toNat_ofNat_of_lt' hn).symm
    · rintro rfl
      exact UInt32.ofNat_toNat

theorem readHex_eq_ok_of_spells {cs : List Char} {n : Nat} (h : Spells cs n) (hn : n < 2 ^ 32) :
    readHex (String.ofList cs) = .ok (UInt32.ofNat n) := by
  rw [readHex_eq_ok_iff, String.toList_ofList, UInt32.toNat_ofNat_of_lt' hn]
  exact h

theorem readHex_error {text : String} {e : WatchError} (h : readHex text = .error e) :
    e = .invalidHex text := by
  unfold readHex at h
  split at h <;> cases h
  rfl

/-- How the text of an address is read. -/
structure ReadsAddress (text : String) : Prop where
  ok_iff : ∀ v, readHex text = .ok v ↔ Spells text.toList v.toNat
  error_iff : ∀ e, readHex text = .error e ↔
    e = .invalidHex text ∧ ∀ v : UInt32, ¬Spells text.toList v.toNat

theorem readsAddress (text : String) : ReadsAddress text where
  ok_iff _ := readHex_eq_ok_iff
  error_iff e := by
    simp only [← readHex_eq_ok_iff]
    constructor
    · intro h
      exact ⟨readHex_error h, by simp [h]⟩
    · rintro ⟨rfl, hnone⟩
      cases h : readHex text with
      | ok v => exact absurd h (hnone v)
      | error e => rw [readHex_error h]

/-! ## Offsets -/

/-- How the text of an offset is read. -/
structure ReadsOffset (text : String) : Prop where
  ok_iff : ∀ v, readOffset text = .ok v ↔ Spells text.toList v.toNat ∨
    ∃ m ≤ 0x80000000, SpellsNegative text.toList m ∧ v.toNat = (2 ^ 32 - m) % 2 ^ 32
  range_iff : ∀ t, readOffset text = .error (.offsetRange t) ↔ t = text ∧
    ∃ m, 0x80000000 < m ∧ m ≤ 0xFFFFFFFF ∧ SpellsNegative text.toList m
  /-- The faulty text is what the blanks leave, or what follows the minus sign. -/
  otherwise : ∀ e, readOffset text = .error e → e = .offsetRange text ∨ ∃ t, e = .invalidHex t ∧
    (trimChars text.toList = '-' :: t.toList ∨
      trimChars text.toList = t.toList ∧ '-' ∉ t.toList.head?)

theorem readOffset_of_negative {text : String} {rest : List Char}
    (h : trimChars text.toList = '-' :: rest) :
    readOffset text = match readHex (String.ofList rest) with
      | .error e => .error e
      | .ok m => if 0x80000000 < m then .error (.offsetRange text) else .ok (-m) := by
  unfold readOffset
  rw [h]
  rfl

theorem readOffset_of_unsigned {text : String} (h : ∀ rest, trimChars text.toList ≠ '-' :: rest) :
    readOffset text = readHex (String.ofList (trimChars text.toList)) := by
  unfold readOffset
  split
  · rename_i rest hrest
    exact absurd hrest (h rest)
  · rfl

theorem readsOffset_of_unsigned {text : String}
    (h : ∀ rest, trimChars text.toList ≠ '-' :: rest) : ReadsOffset text := by
  have hnegative : ∀ m, ¬SpellsNegative text.toList m := fun m hm => by
    obtain ⟨rest, hrest, -⟩ := spellsNegative_iff.mp hm
    exact h rest hrest
  constructor
  case ok_iff =>
    intro v
    rw [readOffset_of_unsigned h, readHex_eq_ok_iff, String.toList_ofList, spells_iff_marked,
      Text.trimChars_trimChars, ← spells_iff_marked]
    simp [hnegative]
  case range_iff =>
    intro t
    rw [readOffset_of_unsigned h]
    constructor
    · exact fun herror => absurd (readHex_error herror) nofun
    · rintro ⟨-, m, -, -, hm⟩
      exact absurd hm (hnegative m)
  case otherwise =>
    intro e he
    rw [readOffset_of_unsigned h] at he
    refine .inr ⟨_, readHex_error he, .inr ⟨(String.toList_ofList).symm, fun hhead => ?_⟩⟩
    rw [String.toList_ofList] at hhead
    obtain ⟨rest, hrest⟩ := List.head?_eq_some_iff.mp hhead
    exact h rest hrest

/-- A magnitude within bounds is negated. -/
theorem readOffset_negative_eq_ok_iff {text : String} {rest : List Char} {v : UInt32}
    (h : trimChars text.toList = '-' :: rest) :
    readOffset text = .ok v ↔
      ∃ m ≤ 0x80000000, Spells rest m ∧ v.toNat = (2 ^ 32 - m) % 2 ^ 32 := by
  rw [readOffset_of_negative h]
  constructor
  · intro hv
    split at hv
    case h_1 => cases hv
    case h_2 m hm =>
      split_ifs at hv with hbound
      cases hv
      have hspelled := readHex_eq_ok_iff.mp hm
      rw [String.toList_ofList] at hspelled
      exact ⟨m.toNat, UInt32.le_iff_toNat_le.mp (UInt32.not_lt.mp hbound), hspelled,
        UInt32.toNat_neg m⟩
  · rintro ⟨m, hbound, hm, hv⟩
    have hsize : m < 2 ^ 32 := by omega
    have hmagnitude : (UInt32.ofNat m).toNat = m := UInt32.toNat_ofNat_of_lt' hsize
    have hwithin : ¬0x80000000 < UInt32.ofNat m := by
      rw [UInt32.lt_iff_toNat_lt, hmagnitude]
      exact Nat.not_lt.mpr hbound
    rw [readHex_eq_ok_of_spells hm hsize]
    dsimp only
    rw [if_neg hwithin, Except.ok.injEq, ← UInt32.toNat_inj, UInt32.toNat_neg, hmagnitude, hv]
    rfl

/-- A magnitude beyond bounds is refused with the whole text. -/
theorem readOffset_negative_eq_range_iff {text t : String} {rest : List Char}
    (h : trimChars text.toList = '-' :: rest) :
    readOffset text = .error (.offsetRange t) ↔
      t = text ∧ ∃ m, 0x80000000 < m ∧ m ≤ 0xFFFFFFFF ∧ Spells rest m := by
  rw [readOffset_of_negative h]
  constructor
  · intro ht
    split at ht
    case h_1 e he =>
      rw [Except.error.injEq] at ht
      exact absurd (ht ▸ readHex_error he) nofun
    case h_2 m hm =>
      split_ifs at ht with hbound
      cases ht
      have hspelled := readHex_eq_ok_iff.mp hm
      rw [String.toList_ofList] at hspelled
      exact ⟨rfl, m.toNat, UInt32.lt_iff_toNat_lt.mp hbound, Nat.le_of_lt_succ m.toNat_lt_size,
        hspelled⟩
  · rintro ⟨rfl, m, hbound, hlimit, hm⟩
    have hsize : m < 2 ^ 32 := by omega
    have hbeyond : 0x80000000 < UInt32.ofNat m := by
      rw [UInt32.lt_iff_toNat_lt, UInt32.toNat_ofNat_of_lt' hsize]
      exact hbound
    rw [readHex_eq_ok_of_spells hm hsize]
    exact if_pos hbeyond

theorem readsOffset_of_negative {text : String} {rest : List Char}
    (h : trimChars text.toList = '-' :: rest) : ReadsOffset text := by
  have hunsigned : ∀ n, ¬Spells text.toList n := fun n hn =>
    (spells_iff_marked.mp hn).minus_not_mem (by simp [h])
  have hnegative : ∀ m, SpellsNegative text.toList m ↔ Spells rest m := fun m => by
    simp [spellsNegative_iff, h]
  constructor
  case ok_iff =>
    intro v
    rw [readOffset_negative_eq_ok_iff h, or_iff_right (hunsigned v.toNat)]
    simp only [hnegative]
  case range_iff =>
    intro t
    rw [readOffset_negative_eq_range_iff h]
    simp only [hnegative]
  case otherwise =>
    intro e he
    rw [readOffset_of_negative h] at he
    split at he
    case h_1 e' he' =>
      cases he
      exact .inr ⟨_, readHex_error he', .inl (by rw [h, String.toList_ofList])⟩
    case h_2 m _ =>
      split_ifs at he
      cases he
      exact .inl rfl

theorem readsOffset (text : String) : ReadsOffset text := by
  by_cases h : ∃ rest, trimChars text.toList = '-' :: rest
  · obtain ⟨rest, hrest⟩ := h
    exact readsOffset_of_negative hrest
  · exact readsOffset_of_unsigned (not_exists.mp h)

/-! ## What has a spelling -/

theorem exists_spells (n : Nat) : ∃ cs, Spells cs n := by
  obtain ⟨cs, hcs⟩ := Text.exists_numeral n
  exact ⟨cs, [], cs, [], by simp, List.forall_mem_nil _, List.forall_mem_nil _, [], cs, .inl rfl,
    rfl, hcs⟩

/-- Every value is spelled without a sign. -/
theorem exists_unsigned_spelling (v : UInt32) : ∃ text : String,
    Spells text.toList v.toNat ∧ readHex text = .ok v ∧ readOffset text = .ok v := by
  obtain ⟨cs, hcs⟩ := exists_spells v.toNat
  have htext : Spells (String.ofList cs).toList v.toNat := by rwa [String.toList_ofList]
  exact ⟨String.ofList cs, htext, readHex_eq_ok_iff.mpr htext,
    ((readsOffset _).ok_iff v).mpr (.inl htext)⟩

/-- Zero and the upper half of the values are what is spelled with a minus sign. -/
theorem exists_negative_spelling_iff (v : UInt32) :
    (∃ (text : String) (m : Nat), SpellsNegative text.toList m ∧ readOffset text = .ok v) ↔
      v = 0 ∨ 0x80000000 ≤ v := by
  rw [← UInt32.toNat_inj, UInt32.le_iff_toNat_le]
  change _ ↔ v.toNat = 0 ∨ 0x80000000 ≤ v.toNat
  constructor
  · rintro ⟨text, m, hm, hv⟩
    rcases ((readsOffset text).ok_iff v).mp hv with hspelled | ⟨k, hbound, -, hk⟩
    · exact absurd hm.minus_mem hspelled.minus_not_mem
    · omega
  · intro hv
    obtain ⟨m, hbound, hm⟩ : ∃ m ≤ 0x80000000, v.toNat = (2 ^ 32 - m) % 2 ^ 32 := by
      rcases hv with hzero | hupper
      · exact ⟨0, by omega, by omega⟩
      · exact ⟨2 ^ 32 - v.toNat, by omega, by have hsize := v.toNat_lt; omega⟩
    obtain ⟨cs, hcs⟩ := exists_spells m
    have htext : SpellsNegative (String.ofList ('-' :: cs)).toList m := by
      rw [String.toList_ofList]
      exact ⟨[], cs, rfl, List.forall_mem_nil _, hcs⟩
    exact ⟨_, m, htext, ((readsOffset _).ok_iff v).mpr (.inr ⟨m, hbound, htext, hm⟩)⟩

/-- Addresses and offsets are read exactly from their spellings. Every value has one without a sign,
and the values with one with a minus sign are zero and those of the upper half. -/
theorem reads_exactly_the_spellings :
    (∀ text, ReadsAddress text ∧ ReadsOffset text) ∧
    (∀ v : UInt32, ∃ text : String,
      Spells text.toList v.toNat ∧ readHex text = .ok v ∧ readOffset text = .ok v) ∧
    ∀ v : UInt32, (∃ (text : String) (m : Nat),
      SpellsNegative text.toList m ∧ readOffset text = .ok v) ↔ v = 0 ∨ 0x80000000 ≤ v :=
  ⟨fun text => ⟨readsAddress text, readsOffset text⟩, exists_unsigned_spelling,
    exists_negative_spelling_iff⟩

example : readOffset " - 0x+10 " = .ok 0xFFFFFFF0 := by decide

end ConsoleLink.Watch
