import ConsoleLink.Proofs.Json.Tokens
import ConsoleLink.Proofs.NameMap.Order

/-! # Texts that write values

When a text writes a value is said here without a reader: scalars are written by their tokens, and
arrays and objects by what stands between their brackets, with commas, colons and blanks. Every key
of an object is written once. A text with all surrogates in pairs is read as the value that it
writes, and passing over it ends where reading it ends; a text with others is not read.
-/

namespace ConsoleLink.Json

/-- What the characters after an opening quote write, and what is left behind the closing quote. -/
abbrev StringForm := List Char → String → List Char → Prop

/-- Any string that can be passed over writes what is read, if anything is read. -/
def Passable : StringForm := fun cs s rest =>
  skipText cs = .ok rest ∧ ∀ r, readText cs = .ok r → r = (s, rest)

/-- Every surrogate in the string has a partner. -/
def Paired : StringForm := fun cs s rest => Passable cs s rest ∧ ¬SurrogateFault (readText cs)

/-- The characters after a sign write a number that is not out of range. -/
def WritesNumber (negative : Bool) (cs : List Char) (n : Number) (rest : List Char) : Prop :=
  skipNumber cs = .ok rest ∧ readNumber negative cs ≠ refuse .numberOutOfRange ∧
    ∀ r, readNumber negative cs = .ok r → r = (n, rest)

/-- A piece of text that writes values. -/
inductive Part where
  | value (v : Json)
  /-- The items of an array up to its bracket; `after` if another one stands before them. -/
  | items (after : Bool) (vs : List Json)
  /-- The members of an object up to its brace; `after` if another one stands before them. -/
  | members (after : Bool) (ms : List (String × Json))

/-- What stands between two items: nothing before the first one. -/
def Separated (after : Bool) (cs ds : List Char) : Prop :=
  if after then skipSpace cs = ',' :: ds else cs = ds

/-- The characters write a part, with so many arrays and objects inside each other at most. -/
inductive Writes (S : StringForm) : (levels : Nat) → Part → List Char → List Char → Prop where
  | null {levels : Nat} {cs rest : List Char}
      (h : skipSpace cs = ['n', 'u', 'l', 'l'] ++ rest) : Writes S levels (.value .null) cs rest
  | yes {levels : Nat} {cs rest : List Char}
      (h : skipSpace cs = ['t', 'r', 'u', 'e'] ++ rest) :
      Writes S levels (.value (.bool true)) cs rest
  | no {levels : Nat} {cs rest : List Char}
      (h : skipSpace cs = ['f', 'a', 'l', 's', 'e'] ++ rest) :
      Writes S levels (.value (.bool false)) cs rest
  | negative {levels : Nat} {cs ds rest : List Char} {n : Number}
      (h : skipSpace cs = '-' :: ds) (hn : WritesNumber true ds n rest) :
      Writes S levels (.value (.number n)) cs rest
  | number {levels : Nat} {cs rest : List Char} {n : Number}
      (hn : WritesNumber false (skipSpace cs) n rest) : Writes S levels (.value (.number n)) cs rest
  | text {levels : Nat} {cs ds rest : List Char} {s : String} (h : skipSpace cs = '"' :: ds)
      (hs : S ds s rest) : Writes S levels (.value (.text s)) cs rest
  | array {levels : Nat} {cs ds rest : List Char} {vs : List Json} (h : skipSpace cs = '[' :: ds)
      (hvs : Writes S levels (.items false vs) ds rest) :
      Writes S (levels + 1) (.value (.array vs)) cs rest
  | object {levels : Nat} {cs ds rest : List Char} {ms : List (String × Json)}
      (h : skipSpace cs = '\x7b' :: ds) (hms : Writes S levels (.members false ms) ds rest)
      (hkeys : (ms.map Prod.fst).Nodup) : Writes S (levels + 1) (.value (.object ms)) cs rest
  | noItem {levels : Nat} {after : Bool} {cs rest : List Char} (h : skipSpace cs = ']' :: rest) :
      Writes S levels (.items after []) cs rest
  | item {levels : Nat} {after : Bool} {cs ds mid rest : List Char} {v : Json} {vs : List Json}
      (h : Separated after cs ds) (hv : Writes S levels (.value v) ds mid)
      (hvs : Writes S levels (.items true vs) mid rest) :
      Writes S levels (.items after (v :: vs)) cs rest
  | noMember {levels : Nat} {after : Bool} {cs rest : List Char}
      (h : skipSpace cs = '\x7d' :: rest) : Writes S levels (.members after []) cs rest
  | member {levels : Nat} {after : Bool} {cs ds inner colon es mid rest : List Char} {key : String}
      {v : Json} {ms : List (String × Json)} (h : Separated after cs ds)
      (hquote : skipSpace ds = '"' :: inner) (hkey : S inner key colon)
      (hcolon : skipSpace colon = ':' :: es) (hv : Writes S levels (.value v) es mid)
      (hms : Writes S levels (.members true ms) mid rest) :
      Writes S levels (.members after ((key, v) :: ms)) cs rest

variable {S : StringForm} {levels lv : Nat} {cs rest : List Char}

/-! ## Tokens -/

theorem Paired.readText {s : String} (h : Paired cs s rest) : readText cs = .ok (s, rest) := by
  obtain ⟨⟨hskip, hread⟩, hpaired⟩ := h
  obtain ⟨t, ht⟩ := (readText_of_skip hskip).resolve_right hpaired
  rw [ht, hread _ ht]

/-- A string that is read is written. -/
theorem Passable.of_read {s : String} (h : Json.readText cs = .ok (s, rest)) : Passable cs s rest :=
  ⟨skipText_of_read h, fun _ hr => (Except.ok.inj (h.symm.trans hr)).symm⟩

/-- A string with a surrogate that stands alone may stand for any text. -/
theorem Passable.of_fault {s : String} (hskip : skipText cs = .ok rest)
    (hfault : SurrogateFault (Json.readText cs)) : Passable cs s rest := by
  refine ⟨hskip, fun r hr => ?_⟩
  rcases hfault with hfault | hfault <;> exact nomatch hr.symm.trans hfault

theorem Passable.paired {s t : String} {left : List Char} (h : Passable cs s rest)
    (hread : Json.readText cs = .ok (t, left)) : Paired cs s rest := by
  refine ⟨h, ?_⟩
  rintro (hfault | hfault) <;> exact nomatch hread.symm.trans hfault

theorem WritesNumber.readNumber {negative : Bool} {n : Number}
    (h : WritesNumber negative cs n rest) : readNumber negative cs = .ok (n, rest) := by
  obtain ⟨hskip, hrange, hread⟩ := h
  obtain ⟨m, hm⟩ := (readsTo_number hskip).resolve_right hrange
  rw [hm, hread _ hm]

/-- A number that is read is written. -/
theorem WritesNumber.of_read {negative : Bool} {n : Number}
    (h : Json.readNumber negative cs = .ok (n, rest)) : WritesNumber negative cs n rest := by
  refine ⟨skipNumber_of_read h, ?_, fun _ hr => (Except.ok.inj (h.symm.trans hr)).symm⟩
  rw [h]
  nofun

theorem WritesNumber.exists_digit {negative : Bool} {n : Number}
    (h : WritesNumber negative cs n rest) : ∃ c ds, cs = c :: ds ∧ (digit? c).isSome = true := by
  have hdigit := startsWithDigit_of_skip h.1
  cases cs with
  | nil => cases hdigit
  | cons c ds => exact ⟨c, ds, rfl, hdigit⟩

theorem expectChars_append (literal rest : List Char) :
    expectChars literal (literal ++ rest) = .ok rest := by
  induction literal with
  | nil => rfl
  | cons c literal ih => exact (if_pos rfl).trans ih

/-! ## Punctuation -/

variable {after : Bool} {ds es inner : List Char} {c : Char}

theorem nextItem_close (first : Bool) (h : skipSpace cs = ']' :: rest) :
    nextItem first cs = .ok (.close rest) := by
  rw [nextItem, h]
  rfl

theorem nextItem_more (h : Separated after cs ds) (hstart : skipSpace ds = c :: es)
    (hc : c ≠ ']') : nextItem (!after) cs = .ok (.more (skipSpace ds)) := by
  cases after with
  | false =>
    obtain rfl : cs = ds := h
    rw [nextItem, hstart]
    simp
  | true =>
    have hcomma : skipSpace cs = ',' :: ds := h
    rw [nextItem, hcomma]
    simp [hstart, hc]

theorem nextKey_close (first : Bool) (h : skipSpace cs = '\x7d' :: rest) :
    nextKey first cs = .ok (.close rest) := by
  rw [nextKey, h]
  rfl

theorem nextKey_more (h : Separated after cs ds) (hquote : skipSpace ds = '"' :: inner) :
    nextKey (!after) cs = .ok (.more inner) := by
  cases after with
  | false =>
    obtain rfl : cs = ds := h
    rw [nextKey, hquote]
    rfl
  | true =>
    have hcomma : skipSpace cs = ',' :: ds := h
    rw [nextKey, hcomma]
    simp [hquote]

theorem afterColon_of (h : skipSpace cs = ':' :: rest) : afterColon cs = .ok rest := by
  rw [afterColon, h]
  rfl

/-- Neither brackets that close nor separators start a value. -/
theorem Writes.start {v : Json} (h : Writes S levels (.value v) cs rest) :
    ∃ c ds, skipSpace cs = c :: ds ∧ c ≠ ']' := by
  cases h with
  | null h | yes h | no h | negative h | text h | array h | object h =>
    exact ⟨_, _, h, by decide⟩
  | number hn =>
    obtain ⟨c, ds, hcs, hdigit⟩ := hn.exists_digit
    refine ⟨c, ds, hcs, ?_⟩
    rintro rfl
    exact absurd hdigit (by decide)

/-- Blanks before a value do not count. -/
theorem Writes.trimmed {v : Json} (h : Writes S levels (.value v) cs rest) :
    Writes S levels (.value v) (skipSpace cs) rest := by
  have hidem := skipSpace_skipSpace cs
  cases h with
  | null h => exact .null (hidem.trans h)
  | yes h => exact .yes (hidem.trans h)
  | no h => exact .no (hidem.trans h)
  | negative h hn => exact .negative (hidem.trans h) hn
  | number hn => exact .number (hidem.symm ▸ hn)
  | text h hs => exact .text (hidem.trans h) hs
  | array h hvs => exact .array (hidem.trans h) hvs
  | object h hms hkeys => exact .object (hidem.trans h) hms hkeys

/-! ## Lengths -/

theorem length_skipSpace (cs : List Char) : (skipSpace cs).length ≤ cs.length :=
  List.length_dropWhile_le _ cs

theorem length_of_skipSpace (h : skipSpace cs = c :: rest) : rest.length < cs.length := by
  have hle := length_skipSpace cs
  rw [h] at hle
  exact hle

theorem Separated.length (h : Separated after cs ds) : ds.length ≤ cs.length := by
  cases after with
  | false => exact Nat.le_of_eq (congrArg List.length (h : cs = ds)).symm
  | true => exact Nat.le_of_lt (length_of_skipSpace (h : skipSpace cs = ',' :: ds))

/-- A part takes at least one character. -/
theorem Writes.length {part : Part} (h : Writes Paired levels part cs rest) :
    rest.length < cs.length := by
  induction h with
  | @null _ cs _ h | @yes _ cs _ h | @no _ cs _ h =>
    have hle := length_skipSpace cs
    rw [h, List.length_append, List.length_cons] at hle
    omega
  | negative h hn => exact (length_skipNumber hn.1).trans (length_of_skipSpace h)
  | number hn => exact Nat.lt_of_lt_of_le (length_skipNumber hn.1) (length_skipSpace _)
  | text h hs => exact (length_skipText hs.1.1).trans (length_of_skipSpace h)
  | array h _ ih | object h _ _ ih => exact ih.trans (length_of_skipSpace h)
  | noItem h | noMember h => exact length_of_skipSpace h
  | item h _ _ ihv ihvs => exact (ihvs.trans ihv).trans_le h.length
  | member h hquote hkey hcolon _ _ ihv ihms =>
    have hinner := length_of_skipSpace hquote
    have hkey := length_skipText hkey.1.1
    have hcolon := length_of_skipSpace hcolon
    have hds := h.length
    omega

/-! ## Reading -/

/-- A part is read up to a character. -/
def Part.IsRead (levels : Nat) (cs rest : List Char) : Part → Prop
  | .value v => ∀ fuel, 2 * cs.length + 1 ≤ fuel →
    readValueWith fuel levels cs = .ok (v, rest)
  | .items after vs => ∀ fuel done, 2 * cs.length + 2 ≤ fuel →
    readItemsWith fuel levels (!after) done cs = .ok (done.reverse ++ vs, rest)
  | .members after ms => ∀ fuel done, 2 * cs.length + 2 ≤ fuel →
    readFieldsWith fuel levels (!after) done cs =
      .ok (ms.foldl (fun m e => NameMap.insert e.1 e.2 m) done, rest)

theorem readValueWith_skipSpace (fuel levels : Nat) (cs : List Char) :
    readValueWith fuel levels (skipSpace cs) = readValueWith fuel levels cs := by
  cases fuel with
  | zero => rw [readValueWith, readValueWith]
  | succ fuel => rw [readValueWith, readValueWith, skipSpace_skipSpace]

/-- A value that is one token is read with any fuel. -/
theorem isRead_of_reads {v : Json} (h : ∀ fuel, Reads fuel levels (skipSpace cs) v rest) :
    (Part.value v).IsRead levels cs rest := by
  intro fuel hfuel
  obtain ⟨fuel, rfl⟩ := Nat.exists_eq_succ_of_ne_zero (by omega : fuel ≠ 0)
  exact readValueWith_ok_iff.mpr (h fuel)

/-- What is written is read. -/
theorem Writes.isRead {part : Part} (h : Writes Paired levels part cs rest) (hle : levels ≤ lv) :
    part.IsRead lv cs rest := by
  induction h generalizing lv with
  | null h => exact isRead_of_reads fun _ => h ▸ .null (expectChars_append _ _)
  | yes h => exact isRead_of_reads fun _ => h ▸ .yes (expectChars_append _ _)
  | no h => exact isRead_of_reads fun _ => h ▸ .no (expectChars_append _ _)
  | negative h hn => exact isRead_of_reads fun _ => h ▸ .negative hn.readNumber
  | number hn =>
    refine isRead_of_reads fun _ => ?_
    obtain ⟨c, ds, hcs, hdigit⟩ := hn.exists_digit
    rw [hcs] at hn ⊢
    exact .digit hdigit hn.readNumber
  | text h hs => exact isRead_of_reads fun _ => h ▸ .text hs.readText
  | @array _ cs _ _ _ h _ ih =>
    intro fuel hfuel
    obtain ⟨lv, rfl⟩ := Nat.exists_eq_succ_of_ne_zero (by omega : lv ≠ 0)
    obtain ⟨fuel, rfl⟩ := Nat.exists_eq_succ_of_ne_zero (by omega : fuel ≠ 0)
    have hless := length_of_skipSpace h
    rw [Nat.succ_eq_add_one, readValueWith_ok_iff, h]
    exact .array (ih (Nat.le_of_succ_le_succ hle) fuel [] (by omega))
  | @object _ cs _ _ _ h _ _ ih =>
    intro fuel hfuel
    obtain ⟨lv, rfl⟩ := Nat.exists_eq_succ_of_ne_zero (by omega : lv ≠ 0)
    obtain ⟨fuel, rfl⟩ := Nat.exists_eq_succ_of_ne_zero (by omega : fuel ≠ 0)
    have hless := length_of_skipSpace h
    rw [Nat.succ_eq_add_one, readValueWith_ok_iff, h]
    exact .members (ih (Nat.le_of_succ_le_succ hle) fuel [] (by omega))
  | noItem h =>
    intro fuel done hfuel
    obtain ⟨fuel, rfl⟩ := Nat.exists_eq_succ_of_ne_zero (by omega : fuel ≠ 0)
    refine readItemsWith_ok_iff.mpr (.inl ⟨_, nextItem_close _ h, ?_⟩)
    rw [List.append_nil]
  | item h hv _ ihv ihvs =>
    intro fuel done hfuel
    obtain ⟨fuel, rfl⟩ := Nat.exists_eq_succ_of_ne_zero (by omega : fuel ≠ 0)
    obtain ⟨c, es, hstart, hc⟩ := hv.start
    have hds := h.length
    have hmid := hv.length
    have hread := ihv hle fuel (by omega)
    rw [← readValueWith_skipSpace] at hread
    refine readItemsWith_ok_iff.mpr (.inr ⟨_, _, _, nextItem_more h hstart hc, hread, ?_⟩)
    exact (ihvs hle fuel _ (by omega)).trans (by simp)
  | noMember h =>
    intro fuel done hfuel
    obtain ⟨fuel, rfl⟩ := Nat.exists_eq_succ_of_ne_zero (by omega : fuel ≠ 0)
    exact readFieldsWith_ok_iff.mpr (.inl ⟨_, nextKey_close _ h, rfl⟩)
  | member h hquote hkey hcolon hv _ ihv ihms =>
    intro fuel done hfuel
    obtain ⟨fuel, rfl⟩ := Nat.exists_eq_succ_of_ne_zero (by omega : fuel ≠ 0)
    have hds := h.length
    have hinner := length_of_skipSpace hquote
    have hafter := length_skipText hkey.1.1
    have hes := length_of_skipSpace hcolon
    have hmid := hv.length
    refine readFieldsWith_ok_iff.mpr (.inr ⟨_, _, _, _, _, _, nextKey_more h hquote,
      hkey.readText, afterColon_of hcolon, ihv hle fuel (by omega), ?_⟩)
    exact ihms hle fuel _ (by omega)

/-! ## Partners of surrogates -/

/-- Something is read of a part, with enough fuel. -/
def Part.CanBeRead (levels : Nat) (cs : List Char) : Part → Prop
  | .value _ => ∃ fuel r, 2 * cs.length + 1 ≤ fuel ∧ readValueWith fuel levels cs = .ok r
  | .items after _ => ∃ fuel done r, 2 * cs.length + 2 ≤ fuel ∧
    readItemsWith fuel levels (!after) done cs = .ok r
  | .members after _ => ∃ fuel done r, 2 * cs.length + 2 ≤ fuel ∧
    readFieldsWith fuel levels (!after) done cs = .ok r

theorem Part.CanBeRead.value {v : Json} (h : (Part.value v).CanBeRead lv cs) :
    ∃ fuel w left, 2 * cs.length ≤ fuel ∧ Reads fuel lv (skipSpace cs) w left := by
  obtain ⟨fuel, ⟨w, left⟩, hfuel, hw⟩ := h
  obtain ⟨fuel, rfl⟩ := Nat.exists_eq_succ_of_ne_zero (by omega : fuel ≠ 0)
  exact ⟨fuel, w, left, by omega, readValueWith_ok_iff.mp hw⟩

theorem Part.CanBeRead.item {vs : List Json} (h : (Part.items after vs).CanBeRead lv cs)
    (hmore : nextItem (!after) cs = .ok (.more ds)) :
    ∃ fuel w left done r, 2 * cs.length + 1 ≤ fuel ∧ readValueWith fuel lv ds = .ok (w, left) ∧
      readItemsWith fuel lv false done left = .ok r := by
  obtain ⟨fuel, done, r, hfuel, hitems⟩ := h
  obtain ⟨fuel, rfl⟩ := Nat.exists_eq_succ_of_ne_zero (by omega : fuel ≠ 0)
  rcases readItemsWith_ok_iff.mp hitems with
    ⟨_, hclose, -⟩ | ⟨item, w, left, hnext, hread, hlater⟩
  · cases hmore.symm.trans hclose
  · cases hmore.symm.trans hnext
    exact ⟨fuel, w, left, _, r, by omega, hread, hlater⟩

theorem Part.CanBeRead.member {ms : List (String × Json)}
    (h : (Part.members after ms).CanBeRead lv cs)
    (hmore : nextKey (!after) cs = .ok (.more inner)) :
    ∃ fuel key colon w left done r, 2 * cs.length + 1 ≤ fuel ∧
      Json.readText inner = .ok (key, colon) ∧
      (∀ es, afterColon colon = .ok es → readValueWith fuel lv es = .ok (w, left)) ∧
      readFieldsWith fuel lv false done left = .ok r := by
  obtain ⟨fuel, done, r, hfuel, hfields⟩ := h
  obtain ⟨fuel, rfl⟩ := Nat.exists_eq_succ_of_ne_zero (by omega : fuel ≠ 0)
  rcases readFieldsWith_ok_iff.mp hfields with
    ⟨_, hclose, -⟩ | ⟨_, key, colon, es, w, left, hnext, htext, hcolon, hread, hlater⟩
  · cases hmore.symm.trans hclose
  · cases hmore.symm.trans hnext
    refine ⟨fuel, key, colon, w, left, _, r, by omega, htext, fun es' hes => ?_, hlater⟩
    rwa [Except.ok.inj (hes.symm.trans hcolon)]

/-- A text of which something is read has all surrogates in pairs. -/
theorem Writes.paired {part : Part} (h : Writes Passable levels part cs rest) (hle : levels ≤ lv)
    (hread : part.CanBeRead lv cs) : Writes Paired levels part cs rest := by
  induction h generalizing lv with
  | null h => exact .null h
  | yes h => exact .yes h
  | no h => exact .no h
  | negative h hn => exact .negative h hn
  | number hn => exact .number hn
  | text h hs =>
    obtain ⟨fuel, w, left, -, hw⟩ := hread.value
    rw [h] at hw
    cases hw with
    | digit hdigit _ => exact absurd hdigit (by decide)
    | text htext => exact .text h (hs.paired htext)
  | array h _ ih =>
    obtain ⟨fuel, w, left, hfuel, hw⟩ := hread.value
    have hless := length_of_skipSpace h
    rw [h] at hw
    cases hw with
    | digit hdigit _ => exact absurd hdigit (by decide)
    | array hitems =>
      exact .array h (ih (Nat.le_of_succ_le_succ hle) ⟨fuel, [], _, by omega, hitems⟩)
  | object h _ hkeys ih =>
    obtain ⟨fuel, w, left, hfuel, hw⟩ := hread.value
    have hless := length_of_skipSpace h
    rw [h] at hw
    cases hw with
    | digit hdigit _ => exact absurd hdigit (by decide)
    | members hfields =>
      exact .object h (ih (Nat.le_of_succ_le_succ hle) ⟨fuel, [], _, by omega, hfields⟩) hkeys
  | noItem h => exact .noItem h
  | item h hv _ ihv ihvs =>
    obtain ⟨c, es, hstart, hc⟩ := hv.start
    obtain ⟨fuel, w, left, done, r, hfuel, hread, hlater⟩ := hread.item (nextItem_more h hstart hc)
    rw [readValueWith_skipSpace] at hread
    have hds := h.length
    have hpaired := ihv hle ⟨fuel, _, by omega, hread⟩
    have hmid := hpaired.length
    -- what is left behind the item is what the item leaves
    cases hread.symm.trans (hpaired.isRead hle fuel (by omega))
    exact .item h hpaired (ihvs hle ⟨fuel, done, r, by omega, hlater⟩)
  | noMember h => exact .noMember h
  | member h hquote hkey hcolon _ _ ihv ihms =>
    obtain ⟨fuel, key, colon, w, left, done, r, hfuel, htext, hread, hlater⟩ :=
      hread.member (nextKey_more h hquote)
    have hkeyed := hkey.paired htext
    cases htext.symm.trans hkeyed.readText
    replace hread := hread _ (afterColon_of hcolon)
    have hds := h.length
    have hinner := length_of_skipSpace hquote
    have hafter := length_skipText hkey.1
    have hes := length_of_skipSpace hcolon
    have hpaired := ihv hle ⟨fuel, _, by omega, hread⟩
    have hmid := hpaired.length
    cases hread.symm.trans (hpaired.isRead hle fuel (by omega))
    exact .member h hquote hkeyed hcolon hpaired (ihms hle ⟨fuel, done, r, by omega, hlater⟩)

/-! ## Passing over -/

/-- A part is passed over up to a character. -/
def Part.IsSkipped (cs rest : List Char) : Part → Prop
  | .value _ => ∀ fuel around, 3 * cs.length + 3 ≤ fuel → ∃ fuel', 3 * rest.length + 4 ≤ fuel' ∧
    skipInto fuel around cs = skipOut fuel' true around rest
  | .items after _ => ∀ fuel around, 3 * cs.length + 4 ≤ fuel →
    ∃ fuel', 3 * rest.length + 4 ≤ fuel' ∧
      skipOut fuel after (.list :: around) cs = skipOut fuel' true around rest
  | .members after _ => ∀ fuel around, 3 * cs.length + 4 ≤ fuel →
    ∃ fuel', 3 * rest.length + 4 ≤ fuel' ∧
      skipOut fuel after (.object :: around) cs = skipOut fuel' true around rest

theorem skipMember_quote {fuel : Nat} {around : List Bracket} {colon : List Char}
    (htext : skipText inner = .ok colon) (hcolon : skipSpace colon = ':' :: rest) :
    skipMember (fuel + 1) around ('"' :: inner) = skipInto fuel (.object :: around) rest := by
  have hquote : skipSpace ('"' :: inner) = '"' :: inner := rfl
  rw [skipMember, hquote]
  exact (bind_of_ok htext _).trans (bind_of_ok (afterColon_of hcolon) _)

/-- A value that is one token is passed over in one piece. -/
theorem isSkipped_of_token {v : Json} (hlength : rest.length < cs.length)
    (h : ∀ fuel around, skipInto (fuel + 1) around cs = skipOut fuel true around rest) :
    (Part.value v).IsSkipped cs rest := by
  intro fuel around hfuel
  obtain ⟨fuel, rfl⟩ := Nat.exists_eq_succ_of_ne_zero (by omega : fuel ≠ 0)
  exact ⟨fuel, by omega, h fuel around⟩

/-- What is written is passed over. -/
theorem Writes.isSkipped {part : Part} (h : Writes Paired levels part cs rest) :
    part.IsSkipped cs rest := by
  induction h with
  | @null _ cs _ h | @yes _ cs _ h | @no _ cs _ h =>
    refine isSkipped_of_token ?_ fun fuel around => ?_
    · have hle := length_skipSpace cs
      rw [h, List.length_append, List.length_cons] at hle
      omega
    · rw [skipInto, h]
      exact bind_of_ok (expectChars_append _ _) _
  | negative h hn =>
    refine isSkipped_of_token (@negative Paired 0 _ _ _ _ h hn).length fun fuel around => ?_
    rw [skipInto, h]
    exact bind_of_ok hn.1 _
  | number hn =>
    refine isSkipped_of_token (@number Paired 0 _ _ _ hn).length fun fuel around => ?_
    obtain ⟨c, ds, hcs, hdigit⟩ := hn.exists_digit
    rw [skipInto_of_digit hcs hdigit, ← hcs]
    exact bind_of_ok hn.1 _
  | text h hs =>
    refine isSkipped_of_token (@text Paired 0 _ _ _ _ h hs).length fun fuel around => ?_
    rw [skipInto, h]
    exact bind_of_ok hs.1.1 _
  | array h _ ih | object h _ _ ih =>
    intro fuel around hfuel
    obtain ⟨fuel, rfl⟩ := Nat.exists_eq_succ_of_ne_zero (by omega : fuel ≠ 0)
    have hless := length_of_skipSpace h
    rw [Nat.succ_eq_add_one, skipInto, h]
    exact ih fuel around (by omega)
  | noItem h =>
    intro fuel around hfuel
    obtain ⟨fuel, rfl⟩ := Nat.exists_eq_succ_of_ne_zero (by omega : fuel ≠ 0)
    have hless := length_of_skipSpace h
    exact ⟨fuel, by omega, skipOut_close_list (nextItem_close false h)⟩
  | @item _ after cs ds _ _ _ _ h hv _ ihv ihvs =>
    intro fuel around hfuel
    obtain ⟨fuel, rfl⟩ := Nat.exists_eq_succ_of_ne_zero (by omega : fuel ≠ 0)
    obtain ⟨c, es, hstart, hc⟩ := hv.start
    have hds := h.length
    obtain ⟨fuel₁, hfuel₁, hskipv⟩ := ihv fuel (.list :: around) (by omega)
    obtain ⟨fuel₂, hfuel₂, hskipvs⟩ := ihvs fuel₁ around hfuel₁
    refine ⟨fuel₂, hfuel₂, ?_⟩
    rw [← hskipvs, ← hskipv, ← skipInto_skipSpace]
    have hmore : skipOut (fuel + 1) (!!after) (.list :: around) cs =
        skipInto fuel (.list :: around) (skipSpace ds) :=
      skipOut_more_list (nextItem_more h hstart hc)
    rwa [Bool.not_not] at hmore
  | noMember h =>
    intro fuel around hfuel
    obtain ⟨fuel, rfl⟩ := Nat.exists_eq_succ_of_ne_zero (by omega : fuel ≠ 0)
    have hless := length_of_skipSpace h
    exact ⟨fuel, by omega, skipOut_close_object (nextKey_close false h)⟩
  | @member _ after cs _ inner _ _ _ _ _ _ _ h hquote hkey hcolon hv _ ihv ihms =>
    intro fuel around hfuel
    obtain ⟨fuel, rfl⟩ := Nat.exists_eq_succ_of_ne_zero (by omega : fuel ≠ 0)
    obtain ⟨fuel, rfl⟩ := Nat.exists_eq_succ_of_ne_zero (by omega : fuel ≠ 0)
    have hds := h.length
    have hinner := length_of_skipSpace hquote
    have hafter := length_skipText hkey.1.1
    have hes := length_of_skipSpace hcolon
    obtain ⟨fuel₁, hfuel₁, hskipv⟩ := ihv fuel (.object :: around) (by omega)
    obtain ⟨fuel₂, hfuel₂, hskipms⟩ := ihms fuel₁ around hfuel₁
    refine ⟨fuel₂, hfuel₂, ?_⟩
    rw [← hskipms, ← hskipv, ← skipMember_quote hkey.1.1 hcolon]
    have hmore : skipOut (fuel + 1 + 1) (!!after) (.object :: around) cs =
        skipMember (fuel + 1) around ('"' :: inner) :=
      skipOut_more_object (nextKey_more h hquote)
    rwa [Bool.not_not] at hmore

/-- A value that is written is read and passed over up to the same character. -/
theorem Writes.readValue {v : Json} (h : Writes Paired levels (.value v) cs rest)
    (hle : levels ≤ lv) : readValue lv cs = .ok (v, rest) :=
  h.isRead hle _ (Nat.le_refl _)

theorem Writes.skipValue {v : Json} (h : Writes Paired levels (.value v) cs rest) :
    skipValue cs = .ok rest := by
  obtain ⟨fuel, hfuel, hskip⟩ := h.isSkipped _ [] (Nat.le_refl _)
  obtain ⟨fuel, rfl⟩ := Nat.exists_eq_succ_of_ne_zero (by omega : fuel ≠ 0)
  refine hskip.trans ?_
  rw [skipOut]
  exact Nat.succ_ne_zero fuel

/-! ## Whole texts -/

/-- The text writes the value, and nothing but blanks stands around it. -/
def WritesText (S : StringForm) (levels : Nat) (text : String) (v : Json) : Prop :=
  ∃ rest, Writes S levels (.value v) text.toList rest ∧ skipSpace rest = []

theorem endOfText_of (h : skipSpace rest = []) : endOfText rest = .ok () := by
  rw [endOfText, h]
  rfl

theorem WritesText.parse {text : String} {v : Json} (h : WritesText Paired levels text v)
    (hle : levels ≤ maxLevels) : parse text = .ok v := by
  obtain ⟨rest, hv, hrest⟩ := h
  exact (bind_of_ok (hv.readValue hle) _).trans (bind_of_ok (endOfText_of hrest) _)

/-- If a text is read as a value, all its surrogates are in pairs. -/
theorem WritesText.paired {text : String} {v w : Json} (h : WritesText Passable levels text v)
    (hle : levels ≤ maxLevels) (hread : Json.parse text = .ok w) :
    WritesText Paired levels text v := by
  obtain ⟨rest, hv, hrest⟩ := h
  obtain ⟨r, hr, -⟩ := bind_eq_ok.mp hread
  exact ⟨rest, hv.paired hle ⟨_, r, Nat.le_refl _, hr⟩, hrest⟩
end ConsoleLink.Json
