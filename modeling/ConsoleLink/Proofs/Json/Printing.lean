import ConsoleLink.Json.Printer
import ConsoleLink.Proofs.Json.Writing

/-! # The compact form writes its value

The compact form of a value without floating-point numbers is a text that writes the value. So the
value is read back from it, and what reads a shape from the text reads it from the value.
-/

namespace ConsoleLink

/-! ## Digits -/

namespace Text

theorem digitValue?_digitChar {n : Nat} (h : n < 10) :
    digitValue? 10 (digitChar false n) = some n := by
  interval_cases n <;> rfl

/-- Only zero starts with a zero. -/
theorem decimal_cases (n : Nat) :
    n = 0 ∧ decimal n = ['0'] ∨
      ∃ c cs, decimal n = c :: cs ∧ c ≠ '0' ∧ (digitValue? 10 c).isSome = true := by
  induction n using decimal.induct with
  | case1 n h =>
    rw [decimal, if_pos h]
    interval_cases n
    · exact .inl ⟨rfl, rfl⟩
    all_goals exact .inr ⟨_, _, rfl, by decide, by decide⟩
  | case2 n h ih =>
    obtain ⟨hzero, -⟩ | ⟨c, cs, hcs, hc⟩ := ih
    · omega
    · rw [decimal, if_neg h, hcs]
      exact .inr ⟨c, _, rfl, hc⟩

end Text

namespace Json

variable {levels : Nat} {rest : List Char}

/-- What may stand behind a value: nothing, a comma or a closing bracket. -/
def Ends (rest : List Char) : Prop := ∀ c ∈ rest.head?, c ∈ [',', ']', '\x7d']

theorem Ends.nil : Ends [] := nofun

theorem Ends.cons {c : Char} (h : c ∈ [',', ']', '\x7d']) (rest : List Char) :
    Ends (c :: rest) := by
  intro d hd
  cases hd
  exact h

theorem Ends.ne_cons (h : Ends rest) {c : Char} (hc : c ∉ [',', ']', '\x7d']) (cs : List Char) :
    rest ≠ c :: cs := by
  rintro rfl
  exact hc (h c rfl)

theorem Ends.startsWithDigit (h : Ends rest) : startsWithDigit rest = false := by
  cases rest with
  | nil => rfl
  | cons c cs =>
    have hc := h c rfl
    simp only [List.mem_cons, List.not_mem_nil, or_false] at hc
    rcases hc with rfl | rfl | rfl <;> rfl

/-- The digits of a number that fits are all taken. -/
theorem takeDigits_decimal {n : Nat} (hn : n < UInt64.size) :
    ∃ taken, ∀ cs, takeDigits 0 0 (Text.decimal n ++ cs) = takeDigits n taken cs := by
  have htake : ∀ (m k d : Nat) (cs : List Char), d < 10 → m * 10 + d < UInt64.size →
      takeDigits m k (Text.digitChar false d :: cs) = takeDigits (m * 10 + d) (k + 1) cs := by
    intro m k d cs hd hfits
    have hdigit : digit? (Text.digitChar false d) = some d := Text.digitValue?_digitChar hd
    rw [takeDigits, hdigit]
    exact if_pos hfits
  induction n using Text.decimal.induct with
  | case1 n h =>
    refine ⟨1, fun cs => ?_⟩
    rw [Text.decimal, if_pos h]
    have hfirst := htake 0 0 n cs h (by omega)
    rwa [Nat.zero_mul, Nat.zero_add] at hfirst
  | case2 n h ih =>
    obtain ⟨taken, hbefore⟩ := ih (by omega)
    refine ⟨taken + 1, fun cs => ?_⟩
    rw [Text.decimal, if_neg h, List.append_assoc, hbefore]
    have hlast := htake (n / 10) taken (n % 10) cs (by omega) (by omega)
    rwa [Nat.div_add_mod'] at hlast

theorem readAfterWhole_of_ends (hrest : Ends rest) (negative : Bool) (n : Nat) :
    readAfterWhole negative n rest = wholeNumber negative n rest := by
  rw [readAfterWhole]
  all_goals exact fun cs hcs => hrest.ne_cons (by decide) cs hcs

/-- The digits of a number that fits are read as the number. -/
theorem readNumber_decimal {n : Nat} (hn : n < UInt64.size) (hrest : Ends rest) (negative : Bool) :
    readNumber negative (Text.decimal n ++ rest) = wholeNumber negative n rest := by
  obtain ⟨rfl, hzero⟩ | ⟨c, cs, hcs, hc, hdigit⟩ := Text.decimal_cases n
  · rw [hzero, List.singleton_append, readNumber,
      if_neg (Bool.eq_false_iff.mp hrest.startsWithDigit)]
    exact readAfterWhole_of_ends hrest negative 0
  · obtain ⟨taken, htaken⟩ := takeDigits_decimal hn
    have hall : takeDigits 0 0 (c :: (cs ++ rest)) = (n, taken, rest) := by
      rw [← List.cons_append, ← hcs, htaken, takeDigits_of_not hrest.startsWithDigit]
    rw [hcs, List.cons_append, readNumber]
    · have hsome : ¬(digit? c).isNone = true := by
        rw [Option.isNone_iff_eq_none]
        exact Option.isSome_iff_ne_none.mp hdigit
      rw [if_neg hsome, hall]
      dsimp only
      rw [dropDigits_of_not hrest.startsWithDigit]
      exact readAfterWhole_of_ends hrest negative n
    · rintro rfl
      exact hc rfl

theorem isSpace_of_digit {c : Char} (h : (digit? c).isSome = true) : isSpace c = false := by
  by_contra hspace
  simp only [isSpace, Bool.not_eq_false, Bool.or_eq_true, decide_eq_true_eq] at hspace
  rcases hspace with ((rfl | rfl) | rfl) | rfl <;> exact absurd h (by decide)

theorem skipSpace_decimal (n : Nat) (rest : List Char) :
    skipSpace (Text.decimal n ++ rest) = Text.decimal n ++ rest := by
  obtain ⟨-, hzero⟩ | ⟨c, cs, hcs, -, hdigit⟩ := Text.decimal_cases n
  · rw [hzero]
    rfl
  · have hspace := Bool.eq_false_iff.mp (isSpace_of_digit hdigit)
    rw [hcs, List.cons_append, skipSpace, List.dropWhile_cons_of_neg hspace]

/-! ## Strings -/

theorem quad?_hexPair {c : Char} (h : c.toNat < 0x20) :
    quad? '0' '0' (Text.digitChar false (c.toNat / 16)) (Text.digitChar false (c.toNat % 16)) =
      some c.toNat := by
  generalize c.toNat = n at h
  interval_cases n <;> rfl

/-- A character is read back from the way it is written inside a string. -/
theorem readTextFrom_escapedChar (done : List Char) (c : Char) (cs : List Char) :
    readTextFrom done (escapedChar c ++ cs) = readTextFrom (c :: done) cs := by
  have hsame : ∀ n, c.toNat = n → Char.ofNat n = c := fun n hn => hn ▸ Char.ofNat_toNat c
  unfold escapedChar
  split_ifs with hquote hslash hlow h8 h9 h10 h12 h13
  · rw [hquote]
    rfl
  · rw [hslash]
    rfl
  · rw [← hsame 8 h8]
    rfl
  · rw [← hsame 9 h9]
    rfl
  · rw [← hsame 10 h10]
    rfl
  · rw [← hsame 12 h12]
    rfl
  · rw [← hsame 13 h13]
    rfl
  · have hbyte : (UInt8.ofNat c.toNat).toNat = c.toNat := by
      rw [UInt8.toNat_ofNat', Nat.mod_eq_of_lt (by omega)]
    have hlow' : isLowSurrogate c.toNat = false := by
      simp only [isLowSurrogate, Bool.and_eq_false_imp, decide_eq_true_eq]
      omega
    have hhigh : isHighSurrogate c.toNat = false := by
      simp only [isHighSurrogate, Bool.and_eq_false_imp, decide_eq_true_eq]
      omega
    rw [Text.hexPair, hbyte, List.cons_append, List.cons_append, List.cons_append, List.cons_append,
      List.cons_append, List.cons_append, readTextFrom, quad?_hexPair hlow]
    simp [hlow', hhigh]
  · rw [List.singleton_append, readTextFrom, if_neg hlow]
    -- neither a quote nor an escape
    · exact hquote
    all_goals intros; exact hslash ‹_›

/-- A string is read back from its compact form. -/
theorem readText_renderText (s : String) (rest : List Char) :
    readText (s.toList.flatMap escapedChar ++ '"' :: rest) = .ok (s, rest) := by
  have hread : ∀ cs done, readTextFrom done (cs.flatMap escapedChar ++ '"' :: rest) =
      .ok (String.ofList (done.reverse ++ cs), rest) := by
    intro cs
    induction cs with
    | nil => exact fun done => by rw [List.append_nil]; rfl
    | cons c cs ih =>
      intro done
      rw [List.flatMap_cons, List.append_assoc, readTextFrom_escapedChar, ih, List.reverse_cons,
        List.append_assoc, List.singleton_append]
  exact (hread s.toList []).trans (by rw [List.reverse_nil, List.nil_append, String.ofList_toList])

theorem paired_renderText (s : String) (rest : List Char) :
    Paired (s.toList.flatMap escapedChar ++ '"' :: rest) s rest := by
  have hread := readText_renderText s rest
  exact (Passable.of_read hread).paired hread

theorem renderText_append (s : String) (rest : List Char) :
    renderText s ++ rest = '"' :: (s.toList.flatMap escapedChar ++ '"' :: rest) := by
  rw [renderText, List.cons_append, List.append_assoc, List.singleton_append]

/-! ## Values -/

/-- A value without floating-point numbers, in which at most so many arrays and objects stand inside
each other and the members of every object are ascending by key. -/
inductive Regular : (levels : Nat) → Json → Prop where
  | null {levels : Nat} : Regular levels .null
  | bool {levels : Nat} (b : Bool) : Regular levels (.bool b)
  | natural {levels : Nat} (n : UInt64) : Regular levels (.number (.natural n))
  | negative {levels : Nat} (k : Fin 0x8000000000000000) : Regular levels (.number (.negative k))
  | text {levels : Nat} (s : String) : Regular levels (.text s)
  | array {levels : Nat} {items : List Json} (h : ∀ v ∈ items, Regular levels v) :
      Regular (levels + 1) (.array items)
  | members {levels : Nat} {fields : List (String × Json)} (hkeys : NameMap.Ordered fields)
      (h : ∀ e ∈ fields, Regular levels e.2) : Regular (levels + 1) (.members fields)

theorem Regular.mono {v : Json} (h : v.Regular levels) {lv : Nat} (hle : levels ≤ lv) :
    v.Regular lv := by
  induction h generalizing lv with
  | null => exact .null
  | bool b => exact .bool b
  | natural n => exact .natural n
  | negative k => exact .negative k
  | text s => exact .text s
  | array _ ih =>
    obtain ⟨lv, rfl⟩ := Nat.exists_eq_succ_of_ne_zero (by omega : lv ≠ 0)
    exact .array fun v hv => ih v hv (Nat.le_of_succ_le_succ hle)
  | members hkeys _ ih =>
    obtain ⟨lv, rfl⟩ := Nat.exists_eq_succ_of_ne_zero (by omega : lv ≠ 0)
    exact .members hkeys fun e he => ih e he (Nat.le_of_succ_le_succ hle)

/-- An object of regular values is regular. -/
theorem regular_object {fields : List (String × Json)} (hkeys : (fields.map Prod.fst).Nodup)
    (h : ∀ e ∈ fields, e.2.Regular levels) : (object fields).Regular (levels + 1) :=
  .members (NameMap.ordered_ofList fields) fun e he =>
    h e ((NameMap.ofList_perm hkeys).mem_iff.mp he)

/-- A whole number of at most 64 bits is what it was made of. -/
theorem toInt?_ofInt {i : Int} (hlow : -0x8000000000000000 ≤ i) (hhigh : i < UInt64.size) :
    (Number.ofInt i).toInt? = some i := by
  cases i with
  | ofNat n =>
    have hn : n < UInt64.size := Int.ofNat_lt.mp hhigh
    rw [Number.ofInt, Number.ofNat, Number.toInt?, UInt64.toNat_ofNat_of_lt' hn]
    rfl
  | negSucc k =>
    have hk : k < 0x8000000000000000 := by omega
    rw [Number.ofInt, Number.toInt?, Fin.val_ofNat, Nat.mod_eq_of_lt hk]

theorem regular_ofInt (i : Int) : (Json.number (.ofInt i)).Regular levels := by
  cases i with
  | ofNat n => exact .natural _
  | negSucc k => exact .negative _

/-- Whatever may stand behind it, the compact form writes the value up to there. -/
def WritesBefore (levels : Nat) (v : Json) : Prop :=
  ∀ {rest}, Ends rest → Writes Paired levels (.value v) (renderBefore rest v) rest

theorem writesBefore_natural (n : UInt64) : WritesBefore levels (.number (.natural n)) := by
  intro rest hrest
  refine .number (WritesNumber.of_read ?_)
  rw [renderBefore, Number.render, skipSpace_decimal, readNumber_decimal n.toNat_lt hrest,
    wholeNumber, UInt64.ofNat_toNat]
  rfl

theorem writesBefore_negative (k : Fin 0x8000000000000000) :
    WritesBefore levels (.number (.negative k)) := by
  intro rest hrest
  have hk := k.isLt
  have hstart : skipSpace (renderBefore rest (.number (.negative k))) =
      '-' :: (Text.decimal (k.val + 1) ++ rest) := rfl
  refine .negative hstart (WritesNumber.of_read ?_)
  rw [readNumber_decimal (by simp only [UInt64.size]; omega) hrest, wholeNumber, if_pos rfl,
    dif_pos (by omega)]
  rfl

theorem writes_renderItems {after : Bool} {cs : List Char} {v : Json} {vs : List Json}
    (h : ∀ w ∈ v :: vs, WritesBefore levels w)
    (hcs : Separated after cs (renderItems rest (v :: vs))) :
    Writes Paired levels (.items after (v :: vs)) cs rest := by
  induction vs generalizing after cs v with
  | nil => exact .item hcs (h v List.mem_cons_self (.cons (by decide) rest)) (.noItem rfl)
  | cons w vs ih =>
    obtain ⟨hv, hvs⟩ := List.forall_mem_cons.mp h
    exact .item hcs (hv (.cons (by decide) _)) (ih hvs rfl)

theorem writes_renderFields {after : Bool} {cs : List Char} {m : String × Json}
    {ms : List (String × Json)} (h : ∀ e ∈ m :: ms, WritesBefore levels e.2)
    (hcs : Separated after cs (renderFields rest (m :: ms))) :
    Writes Paired levels (.members after (m :: ms)) cs rest := by
  induction ms generalizing after cs m with
  | nil =>
    rw [renderFields, renderText_append] at hcs
    have hbrace : Ends ('\x7d' :: rest) := .cons (by decide) rest
    have hm := h m List.mem_cons_self hbrace
    exact .member hcs rfl (paired_renderText _ _) rfl hm (.noMember rfl)
  | cons m' ms ih =>
    obtain ⟨hm, hms⟩ := List.forall_mem_cons.mp h
    rw [renderFields, renderText_append] at hcs
    · exact .member hcs rfl (paired_renderText _ _) rfl (hm (.cons (by decide) _)) (ih hms rfl)
    · nofun

/-- Members that keep the order they are given in. -/
theorem writes_members {ms : List (String × Json)} (h : ∀ e ∈ ms, WritesBefore levels e.2)
    (rest : List Char) : Writes Paired levels (.members false ms) (renderFields rest ms) rest := by
  cases ms with
  | nil => exact .noMember rfl
  | cons m ms => exact writes_renderFields h rfl

/-- A regular value is written by its compact form. -/
theorem Regular.writes {v : Json} (h : v.Regular levels) : WritesBefore levels v := by
  induction h with
  | null => exact fun _ => .null rfl
  | bool b =>
    cases b with
    | true => exact fun _ => .yes rfl
    | false => exact fun _ => .no rfl
  | natural n => exact writesBefore_natural n
  | negative k => exact writesBefore_negative k
  | text s =>
    intro rest _
    exact .text (renderText_append s rest) (paired_renderText s rest)
  | @array levels items _ ih =>
    intro rest _
    refine .array rfl ?_
    cases items with
    | nil => exact .noItem rfl
    | cons v vs => exact writes_renderItems ih rfl
  | @members levels fields hkeys _ ih =>
    intro rest _
    -- the grammar has the members in any order, and sorting these changes nothing
    have hobject : Json.object fields = .members fields := congrArg _ hkeys.ofList_eq
    rw [← hobject]
    exact .object (congrArg skipSpace (congrArg (renderBefore rest) hobject))
      (writes_members ih rest) hkeys.nodup_keys

/-! ## Whole texts -/

theorem Regular.writesText_compact {v : Json} (h : v.Regular levels) :
    WritesText Paired levels v.compact v := by
  refine ⟨[], ?_, rfl⟩
  rw [compact, String.toList_ofList]
  exact h.writes .nil

/-- A regular value is read back from its compact form. -/
theorem Regular.parse_compact {v : Json} (h : v.Regular levels) (hle : levels ≤ maxLevels) :
    parse v.compact = .ok v :=
  h.writesText_compact.parse hle

theorem writesText_compactFields {fields : List (String × Json)}
    (hkeys : (fields.map Prod.fst).Nodup) (h : ∀ e ∈ fields, e.2.Regular levels) :
    WritesText Paired (levels + 1) (compactFields fields) (.object fields) := by
  refine ⟨[], ?_, rfl⟩
  rw [compactFields, String.toList_ofList]
  exact .object rfl (writes_members (fun e he => (h e he).writes) []) hkeys

end Json

end ConsoleLink
