import ConsoleLink.Remote.Command
import Mathlib.Data.List.TakeWhile
import Mathlib.Tactic

/-! # Names listed in a text

A listing holds names with commas between them, blanks around them and gaps where an item is empty.
Every name that a watch can have is found again in every listing of it.
-/

namespace ConsoleLink

namespace Text

/-! ## Cutting and trimming -/

theorem splitOn_eq_splitOnP (stop : Char → Bool) (cs : List Char) :
    splitOn stop cs = cs.splitOnP stop := by
  induction cs with
  | nil => rfl
  | cons c cs ih =>
    rw [splitOn, List.splitOnP_cons_eq_if_modifyHead, ih]
    split_ifs
    · rfl
    · cases hpieces : cs.splitOnP stop with
      | nil => exact absurd hpieces (List.splitOnP_ne_nil stop cs)
      | cons piece pieces => rfl

theorem trimStart_append (before cs : List Char) (h : ∀ c ∈ before, isBlank c = true) :
    trimStart (before ++ cs) = trimStart cs := List.dropWhile_append_of_pos h

theorem trimEnd_append (cs after : List Char) (h : ∀ c ∈ after, isBlank c = true) :
    trimEnd (cs ++ after) = trimEnd cs := by
  unfold trimEnd
  rw [List.reverse_append, List.dropWhile_append_of_pos]
  exact fun c hc => h c (List.mem_reverse.mp hc)

/-- Blanks around a text do not change what is left of it without blanks. -/
theorem trimChars_padded (before cs after : List Char) (hbefore : ∀ c ∈ before, isBlank c = true)
    (hafter : ∀ c ∈ after, isBlank c = true) :
    trimChars (before ++ cs ++ after) = trimChars cs := by
  unfold trimChars
  rw [List.append_assoc, trimStart_append _ _ hbefore]
  by_cases hblank : trimStart cs = []
  · have hcs : ∀ c ∈ cs, isBlank c = true := List.dropWhile_eq_nil_iff.mp hblank
    have hnone : trimStart after = [] := List.dropWhile_eq_nil_iff.mpr hafter
    rw [trimStart_append _ _ hcs, hnone, hblank]
  · have hfirst : trimStart (cs ++ after) = trimStart cs ++ after := by
      unfold trimStart at hblank ⊢
      rw [List.dropWhile_append, if_neg (by simpa using hblank)]
    rw [hfirst, trimEnd_append _ _ hafter]

/-- A text is what is left of it without blanks, with blanks around that. -/
theorem exists_padded (cs : List Char) :
    ∃ before after, cs = before ++ trimChars cs ++ after ∧ (∀ c ∈ before, isBlank c = true) ∧
      ∀ c ∈ after, isBlank c = true := by
  have hstart : cs = cs.takeWhile isBlank ++ trimStart cs := List.takeWhile_append_dropWhile.symm
  have hend : ∀ rest : List Char,
      rest = trimEnd rest ++ (rest.reverse.takeWhile isBlank).reverse := by
    intro rest
    unfold trimEnd
    rw [← List.reverse_append, List.takeWhile_append_dropWhile, List.reverse_reverse]
  refine ⟨cs.takeWhile isBlank, ((trimStart cs).reverse.takeWhile isBlank).reverse, ?_,
    fun c hc => List.mem_takeWhile_imp hc, fun c hc => ?_⟩
  · rw [trimChars, List.append_assoc, ← hend, ← hstart]
  · exact List.mem_takeWhile_imp (List.mem_reverse.mp hc)

theorem trimChars_eq_nil_iff {cs : List Char} : trimChars cs = [] ↔ ∀ c ∈ cs, isBlank c = true := by
  constructor
  · intro h
    obtain ⟨before, after, hcs, hbefore, hafter⟩ := exists_padded cs
    rw [h, List.append_nil] at hcs
    rw [hcs]
    exact List.forall_mem_append.mpr ⟨hbefore, hafter⟩
  · intro h
    have hpadded := trimChars_padded cs [] [] h (List.forall_mem_nil _)
    rwa [List.append_nil, List.append_nil] at hpadded

theorem trimChars_trimChars (cs : List Char) : trimChars (trimChars cs) = trimChars cs := by
  obtain ⟨before, after, hcs, hbefore, hafter⟩ := exists_padded cs
  conv_rhs => rw [hcs]
  rw [trimChars_padded before _ after hbefore hafter]

/-- The stops are in none of the pieces. -/
theorem stop_eq_false_of_mem_splitOn {stop : Char → Bool} {cs piece : List Char}
    (h : piece ∈ splitOn stop cs) : ∀ c ∈ piece, stop c = false := by
  induction cs generalizing piece with
  | nil =>
    rw [List.mem_singleton.mp h]
    exact nofun
  | cons c cs ih =>
    unfold splitOn at h
    split_ifs at h with hstop
    · rcases List.mem_cons.mp h with rfl | h
      · exact nofun
      · exact ih h
    · have hc : stop c = false := Bool.not_eq_true _ ▸ hstop
      cases hpieces : splitOn stop cs with
      | nil =>
        rw [hpieces, List.mem_singleton] at h
        subst h
        exact fun d hd => List.mem_singleton.mp hd ▸ hc
      | cons first pieces =>
        rw [hpieces] at h ih
        rcases List.mem_cons.mp h with rfl | h
        · intro d hd
          rcases List.mem_cons.mp hd with rfl | hd
          · exact hc
          · exact ih List.mem_cons_self d hd
        · exact ih (List.mem_cons_of_mem _ h)

theorem not_isBlank_comma : isBlank ',' = false := by decide

end Text

/-! ## Listings -/

/-- An item of a listing: a name, or none, between blanks. -/
structure ListItem where
  before : List Char := []
  name : String
  after : List Char := []
  before_blank : before.all Text.isBlank = true := by rfl
  after_blank : after.all Text.isBlank = true := by rfl

namespace ListItem

def chars (item : ListItem) : List Char := item.before ++ item.name.toList ++ item.after

/-- The name is empty, or it can be looked up. -/
def Listed (item : ListItem) : Prop := item.name = "" ∨ Command.isLookupName item.name = true

variable {item : ListItem}

theorem Listed.comma_not_mem_chars (h : item.Listed) : ',' ∉ item.chars := by
  have hblank : ∀ cs : List Char, cs.all Text.isBlank = true → ',' ∉ cs := by
    intro cs hcs hmem
    have hcomma := List.all_eq_true.mp hcs ',' hmem
    rw [Text.not_isBlank_comma] at hcomma
    cases hcomma
  have hname : ',' ∉ item.name.toList := by
    rcases h with hempty | hlookup
    · rw [hempty]
      exact List.not_mem_nil
    · simp only [Command.isLookupName, Bool.and_eq_true] at hlookup
      simpa using hlookup.1.2
  simp only [chars, List.mem_append, not_or]
  exact ⟨⟨hblank _ item.before_blank, hname⟩, hblank _ item.after_blank⟩

theorem Listed.trimChars_chars (h : item.Listed) :
    Text.trimChars item.chars = item.name.toList := by
  unfold chars
  rw [Text.trimChars_padded _ _ _ (List.all_eq_true.mp item.before_blank)
    (List.all_eq_true.mp item.after_blank)]
  rcases h with hempty | hlookup
  · rw [hempty]
    rfl
  · simp only [Command.isLookupName, Bool.and_eq_true, beq_iff_eq] at hlookup
    have htrim := congrArg String.toList hlookup.2
    rwa [Text.trim, String.toList_ofList] at htrim

/-- Every text without a comma is an item. -/
theorem exists_item {cs : List Char} (h : ',' ∉ cs) :
    ∃ item : ListItem, item.Listed ∧ item.chars = cs := by
  obtain ⟨before, after, hcs, hbefore, hafter⟩ := Text.exists_padded cs
  refine ⟨⟨before, String.ofList (Text.trimChars cs), after, List.all_eq_true.mpr hbefore,
    List.all_eq_true.mpr hafter⟩, ?_, ?_⟩
  · by_cases hempty : Text.trimChars cs = []
    · exact .inl (by rw [hempty])
    · have hcomma : ',' ∉ Text.trimChars cs := fun hmem => h (by rw [hcs]; simp [hmem])
      have hname : (String.ofList (Text.trimChars cs)).isEmpty = false := by
        simpa [Bool.eq_false_iff, String.isEmpty_iff, ← String.toList_eq_nil_iff] using hempty
      refine .inr ?_
      simp only [Command.isLookupName, Text.trim, String.toList_ofList, Text.trimChars_trimChars,
        hname]
      simpa using hcomma
  · rw [chars, String.toList_ofList, ← hcs]

end ListItem

/-- The text of some items. -/
def listing (items : List ListItem) : String :=
  String.ofList ([','].intercalate (items.map ListItem.chars))

/-- The names of some items, in their order; empty items have none. -/
def listedIn (items : List ListItem) : List String :=
  (items.map ListItem.name).filter fun name => !name.isEmpty

/-- Every text lists something, be it only gaps. -/
theorem exists_listing (text : String) :
    ∃ items, (∀ item ∈ items, ListItem.Listed item) ∧ listing items = text := by
  have hitems : ∀ pieces : List (List Char), (∀ piece ∈ pieces, ',' ∉ piece) →
      ∃ items : List ListItem, (∀ item ∈ items, item.Listed) ∧
        items.map ListItem.chars = pieces := by
    intro pieces hpieces
    induction pieces with
    | nil => exact ⟨[], nofun, rfl⟩
    | cons piece pieces ih =>
      obtain ⟨hfirst, hrest⟩ := List.forall_mem_cons.mp hpieces
      obtain ⟨item, hlisted, hitem⟩ := ListItem.exists_item hfirst
      obtain ⟨items, hall, hmap⟩ := ih hrest
      exact ⟨item :: items, List.forall_mem_cons.mpr ⟨hlisted, hall⟩,
        by rw [List.map_cons, hitem, hmap]⟩
  obtain ⟨items, hall, hmap⟩ := hitems (List.splitOn ',' text.toList) fun piece hpiece hmem => by
    have hcut : piece ∈ Text.splitOn (· == ',') text.toList := by
      rwa [Text.splitOn_eq_splitOnP]
    cases Text.stop_eq_false_of_mem_splitOn hcut ',' hmem
  exact ⟨items, hall, by rw [listing, hmap, List.intercalate_splitOn, String.ofList_toList]⟩

/-- The names in a listing are those of its items. -/
theorem listedNames_listing {items : List ListItem} (h : ∀ item ∈ items, item.Listed) :
    Command.listedNames (listing items) = listedIn items := by
  unfold Command.listedNames listing
  rw [String.toList_ofList, Text.splitOn_eq_splitOnP]
  cases items with
  | nil => rfl
  | cons item items =>
    have hpieces : List.splitOn ',' ([','].intercalate ((item :: items).map ListItem.chars)) =
        (item :: items).map ListItem.chars := by
      apply List.splitOn_intercalate
      · intro piece hpiece
        obtain ⟨i, hi, rfl⟩ := List.mem_map.mp hpiece
        exact (h i hi).comma_not_mem_chars
      · exact List.cons_ne_nil _ _
    change (((List.splitOn ',' _).map Text.trimChars).filter _).map _ = _
    rw [hpieces, List.map_map, listedIn]
    generalize item :: items = all at h
    induction all with
    | nil => rfl
    | cons i rest ih =>
      obtain ⟨hi, hrest⟩ := List.forall_mem_cons.mp h
      have hempty : i.name.toList.isEmpty = i.name.isEmpty := by
        rw [Bool.eq_iff_iff, List.isEmpty_iff, String.isEmpty_iff, String.toList_eq_nil_iff]
      simp only [List.map_cons, Function.comp_apply, hi.trimChars_chars, List.filter_cons, hempty]
      split_ifs
      · rw [List.map_cons, ih hrest, String.ofList_toList]
      · exact ih hrest

end ConsoleLink
