import ConsoleLink.Proofs.Text.Listing
import ConsoleLink.Proofs.Watch.Definitions

/-! # Chains of offsets, in one text or in a list

The offsets of a watch are written in one text with blanks between them, or in a list. Whatever the
blanks are, the text stands for what the list stands for, and its first fault is that of the list.
-/

namespace ConsoleLink

namespace Text

/-- A blank ends a word. -/
theorem words_append_cons {c : Char} (hc : isBlank c = true) (cs rest : List Char) :
    words (cs ++ c :: rest) = words cs ++ words rest := by
  unfold words
  simp only [splitOn_eq_splitOnP]
  rw [List.splitOnP_append_cons cs rest hc, List.filter_append]

/-- Blanks in front belong to no word. -/
theorem words_blanks_append {blanks : List Char} (h : ∀ c ∈ blanks, isBlank c = true)
    (rest : List Char) : words (blanks ++ rest) = words rest := by
  induction blanks with
  | nil => rfl
  | cons c blanks ih =>
    obtain ⟨hc, hblanks⟩ := List.forall_mem_cons.mp h
    exact (words_append_cons hc [] (blanks ++ rest)).trans (ih hblanks)

/-- Characters without a blank among them are one word. -/
theorem words_solid {cs : List Char} (hne : cs ≠ []) (h : ∀ c ∈ cs, isBlank c = false) :
    words cs = [cs] := by
  rw [words, splitOn_eq_splitOnP, List.splitOnP_eq_singleton h]
  simp [hne]

/-- Blanks after a word end it. -/
theorem words_solid_append {cs gap : List Char} (rest : List Char) (hne : cs ≠ [])
    (hcs : ∀ c ∈ cs, isBlank c = false) (hgap : gap ≠ []) (h : ∀ c ∈ gap, isBlank c = true) :
    words (cs ++ gap ++ rest) = cs :: words rest := by
  cases gap with
  | nil => exact absurd rfl hgap
  | cons c gap =>
    obtain ⟨hc, hblanks⟩ := List.forall_mem_cons.mp h
    rw [List.append_assoc, List.cons_append, words_append_cons hc, words_solid hne hcs,
      words_blanks_append hblanks, List.singleton_append]

end Text

/-- One of the texts in a chain and the blanks after it. -/
structure ChainItem where
  text : String
  gap : List Char := []
  text_ne : text.toList ≠ [] := by decide
  text_solid : text.toList.all (!Text.isBlank ·) = true := by rfl
  gap_blank : gap.all Text.isBlank = true := by rfl

/-- Texts with blanks between them, before the first and after the last. -/
structure Chain where
  before : List Char := []
  items : List ChainItem
  before_blank : before.all Text.isBlank = true := by rfl
  /-- Only the last text may have no blanks after it. -/
  apart : ∀ item ∈ items.dropLast, item.gap ≠ [] := by decide

namespace ChainItem

variable (item : ChainItem)

def chars : List Char := item.text.toList ++ item.gap

theorem solid : ∀ c ∈ item.text.toList, Text.isBlank c = false := fun c hc => by
  simpa using List.all_eq_true.mp item.text_solid c hc

theorem words_chars : Text.words item.chars = [item.text.toList] := by
  by_cases hgap : item.gap = []
  · rw [chars, hgap, List.append_nil, Text.words_solid item.text_ne item.solid]
  · rw [← List.append_nil item.chars, chars, Text.words_solid_append [] item.text_ne item.solid hgap
      (List.all_eq_true.mp item.gap_blank)]
    rfl

end ChainItem

namespace Chain

variable (chain : Chain)

/-- The chain in one text. -/
def joined : String := String.ofList (chain.before ++ chain.items.flatMap ChainItem.chars)

/-- The chain as a list. -/
def texts : List String := chain.items.map ChainItem.text

theorem words_items {items : List ChainItem} (h : ∀ item ∈ items.dropLast, item.gap ≠ []) :
    Text.words (items.flatMap ChainItem.chars) = items.map fun item => item.text.toList := by
  induction items with
  | nil => rfl
  | cons item items ih =>
    cases items with
    | nil => rw [List.flatMap_singleton, item.words_chars]; rfl
    | cons next items =>
      obtain ⟨hgap, hrest⟩ := List.forall_mem_cons.mp h
      rw [List.flatMap_cons, ChainItem.chars, Text.words_solid_append _ item.text_ne item.solid hgap
        (List.all_eq_true.mp item.gap_blank), ih hrest]
      rfl

/-- Cutting the text gives the list back. -/
theorem words_joined : (Text.words chain.joined.toList).map String.ofList = chain.texts := by
  rw [joined, String.toList_ofList,
    Text.words_blanks_append (List.all_eq_true.mp chain.before_blank),
    words_items chain.apart, List.map_map, texts]
  exact List.map_congr_left fun item _ => String.ofList_toList

theorem readOffsetChain_joined :
    Watch.readOffsetChain chain.joined = Watch.readOffsets chain.texts := by
  rw [Watch.readOffsetChain, words_joined]

end Chain

namespace WatchDescriptor

/-- What a wire form with a list of offsets stands for: address, offsets and size are read in turn,
and the first fault is the error. -/
inductive ListOutcome (address : String) (texts : List String) (size : Nat) :
    Except WatchError WatchDescriptor → Prop
  | descriptor {base : UInt32} {offsets : List UInt32}
      (hbase : Watch.readHex address = .ok base)
      (hoffsets : List.Forall₂ (fun t o => Watch.readOffset t = .ok o) texts offsets)
      (hsize : 1 ≤ size ∧ size ≤ maxWatchSize) :
      ListOutcome address texts size (.ok ⟨base, offsets, size⟩)
  | badAddress {e : WatchError} (h : Watch.readHex address = .error e) :
      ListOutcome address texts size (.error e)
  | badOffset {base : UInt32} {e : WatchError} (hbase : Watch.readHex address = .ok base)
      (h : FirstFault Watch.readOffset texts e) : ListOutcome address texts size (.error e)
  | badSize {base : UInt32} {offsets : List UInt32} (hbase : Watch.readHex address = .ok base)
      (hoffsets : List.Forall₂ (fun t o => Watch.readOffset t = .ok o) texts offsets)
      (hsize : size = 0 ∨ maxWatchSize < size) :
      ListOutcome address texts size (.error (.invalidSize size))

theorem listOutcome (address : String) (texts : List String) (size : Nat) :
    ListOutcome address texts size (ofSpec ⟨address, some (.list texts), size⟩) := by
  change ListOutcome address texts size (do
    let base ← Watch.readHex address
    let offsets ← Watch.readOffsets texts
    make base offsets size)
  cases hbase : Watch.readHex address with
  | error e => exact .badAddress hbase
  | ok base =>
    rcases mapM_cases Watch.readOffset texts with ⟨offsets, hread, hoffsets⟩ | ⟨e, hread, hfault⟩
    · change ListOutcome address texts size (Watch.readOffsets texts >>= fun offsets => _)
      rw [Watch.readOffsets, hread]
      change ListOutcome address texts size (make base offsets size)
      unfold make
      split_ifs with hsize
      · exact .badSize hbase hoffsets (by simpa using hsize)
      · exact .descriptor hbase hoffsets (by simp at hsize; omega)
    · change ListOutcome address texts size (Watch.readOffsets texts >>= fun offsets => _)
      rw [Watch.readOffsets, hread]
      exact .badOffset hbase hfault

/-- A chain in one text stands for what it stands for as a list. -/
theorem ofSpec_joined (chain : Chain) (address : String) (size : Nat) :
    ofSpec ⟨address, some (.chain chain.joined), size⟩ =
        ofSpec ⟨address, some (.list chain.texts), size⟩ ∧
      ListOutcome address chain.texts size
        (ofSpec ⟨address, some (.chain chain.joined), size⟩) := by
  have hsame : ofSpec ⟨address, some (.chain chain.joined), size⟩ =
      ofSpec ⟨address, some (.list chain.texts), size⟩ := by
    unfold ofSpec offsetsOf
    dsimp only
    rw [chain.readOffsetChain_joined]
  exact ⟨hsame, hsame ▸ listOutcome address chain.texts size⟩

example : Watch.readOffsetChain " 10\t-8\n" = Watch.readOffsets ["10", "-8"] := by decide

end WatchDescriptor

end ConsoleLink
