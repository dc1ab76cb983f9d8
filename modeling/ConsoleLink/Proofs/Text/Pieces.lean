import ConsoleLink.Proofs.Text.Streams
import Mathlib.Data.List.TakeWhile

/-! # Streams with lines that are not UTF-8

A stream can be put together again from its pieces, and from some of them, for what is left out does
not change where the others end. A reader that stops at the first piece that is not UTF-8 gets the
lines before it; had such pieces been left out of the stream, it would go on with those after it.
-/

namespace ConsoleLink.Text

/-- The bytes up to a line feed or the end of a stream, and whether a line feed ended them. -/
abbrev Piece := List UInt8 × Bool

variable {piece bytes : List UInt8} {pieces : List Piece}

/-! ## Putting a stream together -/

/-- The bytes of some pieces, with the line feeds that ended them. -/
def streamOf (pieces : List Piece) : List UInt8 :=
  pieces.flatMap fun p => p.1 ++ if p.2 then [10] else []

/-- What a stream can be cut into: no piece holds a line feed, and only a last one that is not empty
is not ended by one. -/
inductive WellCut : List Piece → Prop
  | nil : WellCut []
  | last {bytes : List UInt8} (hne : bytes ≠ []) (hplain : 10 ∉ bytes) : WellCut [(bytes, false)]
  | cons {bytes : List UInt8} {pieces : List Piece} (hplain : 10 ∉ bytes)
      (hrest : WellCut pieces) : WellCut ((bytes, true) :: pieces)

theorem wellCut_cutLinesFrom (hpiece : 10 ∉ piece) : WellCut (cutLinesFrom piece bytes) := by
  induction bytes generalizing piece with
  | nil =>
    by_cases hempty : piece = []
    · rw [hempty]
      exact .nil
    · rw [cutLinesFrom, if_neg (by simpa using hempty)]
      exact .last (by simpa using hempty) (by simpa using hpiece)
  | cons b bytes ih =>
    by_cases hb : b = 10
    · rw [cutLinesFrom, if_pos hb]
      exact .cons (by simpa using hpiece) (ih List.not_mem_nil)
    · rw [cutLinesFrom, if_neg hb]
      exact ih (by simpa [hpiece] using Ne.symm hb)

theorem wellCut_cutLines (bytes : List UInt8) : WellCut (cutLines bytes) :=
  wellCut_cutLinesFrom List.not_mem_nil

theorem WellCut.filter (h : WellCut pieces) (keep : Piece → Bool) :
    WellCut (pieces.filter keep) := by
  induction h with
  | nil => exact .nil
  | @last bytes hne hplain =>
    rw [List.filter_singleton]
    cases keep (bytes, false) with
    | true => exact .last hne hplain
    | false => exact .nil
  | cons hplain _ ih =>
    rw [List.filter_cons]
    split
    · exact .cons hplain ih
    · exact ih

theorem cutLines_streamOf (h : WellCut pieces) : cutLines (streamOf pieces) = pieces := by
  induction h with
  | nil => rfl
  | @last bytes hne hplain =>
    have hcut : cutLinesFrom [] (bytes ++ []) = cutLinesFrom (bytes.reverse ++ []) [] :=
      cutLinesFrom_append hplain []
    simp only [cutLines, streamOf, List.flatMap_singleton, Bool.false_eq_true, if_false, hcut]
    simp [cutLinesFrom, hne]
  | @cons bytes pieces hplain _ ih =>
    have hstream : streamOf ((bytes, true) :: pieces) = bytes ++ 10 :: streamOf pieces := by
      simp [streamOf]
    rw [hstream, cutLines, cutLinesFrom_append hplain, cutLinesFrom, if_pos rfl]
    rw [cutLines] at ih
    simp [ih]

/-! ## Pieces that can be decoded -/

/-- The line that a piece is, if it is UTF-8. -/
def decoded? (p : Piece) : Option String := lineText? p.1 p.2

/-- Whether a piece is UTF-8. -/
def isText (p : Piece) : Bool := (decoded? p).isSome

/-- The stream without the lines that are not UTF-8. -/
def withoutUndecodable (bytes : List UInt8) : List UInt8 :=
  streamOf ((cutLines bytes).filter isText)

/-- The lines after the first that is not UTF-8, as far as they are UTF-8 themselves. -/
def linesBeyond (bytes : List UInt8) : List String :=
  ((cutLines bytes).dropWhile isText).filterMap decoded?

theorem cutLines_withoutUndecodable (bytes : List UInt8) :
    cutLines (withoutUndecodable bytes) = (cutLines bytes).filter isText :=
  cutLines_streamOf ((wellCut_cutLines bytes).filter isText)

theorem readablePieces_eq (pieces : List Piece) :
    readablePieces pieces = (pieces.takeWhile isText).filterMap decoded? := by
  induction pieces with
  | nil => rfl
  | cons p pieces ih =>
    rw [readablePieces, List.takeWhile_cons, isText, decoded?, ih]
    cases h : lineText? p.1 p.2 with
    | none => rfl
    | some text => simp [decoded?, h]

theorem filterMap_filter_isText (pieces : List Piece) :
    (pieces.filter isText).filterMap decoded? = pieces.filterMap decoded? := by
  rw [List.filterMap_filter]
  congr 1
  funext p
  cases h : decoded? p <;> simp [isText, h]

/-- Without the lines that are not UTF-8 a reader gets those beyond the first of them too. -/
theorem readableLines_withoutUndecodable (bytes : List UInt8) :
    readableLines (withoutUndecodable bytes) = readableLines bytes ++ linesBeyond bytes := by
  have hall : ((cutLines bytes).filter isText).takeWhile isText = (cutLines bytes).filter isText :=
    List.takeWhile_eq_self_iff.mpr fun p hp => (List.mem_filter.mp hp).2
  rw [readableLines, cutLines_withoutUndecodable, readablePieces_eq, hall, filterMap_filter_isText,
    readableLines, readablePieces_eq, linesBeyond, ← List.filterMap_append,
    List.takeWhile_append_dropWhile]

end ConsoleLink.Text
