import ConsoleLink.Proofs.Text.ByteOrder
import ConsoleLink.Text.Lines

/-! # The lines of a text that arrives as bytes

A stream of bytes is cut at its line feeds before anything is decoded. Where the bytes are those of
a text, this comes to cutting the text: no character but a line feed has that byte in its encoding.
And texts without line breaks, each with a line feed after it, are read back as they were written.
-/

namespace ConsoleLink.Text

/-- The bytes of some characters. -/
def encode (cs : List Char) : List UInt8 := cs.flatMap String.utf8EncodeChar

theorem encode_append (cs ds : List Char) : encode (cs ++ ds) = encode cs ++ encode ds :=
  List.flatMap_append

theorem encode_cons (c : Char) (cs : List Char) :
    encode (c :: cs) = String.utf8EncodeChar c ++ encode cs := rfl

/-- The characters of a text without the carriage return at their end. -/
def withoutReturn (cs : List Char) : List Char :=
  if cs.getLast? = some '\r' then cs.dropLast else cs

/-- The pieces between line feeds, each with whether a line feed ended it; nothing after the last
one is no piece. -/
def ended : List (List Char) → List (List Char × Bool)
  | [] => []
  | [last] => if last.isEmpty then [] else [(last, false)]
  | piece :: pieces => (piece, true) :: ended pieces

/-- A piece without its line end. -/
def lineOf (piece : List Char × Bool) : String :=
  String.ofList (if piece.2 then withoutReturn piece.1 else piece.1)

/-- The lines of a text. -/
def lines (s : String) : List String := (ended (s.toList.splitOn '\n')).map lineOf

/-! ## Bytes of a character -/

/-- A character below `0x80` is its own byte, and no byte of any other is below `0x80`. -/
theorem utf8EncodeChar_cases (c : Char) :
    c.toNat < 0x80 ∧ String.utf8EncodeChar c = [UInt8.ofNat c.toNat] ∨
      ∀ b ∈ String.utf8EncodeChar c, 0x80 ≤ b.toNat := by
  unfold String.utf8EncodeChar
  dsimp only
  split_ifs with h₁ h₂ h₃
  case pos => exact .inl ⟨Nat.lt_succ_of_le h₁, rfl⟩
  all_goals
    refine .inr ?_
    simp only [List.mem_cons, List.not_mem_nil, or_false, forall_eq_or_imp, forall_eq,
      UInt8.toNat_ofNat']
    omega

variable {c d : Char} {cs ds : List Char}

theorem utf8EncodeChar_of_lt (h : d.toNat < 0x80) :
    String.utf8EncodeChar d = [UInt8.ofNat d.toNat] := by
  rcases utf8EncodeChar_cases d with ⟨-, hd⟩ | hd
  · exact hd
  · unfold String.utf8EncodeChar
    exact if_pos (Nat.le_of_lt_succ h)

/-- A byte below `0x80` stands for its character wherever it stands. -/
theorem mem_utf8EncodeChar_iff (hd : d.toNat < 0x80) :
    UInt8.ofNat d.toNat ∈ String.utf8EncodeChar c ↔ c = d := by
  constructor
  · intro hmem
    rcases utf8EncodeChar_cases c with ⟨hc, henc⟩ | hhigh
    · rw [henc, List.mem_singleton, ← UInt8.toNat_inj, UInt8.toNat_ofNat',
        UInt8.toNat_ofNat'] at hmem
      refine Char.toNat_inj.mp ?_
      omega
    · have hbyte := hhigh _ hmem
      rw [UInt8.toNat_ofNat'] at hbyte
      omega
  · rintro rfl
    rw [utf8EncodeChar_of_lt hd]
    exact List.mem_singleton_self _

theorem mem_encode_iff (hd : d.toNat < 0x80) : UInt8.ofNat d.toNat ∈ encode cs ↔ d ∈ cs := by
  rw [encode, List.mem_flatMap]
  constructor
  · rintro ⟨c, hc, hmem⟩
    exact (mem_utf8EncodeChar_iff hd).mp hmem ▸ hc
  · exact fun hmem => ⟨d, hmem, (mem_utf8EncodeChar_iff hd).mpr rfl⟩

theorem utf8EncodeChar_ne_nil (c : Char) : String.utf8EncodeChar c ≠ [] := by
  unfold String.utf8EncodeChar
  dsimp only
  split_ifs <;> exact List.cons_ne_nil _ _

theorem encode_eq_nil_iff : encode cs = [] ↔ cs = [] := by
  constructor
  · intro h
    rw [encode, List.flatMap_eq_nil_iff] at h
    exact List.eq_nil_iff_forall_not_mem.mpr fun c hc => utf8EncodeChar_ne_nil c (h c hc)
  · rintro rfl
    rfl

/-! ## Pieces -/

theorem fromUTF8?_encode (cs : List Char) :
    String.fromUTF8? ⟨(encode cs).toArray⟩ = some (String.ofList cs) := by
  have hbytes : (⟨(encode cs).toArray⟩ : ByteArray) = (String.ofList cs).toByteArray := by
    rw [String.toByteArray_ofList, List.utf8Encode]
    exact ByteArray.ext List.data_toByteArray.symm
  rw [hbytes]
  exact dif_pos (String.ofList cs).isValidUTF8

/-- The carriage return of a line end is the last byte where it is the last character. -/
theorem withoutReturn_encode (cs : List Char) :
    (if (encode cs).getLast? = some 13 then (encode cs).dropLast else encode cs) =
      encode (withoutReturn cs) := by
  rcases List.eq_nil_or_concat' cs with rfl | ⟨ds, c, rfl⟩
  · rfl
  · rw [withoutReturn, List.getLast?_concat, List.dropLast_concat, encode_append]
    by_cases hc : c = '\r'
    · subst hc
      have hreturn : encode ['\r'] = [13] := by decide
      rw [hreturn, List.getLast?_concat, List.dropLast_concat, if_pos rfl, if_pos rfl]
    · have hlast : (encode ds ++ encode [c]).getLast? ≠ some 13 := by
        intro h
        have hne : encode [c] ≠ [] := encode_eq_nil_iff.not.mpr (List.cons_ne_nil _ _)
        rw [List.getLast?_append_of_ne_nil _ hne] at h
        have hmem : '\r' ∈ [c] := (mem_encode_iff (by decide)).mp (List.mem_of_getLast? h)
        exact hc (List.mem_singleton.mp hmem).symm
      rw [if_neg hlast, if_neg (by simpa using hc), encode_append]

/-- A piece of the bytes of a text is decoded as the line that the piece of the text is. -/
theorem lineText?_encode (piece : List Char × Bool) :
    lineText? (encode piece.1) piece.2 = some (lineOf piece) := by
  obtain ⟨cs, hasEnd⟩ := piece
  unfold lineText? lineOf
  cases hasEnd with
  | false => exact fromUTF8?_encode cs
  | true =>
    simp only [Bool.true_and, beq_iff_eq, if_true]
    rw [withoutReturn_encode]
    exact fromUTF8?_encode _

theorem readablePieces_encode (pieces : List (List Char × Bool)) :
    readablePieces (pieces.map fun piece => (encode piece.1, piece.2)) = pieces.map lineOf := by
  induction pieces with
  | nil => rfl
  | cons piece pieces ih =>
    rw [List.map_cons, List.map_cons, readablePieces, lineText?_encode]
    exact congrArg _ ih

/-- Bytes that hold no line feed go to the piece that they are in. -/
theorem cutLinesFrom_append {piece bytes : List UInt8} (h : 10 ∉ bytes) (rest : List UInt8) :
    cutLinesFrom piece (bytes ++ rest) = cutLinesFrom (bytes.reverse ++ piece) rest := by
  induction bytes generalizing piece with
  | nil => rfl
  | cons b bytes ih =>
    rw [List.mem_cons, not_or] at h
    rw [List.cons_append, cutLinesFrom, if_neg (Ne.symm h.1), ih h.2, List.reverse_cons,
      List.append_assoc]
    rfl

theorem ended_cons_of_ne_nil {piece : List Char} {pieces : List (List Char)} (h : pieces ≠ []) :
    ended (piece :: pieces) = (piece, true) :: ended pieces := by
  cases pieces with
  | nil => exact absurd rfl h
  | cons => rfl

/-- The bytes of a text are cut where the text is cut. -/
theorem cutLinesFrom_encode (hds : '\n' ∉ ds) (cs : List Char) :
    cutLinesFrom (encode ds).reverse (encode cs) =
      (ended ((ds ++ cs).splitOn '\n')).map fun piece => (encode piece.1, piece.2) := by
  induction cs generalizing ds with
  | nil =>
    rw [List.append_nil, List.splitOn_eq_singleton hds]
    change (if (encode ds).reverse.isEmpty then _ else _) = List.map _ (if ds.isEmpty then _ else _)
    simp only [List.isEmpty_iff, List.reverse_eq_nil_iff, encode_eq_nil_iff, List.reverse_reverse]
    split_ifs <;> rfl
  | cons c cs ih =>
    by_cases hc : c = '\n'
    · subst hc
      rw [List.splitOn_append_cons_self_of_not_mem hds,
        ended_cons_of_ne_nil (List.splitOn_ne_nil _ _),
        List.map_cons]
      change ((encode ds).reverse.reverse, true) :: cutLinesFrom (encode []).reverse (encode cs) = _
      rw [List.reverse_reverse, ih List.not_mem_nil, List.nil_append]
    · have hbytes : 10 ∉ String.utf8EncodeChar c :=
        (mem_utf8EncodeChar_iff (d := '\n') (by decide)).not.mpr hc
      have hnext : '\n' ∉ ds ++ [c] := by
        rw [List.mem_append, List.mem_singleton]
        exact fun h => h.elim hds fun hn => hc hn.symm
      have hih := ih hnext
      rw [encode_append, List.reverse_append, List.append_assoc] at hih
      rw [encode_cons, cutLinesFrom_append hbytes]
      simpa [encode] using hih

/-- Where the bytes of a text are read as lines, they give the lines of the text. -/
theorem readableLines_encode (cs : List Char) :
    readableLines (encode cs) = lines (String.ofList cs) := by
  rw [lines, String.toList_ofList, readableLines, cutLines]
  have hcut := cutLinesFrom_encode List.not_mem_nil cs
  rw [List.nil_append] at hcut
  exact (congrArg readablePieces hcut).trans (readablePieces_encode _)

theorem readableLines_utf8Bytes (s : String) : readableLines (utf8Bytes s) = lines s := by
  rw [utf8Bytes_eq]
  exact (readableLines_encode s.toList).trans (by rw [String.ofList_toList])

/-! ## Lines that are written -/

/-- Some lines, each with a line feed after it. -/
def written (ls : List String) : String := String.join (ls.map (· ++ "\n"))

/-- Nothing breaks a line. -/
def Unbroken (s : String) : Prop := '\n' ∉ s.toList ∧ '\r' ∉ s.toList

theorem toList_written_cons (l : String) (ls : List String) :
    (written (l :: ls)).toList = l.toList ++ '\n' :: (written ls).toList := by
  rw [written, List.map_cons, String.join_cons, String.toList_append, String.toList_append,
    List.append_assoc]
  rfl

theorem lineOf_unbroken {l : String} (h : Unbroken l) : lineOf (l.toList, true) = l := by
  have hreturn : l.toList.getLast? ≠ some '\r' := fun hlast => h.2 (List.mem_of_getLast? hlast)
  rw [lineOf, if_pos rfl, withoutReturn, if_neg hreturn, String.ofList_toList]

/-- Lines that nothing breaks are read back as they were written. -/
theorem lines_written {ls : List String} (h : ∀ l ∈ ls, Unbroken l) : lines (written ls) = ls := by
  induction ls with
  | nil => rfl
  | cons l ls ih =>
    rw [List.forall_mem_cons] at h
    have hrest : (ended ((written ls).toList.splitOn '\n')).map lineOf = ls := ih h.2
    rw [lines, toList_written_cons, List.splitOn_append_cons_self_of_not_mem h.1.1,
      ended_cons_of_ne_nil (List.splitOn_ne_nil _ _), List.map_cons, lineOf_unbroken h.1, hrest]

end ConsoleLink.Text
