import ConsoleLink.Machine.Snapshot
import ConsoleLink.Proofs.MessagePack.Forms

/-! # Save states are read back as they were written

The bytes of a save state, whatever its frame number, image and RAM, are read as that save state,
as long as their lengths fit in 32 bits.
-/

namespace ConsoleLink.Snapshot

open MessagePack

variable {bytes : ByteArray} {start : Nat}

/-- The written form of the image that was running. -/
def gameForm : Option String → List UInt8
  | some game => textHeadForm game.utf8ByteSize ++ game.toUTF8.data.toList
  | none => [0xC0]

/-- The written form of the RAM. -/
def ramForm (ram : ByteArray) : List UInt8 :=
  arrayHeadForm ram.size ++ ram.data.toList.flatMap fun b => natForm b.toNat

/-- The lengths in a save state can be written in 32 bits. -/
structure Fits (s : Snapshot) : Prop where
  game : ∀ game, s.game = some game → game.utf8ByteSize < UInt32.size
  ram : s.ram.size < UInt32.size

theorem toList_encode (s : Snapshot) :
    s.encode.data.toList =
      arrayHeadForm 3 ++ (natForm s.frame.toNat ++ (gameForm s.game ++ ramForm s.ram)) := by
  have hempty : (ByteArray.emptyWithCapacity (2 * s.ram.size)).data.toList = [] := rfl
  unfold encode
  dsimp only
  rw [toList_pushByteNumbers]
  cases s.game with
  | none =>
    rw [pushNil, ByteArray.data_push, Array.toList_push, toList_pushNat, toList_pushArrayHead,
      hempty]
    simp [gameForm, ramForm]
  | some game =>
    rw [toList_pushText, toList_pushNat, toList_pushArrayHead, hempty]
    simp [gameForm, ramForm]

theorem readPart_frame {frame : UInt64} (h : StandsAt bytes start (natForm frame.toNat))
    (d : Draft) :
    readPart bytes start d .frame =
      some ({ d with frame := some frame }, start + (natForm frame.toNat).length) := by
  have hframe : frame.toNat < UInt64.size := frame.toNat_lt
  rw [readPart, readNat_natForm h hframe]
  simp

theorem readPart_game {game : Option String} (h : StandsAt bytes start (gameForm game))
    (hgame : ∀ text, game = some text → text.utf8ByteSize < UInt32.size) (d : Draft) :
    readPart bytes start d .game =
      some ({ d with game := some game }, start + (gameForm game).length) := by
  cases game with
  | none =>
    rw [readPart, readHead_nil h]
    rfl
  | some text =>
    have hslice : slice bytes (start + (textHeadForm text.utf8ByteSize).length)
        text.utf8ByteSize = some (text.toUTF8, _) := h.right.slice_eq
    have htext : String.fromUTF8? text.toUTF8 = some text := dif_pos text.isValidUTF8
    have hlength : (gameForm (some text)).length =
        (textHeadForm text.utf8ByteSize).length + text.utf8ByteSize := by
      rw [gameForm, List.length_append, Array.length_toList]
      rfl
    rw [readPart, readHead_textHeadForm h.left (hgame text rfl)]
    simp only [Option.bind_eq_bind, Option.bind_some, hslice, htext, hlength, Nat.add_assoc]
    rfl

theorem readPart_ram {ram : ByteArray} (h : StandsAt bytes start (ramForm ram))
    (hram : ram.size < UInt32.size) (d : Draft) :
    readPart bytes start d .ram =
      some ({ d with ram := some ram }, start + (ramForm ram).length) := by
  have hread := readByteNumbers_of_standsAt h.right .empty
  rw [pushAll_empty, Array.length_toList, ByteArray.size_data] at hread
  rw [readPart, readHead_arrayHeadForm h.left hram, ramForm, List.length_append, ← Nat.add_assoc]
  simp only [Option.bind_eq_bind, Option.bind_some, hread]
  rfl

/-- A save state is read back from its bytes. -/
theorem decode?_encode {s : Snapshot} (h : s.Fits) : decode? s.encode = some s := by
  have hform := standsAt_zero s.toList_encode
  have hframe := readPart_frame hform.right.left
  have hgame := readPart_game hform.right.right.left h.game
  have hram := readPart_ram hform.right.right.right h.ram
  rw [decode?, readHead_arrayHeadForm hform.left (by decide)]
  simp only [Option.bind_eq_bind, Option.bind_some, hframe, hgame, hram]
  rfl

/-! ## What is read fits again -/

/-- The image of a save state that is being read. -/
def Draft.GameFits (d : Draft) : Prop :=
  ∀ game, d.game = some (some game) → game.utf8ByteSize < UInt32.size

theorem utf8ByteSize_of_fromUTF8? {raw : ByteArray} {text : String}
    (h : String.fromUTF8? raw = some text) : text.utf8ByteSize = raw.size := by
  unfold String.fromUTF8? at h
  split_ifs at h
  cases h
  rfl

theorem gameFits_readPart {d d' : Draft} {part : Part} {next : Nat} (hd : d.GameFits)
    (h : readPart bytes start d part = some (d', next)) : d'.GameFits := by
  cases part with
  | frame =>
    obtain ⟨⟨n, after⟩, -, h⟩ := Option.bind_eq_some_iff.mp h
    cases h
    exact hd
  | ram =>
    obtain ⟨⟨head, after⟩, -, h⟩ := Option.bind_eq_some_iff.mp h
    split at h
    · obtain ⟨⟨ram, last⟩, -, h⟩ := Option.bind_eq_some_iff.mp h
      cases h
      exact hd
    · obtain ⟨⟨ram, last⟩, -, h⟩ := Option.bind_eq_some_iff.mp h
      cases h
      exact hd
    · cases h
  | game =>
    obtain ⟨⟨head, after⟩, hhead, h⟩ := Option.bind_eq_some_iff.mp h
    have hshort := short_readHead hhead
    -- the length that the head gives is that of the text
    have htext : ∀ n place, n < UInt32.size →
        ((slice bytes place n).bind fun r => (String.fromUTF8? r.1).bind fun text =>
          some ({ d with game := some (some text) }, r.2)) = some (d', next) → d'.GameFits := by
      intro n place hn h
      obtain ⟨⟨raw, last⟩, hraw, h⟩ := Option.bind_eq_some_iff.mp h
      obtain ⟨text, htext, h⟩ := Option.bind_eq_some_iff.mp h
      cases h
      rintro game hgame
      cases hgame
      rwa [utf8ByteSize_of_fromUTF8? htext, size_of_slice hraw]
    split at h
    · cases h
      nofun
    · rename_i n place heq
      cases heq
      exact htext _ _ (hshort _ rfl) h
    · rename_i n place heq
      cases heq
      exact htext _ _ (hshort _ rfl) h
    · cases h

theorem gameFits_readMembers {count : Nat} {d d' : Draft} (hd : d.GameFits)
    (h : readMembers bytes count start d = some d') : d'.GameFits := by
  induction count generalizing start d with
  | zero =>
    cases h
    exact hd
  | succ count ih =>
    obtain ⟨⟨part, next⟩, -, h⟩ := Option.bind_eq_some_iff.mp h
    cases part with
    | none =>
      obtain ⟨last, -, h⟩ := Option.bind_eq_some_iff.mp h
      exact ih hd h
    | some part =>
      dsimp only at h
      split_ifs at h
      obtain ⟨⟨draft, last⟩, hpart, h⟩ := Option.bind_eq_some_iff.mp h
      exact ih (gameFits_readPart hd hpart) h

theorem game_of_ofDraft? {d : Draft} {s : Snapshot} (hd : d.GameFits) (h : ofDraft? d = some s) :
    ∀ game, s.game = some game → game.utf8ByteSize < UInt32.size := by
  obtain ⟨frame, -, h⟩ := Option.bind_eq_some_iff.mp h
  obtain ⟨ram, -, h⟩ := Option.bind_eq_some_iff.mp h
  cases h
  intro game hgame
  cases hread : d.game with
  | none =>
    rw [hread] at hgame
    cases hgame
  | some read =>
    rw [hread] at hgame
    exact hd game (hread.trans (congrArg some hgame))

/-- The image of a save state that is read has a name that can be written again. -/
theorem game_of_decode? {s : Snapshot} (h : decode? bytes = some s) :
    ∀ game, s.game = some game → game.utf8ByteSize < UInt32.size := by
  have hempty : ({} : Draft).GameFits := nofun
  obtain ⟨⟨head, next⟩, -, h⟩ := Option.bind_eq_some_iff.mp h
  split at h
  · obtain ⟨⟨frame, _⟩, hframe, h⟩ := Option.bind_eq_some_iff.mp h
    obtain ⟨⟨game, _⟩, hgame, h⟩ := Option.bind_eq_some_iff.mp h
    obtain ⟨⟨ram, _⟩, hram, h⟩ := Option.bind_eq_some_iff.mp h
    exact game_of_ofDraft?
      (gameFits_readPart (gameFits_readPart (gameFits_readPart hempty hframe) hgame) hram) h
  · obtain ⟨d, hmembers, h⟩ := Option.bind_eq_some_iff.mp h
    exact game_of_ofDraft? (gameFits_readMembers hempty hmembers) h
  · cases h

end ConsoleLink.Snapshot
