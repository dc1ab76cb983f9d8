import ConsoleLink.Proofs.Rpc.Answering
import ConsoleLink.Proofs.Text.Pieces

/-! # A service that meets a line that is not UTF-8

Such a line ends the service like the end of the stream does: what comes after it is not answered,
and on the standard streams the simulation is told to stop. Any other line, be it a call or not, is
answered and the service goes on.
-/

namespace ConsoleLink.Rpc

open Text (Blank Piece cutLines decoded? isText linesBeyond readableLines withoutUndecodable)

/-! ## Reading after reading -/

/-- What is read of a stream next: a piece, or its end. -/
abbrev Reading := Option Piece

/-- Whether the service is over once this is read. -/
def Reading.isLast : Reading → Bool
  | none => true
  | some p => !isText p

/-- How far the service of a stream has come. On the standard streams the simulation is told to stop
as soon as it is finished. -/
structure Service where
  written : List String := []
  finished : Bool := false

theorem Reading.exists_line {r : Reading} (h : r.isLast = false) :
    ∃ line, r.bind decoded? = some line := by
  cases r with
  | none => cases h
  | some p => exact Option.isSome_iff_exists.mp (by simpa [isLast, isText] using h)

section

variable {m : Type → Type} [Monad m]

/-- The service after one more reading; it does not read on once it is finished. -/
def Service.take (handler : Handler m) (s : Service) (r : Reading) : m Service :=
  if s.finished then pure s
  else do
    match ← answerNext handler r with
    | none => return { s with finished := true }
    | some answer => return { s with written := s.written ++ answer.toList }

/-- The service after some readings. -/
def Service.run (handler : Handler m) (readings : List Reading) : m Service :=
  readings.foldlM (take handler) {}

/-- The lines that are read before the service is over. -/
def linesServed (readings : List Reading) : List String :=
  (readings.takeWhile fun r => !r.isLast).filterMap (·.bind decoded?)

variable {s : Service} {r : Reading} {line : String}

theorem answerNext_of_isLast (handler : Handler m) (h : r.isLast = true) :
    answerNext handler r = pure none := by
  cases r with
  | none => rfl
  | some p =>
    have hnone : Text.lineText? p.1 p.2 = none := by
      simpa [Reading.isLast, isText, decoded?] using h
    rw [answerNext, hnone]

variable [LawfulMonad m]

theorem answerNext_of_line (handler : Handler m) (h : r.bind decoded? = some line) :
    answerNext handler r = some <$> answerLine handler line := by
  obtain ⟨p, rfl, hp⟩ := Option.bind_eq_some_iff.mp h
  have hline : Text.lineText? p.1 p.2 = some line := hp
  rw [answerNext, hline, map_eq_pure_bind]

theorem Service.foldlM_finished (handler : Handler m) (h : s.finished = true)
    (readings : List Reading) : readings.foldlM (take handler) s = pure s := by
  induction readings with
  | nil => rfl
  | cons r readings ih => rw [List.foldlM_cons, take, if_pos h, pure_bind, ih]

theorem Service.foldlM_take (handler : Handler m) (hs : s.finished = false)
    (readings : List Reading) :
    readings.foldlM (take handler) s =
      (fun answers => ⟨s.written ++ answers, readings.any Reading.isLast⟩) <$>
        answerLines handler (linesServed readings) := by
  obtain ⟨written, finished⟩ := s
  cases hs
  induction readings generalizing written with
  | nil => simp [linesServed, answerLines]
  | cons r readings ih =>
    have htake : take handler ⟨written, false⟩ r = _ := if_neg Bool.false_ne_true
    rw [List.foldlM_cons, htake]
    cases hlast : r.isLast with
    | true =>
      rw [answerNext_of_isLast handler hlast, pure_bind, pure_bind, foldlM_finished handler rfl]
      simp [linesServed, hlast, answerLines]
    | false =>
      obtain ⟨line, hline⟩ := Reading.exists_line hlast
      have hserved : linesServed (r :: readings) = line :: linesServed readings := by
        simp [linesServed, hlast, hline]
      rw [answerNext_of_line handler hline, hserved, answerLines]
      simp [ih, hlast]

theorem Service.run_eq (handler : Handler m) (readings : List Reading) :
    run handler readings =
      (fun answers => ⟨answers, readings.any Reading.isLast⟩) <$>
        answerLines handler (linesServed readings) :=
  foldlM_take handler rfl readings

theorem linesServed_cutLines (input : List UInt8) :
    linesServed ((cutLines input).map some ++ [none]) = readableLines input := by
  rw [readableLines, Text.readablePieces_eq, linesServed]
  induction cutLines input with
  | nil => rfl
  | cons p pieces ih =>
    rw [List.map_cons, List.cons_append, List.takeWhile_cons, List.takeWhile_cons]
    cases h : isText p with
    | true =>
      obtain ⟨line, hline⟩ := Option.isSome_iff_exists.mp h
      simpa [Reading.isLast, h, hline] using ih
    | false => simp [Reading.isLast, h]

/-! ## What is lost -/

theorem answerLines_append (handler : Handler m) (ls ls' : List String) :
    answerLines handler (ls ++ ls') = do
      let answers ← answerLines handler ls
      return answers ++ (← answerLines handler ls') := by
  simp [answerLines_eq]

theorem serve_withoutUndecodable (handler : Handler m) (input : List UInt8) :
    serve handler (withoutUndecodable input) = do
      let answers ← serve handler input
      return answers ++ (← answerLines handler (linesBeyond input)) := by
  rw [serve, Text.readableLines_withoutUndecodable, answerLines_append, serve]

theorem answerLines_of_blank (handler : Handler m) {ls : List String} (h : ∀ l ∈ ls, Blank l) :
    answerLines handler ls = pure [] := by
  have hnone : ls.filter (¬Blank ·) = [] := by simpa using h
  rw [answerLines_eq, hnone]
  simp

end

theorem length_answerLines (handler : Handler Id) (ls : List String) :
    (answerLines handler ls).length = (ls.filter (¬Blank ·)).length := by
  rw [answerLines_eq]
  change (List.map Answer.line (Id.run (List.mapM _ _))).length = _
  rw [List.length_map, List.idRun_mapM, List.length_map]

/-- Had the lines that are not UTF-8 been left out of a stream, and all others kept, those beyond
the first of them would be answered after the answers that there are. So none is lost if and only if
the lines beyond it are blank. Reading by reading, the service is finished once the end of the
stream or a line that is not UTF-8 is read and not before, whatever the other lines hold. -/
theorem serves_until_undecodable {m : Type → Type} [Monad m] [LawfulMonad m] (handler : Handler m)
    (input : List UInt8) :
    cutLines (withoutUndecodable input) = (cutLines input).filter isText ∧
    serve handler (withoutUndecodable input) = (do
      let answers ← serve handler input
      return answers ++ (← answerLines handler (linesBeyond input))) ∧
    ((∀ line ∈ linesBeyond input, Blank line) ↔
      ∀ (n : Type → Type) [Monad n] [LawfulMonad n] (other : Handler n),
        serve other (withoutUndecodable input) = serve other input) ∧
    (∀ readings, Service.run handler readings =
      (fun answers => ⟨answers, readings.any Reading.isLast⟩) <$>
        answerLines handler (linesServed readings)) ∧
    Service.run handler ((cutLines input).map some ++ [none]) =
      (fun answers => ⟨answers, true⟩) <$> serve handler input := by
  refine ⟨Text.cutLines_withoutUndecodable input, serve_withoutUndecodable handler input,
    ⟨fun hblank n _ _ other => ?_, fun hsame => ?_⟩, Service.run_eq handler, ?_⟩
  · rw [serve_withoutUndecodable, answerLines_of_blank other hblank]
    simp
  · have hlength := congrArg List.length (hsame Id fun _ params => .ok params)
    rw [serve, Text.readableLines_withoutUndecodable, length_answerLines, serve, length_answerLines,
      List.filter_append, List.length_append, Nat.add_eq_left, List.length_eq_zero_iff,
      List.filter_eq_nil_iff] at hlength
    simpa using hlength
  · rw [Service.run_eq, linesServed_cutLines, serve]
    simp [Reading.isLast]

/-- A byte that is in no text, and a line after it, which is not blank. -/
theorem serves_until_undecodable_lostLine :
    let handler : Handler Id := fun _ params => .ok params
    let input : List UInt8 := [0xFF, 10, 0x7B, 10]
    serve handler (withoutUndecodable input) = answerLines handler ["\x7b"] ∧
      serve handler input = [] ∧
      ¬(∀ (n : Type → Type) [Monad n] [LawfulMonad n] (other : Handler n),
        serve other (withoutUndecodable input) = serve other input) ∧
      Service.run handler [some ([0xFF], true)] = ⟨[], true⟩ := by
  intro handler input
  have hbeyond : linesBeyond input = ["\x7b"] := by decide
  obtain ⟨-, hserve, hblank, hrun, -⟩ := serves_until_undecodable handler input
  have hnone : serve handler input = [] := by
    have hlines : readableLines input = [] := by decide
    rw [serve, hlines]
    rfl
  refine ⟨?_, hnone, fun hsame => ?_, hrun [some ([0xFF], true)]⟩
  · rw [hserve, hnone, hbeyond]
    rfl
  · have hall := hblank.mpr hsame
    rw [hbeyond] at hall
    exact absurd (hall "\x7b" (List.mem_singleton_self _)) (by decide)

/-- Not every stream has the answers that it would have without the lines that are not UTF-8, and
not every service goes on until the end of its stream. -/
theorem not_forall_served_beyond :
    (¬∀ (handler : Handler Id) (input : List UInt8),
      (serve handler (withoutUndecodable input)).Sublist (serve handler input)) ∧
    ¬∀ (handler : Handler Id) (pieces : List Piece),
      (Service.run handler (pieces.map some)).finished = false := by
  refine ⟨fun h => ?_, fun h => ?_⟩
  · have hlength := (h (fun _ params => .ok params) [0xFF, 10, 0x7B, 10]).length_le
    have hlines : readableLines [0xFF, 10, 0x7B, 10] = [] := by decide
    have hbeyond : linesBeyond [0xFF, 10, 0x7B, 10] = ["\x7b"] := by decide
    rw [serve, length_answerLines, serve, length_answerLines, Text.readableLines_withoutUndecodable,
      hlines, hbeyond] at hlength
    exact absurd hlength (by decide)
  · cases h (fun _ params => .ok params) [([0xFF], true)]

end ConsoleLink.Rpc
