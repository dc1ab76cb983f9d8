import ConsoleLink.Proofs.Rpc.Calls
import ConsoleLink.Proofs.Rpc.ReadBack
import ConsoleLink.Proofs.Text.Listing
import ConsoleLink.Proofs.Text.Streams
import ConsoleLink.Rpc.Service

/-! # One answer on a line for one call on a line

A blank line has no answer, and whoever answers calls is not asked. Any other line has one, on one
line of its own whatever the texts in it hold. So the answers to a stream are as many as its lines
that are not blank, and in their order.
-/

namespace ConsoleLink

namespace Text

/-- Nothing but blanks is on a line. -/
def Blank (line : String) : Prop := ∀ c ∈ line.toList, isBlank c = true

instance (line : String) : Decidable (Blank line) :=
  List.decidableBAll (fun c : Char => isBlank c = true) line.toList

theorem isEmpty_trim_iff {line : String} : (trim line).isEmpty ↔ Blank line := by
  rw [trim, String.isEmpty_iff, String.ofList_eq_empty_iff, trimChars_eq_nil_iff]
  rfl

end Text

namespace Rpc

open Text (Blank Unbroken lines written)

variable {m : Type → Type} [Monad m] {line text : String} {call : Call}

theorem Answer.unbroken_line (a : Answer) : Unbroken a.line := by
  have hplain : Plain a.line.toList := by
    rw [line, Json.compactFields, String.toList_ofList]
    exact .cons (by decide) (Json.plain_renderFields .nil _)
  exact ⟨fun h => absurd (hplain _ h) (by decide), fun h => absurd (hplain _ h) (by decide)⟩

theorem answerLine_blank (handler : Handler m) (h : Blank line) :
    answerLine handler line = pure none := if_pos (Text.isEmpty_trim_iff.mpr h)

theorem answerText_of_error (handler : Handler m) {e : Json.Error}
    (h : Call.decoder.decode text = .error e) :
    answerText handler text = pure (.failure .null (-32700) ("Parse error: " ++ e.message)) := by
  rw [answerText, h]
  rfl

theorem answerText_of_ne (handler : Handler m) (h : Call.decoder.decode text = .ok call)
    (hversion : call.version ≠ "2.0") :
    answerText handler text = pure (.failure call.id (-32600) "Invalid JSON-RPC version") := by
  rw [answerText, h]
  exact if_neg hversion

variable [LawfulMonad m]

theorem answerLine_of_not_blank (handler : Handler m) (h : ¬Blank line) :
    answerLine handler line =
      (fun answer => some answer.line) <$> answerText handler (Text.trim line) := by
  have hsome : answerLine handler line = do
      return some (← answerText handler (Text.trim line)).line :=
    if_neg (Text.isEmpty_trim_iff.not.mpr h)
  rw [hsome, bind_pure_comp]

theorem answerText_of_eq (handler : Handler m) (h : Call.decoder.decode text = .ok call)
    (hversion : call.version = "2.0") :
    answerText handler text = Answer.ofResult call.id <$> handler call.method call.params := by
  rw [answerText, h]
  exact (if_pos hversion).trans (bind_pure_comp _ _)

theorem answerLines_eq (handler : Handler m) (ls : List String) :
    answerLines handler ls = List.map Answer.line <$>
      (ls.filter (¬Blank ·)).mapM fun line => answerText handler (Text.trim line) := by
  induction ls with
  | nil => simp [answerLines]
  | cons line ls ih =>
    rw [answerLines, ih]
    by_cases h : Blank line
    · simp [answerLine_blank handler h, h]
    · simp [answerLine_of_not_blank handler h, h]

/-- A blank line has no answer and is not handled. Any other has one, which is one line: the failure
of a text that is no call, or of a call of another version, neither of which is handled, or what the
handler, called once with the method and the parameters of the call, gave. The answer to a call has
the call's id. The line is the text of an object with the version, the id and either the result or
the error; it is read as this object if the id and the result are regular. A stream is answered line
by line. -/
theorem serves_line_by_line (handler : Handler m) :
    (∀ line, Blank line → answerLine handler line = pure none) ∧
    (∀ line, ¬Blank line → answerLine handler line =
      (fun answer => some answer.line) <$> answerText handler (Text.trim line)) ∧
    (∀ text e, Call.decoder.decode text = .error e →
      answerText handler text = pure (.failure .null (-32700) ("Parse error: " ++ e.message))) ∧
    (∀ text call, Call.decoder.decode text = .ok call →
      (call.version ≠ "2.0" →
        answerText handler text = pure (.failure call.id (-32600) "Invalid JSON-RPC version")) ∧
      (call.version = "2.0" → answerText handler text =
        (fun
          | .ok result => .success call.id result
          | .error e => .failure call.id e.code e.message) <$> handler call.method call.params) ∧
      ∀ v, Json.parse text = .ok v →
        part? v "jsonrpc" 0 = some (.text call.version) ∧
          part? v "method" 1 = some (.text call.method) ∧
          call.params = (part? v "params" 2).getD .null ∧
          call.id = (part? v "id" 3).getD .null) ∧
    (∀ id result, (Answer.success id result).line =
      "\x7b\"jsonrpc\":\"2.0\",\"result\":" ++ result.compact ++ ",\"id\":" ++ id.compact ++
        "\x7d") ∧
    (∀ id code message, (Answer.failure id code message).line =
      "\x7b\"jsonrpc\":\"2.0\",\"error\":\x7b\"code\":" ++ (Json.number (.ofInt code)).compact ++
        ",\"message\":" ++ (Json.text message).compact ++ "\x7d,\"id\":" ++ id.compact ++
        "\x7d") ∧
    (∀ levels id, levels < Json.maxLevels → id.Regular levels →
      (∀ result, result.Regular levels → Json.parse (Answer.success id result).line =
        .ok (.members [("id", id), ("jsonrpc", .text "2.0"), ("result", result)])) ∧
      ∀ code message, Json.parse (Answer.failure id code message).line =
        .ok (.members
          [("error", .members [("code", .number (.ofInt code)), ("message", .text message)]),
            ("id", id), ("jsonrpc", .text "2.0")])) ∧
    (∀ answer : Answer, Unbroken answer.line) ∧
    (∀ input, serve handler (Text.utf8Bytes input) = List.map Answer.line <$>
      ((lines input).filter (¬Blank ·)).mapM fun line => answerText handler (Text.trim line)) ∧
    ∀ answers : List Answer,
      lines (written (answers.map Answer.line)) = answers.map Answer.line := by
  refine ⟨fun _ => answerLine_blank handler, fun _ => answerLine_of_not_blank handler,
    fun _ _ => answerText_of_error handler, fun text call hdecode => ?_, Answer.line_success,
    Answer.line_failure, fun levels id hlevels hid => ?_, Answer.unbroken_line, fun input => ?_,
    fun answers => ?_⟩
  · refine ⟨answerText_of_ne handler hdecode, fun hversion => ?_, fun v => ?_⟩
    · rw [answerText_of_eq handler hdecode hversion]
      refine congrArg (· <$> _) (funext fun result => ?_)
      cases result <;> rfl
    · exact Call.parts_of_decode hdecode
  · refine ⟨fun result hresult => ?_, fun code message => ?_⟩
    · rw [← Answer.object_fields_success]
      refine Answer.parse_line hid ?_ hlevels
      rintro _ ⟨⟩
      exact hresult
    · rw [← Answer.object_fields_failure]
      exact Answer.parse_line (a := .failure id code message) hid nofun hlevels
  · rw [serve, Text.readableLines_utf8Bytes, answerLines_eq]
  · refine Text.lines_written fun l hl => ?_
    obtain ⟨answer, -, rfl⟩ := List.mem_map.mp hl
    exact answer.unbroken_line

theorem serves_line_by_line_logged :
    let handler : Handler (StateM (List String)) := fun method params log =>
      (.ok params, method :: log)
    answerLine handler " \t" = pure none ∧
      (answerText handler
        "\x7b\"jsonrpc\":\"2.0\",\"method\":\"echo\",\"id\":\"a\"\x7d").run [] =
        (.success (.text "a") .null, ["echo"]) ∧
      answerText handler "\x7b" =
        pure (.failure .null (-32700) "Parse error: EOF while parsing an object") ∧
      (Answer.success (.text "a") .null).line =
        "\x7b\"jsonrpc\":\"2.0\",\"result\":null,\"id\":\"a\"\x7d" ∧
      Json.parse (Answer.success (.text "a") .null).line =
        .ok (.members [("id", .text "a"), ("jsonrpc", .text "2.0"), ("result", .null)]) := by
  intro handler
  obtain ⟨hblank, -, herror, hcall, hline, -, hparse, -⟩ := serves_line_by_line handler
  have hdecode : Call.decoder.decode
      "\x7b\"jsonrpc\":\"2.0\",\"method\":\"echo\",\"id\":\"a\"\x7d" =
      .ok ⟨"2.0", "echo", .null, .text "a"⟩ := by
    have hchars :
        ("\x7b\"jsonrpc\":\"2.0\",\"method\":\"echo\",\"id\":\"a\"\x7d" : String).toList =
        ['\x7b', '"', 'j', 's', 'o', 'n', 'r', 'p', 'c', '"', ':', '"', '2', '.', '0', '"', ',',
          '"', 'm', 'e', 't', 'h', 'o', 'd', '"', ':', '"', 'e', 'c', 'h', 'o', '"', ',',
          '"', 'i', 'd', '"', ':', '"', 'a', '"', '\x7d'] := by simp
    rw [Json.Decoder.decode, hchars]
    rfl
  have hcut : Call.decoder.decode "\x7b" = .error (.badText .endInObject) := by
    have hchars : ("\x7b" : String).toList = ['\x7b'] := by simp
    rw [Json.Decoder.decode, hchars]
    rfl
  refine ⟨hblank _ (by decide), ?_, herror _ _ hcut, ?_,
    (hparse 1 _ (by decide) (.text _)).1 _ .null⟩
  · rw [(hcall _ _ hdecode).2.1 rfl]
    rfl
  · exact (hline _ _).trans (by decide)

end Rpc

end ConsoleLink
