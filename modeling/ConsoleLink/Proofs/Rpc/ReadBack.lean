import ConsoleLink.Rpc.Message
import ConsoleLink.Proofs.Json.Agreement
import ConsoleLink.Proofs.Json.Compact
import ConsoleLink.Proofs.Json.Printing

/-! # Answers read back

The line that an answer is written on is the text of an object with the members of the answer. What
is read of it is the answer, whatever it holds, except for one: that a call succeeded with `null` is
written, but it is read as an answer with neither a result nor an error.
-/

namespace ConsoleLink.Rpc

open Json (Decoder Paired WritesText)

/-! ## Failures -/

namespace Failure

/-- The code of the failure has 32 bits. -/
def Fits (f : Failure) : Prop := -0x80000000 ≤ f.code ∧ f.code ≤ 0x7FFFFFFF

theorem toJson_eq (f : Failure) : f.toJson =
    .members [("code", .number (.ofInt f.code)), ("message", .text f.message)] := by
  have hkeys : ["code", "message"].Pairwise (· < ·) := by decide
  exact congrArg Json.members (NameMap.Ordered.ofList_eq (NameMap.ordered_iff.mpr hkeys))

theorem separate_record : record.Separate := by
  refine Json.Record.separate_of_pairwise (List.pairwise_pair.mpr ?_)
  exact Json.Record.apart_field (fun _ _ => rfl) (fun _ _ => rfl) fun _ _ _ => rfl

theorem agrees_fields : ∀ f ∈ record.fields, f.decoder.Agrees := by
  intro f hf
  simp only [record, List.mem_cons, List.not_mem_nil, or_false] at hf
  rcases hf with rfl | rfl
  · exact Decoder.agrees_field _ (Decoder.agrees_integer _ _ _)
  · exact Decoder.agrees_field _ Decoder.agrees_text

theorem agreesOn_toJson (f : Failure) : decoder.AgreesOn f.toJson :=
  Json.Record.agreesOn_members separate_record agrees_fields (by simp [record, Json.field]) _

theorem regular_toJson (f : Failure) : f.toJson.Regular 1 := by
  refine Json.regular_object (by simp) (List.forall_mem_cons.mpr ⟨Json.regular_ofInt f.code, ?_⟩)
  exact List.forall_mem_singleton.mpr (.text f.message)

theorem ofValue_toJson {f : Failure} (h : f.Fits) : decoder.ofValue f.toJson = .ok f := by
  obtain ⟨hlow, hhigh⟩ := h
  have hvalue : (Number.ofInt f.code).toInt? = some f.code :=
    Json.toInt?_ofInt (by omega) (by simp only [UInt64.size]; omega)
  have hcode := Decoder.boundedInt_of_toInt? hvalue hlow hhigh "i32"
  refine (Json.Record.ofValue_object_eq_ok_iff separate_record (by simp)).mpr ?_
  rw [Json.Record.takeMembers_known rfl (Decoder.ofValue_field "code" hcode),
    Json.Record.takeMembers_known rfl (Decoder.ofValue_field "message" rfl),
    Json.Record.takeMembers]
  rfl

end Failure

/-! ## Answers -/

namespace Answer

theorem separate_record : record.Separate := by
  refine Json.Record.separate_of_pairwise ?_
  simp only [record, List.pairwise_cons, List.forall_mem_cons, List.not_mem_nil, false_implies,
    implies_true, and_true, List.Pairwise.nil]
  refine ⟨⟨?_, ?_, ?_⟩, ⟨?_, ?_⟩, ?_⟩
  all_goals exact Json.Record.apart_field (fun _ _ => rfl) (fun _ _ => rfl) fun _ _ _ => rfl

variable {a : Answer} {levels : Nat}

theorem mem_fields_iff {m : String × Json} :
    m ∈ a.fields ↔ m = ("jsonrpc", .text a.version) ∨ (∃ v, a.result = some v ∧ m = ("result", v)) ∨
      (∃ f, a.error = some f ∧ m = ("error", f.toJson)) ∨ m = ("id", a.id) := by
  simp [fields, eq_comm]

theorem nodup_keys (a : Answer) : (a.fields.map Prod.fst).Nodup := by
  obtain ⟨version, result, error, id⟩ := a
  cases result <;> cases error <;> simp [fields]

theorem regular_fields (hid : a.id.Regular levels) (hresult : ∀ v ∈ a.result, v.Regular levels)
    (hlevels : levels ≠ 0) : ∀ m ∈ a.fields, m.2.Regular levels := by
  intro m hm
  obtain rfl | ⟨v, hv, rfl⟩ | ⟨f, -, rfl⟩ | rfl := mem_fields_iff.mp hm
  · exact .text _
  · exact hresult v hv
  · exact f.regular_toJson.mono (Nat.one_le_iff_ne_zero.mpr hlevels)
  · exact hid

/-- Each member is read alike from the line and from its value. -/
theorem agreesOn_fields :
    ∀ m ∈ a.fields, ∀ f, record.find? m.1 = some f → f.decoder.AgreesOn m.2 := by
  intro m hm f hf
  obtain rfl | ⟨v, -, rfl⟩ | ⟨e, -, rfl⟩ | rfl := mem_fields_iff.mp hm <;> cases hf
  · exact Decoder.agreesOn_field _ (Decoder.agrees_text _)
  · exact Decoder.agreesOn_field _ (Decoder.agrees_any.optional v)
  · exact Decoder.agreesOn_field _ (Decoder.AgreesOn.optional fun _ => e.agreesOn_toJson)
  · exact Decoder.agreesOn_field _ (Decoder.agrees_any _)

theorem writesText_line (h : ∀ m ∈ a.fields, m.2.Regular levels) :
    WritesText Paired (levels + 1) a.line (.object a.fields) :=
  Json.writesText_compactFields a.nodup_keys h

theorem line_success (id result : Json) : (success id result).line =
    "\x7b\"jsonrpc\":\"2.0\",\"result\":" ++ result.compact ++ ",\"id\":" ++ id.compact ++
      "\x7d" := by
  apply String.toList_inj.mp
  rw [line, Json.compactFields, String.toList_ofList]
  simp [success, fields, Rpc.version, Json.compact, Json.renderFields, Json.renderBefore_eq,
    Json.render_text, Json.renderText, Json.escapedChar]

theorem line_failure (id : Json) (code : Int) (message : String) :
    (failure id code message).line =
      "\x7b\"jsonrpc\":\"2.0\",\"error\":\x7b\"code\":" ++ (Json.number (.ofInt code)).compact ++
        ",\"message\":" ++ (Json.text message).compact ++ "\x7d,\"id\":" ++ id.compact ++
        "\x7d" := by
  apply String.toList_inj.mp
  rw [line, Json.compactFields, String.toList_ofList]
  have herror (rest : List Char) : Json.renderBefore rest (Failure.mk code message).toJson =
      '\x7b' :: Json.renderFields rest
        [("code", .number (.ofInt code)), ("message", .text message)] := by
    rw [Failure.toJson_eq]
    rfl
  simp [failure, fields, Rpc.version, Json.compact, Json.renderFields, herror, Json.renderBefore_eq,
    Json.render_text, Json.renderText, Json.escapedChar]

/-- The members of a successful answer as an object has them. -/
theorem object_fields_success (id result : Json) : Json.object (success id result).fields =
    .members [("id", id), ("jsonrpc", .text "2.0"), ("result", result)] := by
  have hkeys : ["id", "jsonrpc", "result"].Pairwise (· < ·) := by decide
  have hordered : NameMap.Ordered
      [("id", id), ("jsonrpc", .text "2.0"), ("result", result)] := NameMap.ordered_iff.mpr hkeys
  exact congrArg Json.members
    (hordered.ofList_of_perm (List.perm_append_singleton ("id", id) [_, _]))

theorem object_fields_failure (id : Json) (code : Int) (message : String) :
    Json.object (failure id code message).fields =
      .members [("error", .members [("code", .number (.ofInt code)), ("message", .text message)]),
        ("id", id), ("jsonrpc", .text "2.0")] := by
  have hkeys : ["error", "id", "jsonrpc"].Pairwise (· < ·) := by decide
  have hordered : NameMap.Ordered
      [("error", (Failure.mk code message).toJson), ("id", id), ("jsonrpc", .text "2.0")] :=
    NameMap.ordered_iff.mpr hkeys
  rw [← Failure.toJson_eq ⟨code, message⟩]
  exact congrArg Json.members
    (hordered.ofList_of_perm (List.perm_append_singleton ("jsonrpc", _) [_, _]).symm)

/-- The line of an answer writes the object of its members. -/
theorem parse_line (hid : a.id.Regular levels) (hresult : ∀ v ∈ a.result, v.Regular levels)
    (hlevels : levels < Json.maxLevels) : Json.parse a.line = .ok (.object a.fields) := by
  have hle : levels ≤ Json.maxLevels - 1 := Nat.le_sub_one_of_lt hlevels
  have hfields := regular_fields (hid.mono hle) (fun v hv => (hresult v hv).mono hle) (by decide)
  exact (writesText_line hfields).parse (by decide)

/-- The line is read as its members are taken. -/
theorem decode_line_eq_ok_iff {b : Answer} (h : ∀ m ∈ a.fields, m.2.Regular levels)
    (hlevels : levels < Json.maxLevels) :
    decoder.decode a.line = .ok b ↔
      (record.takeMembers record.blank a.fields >>= record.finishObject) = .ok b := by
  have hagrees : decoder.AgreesOn (.object a.fields) :=
    Json.Record.agreesOn_members_of_agreesOn separate_record (by simp [record, Json.field])
      fun m hm => agreesOn_fields m ((NameMap.ofList_perm a.nodup_keys).mem_iff.mp hm)
  rw [hagrees.decode_eq_ok_iff (writesText_line h) hlevels]
  exact Json.Record.ofValue_object_eq_ok_iff separate_record a.nodup_keys

/-- A result that is read of a value: `null` is none. -/
def resultOf? : Json → Option Json
  | .null => none
  | v => some v

/-- The answer that is read back. -/
def readBack (a : Answer) : Answer := { a with result := a.result.bind resultOf? }

theorem ofValue_result (v : Json) : Decoder.any.optional.ofValue v = .ok (resultOf? v) := by
  cases v <;> rfl

theorem takeMembers_fields (a : Answer) (herror : ∀ f ∈ a.error, f.Fits) :
    (record.takeMembers record.blank a.fields >>= record.finishObject) = .ok a.readBack := by
  have hresult : ∀ v ∈ a.result, Decoder.any.optional.ofValue v = .ok (resultOf? v) :=
    fun v _ => ofValue_result v
  have hfailure : ∀ f ∈ a.error, Failure.decoder.optional.ofValue f.toJson = .ok (some f) :=
    fun f hf => bind_of_ok (Failure.ofValue_toJson (herror f hf)) _
  rw [fields, List.append_assoc, List.append_assoc, List.singleton_append,
    Json.Record.takeMembers_known rfl (Decoder.ofValue_field "jsonrpc" rfl),
    Json.Record.takeMembers_optional rfl fun v hv => Decoder.ofValue_field "result" (hresult v hv),
    Json.Record.takeMembers_optional rfl fun f hf => Decoder.ofValue_field "error" (hfailure f hf),
    Json.Record.takeMembers_known rfl (Decoder.ofValue_field "id" rfl), Json.Record.takeMembers]
  -- what was taken is finished in the same way whether a member was left out or not
  obtain ⟨version, result, error, id⟩ := a
  cases result <;> cases error <;> rfl

/-- The line of an answer is read as the answer, with `null` as a result read as none. -/
theorem decode_line (a : Answer) (h : ∀ m ∈ a.fields, m.2.Regular levels)
    (hlevels : levels < Json.maxLevels) (herror : ∀ f ∈ a.error, f.Fits) :
    decoder.decode a.line = .ok a.readBack :=
  (decode_line_eq_ok_iff h hlevels).mpr (takeMembers_fields a herror)

/-- A result or an error is told, and not both. -/
def Decided (a : Answer) : Prop := a.result.isSome ≠ a.error.isSome

theorem readBack_success_eq_iff (id result : Json) :
    (success id result).readBack = success id result ↔ result ≠ .null := by
  cases result <;> simp [readBack, success, resultOf?]

theorem decided_readBack_success_iff (id result : Json) :
    (success id result).readBack.Decided ↔ result ≠ .null := by
  cases result <;> simp [Decided, readBack, success, resultOf?]

theorem decode_success {id result : Json} (hlevels : levels < Json.maxLevels)
    (hid : id.Regular levels) (hresult : result.Regular levels) :
    decoder.decode (success id result).line = .ok (success id result).readBack := by
  have hle : levels ≤ Json.maxLevels - 1 := Nat.le_sub_one_of_lt hlevels
  refine decode_line _ (regular_fields (hid.mono hle) ?_ (by decide)) (by decide) nofun
  rintro _ ⟨⟩
  exact hresult.mono hle

theorem decode_failure {id : Json} {code : Int} (message : String)
    (hlevels : levels < Json.maxLevels) (hid : id.Regular levels)
    (hcode : -0x80000000 ≤ code ∧ code ≤ 0x7FFFFFFF) :
    decoder.decode (failure id code message).line = .ok (failure id code message) := by
  have hle : levels ≤ Json.maxLevels - 1 := Nat.le_sub_one_of_lt hlevels
  refine decode_line (failure id code message)
    (regular_fields (hid.mono hle) nofun (by decide)) (by decide) ?_
  rintro _ ⟨⟩
  exact hcode

/-- An answer that tells an error is read back from its line, whatever its id, code and message are.
What is read from the line of an answer that tells a result is the same answer, and one that tells
either a result or an error, if and only if the result is not `null`. With `null` it tells
neither. -/
theorem answers_read_back {id result : Json} {code : Int} (hlevels : levels < Json.maxLevels)
    (hid : id.Regular levels) (hresult : result.Regular levels)
    (hcode : -0x80000000 ≤ code ∧ code ≤ 0x7FFFFFFF) (message : String) :
    decoder.decode (failure id code message).line = .ok (failure id code message) ∧
    (failure id code message).Decided ∧
    (∃ a, decoder.decode (success id result).line = .ok a ∧
      (a = success id result ↔ result ≠ .null) ∧ (a.Decided ↔ result ≠ .null)) ∧
    decoder.decode (success id .null).line = .ok { id := id } :=
  ⟨decode_failure message hlevels hid hcode, nofun,
    ⟨_, decode_success hlevels hid hresult, readBack_success_eq_iff id result,
      decided_readBack_success_iff id result⟩, decode_success hlevels hid .null⟩

/-- An array that holds `null` is a result that is read back. -/
theorem answers_read_back_nested :
    let id := Json.text "\"\n"
    let result := Json.array [.null, .members [("a", .number (.negative 0))]]
    decoder.decode (success id result).line = .ok (success id result) ∧
      decoder.decode (failure id (-32603) "\t").line = .ok (failure id (-32603) "\t") := by
  intro id result
  have hmember : (Json.members [("a", .number (.negative 0))]).Regular 1 :=
    .members (List.pairwise_singleton _ _) (List.forall_mem_singleton.mpr (.negative 0))
  have hresult : result.Regular 2 :=
    .array (List.forall_mem_cons.mpr ⟨.null, List.forall_mem_singleton.mpr hmember⟩)
  have hcode : (-0x80000000 : Int) ≤ -32603 ∧ (-32603 : Int) ≤ 0x7FFFFFFF := by decide
  obtain ⟨hfailure, -, ⟨a, hread, hsame, -⟩, -⟩ :=
    answers_read_back (by decide) (.text _ : id.Regular 2) hresult hcode "\t"
  rw [hsame.mpr nofun] at hread
  exact ⟨hread, hfailure⟩

/-- That the call 1 succeeded with `null` is not read back. -/
theorem not_forall_success_read_back :
    ¬∀ id result : Json, id.Regular 119 → result.Regular 119 →
      decoder.decode (success id result).line = .ok (success id result) := by
  intro h
  have hid : (Json.number (.natural 1)).Regular 119 := .natural 1
  have hread := (decode_success (by decide) hid .null).symm.trans (h _ .null hid .null)
  exact (readBack_success_eq_iff _ .null).mp (Except.ok.inj hread) rfl

end Answer

end ConsoleLink.Rpc
