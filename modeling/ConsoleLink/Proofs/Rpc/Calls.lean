import ConsoleLink.Proofs.Json.Decoding
import ConsoleLink.Rpc.Message

/-! # What a call is read as

A call may be written as an object or as the array of its fields in order. Either way each field is
the part of the text's value that it names, and what may be left out is `null` where it is.
-/

namespace ConsoleLink.Rpc

open Json (Decoder Record)

/-- The part of a value under a name or, in an array, at a place. -/
def part? (v : Json) (name : String) (place : Nat) : Option Json :=
  match v with
  | .members fields => NameMap.find? name fields
  | .array items => items[place]?
  | _ => none

namespace Call

/-- What has been read of a call is what its members so far say. -/
structure Draft.Matches (b : Draft) (done : NameMap Json) : Prop where
  version : NameMap.find? "jsonrpc" done = b.version.map .text
  method : NameMap.find? "method" done = b.method.map .text
  params : NameMap.find? "params" done = b.params
  id : NameMap.find? "id" done = b.id

variable {b : Draft} {done : NameMap Json} {call : Call} {s : String} {v : Json}

theorem faithful_of_mem : ∀ f ∈ record.fields, f.decoder.Faithful := by
  simp only [record, List.forall_mem_cons, Json.field]
  exact ⟨Decoder.faithful_text.map _, Decoder.faithful_text.map _, Decoder.faithful_any.map _,
    Decoder.faithful_any.map _, List.forall_mem_nil _⟩

theorem Draft.matches_blank : Draft.Matches record.blank [] := ⟨rfl, rfl, rfl, rfl⟩

theorem text_ofValue {t : String} : Decoder.text.ofValue v = .ok t ↔ v = .text t := by
  unfold Decoder.text
  cases v <;> simp [Json.mistyped, Json.misshaped]

theorem Draft.Matches.other {key : String} (hkey : record.find? key = none) (h : b.Matches done) :
    b.Matches (NameMap.insert key v done) := by
  have hne : ∀ f ∈ record.fields, f.name ≠ key := by simpa [Record.find?] using hkey
  simp only [record, List.forall_mem_cons, Json.field] at hne
  obtain ⟨hversion, hmethod, hparams, hid, -⟩ := hne
  constructor
  · rw [NameMap.find?_insert, if_neg hversion, h.version]
  · rw [NameMap.find?_insert, if_neg hmethod, h.method]
  · rw [NameMap.find?_insert, if_neg hparams, h.params]
  · rw [NameMap.find?_insert, if_neg hid, h.id]

theorem Draft.Matches.known {key : String} {f : Json.RecordField Draft} {set : Draft → Draft}
    (hkey : record.find? key = some f) (hset : f.decoder.ofValue v = .ok set) (h : b.Matches done) :
    (set b).Matches (NameMap.insert key v done) := by
  have hname : f.name = key := by simpa using List.find?_some hkey
  have hmem := List.mem_of_find?_eq_some hkey
  subst hname
  simp only [record, List.mem_cons, List.not_mem_nil, or_false] at hmem
  rcases hmem with rfl | rfl | rfl | rfl
  all_goals
    obtain ⟨a, ha, hset⟩ := bind_eq_ok.mp hset
    cases hset
  case inl | inr.inl =>
    obtain rfl := text_ofValue.mp ha
    constructor <;>
      simp [NameMap.find?_insert, Json.field, h.version, h.method, h.params, h.id]
  case inr.inr.inl | inr.inr.inr =>
    cases ha
    constructor <;>
      simp [NameMap.find?_insert, Json.field, h.version, h.method, h.params, h.id]

/-- A finished call has everything that was read of it, and `null` for what may be left out. -/
theorem finish_eq_ok (h : record.finish b = .ok call) :
    b.version = some call.version ∧ b.method = some call.method ∧
      call.params = b.params.getD .null ∧ call.id = b.id.getD .null := by
  obtain ⟨version, method, params, id⟩ := b
  cases version with
  | none => cases h
  | some version =>
    cases method with
    | none => cases h
    | some method =>
      cases h
      exact ⟨rfl, rfl, rfl, rfl⟩

theorem of_takeElements_field {α β : Type} {name : String} {d : Decoder α} {get : β → Option α}
    {set : α → β → β} {fs : List (Json.RecordField β)} {b : β} {vs : List Json}
    {r : β × List Json}
    (h : Record.takeElements (Json.field name d get set :: fs) b (v :: vs) = .ok r) :
    ∃ a, d.ofValue v = .ok a ∧ Record.takeElements fs (set a b) vs = .ok r := by
  obtain ⟨_, hset, h⟩ := bind_eq_ok.mp h
  obtain ⟨a, ha, hset⟩ := bind_eq_ok.mp hset
  cases hset
  exact ⟨a, ha, h⟩

/-- What was read of an array stands at the places of the fields. -/
theorem places_of_takeElements {items : List Json}
    (h : Record.takeElements record.fields record.blank items = .ok (b, [])) :
    items[0]? = b.version.map .text ∧ items[1]? = b.method.map .text ∧ items[2]? = b.params ∧
      items[3]? = b.id := by
  cases items with
  | nil =>
    cases h
    exact ⟨rfl, rfl, rfl, rfl⟩
  | cons first items =>
  obtain ⟨version, hversion, h₁⟩ := of_takeElements_field h
  rw [text_ofValue.mp hversion]
  cases items with
  | nil =>
    cases h₁
    exact ⟨rfl, rfl, rfl, rfl⟩
  | cons second items =>
  obtain ⟨method, hmethod, h₂⟩ := of_takeElements_field h₁
  rw [text_ofValue.mp hmethod]
  cases items with
  | nil =>
    cases h₂
    exact ⟨rfl, rfl, rfl, rfl⟩
  | cons third items =>
  obtain ⟨params, hparams, h₃⟩ := of_takeElements_field h₂
  rw [Except.ok.inj hparams]
  cases items with
  | nil =>
    cases h₃
    exact ⟨rfl, rfl, rfl, rfl⟩
  | cons fourth items =>
  obtain ⟨id, hid, h₄⟩ := of_takeElements_field h₃
  rw [Except.ok.inj hid]
  cases h₄
  exact ⟨rfl, rfl, rfl, rfl⟩

/-- A call that a text is decoded as has its fields from the parts of the text's value. -/
theorem parts_of_decode (hdecode : decoder.decode s = .ok call) (hparse : Json.parse s = .ok v) :
    part? v "jsonrpc" 0 = some (.text call.version) ∧
      part? v "method" 1 = some (.text call.method) ∧
      call.params = (part? v "params" 2).getD .null ∧ call.id = (part? v "id" 3).getD .null := by
  obtain ⟨⟨_, rest⟩, htext, h⟩ := bind_eq_ok.mp hdecode
  obtain ⟨_, -, h⟩ := bind_eq_ok.mp h
  cases h
  obtain ⟨⟨_, left⟩, hvalue, h⟩ := bind_eq_ok.mp hparse
  obtain ⟨_, -, h⟩ := bind_eq_ok.mp h
  cases h
  obtain ⟨-, ⟨fields, b, rfl, hb, hfinish⟩ | ⟨items, b, rfl, htake, hfinish⟩⟩ :=
    Record.exists_draft faithful_of_mem (fun hkey _ hset h => h.known hkey hset)
      (fun hkey h => h.other hkey) Draft.matches_blank htext hvalue
  · obtain ⟨hversion, hmethod, hparams, hid⟩ := finish_eq_ok hfinish
    refine ⟨?_, ?_, ?_, ?_⟩
    · exact hb.version.trans (by rw [hversion]; rfl)
    · exact hb.method.trans (by rw [hmethod]; rfl)
    · rw [hparams, ← hb.params]; rfl
    · rw [hid, ← hb.id]; rfl
  · obtain ⟨hversion, hmethod, hparams, hid⟩ := finish_eq_ok hfinish
    obtain ⟨hversion', hmethod', hparams', hid'⟩ := places_of_takeElements htake
    refine ⟨?_, ?_, ?_, ?_⟩
    · exact hversion'.trans (by rw [hversion]; rfl)
    · exact hmethod'.trans (by rw [hmethod]; rfl)
    · rw [hparams, ← hparams']; rfl
    · rw [hid, ← hid']; rfl

end Call

end ConsoleLink.Rpc
