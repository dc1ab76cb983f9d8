import ConsoleLink.Config
import ConsoleLink.Proofs.Json.Agreement
import ConsoleLink.Proofs.Watch.Definitions

/-! # Watches as they are written

The definition of a watch is read straight from a text or from a value that is among the parameters
of a request. From an object both readings come to the same wire form, whatever is missing, of the
wrong type or unknown in it.
-/

namespace ConsoleLink

open Json (Decoder Writes Paired Alike)

namespace OffsetSpec

theorem agrees_decoder : decoder.Agrees := Decoder.agrees_picking "OffsetSpec" ofJson?

end OffsetSpec

namespace WatchSpec

/-! ## The record -/

theorem agrees_fields : ∀ f ∈ record.fields, f.decoder.Agrees := by
  have haddress := Decoder.agrees_text
  have hoffset := OffsetSpec.agrees_decoder.optional
  have hsize := Decoder.agrees_unsigned UInt32.size "u32"
  intro f hf
  simp only [record, List.mem_cons, List.not_mem_nil, or_false] at hf
  rcases hf with rfl | rfl | rfl
  · exact Decoder.agrees_field _ haddress
  · exact Decoder.agrees_field _ hoffset
  · exact Decoder.agrees_field _ hsize

theorem isRead_blank : ∀ f ∈ record.fields, f.isRead record.blank = false := by
  simp [record, Json.field]

theorem separate_record : record.Separate := by
  refine Json.Record.separate_of_pairwise ?_
  simp only [record, List.pairwise_cons, List.forall_mem_cons, List.not_mem_nil, false_implies,
    implies_true, and_true, List.Pairwise.nil]
  refine ⟨⟨?_, ?_⟩, ?_⟩
  all_goals exact Json.Record.apart_field (fun _ _ => rfl) (fun _ _ => rfl) fun _ _ _ => rfl

/-- A watch is read alike from an object and from the value of the object. -/
theorem agreesOn_members (fields : List (String × Json)) :
    decoder.AgreesOn (.members fields) :=
  Json.Record.agreesOn_members separate_record agrees_fields isRead_blank fields

/-- Whatever is read of an object has an address and a size. -/
theorem needed_of_ofValue {fields : List (String × Json)} {spec : WatchSpec}
    (h : decoder.ofValue (.members fields) = .ok spec) :
    ((Json.members fields).member? "address").isSome = true ∧
      ((Json.members fields).member? "size").isSome = true := by
  obtain ⟨b, hb, hfinish⟩ := bind_eq_ok.mp h
  obtain ⟨address, haddress, hrest⟩ :=
    bind_eq_ok.mp (Json.Record.finish_of_finishObject hfinish)
  obtain ⟨size, hsize, -⟩ := bind_eq_ok.mp hrest
  have hslot : ∀ {α : Type} {name : String} {slot : Option α} {a : α},
      Json.needed name slot = .ok a → slot.isSome = true := by
    intro α name slot a hneeded
    cases slot with
    | none => cases hneeded
    | some a => rfl
  constructor
  · exact Json.Record.isSome_find?_of_takeMembers (g := record.fields[0]) separate_record
      (List.getElem_mem _) hb rfl (hslot haddress)
  · exact Json.Record.isSome_find?_of_takeMembers (g := record.fields[2]) separate_record
      (List.getElem_mem _) hb rfl (hslot hsize)

end WatchSpec

namespace Command

/-- The check that an object has an address and a size refuses nothing that could be read. -/
theorem specOf_eq_ok_iff {name : String} {fields : List (String × Json)}
    {e : String × WatchSpec} :
    specOf name (.members fields) = .ok e ↔
      WatchSpec.decoder.entry (name, .members fields) = .ok e := by
  rw [Decoder.entry_eq_ok_iff]
  unfold specOf
  split
  case h_1 key hkey =>
    refine ⟨nofun, fun ⟨_, hvalue⟩ => ?_⟩
    obtain ⟨haddress, hsize⟩ := WatchSpec.needed_of_ofValue hvalue
    have hmissing := List.find?_some hkey
    have hmem := List.mem_of_find?_eq_some hkey
    simp only [List.mem_cons, List.not_mem_nil, or_false] at hmem
    rcases hmem with rfl | rfl
    · simp [Option.isSome_iff_ne_none.mp haddress] at hmissing
    · simp [Option.isSome_iff_ne_none.mp hsize] at hmissing
  case h_2 =>
    split
    case h_1 spec hspec =>
      rw [hspec, Except.ok.injEq, Except.ok.injEq, Prod.ext_iff]
      exact and_congr_left fun _ => eq_comm
    case h_2 fault hfault =>
      rw [hfault]
      exact ⟨nofun, fun h => nomatch h.2⟩

theorem mapM_specOf_eq_ok_iff {members : List (String × Json)} {specs : NameMap WatchSpec}
    (h : ∀ m ∈ members, ∃ fields, m.2 = .members fields) :
    members.mapM (fun e => specOf e.1 e.2) = .ok specs ↔
      members.mapM WatchSpec.decoder.entry = .ok specs := by
  refine mapM_eq_ok_congr fun m hm e => ?_
  obtain ⟨name, v⟩ := m
  obtain ⟨fields, rfl⟩ : ∃ fields, v = .members fields := h _ hm
  exact specOf_eq_ok_iff

end Command

/-- The watches of an object are read alike from its text and among the parameters of a request. -/
theorem readWatches_eq_ok_iff {levels : Nat} {text : String} {members : List (String × Json)}
    {specs : NameMap WatchSpec} (htext : Json.WritesText Paired levels text (.members members))
    (hle : levels ≤ Json.maxLevels) (hobjects : ∀ m ∈ members, ∃ fields, m.2 = .members fields) :
    Config.readWatches text = .ok specs ↔
      members.mapM (fun e => Command.specOf e.1 e.2) = .ok specs := by
  have hagrees : WatchSpec.decoder.nameMap.AgreesOn (.members members) := by
    refine Decoder.nameMap_agreesOn fun m hm => ?_
    obtain ⟨fields, hfields⟩ := hobjects m hm
    rw [hfields]
    exact WatchSpec.agreesOn_members fields
  rw [Config.readWatches, mapError_eq_ok, hagrees.decode_eq_ok_iff htext hle,
    Command.mapM_specOf_eq_ok_iff hobjects]
  exact Iff.rfl

end ConsoleLink
