import ConsoleLink.Json.Decoder
import ConsoleLink.Proofs.Json.Skipping

/-! # A shape read from a text and from the value of the text

Where a text is read both as a value and as something of a fixed shape, the two readings end at the
same character, and what was read of the shape is what the value has of it.
-/

namespace ConsoleLink.Json

variable {fuel levels : Nat} {cs rest left : List Char}

/-! ## Shapes -/

/-- Whatever can be read both as the shape and as a value is read up to the same character, and the
value is of the shape. -/
def Decoder.Faithful {α : Type} (d : Decoder α) : Prop :=
  ∀ {fuel levels : Nat} {cs rest left : List Char} {a : α} {v : Json},
    d.ofText levels cs = .ok (a, rest) → readValueWith fuel levels cs = .ok (v, left) →
    left = rest ∧ d.ofValue v = .ok a

theorem mistypedText_ne_ok {α : Type} {expected : String} {r : α} :
    mistypedText expected cs ≠ .ok r := by
  unfold mistypedText
  split
  · nofun
  · nofun
  · intro h
    obtain ⟨_, -, h⟩ := bind_eq_ok.mp h
    cases h

namespace Decoder

variable {α β : Type} {d : Decoder α}

theorem faithful_any : any.Faithful := by
  intro fuel levels cs rest left a v htext hvalue
  cases readValueWith_unique htext hvalue
  exact ⟨rfl, rfl⟩

theorem faithful_text : text.Faithful := by
  intro fuel levels cs rest left a v htext hvalue
  obtain ⟨fuel, rfl⟩ := fuel_of_readValue hvalue
  rw [readValueWith_ok_iff] at hvalue
  unfold text at htext
  dsimp only at htext
  split at htext
  · next after hquote =>
    rw [hquote] at hvalue
    cases hvalue with
    | text hread =>
      cases htext.symm.trans hread
      exact ⟨rfl, rfl⟩
    | digit hdigit => exact absurd hdigit (by decide)
  · exact absurd htext mistypedText_ne_ok

theorem Faithful.map (hd : d.Faithful) (f : α → β) : (d.map f).Faithful := by
  intro fuel levels cs rest left b v htext hvalue
  obtain ⟨⟨a, after⟩, htext, h⟩ := bind_eq_ok.mp htext
  cases h
  obtain ⟨hleft, ha⟩ := hd htext hvalue
  exact ⟨hleft, bind_eq_ok.mpr ⟨a, ha, rfl⟩⟩

end Decoder

/-! ## Records -/

namespace Record

variable {α β : Type} {r : Record α β} {first : Bool} {b : β} {a : α}

theorem finish_of_finishObject (h : r.finishObject b = .ok a) : r.finish b = .ok a := by
  unfold finishObject at h
  split at h
  · next hfinish =>
    cases h
    exact hfinish
  · cases h

/-- Reading a record from an object keeps step with reading the members of the object: what is so
before the first member, and stays so where a field is set beside its member and where another
member is passed over, is so in the end. -/
theorem readMembers_lockstep {M : β → NameMap Json → Prop}
    (hfaithful : ∀ f ∈ r.fields, f.decoder.Faithful)
    (hknown : ∀ {key f b done v set}, r.find? key = some f → f.isRead b = false →
      f.decoder.ofValue v = .ok set → M b done → M (set b) (NameMap.insert key v done))
    (hother : ∀ {key b done v}, r.find? key = none → M b done → M b (NameMap.insert key v done))
    {g : Nat} {done fields : NameMap Json} (hM : M b done)
    (htext : r.readMembers levels g first b cs = .ok (a, rest))
    (hvalue : readFieldsWith fuel levels first done cs = .ok (fields, left)) :
    left = rest ∧ ∃ b', M b' fields ∧ r.finish b' = .ok a := by
  -- both readings take one member at a time, so the induction is on the fuel of the record's
  induction g generalizing first b cs done fuel with
  | zero =>
    rw [readMembers] at htext
    cases htext
  | succ g ih =>
    obtain ⟨fuel, rfl⟩ := fuel_of_readFields hvalue
    rw [readMembers] at htext
    obtain ⟨next, hnext, htext⟩ := bind_eq_ok.mp htext
    rcases readFieldsWith_ok_iff.mp hvalue with
      ⟨after, hclose, hfields⟩ |
      ⟨inner, key, after, colon, v, left', hmore, hkey, hcolon, hv, hrest⟩
    · cases hclose.symm.trans hnext
      cases hfields
      obtain ⟨_, hfinish, htext⟩ := bind_eq_ok.mp htext
      cases htext
      exact ⟨rfl, b, hM, finish_of_finishObject hfinish⟩
    · cases hmore.symm.trans hnext
      obtain ⟨_, hkey', htext⟩ := bind_eq_ok.mp htext
      cases hkey.symm.trans hkey'
      dsimp only at htext
      split at htext
      · next hnone =>
        -- a key that is no field: one reading passes over the value that the other takes in
        obtain ⟨_, hcolon', htext⟩ := bind_eq_ok.mp htext
        cases hcolon.symm.trans hcolon'
        obtain ⟨_, hskip, htext⟩ := bind_eq_ok.mp htext
        cases skipValue_of_read hv hskip
        exact ih (hother hnone hM) htext hrest
      · next f hsome =>
        split_ifs at htext with hread
        · cases htext
        · obtain ⟨_, hcolon', htext⟩ := bind_eq_ok.mp htext
          cases hcolon.symm.trans hcolon'
          obtain ⟨⟨set, _⟩, hset, htext⟩ := bind_eq_ok.mp htext
          obtain ⟨rfl, hvset⟩ := hfaithful f (List.mem_of_find?_eq_some hsome) hset hv
          exact ih (hknown hsome (Bool.eq_false_of_not_eq_true hread) hvset hM) htext hrest

theorem finish_of_finishArray (h : r.finishArray b = .ok a) : r.finish b = .ok a := by
  unfold finishArray at h
  split at h
  · next hfinish =>
    cases h
    exact hfinish
  · cases h

theorem nextItem_of_endOfItems (first : Bool) (h : endOfItems cs = .ok rest) :
    nextItem first cs = .ok (.close rest) := by
  unfold endOfItems at h
  unfold nextItem
  generalize skipSpace cs = ds at h ⊢
  split at h
  · cases h
  · cases h
    rfl
  · split at h <;> cases h
  · cases h

/-- Reading a record from an array keeps step with reading the items of the array, of which there
are no more than fields. -/
theorem readElements_lockstep {fs : List (RecordField β)}
    (hfaithful : ∀ f ∈ fs, f.decoder.Faithful) {done items : List Json}
    (htext : r.readElements levels fs first b cs = .ok (a, rest))
    (hvalue : readItemsWith fuel levels first done cs = .ok (items, left)) :
    left = rest ∧ ∃ more b', items = done.reverse ++ more ∧
      takeElements fs b more = .ok (b', []) ∧ r.finish b' = .ok a := by
  induction fs generalizing first b cs done fuel with
  | nil =>
    obtain ⟨fuel, rfl⟩ := fuel_of_readItems hvalue
    rw [readElements] at htext
    obtain ⟨_, hfinish, htext⟩ := bind_eq_ok.mp htext
    obtain ⟨_, hend, htext⟩ := bind_eq_ok.mp htext
    cases htext
    have hclose := nextItem_of_endOfItems first hend
    cases (readItemsWith_ok_iff.mpr (.inl ⟨_, hclose, rfl⟩)).symm.trans hvalue
    exact ⟨rfl, [], b, (List.append_nil _).symm, rfl, finish_of_finishArray hfinish⟩
  | cons f fs ih =>
    rw [List.forall_mem_cons] at hfaithful
    obtain ⟨fuel, rfl⟩ := fuel_of_readItems hvalue
    rw [readElements] at htext
    obtain ⟨next, hnext, htext⟩ := bind_eq_ok.mp htext
    rcases readItemsWith_ok_iff.mp hvalue with
      ⟨after, hclose, hitems⟩ | ⟨item, v, left', hmore, hv, hrest⟩
    · cases hclose.symm.trans hnext
      cases hitems
      obtain ⟨_, hfinish, htext⟩ := bind_eq_ok.mp htext
      cases htext
      exact ⟨rfl, [], b, (List.append_nil _).symm, rfl, finish_of_finishArray hfinish⟩
    · cases hmore.symm.trans hnext
      obtain ⟨⟨set, _⟩, hset, htext⟩ := bind_eq_ok.mp htext
      obtain ⟨rfl, hvset⟩ := hfaithful.1 hset hv
      obtain ⟨hleft, more, b', hitems, htake, hfinish⟩ := ih hfaithful.2 htext hrest
      refine ⟨hleft, v :: more, b', ?_, bind_eq_ok.mpr ⟨set, hvset, htake⟩, hfinish⟩
      rw [hitems, List.reverse_cons, List.append_assoc]
      rfl

/-- A record that is read from a text is finished from what the value of the text has of it: from
the members of an object, or from the items of an array in the order of the fields. -/
theorem exists_draft {M : β → NameMap Json → Prop}
    (hfaithful : ∀ f ∈ r.fields, f.decoder.Faithful)
    (hknown : ∀ {key f b done v set}, r.find? key = some f → f.isRead b = false →
      f.decoder.ofValue v = .ok set → M b done → M (set b) (NameMap.insert key v done))
    (hother : ∀ {key b done v}, r.find? key = none → M b done → M b (NameMap.insert key v done))
    (hblank : M r.blank []) {v : Json} (htext : r.decoder.ofText levels cs = .ok (a, rest))
    (hvalue : readValueWith fuel levels cs = .ok (v, left)) :
    left = rest ∧ ((∃ fields b, v = .members fields ∧ M b fields ∧ r.finish b = .ok a) ∨
      ∃ items b, v = .array items ∧ takeElements r.fields r.blank items = .ok (b, []) ∧
        r.finish b = .ok a) := by
  obtain ⟨fuel, rfl⟩ := fuel_of_readValue hvalue
  rw [readValueWith_ok_iff] at hvalue
  unfold decoder at htext
  dsimp only at htext
  generalize skipSpace cs = ds at htext hvalue
  split at htext
  · cases hvalue with
    | digit hdigit => exact absurd hdigit (by decide)
    | members hfields =>
      obtain ⟨hleft, b, hM, hfinish⟩ :=
        readMembers_lockstep hfaithful hknown hother hblank htext hfields
      exact ⟨hleft, .inl ⟨_, b, rfl, hM, hfinish⟩⟩
  · cases hvalue with
    | digit hdigit => exact absurd hdigit (by decide)
    | array hitems =>
      obtain ⟨hleft, more, b, rfl, htake, hfinish⟩ :=
        readElements_lockstep hfaithful htext hitems
      exact ⟨hleft, .inr ⟨_, b, rfl, htake, hfinish⟩⟩
  · exact absurd htext mistypedText_ne_ok

end Record

end ConsoleLink.Json
