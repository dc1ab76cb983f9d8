import ConsoleLink.Proofs.Json.Decoding
import ConsoleLink.Proofs.Json.Writing

/-! # A shape read from a text or from the value that the text writes

Where a text writes a value, reading a shape straight from the text and reading it from the value
come to the same: both give the same, or both give nothing. For a record this takes an object with
every key once, since one reading takes the members as they are written and the other in the order
of their keys.
-/

namespace ConsoleLink.Json

variable {levels lv : Nat} {cs rest : List Char}

/-- What is read of a text, up to a character, is what is read of a value, or neither is read. -/
inductive Alike {α : Type} (rest : List Char) :
    Except Error (α × List Char) → Except Error α → Prop where
  | ok (a : α) : Alike rest (.ok (a, rest)) (.ok a)
  | error (e e' : Error) : Alike rest (.error e) (.error e')

namespace Alike

variable {α β : Type} {x : Except Error (α × List Char)} {y y' : Except Error α}

/-- It does not matter with which fault nothing is read. -/
theorem congr (h : Alike rest x y) (hiff : ∀ a, y = .ok a ↔ y' = .ok a) : Alike rest x y' := by
  cases h with
  | ok a => rw [(hiff a).mp rfl]; exact .ok a
  | error e e' =>
    cases hy : y' with
    | ok a => cases (hiff a).mpr hy
    | error e'' => exact .error e e''

/-- What goes on with what was read goes on alike. -/
theorem bind {mid : List Char} {f : α × List Char → Except Error (β × List Char)}
    {g : α → Except Error β} (h : Alike mid x y)
    (hnext : ∀ a, y = .ok a → Alike rest (f (a, mid)) (g a)) :
    Alike rest (x >>= f) (y >>= g) := by
  cases h with
  | ok a => exact hnext a rfl
  | error e e' => exact .error e e'

theorem of_same (x : Except Error α) : Alike rest (x >>= fun a => pure (a, rest)) x := by
  cases x with
  | ok a => exact .ok a
  | error e => exact .error e e

end Alike

theorem alike_mistyped {α : Type} (expected : String) (cs rest : List Char) (v : Json) :
    Alike rest (mistypedText expected cs : Except Error (α × List Char)) (mistyped expected v) := by
  cases h : (mistypedText expected cs : Except Error (α × List Char)) with
  | ok r => exact absurd h mistypedText_ne_ok
  | error e => exact .error e _

/-! ## Shapes -/

namespace Decoder

variable {α β : Type} {d : Decoder α}

/-- The shape is read alike from every text that writes the value and from the value. -/
def AgreesOn (d : Decoder α) (v : Json) : Prop :=
  ∀ {levels lv : Nat} {cs rest : List Char}, Writes Paired levels (.value v) cs rest →
    levels ≤ lv → Alike rest (d.ofText lv cs) (d.ofValue v)

def Agrees (d : Decoder α) : Prop := ∀ v, d.AgreesOn v

theorem AgreesOn.map {v : Json} (hd : d.AgreesOn v) (f : α → β) : (d.map f).AgreesOn v :=
  fun h hle => (hd h hle).bind fun a _ => .ok (f a)

theorem text_ofText_other {c : Char} {ds : List Char} (h : skipSpace cs = c :: ds) (hc : c ≠ '"') :
    text.ofText lv cs = mistypedText "a string" (c :: ds) := by
  unfold text
  dsimp only
  rw [h]
  split
  · next heq => exact absurd (List.cons.inj heq).1 hc
  · rfl

theorem agreesOn_field {get : β → Option α} {set : α → β → β} {v : Json} (name : String)
    (hd : d.AgreesOn v) : (field name d get set).decoder.AgreesOn v := AgreesOn.map hd set

theorem agrees_field {get : β → Option α} {set : α → β → β} (name : String) (hd : d.Agrees) :
    (field name d get set).decoder.Agrees := fun v => agreesOn_field name (hd v)

theorem ofValue_field {get : β → Option α} {set : α → β → β} {v : Json} {a : α} (name : String)
    (h : d.ofValue v = .ok a) : (field name d get set).decoder.ofValue v = .ok (set a) :=
  bind_of_ok h _

/-- A field is put in its place whatever its value is. -/
theorem set_of_field {name : String} {get : β → Option α} {set : α → β → β} {v : Json}
    {put : β → β} (h : (field name d get set).decoder.ofValue v = .ok put) :
    ∃ a, put = set a := by
  obtain ⟨a, -, ha⟩ := bind_eq_ok.mp h
  cases ha
  exact ⟨a, rfl⟩

theorem agrees_text : text.Agrees := by
  intro v levels lv cs rest h _
  cases h with
  | @text _ _ ds _ _ h hs =>
    have hread : text.ofText lv cs = readText ds := by
      unfold text
      dsimp only
      rw [h]
      rfl
    rw [hread, hs.readText]
    exact .ok _
  | null h | yes h | no h | negative h | array h | object h =>
    exact text_ofText_other h (by decide) ▸ alike_mistyped _ _ _ _
  | number hn =>
    obtain ⟨c, ds, hcs, hdigit⟩ := hn.exists_digit
    have hc : c ≠ '"' := by
      rintro rfl
      exact absurd hdigit (by decide)
    exact text_ofText_other hcs hc ▸ alike_mistyped _ _ _ _

/-- A number that was read counts if it is whole and within bounds. -/
theorem alike_boundedInt {read : Reading Number} {n : Number} (low high : Int) (expected : String)
    (h : read = .ok (n, rest)) :
    Alike rest (do
      let (n, rest) ← read
      return (← boundedInt low high expected n, rest)) (boundedInt low high expected n) := by
  rw [h]
  exact .of_same _

theorem boundedInt_of_toInt? {n : Number} {low high i : Int} (hn : n.toInt? = some i)
    (hlow : low ≤ i) (hhigh : i ≤ high) (expected : String) :
    boundedInt low high expected n = .ok i := by
  rw [boundedInt, hn]
  simp [hlow, hhigh]

theorem integer_ofText_other {low high : Int} {expected : String} {c : Char} {ds : List Char}
    (h : skipSpace cs = c :: ds) (hc : c ≠ '-' ∧ (digit? c).isSome = false) :
    (integer low high expected).ofText lv cs = mistypedText expected (c :: ds) := by
  unfold integer
  dsimp only
  rw [h]
  split
  · next heq => exact absurd (List.cons.inj heq).1 hc.1
  · rw [startsWithDigit_cons, hc.2]
    rfl

theorem agrees_integer (low high : Int) (expected : String) :
    (integer low high expected).Agrees := by
  intro v levels lv cs rest h _
  cases h with
  | negative h hn =>
    unfold integer
    dsimp only
    rw [h]
    exact alike_boundedInt low high expected hn.readNumber
  | number hn =>
    obtain ⟨c, ds, hcs, hdigit⟩ := hn.exists_digit
    unfold integer
    dsimp only
    rw [hcs] at hn ⊢
    split
    · next heq =>
      cases heq
      exact absurd hdigit (by decide)
    · rw [startsWithDigit_cons, if_pos hdigit]
      exact alike_boundedInt low high expected hn.readNumber
  | null h | yes h | no h | text h | array h | object h =>
    exact integer_ofText_other h (by decide) ▸ alike_mistyped _ _ _ _

theorem agrees_unsigned (size : Nat) (name : String) : (unsigned size name).Agrees :=
  fun v => AgreesOn.map (agrees_integer 0 (size - 1 : Nat) name v) Int.toNat

theorem optional_ofText_other {c : Char} {ds : List Char} (h : skipSpace cs = c :: ds)
    (hc : c ≠ 'n') :
    d.optional.ofText lv cs = (d.map some).ofText lv (skipSpace cs) := by
  unfold optional
  dsimp only
  split
  · next heq =>
    rw [h] at heq
    exact absurd (List.cons.inj heq).1 hc
  · rfl

theorem optional_ofValue_other {v : Json} (hv : v ≠ .null) :
    d.optional.ofValue v = (d.map some).ofValue v := by
  unfold optional
  dsimp only
  split
  · exact absurd rfl hv
  · rfl

theorem AgreesOn.optional {v : Json} (hd : v ≠ .null → d.AgreesOn v) : d.optional.AgreesOn v := by
  intro levels lv cs rest h hle
  have hother : ∀ {c ds}, skipSpace cs = c :: ds → c ≠ 'n' → v ≠ .null →
      Alike rest (d.optional.ofText lv cs) (d.optional.ofValue v) := by
    intro c ds hstart hc hv
    rw [optional_ofText_other hstart hc, optional_ofValue_other hv]
    exact AgreesOn.map (hd hv) some h.trimmed hle
  cases h with
  | null h =>
    have hread : d.optional.ofText lv cs = .ok (none, rest) := by
      unfold Decoder.optional
      dsimp only
      rw [h]
      exact bind_of_ok (expectChars_append ['u', 'l', 'l'] rest) _
    rw [hread]
    exact .ok none
  | yes h | no h | negative h | text h | array h | object h =>
    exact hother h (by decide) nofun
  | number hn =>
    obtain ⟨c, ds, hcs, hdigit⟩ := hn.exists_digit
    refine hother hcs ?_ nofun
    rintro rfl
    exact absurd hdigit (by decide)

theorem Agrees.optional (hd : d.Agrees) : d.optional.Agrees :=
  fun v => AgreesOn.optional fun _ => hd v

theorem agrees_any : any.Agrees := by
  intro v levels lv cs rest h hle
  unfold any
  dsimp only
  rw [h.readValue hle]
  exact .ok v

theorem agrees_picking (type : String) (pick : Json → Option α) : (picking type pick).Agrees := by
  intro v levels lv cs rest h hle
  unfold picking
  dsimp only
  rw [h.readValue hle]
  exact .of_same _

end Decoder

/-! ## Records -/

namespace Record

variable {α β : Type} {r : Record α β} {b b' : β} {ms ms' : List (String × Json)}

/-- Fields of a record do not get into each other's way. -/
structure Separate (r : Record α β) : Prop where
  kept : ∀ f ∈ r.fields, ∀ g ∈ r.fields, f.name ≠ g.name → ∀ (v : Json) (set : β → β),
    f.decoder.ofValue v = .ok set → ∀ b, g.isRead (set b) = g.isRead b
  commute : ∀ f ∈ r.fields, ∀ g ∈ r.fields, f.name ≠ g.name → ∀ (v w : Json) (set set' : β → β),
    f.decoder.ofValue v = .ok set → g.decoder.ofValue w = .ok set' →
    ∀ b, set (set' b) = set' (set b)

theorem name_of_find? {key : String} {f : RecordField β} (h : r.find? key = some f) :
    f.name = key := by
  simpa using List.find?_some h

theorem mem_of_find? {key : String} {f : RecordField β} (h : r.find? key = some f) :
    f ∈ r.fields := List.mem_of_find?_eq_some h

/-- Two fields do not get into each other's way. -/
structure Apart (f g : RecordField β) : Prop where
  kept : ∀ (v : Json) (set : β → β), f.decoder.ofValue v = .ok set →
    ∀ b, g.isRead (set b) = g.isRead b
  kept_back : ∀ (v : Json) (set : β → β), g.decoder.ofValue v = .ok set →
    ∀ b, f.isRead (set b) = f.isRead b
  commute : ∀ (v w : Json) (set set' : β → β), f.decoder.ofValue v = .ok set →
    g.decoder.ofValue w = .ok set' → ∀ b, set (set' b) = set' (set b)

instance : Std.Symm (@Apart β) where
  symm _ _ h :=
    { kept := h.kept_back
      kept_back := h.kept
      commute := fun v w set set' hset hset' b => (h.commute w v set' set hset' hset b).symm }

/-- Fields in different places of what is read do not get into each other's way. -/
theorem apart_field {γ δ : Type} {name name' : String} {d : Decoder γ} {d' : Decoder δ}
    {get : β → Option γ} {set : γ → β → β} {get' : β → Option δ} {set' : δ → β → β}
    (hkept : ∀ a b, get' (set a b) = get' b) (hkept' : ∀ a b, get (set' a b) = get b)
    (hcommute : ∀ a a' b, set a (set' a' b) = set' a' (set a b)) :
    Apart (field name d get set) (field name' d' get' set') where
  kept v put hput b := by
    obtain ⟨a, rfl⟩ := Decoder.set_of_field hput
    exact congrArg Option.isSome (hkept a b)
  kept_back v put hput b := by
    obtain ⟨a, rfl⟩ := Decoder.set_of_field hput
    exact congrArg Option.isSome (hkept' a b)
  commute v w put put' hput hput' b := by
    obtain ⟨a, rfl⟩ := Decoder.set_of_field hput
    obtain ⟨a', rfl⟩ := Decoder.set_of_field hput'
    exact hcommute a a' b

theorem separate_of_pairwise (h : r.fields.Pairwise Apart) : r.Separate := by
  have hapart : ∀ f ∈ r.fields, ∀ g ∈ r.fields, f.name ≠ g.name → Apart f g :=
    fun f hf g hg hnames => h.forall hf hg fun heq => hnames (heq ▸ rfl)
  exact ⟨fun f hf g hg hnames => (hapart f hf g hg hnames).kept,
    fun f hf g hg hnames => (hapart f hf g hg hnames).commute⟩

/-! ### The order of the members -/

/-- What one member does. -/
def takeMember (r : Record α β) (b : β) (m : String × Json) : Except Error β :=
  match r.find? m.1 with
  | none => .ok b
  | some f => do
    let set ← f.decoder.ofValue m.2
    return set b

theorem takeMembers_cons (b : β) (m : String × Json) (ms : List (String × Json)) :
    r.takeMembers b (m :: ms) = r.takeMember b m >>= fun b => r.takeMembers b ms := by
  obtain ⟨key, v⟩ := m
  unfold takeMember
  rw [takeMembers]
  dsimp only
  cases r.find? key with
  | none => rfl
  | some f =>
    dsimp only
    cases f.decoder.ofValue v with
    | ok set => rfl
    | error e => rfl

theorem takeMember_eq_ok_iff {m : String × Json} :
    r.takeMember b m = .ok b' ↔ r.find? m.1 = none ∧ b' = b ∨
      ∃ f set, r.find? m.1 = some f ∧ f.decoder.ofValue m.2 = .ok set ∧ b' = set b := by
  unfold takeMember
  cases r.find? m.1 with
  | none => simp [eq_comm]
  | some f =>
    constructor
    · intro h
      obtain ⟨set, hset, h⟩ := bind_eq_ok.mp h
      cases h
      exact .inr ⟨f, set, rfl, hset, rfl⟩
    · rintro (⟨h, -⟩ | ⟨g, set, hg, hset, rfl⟩)
      · cases h
      · cases hg
        exact bind_eq_ok.mpr ⟨set, hset, rfl⟩

/-- A member that is a field is put in its place. -/
theorem takeMembers_known {key : String} {v : Json} {f : RecordField β} {set : β → β}
    (hfind : r.find? key = some f) (hvalue : f.decoder.ofValue v = .ok set) :
    r.takeMembers b ((key, v) :: ms) = r.takeMembers (set b) ms := by
  rw [takeMembers, hfind]
  exact bind_of_ok hvalue _

/-- A member that may be left out is put in its place if it is there. -/
theorem takeMembers_optional {γ : Type} {key : String} {o : Option γ} {toValue : γ → Json}
    {f : RecordField β} {set : γ → β → β} (hfind : r.find? key = some f)
    (hvalue : ∀ c ∈ o, f.decoder.ofValue (toValue c) = .ok (set c)) :
    r.takeMembers b ((o.map fun c => (key, toValue c)).toList ++ ms) =
      r.takeMembers (o.elim b fun c => set c b) ms := by
  cases o with
  | none => rfl
  | some c => exact takeMembers_known hfind (hvalue c rfl)

theorem takeMember_comm (hr : r.Separate) {m m' : String × Json} {c : β} (hkeys : m.1 ≠ m'.1)
    (h : r.takeMember b m = .ok b') (h' : r.takeMember b' m' = .ok c) :
    ∃ d, r.takeMember b m' = .ok d ∧ r.takeMember d m = .ok c := by
  simp only [takeMember_eq_ok_iff] at h h' ⊢
  rcases h with ⟨hnone, rfl⟩ | ⟨f, set, hf, hset, rfl⟩
  · exact ⟨c, h', .inl ⟨hnone, rfl⟩⟩
  · rcases h' with ⟨hnone, rfl⟩ | ⟨g, set', hg, hset', rfl⟩
    · exact ⟨b, .inl ⟨hnone, rfl⟩, .inr ⟨f, set, hf, hset, rfl⟩⟩
    · have hnames : f.name ≠ g.name := by rwa [name_of_find? hf, name_of_find? hg]
      exact ⟨set' b, .inr ⟨g, set', hg, hset', rfl⟩, .inr ⟨f, set, hf, hset,
        (hr.commute f (mem_of_find? hf) g (mem_of_find? hg) hnames _ _ _ _ hset hset' b).symm⟩⟩

/-- A field is read only where its name is a key. -/
theorem isRead_of_takeMembers (hr : r.Separate) {g : RecordField β} (hg : g ∈ r.fields)
    (hname : ∀ m ∈ ms, m.1 ≠ g.name) (h : r.takeMembers b ms = .ok b') :
    g.isRead b' = g.isRead b := by
  induction ms generalizing b with
  | nil =>
    cases h
    rfl
  | cons m ms ih =>
    obtain ⟨hm, hms⟩ := List.forall_mem_cons.mp hname
    rw [takeMembers_cons] at h
    obtain ⟨c, hc, h⟩ := bind_eq_ok.mp h
    rw [ih hms h]
    rcases takeMember_eq_ok_iff.mp hc with ⟨-, rfl⟩ | ⟨f, set, hf, hset, rfl⟩
    · rfl
    · have hnames : f.name ≠ g.name := by rwa [name_of_find? hf]
      exact hr.kept f (mem_of_find? hf) g hg hnames m.2 set hset b

theorem isSome_find?_of_takeMembers (hr : r.Separate) {g : RecordField β} (hg : g ∈ r.fields)
    (h : r.takeMembers b ms = .ok b') (hb : g.isRead b = false) (hb' : g.isRead b' = true) :
    (NameMap.find? g.name ms).isSome = true := by
  by_contra hnone
  have hname : ∀ m ∈ ms, m.1 ≠ g.name := fun m hm heq =>
    hnone (NameMap.mem_keys_iff.mp (List.mem_map.mpr ⟨m, hm, heq⟩))
  rw [isRead_of_takeMembers hr hg hname h, hb] at hb'
  cases hb'

/-- The members of an object may be taken in any order. -/
theorem takeMembers_perm (hr : r.Separate) (hperm : ms.Perm ms') :
    (ms.map Prod.fst).Nodup →
      ∀ b b', r.takeMembers b ms = .ok b' → r.takeMembers b ms' = .ok b' := by
  induction hperm with
  | nil => exact fun _ _ _ h => h
  | cons m _ ih =>
    intro hkeys b b' h
    rw [takeMembers_cons] at h ⊢
    obtain ⟨c, hc, h⟩ := bind_eq_ok.mp h
    exact bind_eq_ok.mpr ⟨c, hc, ih (List.nodup_cons.mp hkeys).2 c b' h⟩
  | swap m m' ms =>
    intro hkeys b b' h
    have hne : m'.1 ≠ m.1 := fun heq => (List.nodup_cons.mp hkeys).1 (heq ▸ List.mem_cons_self)
    rw [takeMembers_cons] at h ⊢
    obtain ⟨c, hc, h⟩ := bind_eq_ok.mp h
    rw [takeMembers_cons] at h
    obtain ⟨c', hc', h⟩ := bind_eq_ok.mp h
    obtain ⟨d, hd, hd'⟩ := takeMember_comm hr hne hc hc'
    refine bind_eq_ok.mpr ⟨d, hd, ?_⟩
    rw [takeMembers_cons]
    exact bind_eq_ok.mpr ⟨c', hd', h⟩
  | trans hperm _ ih ih' =>
    intro hkeys b b' h
    exact ih' ((hperm.map Prod.fst).nodup_iff.mp hkeys) b b' (ih hkeys b b' h)

/-! ### Members in a text -/

section

variable {fuel : Nat} {first : Bool} {inner colon es mid : List Char} {key : String}

theorem readMembers_close (hnext : nextKey first cs = .ok (.close rest)) :
    r.readMembers lv (fuel + 1) first b cs = r.finishObject b >>= fun a => pure (a, rest) := by
  rw [readMembers]
  exact bind_of_ok hnext _

/-- What comes of the members once a key was read. -/
theorem readMembers_key (hnext : nextKey first cs = .ok (.more inner))
    (hkey : readText inner = .ok (key, colon)) (hcolon : afterColon colon = .ok es) :
    r.readMembers lv (fuel + 1) first b cs =
      match r.find? key with
      | none => skipValue es >>= r.readMembers lv fuel false b
      | some f =>
        if f.isRead b then misshaped (.duplicateField f.name)
        else f.decoder.ofText lv es >>= fun set => r.readMembers lv fuel false (set.1 b) set.2 := by
  rw [readMembers]
  refine (bind_of_ok hnext _).trans ((bind_of_ok hkey _).trans ?_)
  dsimp only
  cases r.find? key with
  | none => exact bind_of_ok hcolon _
  | some f =>
    dsimp only
    split_ifs
    · rfl
    · exact bind_of_ok hcolon _

end

/-- A record keeps step with the members of the object that it is read from. -/
theorem readMembers_alike (hr : r.Separate) {after : Bool} {fuel : Nat}
    (hagrees : ∀ m ∈ ms, ∀ f, r.find? m.1 = some f → f.decoder.AgreesOn m.2)
    (h : Writes Paired levels (.members after ms) cs rest) (hle : levels ≤ lv)
    (hkeys : (ms.map Prod.fst).Nodup)
    (hfresh : ∀ m ∈ ms, ∀ f, r.find? m.1 = some f → f.isRead b = false)
    (hfuel : cs.length < fuel) :
    Alike rest (r.readMembers lv fuel (!after) b cs) (r.takeMembers b ms >>= r.finishObject) := by
  induction ms generalizing after cs b fuel with
  | nil =>
    obtain ⟨fuel, rfl⟩ := Nat.exists_eq_succ_of_ne_zero (by omega : fuel ≠ 0)
    cases h with
    | noMember h =>
      rw [Nat.succ_eq_add_one, readMembers_close (nextKey_close _ h)]
      exact .of_same _
  | cons m ms ih =>
    obtain ⟨fuel, rfl⟩ := Nat.exists_eq_succ_of_ne_zero (by omega : fuel ≠ 0)
    obtain ⟨key, v⟩ := m
    obtain ⟨hkey, hkeys⟩ := List.nodup_cons.mp hkeys
    obtain ⟨hfirst, hfresh⟩ := List.forall_mem_cons.mp hfresh
    obtain ⟨hagreesFirst, hagrees⟩ := List.forall_mem_cons.mp hagrees
    cases h with
    | member h hquote htext hcolon hv hms =>
      rw [Nat.succ_eq_add_one, readMembers_key (nextKey_more h hquote) htext.readText
        (afterColon_of hcolon), takeMembers]
      have hds := h.length
      have hinner := length_of_skipSpace hquote
      have hcolonLength := length_skipText htext.1.1
      have hes := length_of_skipSpace hcolon
      have hmid := hv.length
      cases hfind : r.find? key with
      | none =>
        dsimp only
        rw [hv.skipValue]
        exact ih hagrees hms hkeys hfresh (by omega)
      | some f =>
        dsimp only
        rw [hfirst f hfind, bind_assoc]
        refine (hagreesFirst f hfind hv hle).bind fun set hset => ?_
        refine ih hagrees hms hkeys (fun m hm g hg => ?_) (by omega)
        have hnames : f.name ≠ g.name := by
          rw [name_of_find? hfind, name_of_find? hg]
          exact fun heq => hkey (List.mem_map.mpr ⟨m, hm, heq.symm⟩)
        rw [hr.kept f (mem_of_find? hfind) g (mem_of_find? hg) hnames v set hset b]
        exact hfresh m hm g hg

/-- The members of an object are taken as if they stood in the order they were given in. -/
theorem ofValue_object_eq_ok_iff (hr : r.Separate) (hkeys : (ms.map Prod.fst).Nodup) {a : α} :
    r.decoder.ofValue (.object ms) = .ok a ↔
      (r.takeMembers r.blank ms >>= r.finishObject) = .ok a := by
  have hperm := NameMap.ofList_perm hkeys
  have hsorted : ((NameMap.ofList ms).map Prod.fst).Nodup :=
    (hperm.map Prod.fst).nodup_iff.mpr hkeys
  change (r.takeMembers r.blank (NameMap.ofList ms) >>= r.finishObject) = .ok a ↔ _
  rw [bind_eq_ok, bind_eq_ok]
  refine exists_congr fun b => and_congr_left fun _ => ?_
  exact ⟨takeMembers_perm hr hperm hsorted _ _, takeMembers_perm hr hperm.symm hkeys _ _⟩

/-- A record is read alike from an object and from the value of the object, if each of its fields is
read alike from the member that it is read from. -/
theorem agreesOn_members_of_agreesOn (hr : r.Separate)
    (hblank : ∀ f ∈ r.fields, f.isRead r.blank = false) {fields : List (String × Json)}
    (hagrees : ∀ m ∈ fields, ∀ f, r.find? m.1 = some f → f.decoder.AgreesOn m.2) :
    r.decoder.AgreesOn (.members fields) := by
  intro levels lv cs rest h hle
  generalize hv : Json.members fields = v at h ⊢
  cases h with
  | @object levels _ ds _ ms h hms hkeys =>
    obtain ⟨lv, rfl⟩ := Nat.exists_eq_succ_of_ne_zero (by omega : lv ≠ 0)
    have hfields : fields = NameMap.ofList ms := Json.members.inj hv
    have hread : r.decoder.ofText (lv + 1) cs =
        r.readMembers lv (ds.length + 1) true r.blank ds := by
      unfold decoder
      dsimp only
      rw [h]
      rfl
    rw [Nat.succ_eq_add_one, hread]
    have hwritten : ∀ m ∈ ms, ∀ f, r.find? m.1 = some f → f.decoder.AgreesOn m.2 :=
      fun m hm => hagrees m (hfields ▸ (NameMap.ofList_perm hkeys).mem_iff.mpr hm)
    have halike := readMembers_alike hr hwritten hms (Nat.le_of_succ_le_succ hle) hkeys
      (fun m _ f hf => hblank f (mem_of_find? hf)) (Nat.lt_succ_self ds.length)
    exact halike.congr fun a => (ofValue_object_eq_ok_iff hr hkeys).symm
  | _ => cases hv

/-- A record is read alike from an object and from the value of the object. -/
theorem agreesOn_members (hr : r.Separate) (hagrees : ∀ f ∈ r.fields, f.decoder.Agrees)
    (hblank : ∀ f ∈ r.fields, f.isRead r.blank = false) (fields : List (String × Json)) :
    r.decoder.AgreesOn (.members fields) :=
  agreesOn_members_of_agreesOn hr hblank fun m _ f hf => hagrees f (mem_of_find? hf) m.2

end Record

/-! ## Maps -/

section

variable {α : Type} {d : Decoder α} {ms : List (String × Json)}

/-- One member of a map. -/
def Decoder.entry (d : Decoder α) (m : String × Json) : Except Error (String × α) := do
  return (m.1, ← d.ofValue m.2)

theorem Decoder.entry_eq_ok_iff {m : String × Json} {e : String × α} :
    d.entry m = .ok e ↔ e.1 = m.1 ∧ d.ofValue m.2 = .ok e.2 := by
  unfold entry
  rw [bind_eq_ok]
  constructor
  · rintro ⟨a, ha, h⟩
    cases h
    exact ⟨rfl, ha⟩
  · rintro ⟨hname, hvalue⟩
    exact ⟨e.2, hvalue, by rw [← hname]; rfl⟩

/-- A map keeps step with the members of the object that it is read from. -/
theorem readEntries_alike {after : Bool} {fuel : Nat} {done : NameMap α}
    (hagrees : ∀ m ∈ ms, d.AgreesOn m.2) (h : Writes Paired levels (.members after ms) cs rest)
    (hle : levels ≤ lv) (hfuel : cs.length < fuel) :
    Alike rest (readEntries d lv fuel (!after) done cs) (do
      let entries ← ms.mapM d.entry
      return entries.foldl (fun m e => NameMap.insert e.1 e.2 m) done) := by
  induction ms generalizing after cs done fuel with
  | nil =>
    obtain ⟨fuel, rfl⟩ := Nat.exists_eq_succ_of_ne_zero (by omega : fuel ≠ 0)
    cases h with
    | noMember h =>
      rw [Nat.succ_eq_add_one, readEntries]
      exact (bind_of_ok (nextKey_close _ h) _) ▸ .ok done
  | cons m ms ih =>
    obtain ⟨fuel, rfl⟩ := Nat.exists_eq_succ_of_ne_zero (by omega : fuel ≠ 0)
    obtain ⟨key, v⟩ := m
    obtain ⟨hfirst, hagrees⟩ := List.forall_mem_cons.mp hagrees
    cases h with
    | @member _ _ _ _ inner colon es mid _ _ _ _ h hquote htext hcolon hv hms =>
      have hds := h.length
      have hinner := length_of_skipSpace hquote
      have hcolonLength := length_skipText htext.1.1
      have hes := length_of_skipSpace hcolon
      have hmid := hv.length
      have hread : readEntries d lv (fuel + 1) (!after) done cs = d.ofText lv es >>= fun a =>
          readEntries d lv fuel false (NameMap.insert key a.1 done) a.2 := by
        rw [readEntries]
        refine (bind_of_ok (nextKey_more h hquote) _).trans
          ((bind_of_ok htext.readText _).trans ?_)
        exact bind_of_ok (afterColon_of hcolon) _
      have hvalues : (do
          let entries ← List.mapM d.entry ((key, v) :: ms)
          return entries.foldl (fun m e => NameMap.insert e.1 e.2 m) done) =
          d.ofValue v >>= fun a => do
            let entries ← ms.mapM d.entry
            return entries.foldl (fun m e => NameMap.insert e.1 e.2 m)
              (NameMap.insert key a done) := by
        simp only [List.mapM_cons, Decoder.entry, bind_assoc, pure_bind, List.foldl_cons]
      rw [Nat.succ_eq_add_one, hread, hvalues]
      exact (hfirst hv hle).bind fun a _ => ih hagrees hms (by omega)

/-- What is read of an object is a map of what is read of its members. -/
def ReadAs (d : Decoder α) : List (String × Json) → List (String × α) → Prop :=
  List.Forall₂ fun m e => d.entry m = .ok e

theorem ReadAs.insert {done : NameMap Json} {read : NameMap α} {m : String × Json} {e : String × α}
    (h : ReadAs d done read) (hm : d.entry m = .ok e) :
    ReadAs d (NameMap.insert m.1 m.2 done) (NameMap.insert e.1 e.2 read) := by
  obtain ⟨key, v⟩ := m
  obtain ⟨name, a⟩ := e
  obtain rfl : name = key := (Decoder.entry_eq_ok_iff.mp hm).1
  induction h with
  | nil => exact .cons hm .nil
  | @cons m' e' done read hm' hrest ih =>
    obtain ⟨key', v'⟩ := m'
    obtain ⟨name', a'⟩ := e'
    obtain rfl : name' = key' := (Decoder.entry_eq_ok_iff.mp hm').1
    -- both maps have the same keys, so the new entry goes to the same place
    unfold NameMap.insert
    dsimp only at ih ⊢
    split_ifs
    · exact .cons hm (.cons hm' hrest)
    · exact .cons hm hrest
    · exact .cons hm' ih

theorem ReadAs.foldl_insert {done : NameMap Json} {read : NameMap α} {entries : List (String × α)}
    (hdone : ReadAs d done read) (h : ReadAs d ms entries) :
    ReadAs d (ms.foldl (fun m e => NameMap.insert e.1 e.2 m) done)
      (entries.foldl (fun m e => NameMap.insert e.1 e.2 m) read) := by
  induction h generalizing done read with
  | nil => exact hdone
  | cons hm _ ih => exact ih (hdone.insert hm)

/-- A map is read alike from an object and from the value of the object, if its members are. -/
theorem Decoder.nameMap_agreesOn {fields : List (String × Json)}
    (hagrees : ∀ m ∈ fields, d.AgreesOn m.2) : d.nameMap.AgreesOn (.members fields) := by
  intro levels lv cs rest h hle
  generalize hv : Json.members fields = v at h ⊢
  cases h with
  | @object levels _ ds _ ms h hms hkeys =>
    obtain ⟨lv, rfl⟩ := Nat.exists_eq_succ_of_ne_zero (by omega : lv ≠ 0)
    have hfields : fields = NameMap.ofList ms := Json.members.inj hv
    have hperm : fields.Perm ms := hfields ▸ NameMap.ofList_perm hkeys
    have hread : d.nameMap.ofText (lv + 1) cs =
        readEntries d lv (ds.length + 1) true [] ds := by
      unfold nameMap
      dsimp only
      rw [h]
      rfl
    rw [Nat.succ_eq_add_one, hread]
    have halike : Alike rest (readEntries d lv (ds.length + 1) true [] ds) (do
        let entries ← ms.mapM d.entry
        return NameMap.ofList entries) :=
      readEntries_alike (fun m hm => hagrees m (hperm.mem_iff.mpr hm)) hms
        (Nat.le_of_succ_le_succ hle) (Nat.lt_succ_self ds.length)
    refine halike.congr fun entries => ?_
    change _ ↔ (NameMap.ofList ms).mapM d.entry = .ok entries
    rw [bind_eq_ok]
    constructor
    · rintro ⟨read, hread, hentries⟩
      cases hentries
      exact mapM_eq_ok_iff.mpr (ReadAs.foldl_insert .nil (mapM_eq_ok_iff.mp hread))
    · intro hsorted
      rcases mapM_cases d.entry ms with ⟨read, hread, hall⟩ | ⟨e, -, good, bad, more, hms, -, hbad⟩
      · have hagain := mapM_eq_ok_iff.mpr (ReadAs.foldl_insert .nil hall)
        exact ⟨read, hread, hagain.symm.trans hsorted⟩
      · have hmem : bad ∈ NameMap.ofList ms := (hfields ▸ hperm).mem_iff.mpr (by simp [hms])
        obtain ⟨entry, -, hentry⟩ := exists_mem_of_forall₂ (mapM_eq_ok_iff.mp hsorted).flip hmem
        cases hbad.symm.trans hentry
  | _ => cases hv

end

/-! ## Whole texts -/

theorem Decoder.AgreesOn.decode_eq_ok_iff {α : Type} {d : Decoder α} {v : Json} {text : String}
    {a : α} (hd : d.AgreesOn v) (h : WritesText Paired levels text v) (hle : levels ≤ maxLevels) :
    d.decode text = .ok a ↔ d.ofValue v = .ok a := by
  obtain ⟨rest, hv, hrest⟩ := h
  have hdecode : d.decode text = d.ofText maxLevels text.toList >>= fun r => do
      endOfText r.2
      return r.1 := rfl
  have halike := hd hv hle
  rw [hdecode]
  generalize d.ofText maxLevels text.toList = read at halike ⊢
  generalize d.ofValue v = value at halike ⊢
  cases halike with
  | ok b =>
    change (do
      endOfText rest
      return b) = .ok a ↔ _
    rw [endOfText_of hrest]
    exact Iff.rfl
  | error e e' => exact ⟨nofun, nofun⟩

end ConsoleLink.Json
