import ConsoleLink.Json.Printer
import Mathlib.Tactic

/-! # The compact form is one line

The compact form of a value stands unchanged in that of any value that holds it. Whatever its texts
hold, it has no control character in it, and so no line break.
-/

namespace ConsoleLink

/-- No control character is among the characters. -/
def Plain (cs : List Char) : Prop := ∀ c ∈ cs, 0x20 ≤ c.toNat

instance (cs : List Char) : Decidable (Plain cs) :=
  List.decidableBAll (fun c : Char => 0x20 ≤ c.toNat) cs

namespace Plain

variable {c : Char} {cs ds : List Char}

theorem nil : Plain [] := nofun

theorem cons (hc : 0x20 ≤ c.toNat) (hcs : Plain cs) : Plain (c :: cs) :=
  List.forall_mem_cons.mpr ⟨hc, hcs⟩

theorem append (hcs : Plain cs) (hds : Plain ds) : Plain (cs ++ ds) :=
  List.forall_mem_append.mpr ⟨hcs, hds⟩

theorem of_subset (h : cs ⊆ ds) (hds : Plain ds) : Plain cs := fun c hc => hds c (h hc)

theorem replicate (n : Nat) (hc : 0x20 ≤ c.toNat) : Plain (List.replicate n c) := by
  intro d hd
  rwa [List.eq_of_mem_replicate hd]

end Plain

/-! ## Numbers -/

namespace Text

theorem le_digitChar (upper : Bool) {n : Nat} (h : n < 16) : 0x20 ≤ (digitChar upper n).toNat := by
  cases upper <;> interval_cases n <;> decide

theorem plain_decimal (n : Nat) : Plain (decimal n) := by
  induction n using decimal.induct with
  | case1 n h =>
    rw [decimal, if_pos h]
    exact .cons (le_digitChar false (by omega)) .nil
  | case2 n h ih =>
    rw [decimal, if_neg h]
    exact ih.append (.cons (le_digitChar false (by omega)) .nil)

theorem plain_hexPair (upper : Bool) (b : UInt8) : Plain (hexPair upper b) := by
  have hb := b.toNat_lt
  exact .cons (le_digitChar upper (by omega)) (.cons (le_digitChar upper (by omega)) .nil)

end Text

namespace Decimal

variable {digits : List Char}

theorem plain_positional (h : Plain digits) (lead : Int) : Plain (positional digits lead) := by
  unfold positional
  split_ifs
  · exact .cons (by decide) (.cons (by decide) ((Plain.replicate _ (by decide)).append h))
  · dsimp only
    split_ifs
    · exact (h.append (.replicate _ (by decide))).append (by decide)
    · exact (h.of_subset (List.take_subset _ _)).append
        (.cons (by decide) (h.of_subset (List.drop_subset _ _)))

theorem plain_scientific (h : Plain digits) (lead : Int) : Plain (scientific digits lead) := by
  unfold scientific
  refine Plain.append ?_ (.cons (by decide) (.cons ?_ (Text.plain_decimal _)))
  · rcases digits with _ | ⟨d, _ | ⟨e, ds⟩⟩
    · exact .nil
    · exact h
    · rw [Plain, List.forall_mem_cons] at h
      exact .cons h.1 (.cons (by decide) h.2)
  · split_ifs <;> decide

theorem plain_render (bits : UInt64) : Plain (render bits) := by
  have hsign : Plain (if bits >>> 63 = 0 then [] else ['-']) := by split_ifs <;> decide
  unfold render
  by_cases hzero : (parts bits).1 = 0
  · rw [if_pos hzero]
    exact hsign.append (by decide)
  · rw [if_neg hzero]
    refine hsign.append ?_
    dsimp only
    split_ifs
    · exact plain_positional (Text.plain_decimal _) _
    · exact plain_scientific (Text.plain_decimal _) _

end Decimal

theorem Number.plain_render (n : Number) : Plain n.render := by
  cases n with
  | natural n => exact Text.plain_decimal _
  | negative k => exact .cons (by decide) (Text.plain_decimal _)
  | float bits => exact Decimal.plain_render bits

/-! ## Texts -/

namespace Json

theorem plain_escapedChar (c : Char) : Plain (escapedChar c) := by
  unfold escapedChar
  have hunicode : Plain ['\\', 'u', '0', '0'] := by decide
  split_ifs with hquote hslash hlow
  all_goals first
    | decide
    | exact hunicode.append (Text.plain_hexPair _ _)
    | exact .cons (Nat.le_of_not_lt hlow) .nil

theorem plain_renderText (s : String) : Plain (renderText s) := by
  refine .cons (by decide) (Plain.append ?_ (.cons (by decide) .nil))
  intro c hc
  obtain ⟨d, -, hd⟩ := List.mem_flatMap.mp hc
  exact plain_escapedChar d c hd

/-! ## Values -/

mutual

theorem plain_renderBefore {rest : List Char} (h : Plain rest) (v : Json) :
    Plain (renderBefore rest v) := by
  match v with
  | .null => exact Plain.append (by decide : Plain ['n', 'u', 'l', 'l']) h
  | .bool true => exact Plain.append (by decide : Plain ['t', 'r', 'u', 'e']) h
  | .bool false => exact Plain.append (by decide : Plain ['f', 'a', 'l', 's', 'e']) h
  | .number n => exact n.plain_render.append h
  | .text s => exact (plain_renderText s).append h
  | .array items => exact .cons (by decide) (plain_renderItems h items)
  | .members fields => exact .cons (by decide) (plain_renderFields h fields)

theorem plain_renderItems {rest : List Char} (h : Plain rest) (items : List Json) :
    Plain (renderItems rest items) := by
  match items with
  | [] => exact .cons (by decide) h
  | [v] => exact plain_renderBefore (.cons (by decide) h) v
  | v :: w :: vs => exact plain_renderBefore (.cons (by decide) (plain_renderItems h (w :: vs))) v

theorem plain_renderFields {rest : List Char} (h : Plain rest) (fields : List (String × Json)) :
    Plain (renderFields rest fields) := by
  match fields with
  | [] => exact .cons (by decide) h
  | [(k, v)] =>
    exact (plain_renderText k).append
      (.cons (by decide) (plain_renderBefore (.cons (by decide) h) v))
  | (k, v) :: f :: fs =>
    exact (plain_renderText k).append
      (.cons (by decide)
        (plain_renderBefore (.cons (by decide) (plain_renderFields h (f :: fs))) v))

end

/-! ## Values in values -/

mutual

theorem renderBefore_append (cs rest : List Char) (v : Json) :
    renderBefore (cs ++ rest) v = renderBefore cs v ++ rest := by
  match v with
  | .null | .bool true | .bool false => rfl
  | .number n => exact (List.append_assoc ..).symm
  | .text s => exact (List.append_assoc ..).symm
  | .array items => exact congrArg ('[' :: ·) (renderItems_append cs rest items)
  | .members fields => exact congrArg ('\x7b' :: ·) (renderFields_append cs rest fields)

theorem renderItems_append (cs rest : List Char) (items : List Json) :
    renderItems (cs ++ rest) items = renderItems cs items ++ rest := by
  match items with
  | [] => rfl
  | [v] => exact renderBefore_append (']' :: cs) rest v
  | v :: w :: vs =>
    have hv := renderBefore_append (',' :: renderItems cs (w :: vs)) rest v
    rwa [List.cons_append, ← renderItems_append cs rest (w :: vs)] at hv

theorem renderFields_append (cs rest : List Char) (fields : List (String × Json)) :
    renderFields (cs ++ rest) fields = renderFields cs fields ++ rest := by
  match fields with
  | [] => rfl
  | [(k, v)] =>
    have hv := renderBefore_append ('\x7d' :: cs) rest v
    have hassoc := List.append_assoc (renderText k) (':' :: renderBefore ('\x7d' :: cs) v) rest
    exact (congrArg (renderText k ++ ':' :: ·) hv).trans hassoc.symm
  | (k, v) :: f :: fs =>
    have hv := renderBefore_append (',' :: renderFields cs (f :: fs)) rest v
    have hassoc := List.append_assoc (renderText k)
      (':' :: renderBefore (',' :: renderFields cs (f :: fs)) v) rest
    rw [List.cons_append, ← renderFields_append cs rest (f :: fs)] at hv
    exact (congrArg (renderText k ++ ':' :: ·) hv).trans hassoc.symm

end

theorem renderBefore_eq (rest : List Char) (v : Json) : renderBefore rest v = v.render ++ rest :=
  renderBefore_append [] rest v

theorem render_text (s : String) : (Json.text s).render = renderText s := List.append_nil _

end Json

end ConsoleLink
