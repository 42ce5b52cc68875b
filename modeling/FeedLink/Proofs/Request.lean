import FeedLink.Request
import Mathlib.Data.List.Basic

/-!
# The text of a request

The request that gives up every subscription is the only one without parameters, and its text shows
it: the text of a record has a comma between any two of its fields, and this one has three fields
and no comma inside any of them.

## Main results

* `Record.length_le_count_write` — how many commas the text of a record has at least
* `Request.text_ne_unsubscribeAll` — a request with parameters is never taken for the one that gives
  up every subscription
-/

namespace FeedLink

namespace Json

/-- There is a comma between any two fields of an object. -/
theorem Value.length_le_count_charsFields (fields : List (String × Value)) :
    fields.length ≤ (Value.charsFields fields).count ',' + 1 := by
  induction fields with
  | nil => simp
  | cons field rest ih =>
    obtain ⟨k, v⟩ := field
    cases rest with
    | nil => simp
    | cons field' rest =>
      simp only [Value.charsFields, List.count_append, List.count_cons, List.length_cons,
        beq_self_eq_true, if_true] at ih ⊢
      omega

theorem Record.length_le_count_write {σ : Type} (r : Record σ) (a : σ) :
    (r.writeFields a).length ≤ (r.codec.toText a).toList.count ',' + 1 := by
  refine Nat.le_trans (Value.length_le_count_charsFields _) (Nat.le_of_eq ?_)
  simp [Codec.toText, Record.codec, Record.write, Value.render, Value.chars]

/-- A digit is not escaped. -/
theorem escapeChar_of_isDigit {c : Char} (hc : c.isDigit = true) : escapeChar c = [c] := by
  have hne : ∀ d : Char, d.isDigit = false → c ≠ d := by
    rintro d hd rfl
    rw [hc] at hd
    contradiction
  have hprintable : ¬c.toNat < 0x20 := by
    have hzero : 48 ≤ c.toNat := (Char.isDigit_iff_toNat.mp hc).1
    omega
  simp [escapeChar, hne, hprintable]

/-- A number between quotes is written as its digits. -/
theorem renderString_toString (n : Nat) :
    renderString (toString n) = '"' :: Nat.toDigits 10 n ++ ['"'] := by
  have hdigit : ∀ c ∈ Nat.toDigits 10 n, escapeChar c = [c] := fun c hc =>
    escapeChar_of_isDigit (Nat.isDigit_of_mem_toDigits (by omega) (by omega) hc)
  have hplain : (Nat.toDigits 10 n).flatMap escapeChar = Nat.toDigits 10 n := by
    rw [List.flatMap_congr hdigit]
    simp
  rw [renderString, show (toString n).toList = Nat.toDigits 10 n by simp, hplain]

theorem count_comma_toDigits (n : Nat) : (Nat.toDigits 10 n).count ',' = 0 :=
  List.count_eq_zero.mpr fun hmem => by
    have hdigit := Nat.isDigit_of_mem_toDigits (by omega) (by omega) hmem
    contradiction

end Json

namespace Request

open Json

/-- A request that gives up every subscription has the commas between its three fields only. -/
theorem count_comma_unsubscribeAll (n : Nat) :
    (unsubscribeAll n).text.toList.count ',' = 2 := by
  simp only [text, unsubscribeAll, Codec.toText, Record.codec, Record.write, Record.writeFields,
    record, Field.required, Field.sparse, Field.keptInArrays, Value.render, Value.chars,
    Value.charsFields, Codec.string, RequestId.codec, RequestId.toValue, RequestId.fresh,
    List.filterMap, Option.map, renderString_toString]
  simp only [String.toList_ofList, List.count_append, List.count_cons, count_comma_toDigits]
  rfl

/-- **A request with parameters has another text than one that gives up every subscription.** -/
theorem text_ne_unsubscribeAll {r : Request} (hparams : r.params.isSome = true) (n : Nat) :
    r.text ≠ (unsubscribeAll n).text := by
  intro heq
  obtain ⟨params, hparams⟩ := Option.isSome_iff_exists.mp hparams
  have hfields : (record.writeFields r).length = 4 := by
    simp [Record.writeFields, record, Field.required, Field.sparse, Field.keptInArrays, hparams]
  have hcommas : (record.writeFields r).length ≤ r.text.toList.count ',' + 1 :=
    record.length_le_count_write r
  rw [heq, count_comma_unsubscribeAll, hfields] at hcommas
  omega

end Request

end FeedLink
