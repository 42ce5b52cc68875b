import FeedLink.Inbound

/-!
# How a frame is classified

A frame is looked at as a push if it has the method of one, and as a reply if it has not, but a key
and an outcome: its error, if that is an object, and else its result.

## Main definitions

* `Inbound.Answers` — a frame answers the request with a key
* `Inbound.LooksLikePush`, `Inbound.ErrorIsObject` — the shapes that decide how it is classified

## Main results

* `Inbound.ofValue_eq_reply_iff` — when a frame is looked at as a reply
* `Inbound.exists_outcome_iff` — when an answer has the outcome that it should have
-/

namespace FeedLink

open Json

namespace Inbound

variable {frame : Value} {key : String} {outcome : Outcome}

/-- The frame has an error; null is none. -/
def Fails (frame : Value) : Prop := ∃ e, frame.field? "error" = some e ∧ e ≠ .null

/-- The frame answers the request with a key: it has a result, or an error. -/
structure Answers (frame : Value) (key : String) : Prop where
  key : (frame.field? "id").bind RequestId.keyOf? = some key
  content : (frame.field? "result").isSome = true ∨ Fails frame

/-- The frame has the method of a push. -/
def LooksLikePush (frame : Value) : Prop :=
  frame.field? "method" = some (.str Request.subscribeMethod)

/-- An error of the frame, if it has one, is an object. -/
def ErrorIsObject (frame : Value) : Prop :=
  Fails frame → ∃ fields, frame.field? "error" = some (.obj fields)

/-- **A frame is looked at as a reply** if it has not the method of a push, but a key and an
outcome. -/
theorem ofValue_eq_reply_iff :
    ofValue frame = .reply key outcome ↔
      ¬LooksLikePush frame ∧ (frame.field? "id").bind RequestId.keyOf? = some key ∧
        outcome? frame = some outcome := by
  unfold ofValue LooksLikePush
  split
  · next hmethod =>
    refine iff_of_false ?_ fun h => h.1 hmethod
    split
    · unfold ofPushParams
      split <;> simp
    · simp
  · next hmethod =>
    split
    · next k o hkey hout => simp [hkey, hout, hmethod]
    · next hnone =>
      refine iff_of_false (by simp) fun h => ?_
      exact hnone key outcome h.2.1 h.2.2

/-- The outcome of a frame is its error, if that is an object, and else its result. -/
theorem outcome?_cases (frame : Value) :
    (∃ fields, frame.field? "error" = some (.obj fields) ∧
        outcome? frame = some (.error (remoteError (.obj fields)))) ∨
      (∀ fields, frame.field? "error" ≠ some (.obj fields)) ∧
        outcome? frame = (frame.field? "result").map .ok := by
  unfold outcome?
  split
  · next fields herror => exact .inl ⟨fields, herror, rfl⟩
  · next hother => exact .inr ⟨hother, rfl⟩

/-- A frame that answers a request has an outcome, which is an error if the frame has one, unless
its error is not an object. -/
theorem exists_outcome_iff (hanswers : Answers frame key) :
    (∃ outcome, outcome? frame = some outcome ∧ (Fails frame → ∃ e, outcome = .error e)) ↔
      ErrorIsObject frame := by
  rcases outcome?_cases frame with ⟨fields, herror, hout⟩ | ⟨hother, hout⟩
  · exact iff_of_true ⟨_, hout, fun _ => ⟨_, rfl⟩⟩ fun _ => ⟨fields, herror⟩
  · rw [hout]
    constructor
    · rintro ⟨outcome, hresult, hfails⟩ hfail
      obtain ⟨e, rfl⟩ := hfails hfail
      simp at hresult
    · intro hobject
      have hnot : ¬Fails frame := by
        intro hfail
        obtain ⟨fields, herror⟩ := hobject hfail
        exact hother fields herror
      obtain ⟨v, hv⟩ := Option.isSome_iff_exists.mp (hanswers.content.resolve_right hnot)
      exact ⟨.ok v, by rw [hv]; rfl, fun hfail => absurd hfail hnot⟩

end Inbound

end FeedLink
