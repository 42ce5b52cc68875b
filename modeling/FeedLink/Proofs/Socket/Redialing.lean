import FeedLink.Proofs.Backoff
import FeedLink.Proofs.Socket.Control
import FeedLink.Proofs.Socket.Outputs

/-!
# A reader recovers under the redial schedule

A handler dials when its connection is lost, and again whenever the reader wakes from a pause. So
`Handler.phase` reads off the reader what the handler is at, and a step moves it as the redial
schedule allows, with the dials that begin as its attempts.

## Main results

* `Handler.lost_or_woken_of_dialing` — what makes a handler dial
* `Handler.Coherent.phase_moves` — a step moves the phase
-/

namespace FeedLink.Socket

open Json

/-- Does a dial begin? -/
def Output.isDialing : Output → Bool
  | .dialing => true
  | .sent .. | .closed _ | .notified .. | .returned .. => false

/-- What a reader is at, as far as recovering is concerned. -/
def Reader.phase : Reader → Phase
  | .reading _ | .ended _ => .idle
  | .dialing backoff => .trying backoff
  | .pausing backoff wake => .waiting backoff wake

namespace Handler

variable {h : Handler} {s : Settings} {now : Duration} {event : Event}

/-- What a handler is at, as far as recovering is concerned. -/
def phase (h : Handler) : Phase := h.reader.phase

/-! ### What makes a handler dial -/

theorem not_dialing_subscribe (call : CallId) (feed : Feed) (params : Value) (callback : Callback)
    (failure : Option TransportError) :
    .dialing ∉ (h.subscribe s now call feed params callback failure).2 := by
  unfold subscribe
  dsimp only
  split
  · simp
  · split
    · simp
    · split <;> simp

theorem not_dialing_request (call : CallId) (method : String) (params : Value)
    (failure : Option TransportError) :
    .dialing ∉ (h.request s now call method params failure).2 := by
  unfold request
  dsimp only
  split
  · simp
  · split <;> simp

theorem not_dialing_unsubscribeAttempt (call : CallId) (feed : Feed) (backoff : Backoff)
    (failure : Option TransportError) :
    .dialing ∉ (h.unsubscribeAttempt now call feed backoff failure).2 := by
  have honce : .dialing ∉ (h.unsubscribeOnce feed failure).2.1 := by
    unfold unsubscribeOnce
    split
    · simp
    · simp
    · simp
    · split <;> simp
  unfold unsubscribeAttempt
  dsimp only
  split
  · simpa [finish] using honce
  · simpa [finish] using honce
  · split
    · simpa [finish] using honce
    · exact honce

theorem not_dialing_close (call : CallId) (failure : Option TransportError) :
    .dialing ∉ (h.close s now call failure).2 := by
  unfold close
  split
  · simp
  · cases h.link <;> dsimp only <;> split <;> simp

theorem not_dialing_resume (call : CallId) (failure : Option TransportError) :
    .dialing ∉ (h.resume s now call failure).2 := by
  unfold resume
  split
  · simp
  · split <;> simp [finish]
  · split <;> simp [finish]
  · split
    · exact not_dialing_unsubscribeAttempt _ _ _ _
    · simp
  · split
    · simp [finish]
    · split <;> simp [finish]
  · split <;> simp [finish]

theorem not_dialing_dialed (backoff : Backoff) (result : Except TransportError LinkId)
    (failures : List (Option TransportError)) :
    .dialing ∉ (h.dialed s now backoff result failures).2 := by
  cases result with
  | error e =>
    simp only [dialed]
    split <;> simp
  | ok link =>
    simp only [dialed]
    split
    · simp
    · intro hmem
      rcases outputs_replayAll s now link _ _ _ _ hmem with hmem | ⟨_, -, _, _, hsent⟩
      · simp at hmem
      · contradiction

/-- **What makes a handler dial**: its connection is lost, or the reader wakes. -/
theorem lost_or_woken_of_dialing (hmem : .dialing ∈ (h.step s now event).2) :
    (∃ link e, event = .lost link e) ∨ event = .woken := by
  cases event with
  | lost link e => exact .inl ⟨link, e, rfl⟩
  | woken => exact .inr rfl
  | subscribe =>
    simp only [step] at hmem
    split at hmem
    · exact absurd hmem (not_dialing_subscribe _ _ _ _ _)
    · simp at hmem
  | request =>
    simp only [step] at hmem
    split at hmem
    · exact absurd hmem (not_dialing_request _ _ _ _)
    · simp at hmem
  | unsubscribe =>
    simp only [step] at hmem
    split at hmem
    · exact absurd hmem (not_dialing_unsubscribeAttempt _ _ _ _)
    · simp at hmem
  | close =>
    simp only [step] at hmem
    split at hmem
    · exact absurd hmem (not_dialing_close _ _)
    · simp at hmem
  | join =>
    simp only [step] at hmem
    unfold join at hmem
    dsimp only at hmem
    split at hmem
    · split at hmem
      · simp at hmem
      · split at hmem <;> simp at hmem
    · simp at hmem
  | abandon => simp [step] at hmem
  | resume => exact absurd hmem (not_dialing_resume _ _)
  | received link text =>
    simp only [step] at hmem
    split at hmem
    · split at hmem
      · unfold handleText at hmem
        split at hmem
        · simp at hmem
        · split at hmem <;> simp at hmem
        · simp at hmem
        · simp at hmem
      · simp at hmem
    · simp at hmem
  | noticed =>
    simp only [step] at hmem
    split at hmem
    · simp at hmem
    · split at hmem <;> simp at hmem
  | dialed =>
    simp only [step] at hmem
    split at hmem
    · exact absurd hmem (not_dialing_dialed _ _ _)
    · simp at hmem
  | settle => simp [step] at hmem
  | release =>
    simp only [step] at hmem
    split at hmem
    · unfold release at hmem
      dsimp only at hmem
      split at hmem <;> simp at hmem
    · simp at hmem

/-! ### A step moves the phase -/

theorem phase_moves_lost (link : LinkId) (e : TransportError) :
    Phase.Moves s.redialSchedule now h.phase (h.step s now (.lost link e)).1.phase
      ((h.step s now (.lost link e)).2.countP Output.isDialing) := by
  simp only [step]
  cases hreader : h.reader with
  | dialing | pausing | ended => exact .stay
  | reading l =>
    have hidle : h.phase = .idle := by rw [phase, hreader]; rfl
    dsimp only
    split
    · unfold lose
      split
      · exact .leave
      · split
        · split
          · unfold readOn
            split
            · exact .leave
            · exact .leave
          · rw [hidle]
            exact .begin
        · exact .leave
    · exact .stay

theorem phase_moves_woken :
    Phase.Moves s.redialSchedule now h.phase (h.step s now .woken).1.phase
      ((h.step s now .woken).2.countP Output.isDialing) := by
  simp only [step]
  cases hreader : h.reader with
  | reading | dialing | ended => exact .stay
  | pausing backoff wake =>
    have hwaiting : h.phase = .waiting backoff wake := by rw [phase, hreader]; rfl
    dsimp only
    split
    · next hdue =>
      rw [hwaiting]
      exact .wake hdue
    · exact .stay

theorem Steers.phase_moves {c : Control} (hsteers : Steers s now h event c)
    (hlost : ∀ link e, event ≠ .lost link e) (hwoken : event ≠ .woken) :
    Phase.Moves s.redialSchedule now h.phase c.reader.phase 0 := by
  cases hsteers with
  | idle | close | settle | complete | release => exact .stay
  | rest | read | attach | exhaust => exact .leave
  | lose | fail => exact absurd rfl (hlost _ _)
  | wake => contradiction
  | pause hdialing hleft =>
    rw [phase, hdialing]
    exact .pause hleft

/-- **A step moves the phase** as the redial schedule allows, and the dials are its attempts. -/
theorem Coherent.phase_moves (hc : h.Coherent) (s : Settings) (now : Duration) (event : Event) :
    Phase.Moves s.redialSchedule now h.phase (h.step s now event).1.phase
      ((h.step s now event).2.countP Output.isDialing) := by
  by_cases hdials : (∃ link e, event = .lost link e) ∨ event = .woken
  · rcases hdials with ⟨link, e, rfl⟩ | rfl
    · exact phase_moves_lost link e
    · exact phase_moves_woken
  · have hnone : (h.step s now event).2.countP Output.isDialing = 0 := by
      refine List.countP_eq_zero.mpr fun o ho hdialing => ?_
      cases o with
      | dialing => exact hdials (lost_or_woken_of_dialing ho)
      | sent | closed | notified | returned => contradiction
    rw [hnone]
    exact (hc.steers s now event).phase_moves (fun link e heq => hdials (.inl ⟨link, e, heq⟩))
      fun heq => hdials (.inr heq)

end Handler

end FeedLink.Socket
