import FeedLink.Proofs.Socket.Effect

/-!
# What a step does to the connection

Beside its tables and its calls a handler has a connection, a reader, a state, and the batches of
replays that wait: its `Control`. The callers leave all of it alone, but for the one that closes the
handler. `Steers` lists the steps that do not, each with what the handler is like where it happens
and with everything that it changes; what is shown of the connection along a run is shown by going
through this list.

## Main definitions

* `Control`, `Handler.control` — all of a handler but its tables and its calls
* `Handler.Steers` — what an event makes of the control of a handler

## Main results

* `Handler.Coherent.steers` — a step makes of the control what its event makes of it
* `Handler.control_of_attach`, `Handler.state_of_close`, `Handler.state_of_lose` — what the effects
  that change the connection make of it
-/

namespace FeedLink.Socket

/-- All of a handler but its tables and its calls. -/
structure Control where
  link : Option LinkId
  state : ConnectionState
  recovery : Nat
  stopping : Bool
  released : Bool
  reader : Reader
  batches : List Batch

namespace Handler

def control (h : Handler) : Control :=
  ⟨h.link, h.state, h.recovery, h.stopping, h.released, h.reader, h.batches⟩

/-- What an event makes of the control of a handler. -/
inductive Steers (s : Settings) (now : Duration) (h : Handler) : Event → Control → Prop
  | idle {event : Event} : Steers s now h event h.control
  | close {call : CallId} {failure : Option TransportError} (admitted : h.admits call = true)
      (running : h.state ≠ .closed) :
      Steers s now h (.close call failure)
        { h.control with link := none, state := .closed, stopping := true }
  /-- The reader stops, where nothing is attached or it was told to. -/
  | rest {event : Event} (ending : h.link = none ∨ h.stopping = true) :
      Steers s now h event { h.control with reader := .ended (.ok ()) }
  | read {link current : LinkId} {text : String} (reading : h.reader = .reading link)
      (attached : h.link = some current) :
      Steers s now h (.received link text) { h.control with reader := .reading current }
  /-- The connection is lost and will be dialed again. -/
  | lose {link : LinkId} {e : TransportError} (reading : h.reader = .reading link)
      (running : h.stopping = false) :
      Steers s now h (.lost link e)
        { h.control with
          link := none, state := .reconnecting, reader := .dialing (.start s.redialSchedule now) }
  /-- The connection is lost for good. -/
  | fail {link : LinkId} {e : TransportError} (reading : h.reader = .reading link)
      (running : h.stopping = false) :
      Steers s now h (.lost link e)
        { h.control with
          link := none, state := .failed, reader := .ended (.error (.transport e)) }
  | attach {link : LinkId} {failures : List (Option TransportError)} {backoff : Backoff}
      (dialing : h.reader = .dialing backoff) (running : h.state ≠ .closed) :
      Steers s now h (.dialed (.ok link) failures)
        { h.control with
          link := some link
          state := .resubscribing
          recovery := h.recovery + 1
          reader := .reading link
          batches := h.batches ++ [⟨h.recovery + 1, (replaying s now h link failures).replays⟩] }
  | pause {e : TransportError} {failures : List (Option TransportError)}
      {backoff next : Backoff} {delay : Duration} (dialing : h.reader = .dialing backoff)
      (left : backoff.next now = (some delay, next)) :
      Steers s now h (.dialed (.error e) failures)
        { h.control with reader := .pausing next (now + delay) }
  /-- The last dial has failed. -/
  | exhaust {e : TransportError} {failures : List (Option TransportError)}
      {backoff next : Backoff} (dialing : h.reader = .dialing backoff)
      (spent : backoff.next now = (none, next)) :
      Steers s now h (.dialed (.error e) failures)
        { h.control with
          state := .failed, reader := .ended (.error (.reconnectFailed (next.elapsed now) e)) }
  | wake {backoff : Backoff} {wake : Duration} (pausing : h.reader = .pausing backoff wake) :
      Steers s now h .woken { h.control with reader := .dialing backoff }
  /-- Some replays of a batch still wait. -/
  | settle {batch : Batch} {others : List Batch} (perm : h.batches.Perm (batch :: others))
      (waiting : (settleReplays s now h batch.replays).2 ≠ []) :
      Steers s now h (.settle batch.recovery)
        { h.control with
          batches := others ++ [⟨batch.recovery, (settleReplays s now h batch.replays).2⟩] }
  /-- No replay of a batch waits any longer. -/
  | complete {batch : Batch} {others : List Batch} (perm : h.batches.Perm (batch :: others))
      (done : (settleReplays s now h batch.replays).2 = []) :
      Steers s now h (.settle batch.recovery)
        { h.control with
          batches := others
          state :=
            if h.state = .resubscribing ∧ h.recovery = batch.recovery then .connected
            else h.state }
  | release :
      Steers s now h .release
        { h.control with link := none, stopping := true, released := true }

variable {h : Handler} {s : Settings} {now : Duration} {event : Event} {call : CallId}

/-! ### Callers leave the connection alone -/

theorem control_subscribe (h : Handler) (call : CallId) (feed : Feed) (params : Json.Value)
    (callback : Callback) (failure : Option TransportError) :
    (h.subscribe s now call feed params callback failure).1.control = h.control := by
  unfold subscribe
  dsimp only
  split
  · rfl
  · split
    · rfl
    · split <;> rfl

theorem control_request (h : Handler) (call : CallId) (method : String) (params : Json.Value)
    (failure : Option TransportError) :
    (h.request s now call method params failure).1.control = h.control := by
  unfold request
  dsimp only
  split
  · rfl
  · split <;> rfl

theorem control_unsubscribeAttempt (h : Handler) (call : CallId) (feed : Feed) (backoff : Backoff)
    (failure : Option TransportError) :
    (h.unsubscribeAttempt now call feed backoff failure).1.control = h.control := by
  have honce : (h.unsubscribeOnce feed failure).1.control = h.control := by
    rcases h.unsubscribeOnce_cases feed failure with heq | heq | heq <;> rw [heq] <;> rfl
  unfold unsubscribeAttempt
  dsimp only
  split
  · exact honce
  · exact honce
  · split
    · exact honce
    · exact honce

theorem control_join (h : Handler) (call : CallId) : (h.join call).1.control = h.control := by
  unfold join
  split
  · rfl
  · dsimp only
    split <;> rfl

theorem control_abandon (h : Handler) (call : CallId) : (h.abandon call).control = h.control := by
  unfold abandon
  dsimp only
  split <;> rfl

theorem control_resume (h : Handler) (call : CallId) (failure : Option TransportError) :
    (h.resume s now call failure).1.control = h.control := by
  unfold resume
  split
  · rfl
  · split <;> rfl
  · split <;> rfl
  · split
    · exact control_unsubscribeAttempt ..
    · rfl
  · split
    · rfl
    · split <;> rfl
  · split <;> rfl

theorem control_close (hopen : h.state ≠ .closed) (failure : Option TransportError) :
    (h.close s now call failure).1.control =
      { h.control with link := none, state := .closed, stopping := true } := by
  simp only [close, if_neg hopen]
  cases h.link with
  | none => dsimp only; split <;> rfl
  | some link => dsimp only; split <;> rfl

/-! ### The reader and the batches -/

theorem control_handleText (h : Handler) (text : String) :
    (h.handleText s text).1.control = h.control := by
  rcases handleText_cases s h text with heq | ⟨key, outcome, -, heq⟩ <;> rw [heq]
  rfl

theorem control_readOn_of_detached (hlink : h.link = none) :
    h.readOn.control = { h.control with reader := .ended (.ok ()) } := by
  rw [readOn_of_detached hlink]
  rfl

theorem steers_received (s : Settings) (now : Duration) (h : Handler) (link : LinkId)
    (text : String) :
    Steers s now h (.received link text) (h.step s now (.received link text)).1.control := by
  simp only [step]
  cases hreader : h.reader with
  | dialing | pausing | ended => exact .idle
  | reading l =>
    dsimp only
    split
    · next hl =>
      have hcontrol := control_handleText (s := s) h text
      have hlink : (h.handleText s text).1.link = h.link := congrArg Control.link hcontrol
      cases hattached : h.link with
      | none =>
        rw [control_readOn_of_detached (hlink.trans hattached), hcontrol]
        exact .rest (.inl hattached)
      | some l' =>
        rw [readOn_of_link (hlink.trans hattached), show
          ({ (h.handleText s text).1 with reader := .reading l' } : Handler).control =
            { (h.handleText s text).1.control with reader := .reading l' } from rfl, hcontrol]
        exact .read (hreader.trans (congrArg _ hl)) hattached
    · exact .idle

theorem steers_lost (s : Settings) (now : Duration) (hc : h.Coherent) (link : LinkId)
    (e : TransportError) :
    Steers s now h (.lost link e) (h.step s now (.lost link e)).1.control := by
  simp only [step]
  cases hreader : h.reader with
  | dialing | pausing | ended => exact .idle
  | reading l =>
    dsimp only
    split
    · next hl =>
      have hreading : h.reader = .reading link := hreader.trans (congrArg _ hl)
      cases hst : h.stopping with
      | true =>
        simp only [lose, hst, if_true]
        exact .rest (.inr hst)
      | false =>
        have hopen : h.state ≠ .closed := fun hcl => by simp [hc.closed hcl] at hst
        have hrunning : ¬h.stopping = true := by simp [hst]
        simp only [lose, if_neg hrunning, if_neg hopen]
        split
        · exact .lose hreading hst
        · exact .fail hreading hst
    · exact .idle

theorem control_attach (s : Settings) (now : Duration) (hc : h.Coherent)
    (hr : h.reader.isRedialing = true) (link : LinkId) (failures : List (Option TransportError)) :
    (h.attach s now link failures).1.control =
      { h.control with
        link := some link
        state := .resubscribing
        recovery := h.recovery + 1
        reader := .reading link
        batches := h.batches ++
          [⟨h.recovery + 1, (replaying s now h link failures).replays⟩] } := by
  have hframe := (hc.replayingFrom s now hr link failures).frame
  rw [attach_eq, hframe]
  rfl

theorem steers_dialed (s : Settings) (now : Duration) (hc : h.Coherent)
    (result : Except TransportError LinkId) (failures : List (Option TransportError)) :
    Steers s now h (.dialed result failures)
      (h.step s now (.dialed result failures)).1.control := by
  simp only [step]
  cases hreader : h.reader with
  | reading | pausing | ended => exact .idle
  | dialing backoff =>
    have hredial := Reader.isRedialing_of_dialing hreader
    cases result with
    | ok link =>
      simp only [dialed]
      split
      · have hlink := (hc.redialing hredial).1
        rw [control_readOn_of_detached hlink]
        exact .rest (.inl hlink)
      · next hopen =>
        rw [control_attach s now hc hredial]
        exact .attach hreader hopen
    | error e =>
      simp only [dialed]
      split
      · next hnext => exact .pause hreader hnext
      · next hnext => exact .exhaust hreader hnext

theorem steers_settle (s : Settings) (now : Duration) (hc : h.Coherent) (n : Nat) :
    Steers s now h (.settle n) (h.settleBatch s now n).control := by
  cases hb : h.batches.find? (·.recovery = n) with
  | none =>
    simp only [settleBatch, hb]
    exact .idle
  | some b =>
    obtain rfl : b.recovery = n := by simpa using List.find?_some hb
    obtain ⟨others, hperm, hout⟩ := settleBatch_of_batch s now hc hb
    have hframe := frame_settleReplays s now h b.replays
    rw [hout _ _ rfl, hframe]
    split
    · next hdone => exact .complete hperm (List.isEmpty_iff.mp hdone)
    · next hwaiting => exact .settle hperm fun hdone => hwaiting (List.isEmpty_iff.mpr hdone)

/-- **A step makes of the control what its event makes of it.** -/
theorem Coherent.steers (hc : h.Coherent) (s : Settings) (now : Duration) (event : Event) :
    Steers s now h event (h.step s now event).1.control := by
  cases event with
  | subscribe =>
    simp only [Handler.step]
    split
    · rw [control_subscribe]; exact .idle
    · exact .idle
  | request =>
    simp only [Handler.step]
    split
    · rw [control_request]; exact .idle
    · exact .idle
  | unsubscribe =>
    simp only [Handler.step]
    split
    · rw [Handler.unsubscribe, control_unsubscribeAttempt]; exact .idle
    · exact .idle
  | close call failure =>
    simp only [Handler.step]
    split
    · next hadm =>
      by_cases hopen : h.state = .closed
      · simp only [Handler.close, if_pos hopen]
        exact .idle
      · rw [control_close hopen]
        exact .close hadm hopen
    · exact .idle
  | join =>
    simp only [Handler.step]
    split
    · rw [control_join]; exact .idle
    · exact .idle
  | abandon =>
    simp only [Handler.step]
    rw [control_abandon]
    exact .idle
  | resume =>
    simp only [Handler.step]
    rw [control_resume]
    exact .idle
  | received link text => exact steers_received s now h link text
  | lost link e => exact steers_lost s now hc link e
  | noticed =>
    simp only [Handler.step]
    split
    · exact .idle
    · split
      · next hst => exact .rest (.inr hst)
      · exact .idle
  | dialed result failures => exact steers_dialed s now hc result failures
  | woken =>
    simp only [Handler.step]
    split
    · next hreader =>
      split
      · exact .wake hreader
      · exact .idle
    · exact .idle
  | settle n => exact steers_settle s now hc n
  | release =>
    simp only [Handler.step]
    split
    · exact .release
    · exact .idle

/-! ### Attaching, closing, losing -/

/-- What attaching a connection makes of the control. -/
theorem control_of_attach (hc : h.Coherent) {link : LinkId}
    {failures : List (Option TransportError)}
    (heff : h.effect s now event = .attach link failures) :
    h.reader.isRedialing = true ∧ (h.step s now event).1.control =
      { h.control with
        link := some link
        state := .resubscribing
        recovery := h.recovery + 1
        reader := .reading link
        batches := h.batches ++
          [⟨h.recovery + 1, (replaying s now h link failures).replays⟩] } := by
  have hcause := causes_effect s now h event
  rw [heff] at hcause
  cases hcause with
  | attach hdialing hopen =>
    have hredial := Reader.isRedialing_of_dialing hdialing
    refine ⟨hredial, ?_⟩
    simp only [step, hdialing, dialed, if_neg hopen]
    exact control_attach s now hc hredial link failures

/-- A handler that was just closed is closed. -/
theorem state_of_close (heff : h.effect s now event = .close) :
    (h.step s now event).1.state = .closed := by
  have hcause := causes_effect s now h event
  rw [heff] at hcause
  cases hcause with
  | close hadm hopen =>
    simp only [step, hadm, if_true]
    exact congrArg Control.state (control_close hopen _)

/-- A handler that has just lost its connection reconnects, or has failed. -/
theorem state_of_lose (hc : h.Coherent) (heff : h.effect s now event = .lose) :
    (h.step s now event).1.state = .reconnecting ∨ (h.step s now event).1.state = .failed := by
  have hcause := causes_effect s now h event
  rw [heff] at hcause
  cases hcause with
  | lose hreading hrunning =>
    have hopen : h.state ≠ .closed := fun hcl => by simp [hc.closed hcl] at hrunning
    simp only [step, hreading, if_true, lose, hrunning, Bool.false_eq_true, if_false, if_neg hopen]
    split
    · exact .inl rfl
    · exact .inr rfl

end Handler

end FeedLink.Socket
