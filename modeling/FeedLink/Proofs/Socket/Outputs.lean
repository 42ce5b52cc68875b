import FeedLink.Proofs.Socket.Moment

/-!
# What a step does to the world outside

A call returns at an event of its own caller, and a callback is notified at a frame that the reader
gets. Nothing else returns or notifies: the loss of a connection, a recovery and the batches of
replays only write requests, and open and close connections. A request is written by a caller to the
connection that is attached, or by a recovery to the one that it attaches; `Writes` lists the events
that write, each with its request.

## Main definitions

* `Handler.Writes` — an event writes a request to a connection
* `Handler.Explains` — an output belongs to an event
* `Moment.results` — what a moment returns from a call
* `Moment.notifications` — what a moment notifies

## Main results

* `Handler.explains_step` — every output belongs to its event
* `Moment.results_of_other`, `Moment.notifications_of_other`
-/

namespace FeedLink.Socket

open Json

/-- An output that may come of an event: a result only of an event of the call's caller, and a
notification only of a frame. -/
def Event.Accounts (event : Event) : Output → Prop
  | .returned call _ => event.caller? = some call
  | .notified _ _ => ∃ link text, event = .received link text
  | .sent .. | .closed _ | .dialing => True

/-- What a moment returns from a call. -/
def Moment.results (s : Settings) (call : CallId) (m : Moment) : List CallResult :=
  (m.outputs s).filterMap fun
    | .returned c result => if c = call then some result else none
    | _ => none

/-- Whom an output notifies, and of what. -/
def Output.notification? : Output → Option (Callback × Delivery)
  | .notified callback delivery => some (callback, delivery)
  | .sent .. | .closed _ | .dialing | .returned .. => none

/-- Whom a moment notifies, and of what. -/
def Moment.notifications (s : Settings) (m : Moment) : List (Callback × Delivery) :=
  (m.outputs s).filterMap Output.notification?

namespace Handler

/-- An event writes a request to a connection. -/
inductive Writes (h : Handler) : Event → LinkId → Request → Prop
  | subscribe {call : CallId} {feed : Feed} {params : Value} {callback : Callback}
      {failure : Option TransportError} {link : LinkId} (attached : h.link = some link) :
      Writes h (.subscribe call feed params callback failure) link
        (.subscribe h.nextId feed params)
  | request {call : CallId} {method : String} {params : Value} {failure : Option TransportError}
      {link : LinkId} (attached : h.link = some link) :
      Writes h (.request call method params failure) link (.new h.nextId method params)
  | unsubscribe {event : Event} {call : CallId} {id : SubscriptionId} {link : LinkId}
      (caller : event.caller? = some call) (attached : h.link = some link) :
      Writes h event link (.unsubscribe h.nextId id)
  | close {call : CallId} {failure : Option TransportError} {link : LinkId}
      (admitted : h.admits call = true) (running : h.state ≠ .closed)
      (attached : h.link = some link) :
      Writes h (.close call failure) link (.unsubscribeAll h.nextId)
  | replay {link : LinkId} {failures : List (Option TransportError)} {backoff : Backoff}
      {lost : Subscription} {n : Nat} (dialing : h.reader = .dialing backoff)
      (running : h.state ≠ .closed) (replayable : lost ∈ h.registry.replayables) :
      Writes h (.dialed (.ok link) failures) link (lost.request.withFreshId n)

/-- An output belongs to an event, which has written the text if one was sent. -/
def Explains (h : Handler) (event : Event) : Output → Prop
  | .sent link text _ => ∃ request, h.Writes event link request ∧ request.text = text
  | o => event.Accounts o

variable {h : Handler} {s : Settings} {now : Duration} {event : Event} {call : CallId}

/-! ### Callers -/

theorem explains_subscribe (feed : Feed) (params : Value) (callback : Callback)
    (failure : Option TransportError) :
    ∀ o ∈ (h.subscribe s now call feed params callback failure).2,
      h.Explains (.subscribe call feed params callback failure) o := by
  unfold subscribe
  dsimp only
  split
  · simp [Explains, Event.Accounts, Event.caller?]
  · next link hlink =>
    have hsent : h.Explains (.subscribe call feed params callback failure)
        (.sent link (Request.subscribe h.nextId feed params).text failure) :=
      ⟨_, .subscribe hlink, rfl⟩
    split
    · simp [Explains, Event.Accounts, Event.caller?]
    · split <;> simpa [Explains, Event.Accounts, Event.caller?] using hsent

theorem explains_request (method : String) (params : Value) (failure : Option TransportError) :
    ∀ o ∈ (h.request s now call method params failure).2,
      h.Explains (.request call method params failure) o := by
  unfold request
  dsimp only
  split
  · simp [Explains, Event.Accounts, Event.caller?]
  · next link hlink =>
    have hsent : h.Explains (.request call method params failure)
        (.sent link (Request.new h.nextId method params).text failure) :=
      ⟨_, .request hlink, rfl⟩
    split <;> simpa [Explains, Event.Accounts, Event.caller?] using hsent

theorem explains_unsubscribeAttempt (hcaller : event.caller? = some call) (feed : Feed)
    (backoff : Backoff) (failure : Option TransportError) :
    ∀ o ∈ (h.unsubscribeAttempt now call feed backoff failure).2, h.Explains event o := by
  have honce : ∀ o ∈ (h.unsubscribeOnce feed failure).2.1, h.Explains event o := by
    unfold unsubscribeOnce
    split
    · simp
    · simp
    · simp
    · next id link _ hlink =>
      have hsent : h.Explains event
          (.sent link (Request.unsubscribe h.nextId id).text failure) :=
        ⟨_, .unsubscribe hcaller hlink, rfl⟩
      split <;> simpa using hsent
  have hreturn : ∀ result, ∀ o ∈ (h.unsubscribeOnce feed failure).2.1 ++
      [Output.returned call result], h.Explains event o := by
    intro result o ho
    rcases List.mem_append.mp ho with ho | ho
    · exact honce o ho
    · rw [List.mem_singleton.mp ho]
      exact hcaller
  unfold unsubscribeAttempt
  dsimp only
  split
  · exact hreturn _
  · exact hreturn _
  · split
    · exact hreturn _
    · exact honce

theorem explains_close (hadm : h.admits call = true) (failure : Option TransportError) :
    ∀ o ∈ (h.close s now call failure).2, h.Explains (.close call failure) o := by
  unfold close
  split
  · simp [Explains, Event.Accounts, Event.caller?]
  · next hopen =>
    cases hlink : h.link with
    | none =>
      dsimp only
      split <;> simp [Explains, Event.Accounts, Event.caller?]
    | some link =>
      have hsent : h.Explains (.close call failure)
          (.sent link (Request.unsubscribeAll h.nextId).text failure) :=
        ⟨_, .close hadm hopen hlink, rfl⟩
      dsimp only
      split <;> simpa [Explains, Event.Accounts, Event.caller?] using hsent

theorem explains_join : ∀ o ∈ (h.join call).2, h.Explains (.join call) o := by
  unfold join
  split
  · simp [Explains, Event.Accounts, Event.caller?]
  · dsimp only
    split <;> simp [Explains, Event.Accounts, Event.caller?]

theorem explains_resume (failure : Option TransportError) :
    ∀ o ∈ (h.resume s now call failure).2, h.Explains (.resume call failure) o := by
  have hfinish : ∀ (k : Handler) result, ∀ o ∈ (k.finish call result).2,
      h.Explains (.resume call failure) o := by
    simp [finish, Explains, Event.Accounts, Event.caller?]
  unfold resume
  split
  · simp
  · split
    · simp
    · exact hfinish _ _
  · split
    · simp
    · exact hfinish _ _
  · split
    · exact explains_unsubscribeAttempt rfl _ _ _
    · simp
  · split
    · exact hfinish _ _
    · split
      · exact hfinish _ _
      · simp
  · split
    · exact hfinish _ _
    · simp

/-! ### The reader -/

theorem explains_handleText (link : LinkId) (text : String) :
    ∀ o ∈ (h.handleText s text).2, h.Explains (.received link text) o := by
  unfold handleText
  split
  · simp
  · split
    · simp [Explains, Event.Accounts]
    · simp
  · simp
  · simp

/-- What making subscriptions again writes is the requests of these subscriptions. -/
theorem outputs_replayAll (s : Settings) (now : Duration) (link : LinkId)
    (subscriptions : List Subscription) (r : Replaying)
    (failures : List (Option TransportError)) :
    ∀ o ∈ (replayAll s now link r subscriptions failures).outputs,
      o ∈ r.outputs ∨ ∃ lost ∈ subscriptions, ∃ n failure,
        o = .sent link (lost.request.withFreshId n).text failure := by
  induction subscriptions generalizing r failures with
  | nil => exact fun o ho => .inl ho
  | cons lost rest ih =>
    intro o ho
    rcases ih _ _ o ho with ho | ⟨lost', hlost', hsent⟩
    · have hone : o ∈ r.outputs ∨ ∃ n failure,
          o = .sent link (lost.request.withFreshId n).text failure := by
        unfold replay at ho
        dsimp only at ho
        split at ho
        · exact .inl ho
        · split at ho
          · exact (List.mem_append.mp ho).imp id fun ho => ⟨_, _, List.mem_singleton.mp ho⟩
          · exact (List.mem_append.mp ho).imp id fun ho => ⟨_, _, List.mem_singleton.mp ho⟩
      exact hone.imp id fun hsent => ⟨lost, List.mem_cons_self .., hsent⟩
    · exact .inr ⟨lost', List.mem_cons_of_mem _ hlost', hsent⟩

theorem explains_dialed (s : Settings) (now : Duration) {backoff : Backoff}
    (hreader : h.reader = .dialing backoff) (result : Except TransportError LinkId)
    (failures : List (Option TransportError)) :
    ∀ o ∈ (h.dialed s now backoff result failures).2, h.Explains (.dialed result failures) o := by
  cases result with
  | error e =>
    simp only [dialed]
    split <;> simp
  | ok link =>
    simp only [dialed]
    split
    · simp [Explains, Event.Accounts]
    · next hopen =>
      intro o ho
      rcases outputs_replayAll s now link _ _ _ o ho with ho | ⟨lost, hlost, n, failure, rfl⟩
      · simp at ho
      · exact ⟨_, .replay hreader hopen hlost, rfl⟩

/-- **Every output belongs to its event.** -/
theorem explains_step (s : Settings) (now : Duration) (h : Handler) (event : Event) :
    ∀ o ∈ (h.step s now event).2, h.Explains event o := by
  cases event with
  | subscribe =>
    simp only [step]
    split
    · exact explains_subscribe _ _ _ _
    · simp
  | request =>
    simp only [step]
    split
    · exact explains_request _ _ _
    · simp
  | unsubscribe =>
    simp only [step]
    split
    · exact explains_unsubscribeAttempt rfl _ _ _
    · simp
  | close =>
    simp only [step]
    split
    · next hadm => exact explains_close hadm _
    · simp
  | join =>
    simp only [step]
    split
    · exact explains_join
    · simp
  | abandon => simp [step]
  | resume => exact explains_resume _
  | received =>
    simp only [step]
    split
    · split
      · exact explains_handleText _ _
      · simp
    · simp
  | lost =>
    simp only [step]
    split
    · split
      · unfold lose
        split
        · simp
        · split
          · split <;> simp [Explains, Event.Accounts]
          · simp
      · simp
    · simp
  | noticed =>
    simp only [step]
    split
    · simp
    · split <;> simp
  | dialed =>
    simp only [step]
    split
    · next hreader => exact explains_dialed s now hreader _ _
    · simp
  | woken =>
    simp only [step]
    split
    · split <;> simp [Explains, Event.Accounts]
    · simp
  | settle => simp [step]
  | release =>
    simp only [step]
    split
    · unfold release
      dsimp only
      split <;> simp [Explains, Event.Accounts]
    · simp

theorem accounts_step (s : Settings) (now : Duration) (h : Handler) (event : Event) :
    ∀ o ∈ (h.step s now event).2, event.Accounts o := by
  intro o ho
  have hexplains := explains_step s now h event o ho
  cases o with
  | sent => trivial
  | closed | dialing | notified | returned => exact hexplains

end Handler

namespace Moment

variable {s : Settings} {m : Moment} {call : CallId}

/-- Nothing returns from a call but an event of its caller. -/
theorem results_of_other (h : m.event.caller? ≠ some call) : m.results s call = [] := by
  refine List.filterMap_eq_nil_iff.mpr fun o ho => ?_
  have haccounts := Handler.accounts_step s m.now m.before m.event o ho
  cases o with
  | returned c result =>
    have hne : c ≠ call := fun heq => h (haccounts.trans (congrArg some heq))
    simp [hne]
  | sent | closed | dialing | notified => rfl

/-- Nothing notifies but a frame. -/
theorem notifications_of_other (h : ∀ link text, m.event ≠ .received link text) :
    m.notifications s = [] := by
  refine List.filterMap_eq_nil_iff.mpr fun o ho => ?_
  have haccounts := Handler.accounts_step s m.now m.before m.event o ho
  cases o with
  | notified callback delivery =>
    obtain ⟨link, text, heq⟩ := haccounts
    exact absurd heq (h link text)
  | sent | closed | dialing | returned => rfl

end Moment

end FeedLink.Socket
