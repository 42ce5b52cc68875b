import FeedLink.Proofs.Socket.Recovery

/-!
# What a step does to the tables

An event that reaches a handler does one of a few things to the correlator and the registry, and
most events do nothing at all: they do not fit what the handler is doing, or only move the reader.
`Handler.effect` says which of them it is, and `Handler.tables_step` that this is all there is to
the tables after the step. Statements about runs are made and proved over effects, so that none of
them goes through the events again.

## Main definitions

* `Effect`, `Handler.effect` — what an event will do
* `Handler.perform` — the tables after an effect

## Main results

* `Handler.causes_effect` — where an effect comes from
* `Handler.tables_step` — a step performs its effect
-/

namespace FeedLink.Socket

open Json

/-- What a step does to the tables. -/
inductive Effect where
  | nothing
  /-- A request was written that the connection refused. -/
  | refuse (what : String)
  /-- A request was written and waits for its reply. -/
  | register (what : String)
  /-- A subscribe was written and waits for its reply. -/
  | reserve (feed : Feed) (params : Value) (callback : Callback)
  /-- An active subscription is given up by its caller. -/
  | unregister (feed : Feed)
  /-- A call ends that had written a request under the key. -/
  | withdraw (key : String)
  /-- The reader handles a reply. -/
  | reply (key : String) (outcome : Outcome)
  /-- The connection is lost. -/
  | lose
  /-- The handler is closed. -/
  | close
  /-- A connection is attached, and answers with `failures` to what is subscribed to again. -/
  | attach (link : LinkId) (failures : List (Option TransportError))
  /-- The replays are looked after. -/
  | settle (replays : List Replay)

/-- The call that a caller acts on. -/
def Event.caller? : Event → Option CallId
  | .subscribe call .. | .request call .. | .unsubscribe call .. | .close call _ | .join call
  | .abandon call | .resume call _ => some call
  | _ => none

namespace Handler

variable {h : Handler} {s : Settings} {now : Duration} {event : Event}

/-- What an attempt to unsubscribe does: it succeeds if the feed is active, a connection is attached
and takes the request. -/
def unsubscribeEffect (h : Handler) (feed : Feed) (failure : Option TransportError) : Effect :=
  match h.registry.holding feed, h.link, failure with
  | .active _, some _, none => .unregister feed
  | _, _, _ => .nothing

/-- What a frame does: only a reply touches the tables. -/
def frameEffect (text : String) : Effect :=
  match Inbound.parse text with
  | .ok (.reply key outcome) => .reply key outcome
  | _ => .nothing

/-- What an event will do. -/
def effect (s : Settings) (now : Duration) (h : Handler) : Event → Effect
  | .subscribe call feed params callback failure =>
    if h.admits call && h.link.isSome && !Table.has feed h.registry.slots then
      match failure with
      | none => .reserve feed params callback
      | some _ => .refuse ("subscribe to " ++ feed.name)
    else .nothing
  | .request call method _ failure =>
    if h.admits call && h.link.isSome then
      match failure with
      | none => .register method
      | some _ => .refuse method
    else .nothing
  | .unsubscribe call feed failure =>
    if h.admits call then h.unsubscribeEffect feed failure else .nothing
  | .close call _ => if h.admits call && h.state != .closed then .close else .nothing
  | .abandon call =>
    match (Table.get? call h.calls).bind Call.waiter? with
    | some w => .withdraw w.key
    | none => .nothing
  | .resume call failure =>
    match Table.get? call h.calls with
    | some (.subscribing _ pending deadline) | some (.requesting pending deadline) =>
      if (h.replyResult s now pending deadline).isSome then .withdraw pending.key else .nothing
    | some (.unsubscribing feed _ wake) =>
      if wake ≤ now then h.unsubscribeEffect feed failure else .nothing
    | _ => .nothing
  | .received link text =>
    match h.reader with
    | .reading l => if l = link then frameEffect text else .nothing
    | _ => .nothing
  | .lost link _ =>
    match h.reader with
    | .reading l => if l = link && !h.stopping then .lose else .nothing
    | _ => .nothing
  | .dialed (.ok link) failures =>
    match h.reader with
    | .dialing _ => if h.state = .closed then .nothing else .attach link failures
    | _ => .nothing
  | .settle recovery =>
    match h.batches.find? (·.recovery = recovery) with
    | some batch => .settle batch.replays
    | none => .nothing
  | .dialed (.error _) _ | .join _ | .noticed | .woken | .release => .nothing

/-- The tables after an effect. -/
def perform (s : Settings) (now : Duration) (h : Handler) : Effect → Correlator × Registry
  | .nothing => (h.correlator, h.registry)
  | .refuse what =>
    (((h.correlator.register (.fresh h.nextId) what).2.evict h.nextKey).2, h.registry)
  | .register what => ((h.correlator.register (.fresh h.nextId) what).2, h.registry)
  | .reserve feed params callback =>
    ((h.correlator.register (.fresh h.nextId) ("subscribe to " ++ feed.name)).2,
      { h.registry with
        slots :=
          Table.set feed (.reserved (.subscribe h.nextId feed params) callback none)
            h.registry.slots
        byToken := Table.set h.nextKey feed h.registry.byToken })
  | .unregister feed => (h.correlator, (h.registry.unregister feed).2)
  | .withdraw key => ((h.correlator.evict key).2, (h.registry.release key).2)
  | .reply key outcome =>
    ((h.correlator.dispatch key outcome).2, (h.handleReply key outcome).registry)
  | .lose => (h.correlator.clear.2, h.registry)
  | .close => (h.correlator.clear.2, .empty)
  | .attach link failures =>
    ((replaying s now h link failures).handler.correlator,
      (replaying s now h link failures).handler.registry)
  | .settle replays =>
    ((settleReplays s now h replays).1.correlator, (settleReplays s now h replays).1.registry)

/-- A free feed is reserved as the registry reserves it. -/
theorem insertReserved_perform (s : Settings) (now : Duration) {feed : Feed}
    (hfree : Table.get? feed h.registry.slots = none) (params : Value) (callback : Callback) :
    h.registry.insertReserved feed (.subscribe h.nextId feed params) callback none =
      .ok (h.perform s now (.reserve feed params callback)).2 :=
  Registry.insertReserved_eq_ok_iff.mpr ⟨hfree, rfl⟩

/-- The two tables. -/
def tables (h : Handler) : Correlator × Registry := (h.correlator, h.registry)

/-! ### Where an effect comes from -/

/-- The events that have an effect, and what the handler is like where they have it. -/
inductive Causes (s : Settings) (now : Duration) (h : Handler) : Event → Effect → Prop
  | nothing {event : Event} : Causes s now h event .nothing
  | refuse {event : Event} {what : String} {call : CallId} {link : LinkId}
      (caller : event.caller? = some call) (admitted : h.admits call = true)
      (attached : h.link = some link) : Causes s now h event (.refuse what)
  | register {call : CallId} {method : String} {params : Value} {link : LinkId}
      (admitted : h.admits call = true) (attached : h.link = some link) :
      Causes s now h (.request call method params none) (.register method)
  | reserve {call : CallId} {feed : Feed} {params : Value} {callback : Callback} {link : LinkId}
      (admitted : h.admits call = true) (attached : h.link = some link)
      (free : Table.get? feed h.registry.slots = none) :
      Causes s now h (.subscribe call feed params callback none) (.reserve feed params callback)
  | unregister {event : Event} {call : CallId} {feed : Feed} {sub : Subscription} {link : LinkId}
      (caller : event.caller? = some call) (attached : h.link = some link)
      (active : Table.get? feed h.registry.slots = some (.active sub)) :
      Causes s now h event (.unregister feed)
  | withdraw {event : Event} {call : CallId} {c : Call} {w : Waiter}
      (caller : event.caller? = some call) (waiting : Table.get? call h.calls = some c)
      (waiter : c.waiter? = some w) : Causes s now h event (.withdraw w.key)
  | reply {link : LinkId} {text : String} {key : String} {outcome : Outcome}
      (reading : h.reader = .reading link)
      (parsed : Inbound.parse text = .ok (.reply key outcome)) :
      Causes s now h (.received link text) (.reply key outcome)
  | lose {link : LinkId} {e : TransportError} (reading : h.reader = .reading link)
      (running : h.stopping = false) : Causes s now h (.lost link e) .lose
  | close {call : CallId} {failure : Option TransportError} (admitted : h.admits call = true)
      (running : h.state ≠ .closed) : Causes s now h (.close call failure) .close
  | attach {link : LinkId} {failures : List (Option TransportError)} {backoff : Backoff}
      (dialing : h.reader = .dialing backoff) (running : h.state ≠ .closed) :
      Causes s now h (.dialed (.ok link) failures) (.attach link failures)
  | settle {recovery : Nat} {batch : Batch}
      (found : h.batches.find? (·.recovery = recovery) = some batch) :
      Causes s now h (.settle recovery) (.settle batch.replays)

theorem causes_unsubscribeEffect {call : CallId} (hcaller : event.caller? = some call)
    (feed : Feed) (failure : Option TransportError) :
    Causes s now h event (h.unsubscribeEffect feed failure) := by
  unfold unsubscribeEffect
  split
  · next hholding hlink =>
    unfold Registry.holding at hholding
    split at hholding
    · contradiction
    · contradiction
    · next hslot => exact .unregister hcaller hlink hslot
  · exact .nothing

/-- **Every effect has one of these causes.** -/
theorem causes_effect (s : Settings) (now : Duration) (h : Handler) (event : Event) :
    Causes s now h event (h.effect s now event) := by
  cases event with
  | subscribe call feed params callback failure =>
    simp only [effect]
    split
    · next hcond =>
      obtain ⟨⟨hadm, hlink⟩, hfree⟩ : (h.admits call = true ∧ h.link.isSome = true) ∧
        Table.has feed h.registry.slots = false := by simpa using hcond
      obtain ⟨link, hlink⟩ := Option.isSome_iff_exists.mp hlink
      cases failure with
      | none => exact .reserve hadm hlink (Table.has_eq_false_iff.mp hfree)
      | some e => exact .refuse rfl hadm hlink
    · exact .nothing
  | request call method params failure =>
    simp only [effect]
    split
    · next hcond =>
      obtain ⟨hadm, hlink⟩ : h.admits call = true ∧ h.link.isSome = true := by simpa using hcond
      obtain ⟨link, hlink⟩ := Option.isSome_iff_exists.mp hlink
      cases failure with
      | none => exact .register hadm hlink
      | some e => exact .refuse rfl hadm hlink
    · exact .nothing
  | unsubscribe call feed failure =>
    simp only [effect]
    split
    · exact causes_unsubscribeEffect rfl ..
    · exact .nothing
  | close call failure =>
    simp only [effect]
    split
    · next hcond =>
      obtain ⟨hadm, hopen⟩ : h.admits call = true ∧ h.state ≠ .closed := by simpa using hcond
      exact .close hadm hopen
    · exact .nothing
  | abandon call =>
    simp only [effect]
    split
    · next hw =>
      obtain ⟨c, hcall, hw⟩ := Option.bind_eq_some_iff.mp hw
      exact .withdraw rfl hcall hw
    · exact .nothing
  | resume call failure =>
    simp only [effect]
    split
    · next hcall =>
      split
      · exact .withdraw rfl hcall rfl
      · exact .nothing
    · next hcall =>
      split
      · exact .withdraw rfl hcall rfl
      · exact .nothing
    · split
      · exact causes_unsubscribeEffect rfl ..
      · exact .nothing
    · exact .nothing
  | received link text =>
    simp only [effect]
    split
    · next hreader =>
      split
      · next hl =>
        unfold frameEffect
        split
        · next hparse => exact .reply (hl ▸ hreader) hparse
        · exact .nothing
      · exact .nothing
    · exact .nothing
  | lost link e =>
    simp only [effect]
    split
    · next l hreader =>
      split
      · next hcond =>
        obtain ⟨rfl, hst⟩ : l = link ∧ h.stopping = false := by simpa using hcond
        exact .lose hreader hst
      · exact .nothing
    · exact .nothing
  | dialed result failures =>
    cases result with
    | error e => exact .nothing
    | ok link =>
      simp only [effect]
      split
      · next hreader =>
        split
        · exact .nothing
        · next hopen => exact .attach hreader hopen
      · exact .nothing
  | settle recovery =>
    simp only [effect]
    split
    · next hb => exact .settle hb
    · exact .nothing
  | join | noticed | woken | release => exact .nothing

/-- Replies are handled by a reader that reads. -/
theorem reading_of_effect_reply {key : String} {outcome : Outcome}
    (heff : h.effect s now event = .reply key outcome) : ∃ l, h.reader = .reading l := by
  have hcause := causes_effect s now h event
  generalize h.effect s now event = effect at hcause heff
  cases hcause with
  | reply hreader => exact ⟨_, hreader⟩
  | _ => contradiction

/-! ### Each operation performs its effect -/

theorem tables_subscribe (hc : h.Coherent) {call : CallId} (hadm : h.admits call = true)
    (feed : Feed) (params : Value) (callback : Callback) (failure : Option TransportError) :
    (h.subscribe s now call feed params callback failure).1.tables =
      h.perform s now (h.effect s now (.subscribe call feed params callback failure)) := by
  cases hlink : h.link with
  | none => simp [subscribe_of_detached hlink, effect, hlink, perform, tables]
  | some link =>
    cases hheld : Table.has feed h.registry.slots with
    | true => simp [subscribe_of_held hlink hheld, effect, hheld, perform, tables]
    | false =>
      obtain ⟨registry, hres⟩ : ∃ r, h.registry.reserve feed (.subscribe h.nextId feed params)
        callback = .ok r := Registry.insertReserved_of_free hheld
      obtain ⟨-, rfl⟩ := Registry.insertReserved_eq_ok_iff.mp hres
      cases failure with
      | none =>
        rw [subscribe_of_accepted hlink hres]
        simp only [effect, hadm, hlink, hheld, Option.isSome_some, Bool.not_false, Bool.and_self,
          if_true]
        rfl
      | some e =>
        have hundo := Registry.release_insertReserved hc.tables.token_fresh hres
        rw [subscribe_of_refused hlink hres]
        simp only [effect, hadm, hlink, hheld, Option.isSome_some, Bool.not_false, Bool.and_self,
          if_true]
        exact congrArg (Prod.mk _) hundo

theorem tables_request {call : CallId} (hadm : h.admits call = true) (method : String)
    (params : Value) (failure : Option TransportError) :
    (h.request s now call method params failure).1.tables =
      h.perform s now (h.effect s now (.request call method params failure)) := by
  cases hlink : h.link with
  | none => simp [request_of_detached hlink, effect, hlink, perform, tables]
  | some link =>
    cases failure with
    | none =>
      rw [request_of_accepted hlink]
      simp [effect, hadm, hlink, perform, tables]
    | some e =>
      rw [request_of_refused hlink]
      simp [effect, hadm, hlink, perform, tables]

theorem tables_unsubscribeOnce (s : Settings) (now : Duration) (h : Handler) (feed : Feed)
    (failure : Option TransportError) :
    (h.unsubscribeOnce feed failure).1.tables =
      h.perform s now (h.unsubscribeEffect feed failure) := by
  unfold unsubscribeOnce unsubscribeEffect
  cases h.registry.holding feed with
  | none => rfl
  | pending => rfl
  | active id => cases hlink : h.link <;> cases failure <;> simp [perform, tables]

theorem tables_unsubscribeAttempt (h : Handler) (call : CallId) (feed : Feed) (backoff : Backoff)
    (failure : Option TransportError) :
    (h.unsubscribeAttempt now call feed backoff failure).1.tables =
      h.perform s now (h.unsubscribeEffect feed failure) := by
  have honce := tables_unsubscribeOnce s now h feed failure
  unfold unsubscribeAttempt
  dsimp only
  split
  · exact honce
  · exact honce
  · split
    · exact honce
    · exact honce

theorem tables_close (h : Handler) {call : CallId} (hadm : h.admits call = true)
    (failure : Option TransportError) :
    (h.close s now call failure).1.tables =
      h.perform s now (h.effect s now (.close call failure)) := by
  unfold close
  split
  · next hcl => simp [effect, hcl, perform, tables]
  · next hcl =>
    have heff : h.effect s now (.close call failure) = .close := by simp [effect, hadm, hcl]
    rw [heff]
    cases h.link with
    | none => dsimp only; split <;> rfl
    | some link => dsimp only; split <;> rfl

theorem tables_abandon (h : Handler) (call : CallId) :
    (h.abandon call).tables = h.perform s now (h.effect s now (.abandon call)) := by
  simp only [effect]
  cases hidle : (Table.get? call h.calls).bind Call.waiter? with
  | none => rw [abandon_of_idle hidle]; rfl
  | some w =>
    obtain ⟨c, hcall, hw⟩ := Option.bind_eq_some_iff.mp hidle
    rw [abandon_of_waiter hcall hw]
    rfl

theorem tables_resume (h : Handler) (call : CallId) (failure : Option TransportError) :
    (h.resume s now call failure).1.tables =
      h.perform s now (h.effect s now (.resume call failure)) := by
  cases hcall : Table.get? call h.calls with
  | none => simp [resume, effect, hcall, perform, tables]
  | some c =>
    cases c with
    | subscribing feed pending deadline =>
      simp only [resume, effect, hcall]
      cases hres : h.replyResult s now pending deadline <;> rfl
    | requesting pending deadline =>
      simp only [resume, effect, hcall]
      cases hres : h.replyResult s now pending deadline <;> rfl
    | unsubscribing feed backoff wake =>
      simp only [resume, effect, hcall]
      split
      · exact tables_unsubscribeAttempt ..
      · rfl
    | closing deadline =>
      simp only [resume, effect, hcall]
      split
      · rfl
      · split <;> rfl
    | joining =>
      simp only [resume, effect, hcall]
      split <;> rfl

theorem tables_readOn (h : Handler) : h.readOn.tables = h.tables := by
  cases hlink : h.link with
  | none => rw [readOn_of_detached hlink]; rfl
  | some link => rw [readOn_of_link hlink]; rfl

theorem tables_handleText (h : Handler) (text : String) :
    (h.handleText s text).1.tables = h.perform s now (frameEffect text) := by
  unfold handleText frameEffect
  cases Inbound.parse text with
  | error => rfl
  | ok frame =>
    cases frame with
    | reply key outcome => rfl
    | push id payload => dsimp only; split <;> rfl
    | other => rfl

theorem tables_received (h : Handler) (link : LinkId) (text : String) :
    (h.step s now (.received link text)).1.tables =
      h.perform s now (h.effect s now (.received link text)) := by
  simp only [step, effect]
  cases h.reader with
  | dialing | pausing | ended => rfl
  | reading l =>
    dsimp only
    split
    · exact (tables_readOn _).trans (tables_handleText h text)
    · rfl

theorem tables_lost (hc : h.Coherent) (link : LinkId) (e : TransportError) :
    (h.step s now (.lost link e)).1.tables = h.perform s now (h.effect s now (.lost link e)) := by
  simp only [step, effect]
  cases h.reader with
  | dialing | pausing | ended => rfl
  | reading l =>
    by_cases hl : l = link
    · cases hst : h.stopping with
      | true => simp [hl, lose, hst, perform, tables, stop]
      | false =>
        have hopen : h.state ≠ .closed := fun hcl => by simp [hc.closed hcl] at hst
        simp only [hl, lose, hst, if_neg hopen, if_true, decide_true, Bool.not_false,
          Bool.and_self, Bool.false_eq_true, if_false]
        split <;> rfl
    · simp [hl, perform, tables]

theorem tables_dialed (h : Handler) (result : Except TransportError LinkId)
    (failures : List (Option TransportError)) :
    (h.step s now (.dialed result failures)).1.tables =
      h.perform s now (h.effect s now (.dialed result failures)) := by
  cases result with
  | error e =>
    simp only [step, effect]
    split
    · simp only [dialed]
      split <;> rfl
    · rfl
  | ok link =>
    simp only [step, effect]
    cases h.reader with
    | reading | pausing | ended => rfl
    | dialing backoff =>
      simp only [dialed]
      split
      · exact tables_readOn h
      · rfl

theorem tables_settleBatch (hc : h.Coherent) (n : Nat) :
    (h.settleBatch s now n).tables = h.perform s now (h.effect s now (.settle n)) := by
  simp only [effect]
  cases hb : h.batches.find? (·.recovery = n) with
  | none => simp only [settleBatch, hb]; rfl
  | some b =>
    obtain ⟨others, -, hout⟩ := settleBatch_of_batch s now hc hb
    rw [hout _ _ rfl]
    split <;> rfl

/-- **A step performs its effect**, and does nothing else to the tables. -/
theorem tables_step (s : Settings) (now : Duration) (hc : h.Coherent) (event : Event) :
    (h.step s now event).1.tables = h.perform s now (h.effect s now event) := by
  cases event with
  | subscribe call feed params callback failure =>
    cases hadm : h.admits call with
    | true =>
      simp only [step, hadm, if_true]
      exact tables_subscribe hc hadm ..
    | false => simp [step, effect, hadm, perform, tables]
  | request call method params failure =>
    cases hadm : h.admits call with
    | true =>
      simp only [step, hadm, if_true]
      exact tables_request hadm ..
    | false => simp [step, effect, hadm, perform, tables]
  | unsubscribe call feed failure =>
    cases hadm : h.admits call with
    | true =>
      simp only [step, effect, hadm, if_true]
      exact tables_unsubscribeAttempt ..
    | false => simp [step, effect, hadm, perform, tables]
  | close call failure =>
    cases hadm : h.admits call with
    | true =>
      simp only [step, hadm, if_true]
      exact tables_close h hadm _
    | false => simp [step, effect, hadm, perform, tables]
  | join call =>
    simp only [step, effect]
    split
    · unfold join
      split
      · rfl
      · dsimp only
        split <;> rfl
    · rfl
  | abandon call => exact tables_abandon h call
  | resume call failure => exact tables_resume h call failure
  | received link text => exact tables_received h link text
  | lost link e => exact tables_lost hc link e
  | noticed =>
    simp only [step, effect]
    split
    · rfl
    · split <;> rfl
  | dialed result failures => exact tables_dialed h result failures
  | woken =>
    simp only [step, effect]
    split
    · split <;> rfl
    · rfl
  | settle recovery => exact tables_settleBatch hc recovery
  | release =>
    simp only [step, effect]
    split <;> rfl

theorem correlator_step (s : Settings) (now : Duration) (hc : h.Coherent) (event : Event) :
    (h.step s now event).1.correlator = (h.perform s now (h.effect s now event)).1 :=
  congrArg Prod.fst (tables_step s now hc event)

theorem registry_step (s : Settings) (now : Duration) (hc : h.Coherent) (event : Event) :
    (h.step s now event).1.registry = (h.perform s now (h.effect s now event)).2 :=
  congrArg Prod.snd (tables_step s now hc event)

end Handler

end FeedLink.Socket
