import FeedLink.Proofs.Socket.Evolution
import FeedLink.Proofs.Socket.Outputs

/-!
# What becomes of a call that waits

A call that waits for a reply is given up only by its caller, who lets it go on or drops it. Until
then nothing that other callers, the reader or the batches of replays do touches its registration,
except for the reply under its own key, the loss of the connection and a close. The first of these
is the call's `verdict`, and everything that comes later finds the registration settled.

## Main definitions

* `Moment.verdict?`, `firstVerdict` — what settles the registration under a key
* `Moment.Ends` — the call returns, or is dropped
* `waited` — what waiting for a reply comes to

## Main results

* `Handler.get?_calls_step` — a call that waits stays as it is until it ends
* `Moment.verdict?_eq_reply_iff`, `Moment.verdict?_eq_dropped_iff` — the events that bring a verdict
* `Handler.settlement?_after` — a registration is settled by the first verdict
* `Handler.results_of_waiting`, `Handler.ends_iff` — when a call that waits returns, and what
* `Handler.withdrawn_after` — a call that has ended leaves nothing under its key
-/

namespace FeedLink.Socket

open Json

namespace Handler

variable {h : Handler} {s : Settings} {now : Duration} {event : Event} {call other : CallId}

/-! ### Callers leave each other alone -/

theorem get?_calls_subscribe (hne : call ≠ other) (feed : Feed) (params : Value)
    (callback : Callback) (failure : Option TransportError) :
    Table.get? other (h.subscribe s now call feed params callback failure).1.calls =
      Table.get? other h.calls := by
  unfold subscribe
  dsimp only
  split
  · rfl
  · split
    · rfl
    · split
      · rfl
      · exact (Table.get?_set ..).trans (if_neg hne)

theorem get?_calls_request (hne : call ≠ other) (method : String) (params : Value)
    (failure : Option TransportError) :
    Table.get? other (h.request s now call method params failure).1.calls =
      Table.get? other h.calls := by
  unfold request
  dsimp only
  split
  · rfl
  · split
    · rfl
    · exact (Table.get?_set ..).trans (if_neg hne)

theorem get?_calls_unsubscribeAttempt (hne : call ≠ other) (feed : Feed) (backoff : Backoff)
    (failure : Option TransportError) :
    Table.get? other (h.unsubscribeAttempt now call feed backoff failure).1.calls =
      Table.get? other h.calls := by
  have herase : Table.get? other (Table.erase call (h.unsubscribeOnce feed failure).1.calls) =
      Table.get? other h.calls := by
    rw [Table.get?_erase, if_neg hne, calls_unsubscribeOnce]
  unfold unsubscribeAttempt
  dsimp only
  split
  · exact herase
  · exact herase
  · split
    · exact herase
    · refine (Table.get?_set ..).trans ((if_neg hne).trans ?_)
      rw [calls_unsubscribeOnce]

theorem get?_calls_close (hne : call ≠ other) (failure : Option TransportError) :
    Table.get? other (h.close s now call failure).1.calls = Table.get? other h.calls := by
  unfold close
  split
  · rfl
  · cases h.link with
    | none =>
      dsimp only
      split
      · rfl
      · exact (Table.get?_set ..).trans (if_neg hne)
    | some link =>
      dsimp only
      split
      · rfl
      · exact (Table.get?_set ..).trans (if_neg hne)

theorem get?_calls_join (hne : call ≠ other) :
    Table.get? other (h.join call).1.calls = Table.get? other h.calls := by
  unfold join
  split
  · rfl
  · dsimp only
    split
    · rfl
    · exact (Table.get?_set ..).trans (if_neg hne)

theorem calls_abandon (h : Handler) (call : CallId) :
    (h.abandon call).calls = Table.erase call h.calls := by
  unfold abandon
  dsimp only
  split <;> rfl

theorem get?_calls_resume (hne : call ≠ other) (failure : Option TransportError) :
    Table.get? other (h.resume s now call failure).1.calls = Table.get? other h.calls := by
  have herase : Table.get? other (Table.erase call h.calls) = Table.get? other h.calls := by
    rw [Table.get?_erase, if_neg hne]
  unfold resume
  split
  · rfl
  · split
    · rfl
    · exact herase
  · split
    · rfl
    · exact herase
  · split
    · exact get?_calls_unsubscribeAttempt hne ..
    · rfl
  · split
    · exact herase
    · split
      · exact herase
      · rfl
  · split
    · exact herase
    · rfl

/-! ### The reader leaves all calls alone -/

theorem calls_readOn (h : Handler) : h.readOn.calls = h.calls := by
  unfold readOn
  split <;> rfl

theorem calls_handleText (h : Handler) (text : String) :
    (h.handleText s text).1.calls = h.calls := by
  rcases handleText_cases s h text with heq | ⟨key, outcome, -, heq⟩ <;> rw [heq]
  rfl

theorem calls_lose (h : Handler) (link : LinkId) (e : TransportError) :
    (h.lose s now link e).1.calls = h.calls := by
  unfold lose
  split
  · rfl
  · split
    · split
      · exact calls_readOn h
      · rfl
    · rfl

theorem calls_dialed (hc : h.Coherent) {backoff : Backoff} (hr : h.reader = .dialing backoff)
    (result : Except TransportError LinkId) (failures : List (Option TransportError)) :
    (h.dialed s now backoff result failures).1.calls = h.calls := by
  unfold dialed
  split
  · next link =>
    split
    · exact calls_readOn h
    · have hframe := (hc.replayingFrom s now (by rw [hr]; rfl) link failures).frame
      rw [attach_eq, hframe]
      rfl
  · split <;> rfl

theorem calls_settleBatch (hc : h.Coherent) (n : Nat) :
    (h.settleBatch s now n).calls = h.calls := by
  cases hb : h.batches.find? (·.recovery = n) with
  | none => simp only [settleBatch, hb]
  | some b =>
    obtain ⟨others, -, hout⟩ := settleBatch_of_batch s now hc hb
    have hframe := frame_settleReplays s now h b.replays
    rw [hout _ _ rfl, hframe]
    split <;> rfl

/-- **A step leaves every call alone but the one that its caller acts on.** -/
theorem get?_calls_step_of_ne (hc : h.Coherent) (hne : event.caller? ≠ some other) :
    Table.get? other (h.step s now event).1.calls = Table.get? other h.calls := by
  cases event with
  | subscribe call feed params callback failure =>
    simp only [step]
    split
    · exact get?_calls_subscribe (fun heq => hne (congrArg some heq)) ..
    · rfl
  | request call method params failure =>
    simp only [step]
    split
    · exact get?_calls_request (fun heq => hne (congrArg some heq)) ..
    · rfl
  | unsubscribe call feed failure =>
    simp only [step]
    split
    · exact get?_calls_unsubscribeAttempt (fun heq => hne (congrArg some heq)) ..
    · rfl
  | close call failure =>
    simp only [step]
    split
    · exact get?_calls_close (fun heq => hne (congrArg some heq)) _
    · rfl
  | join call =>
    simp only [step]
    split
    · exact get?_calls_join fun heq => hne (congrArg some heq)
    · rfl
  | abandon call =>
    simp only [step]
    rw [calls_abandon, Table.get?_erase, if_neg fun heq => hne (congrArg some heq)]
  | resume call failure => exact get?_calls_resume (fun heq => hne (congrArg some heq)) _
  | received link text =>
    simp only [step]
    split
    · split
      · rw [calls_readOn, calls_handleText]
      · rfl
    · rfl
  | lost link e =>
    simp only [step]
    split
    · split
      · rw [calls_lose]
      · rfl
    · rfl
  | noticed =>
    simp only [step]
    split
    · rfl
    · split <;> rfl
  | dialed result failures =>
    simp only [step]
    split
    · next hreader => rw [calls_dialed hc hreader]
    · rfl
  | woken =>
    simp only [step]
    split
    · split <;> rfl
    · rfl
  | settle n =>
    simp only [step]
    rw [calls_settleBatch hc]
  | release =>
    simp only [step]
    split <;> rfl

/-! ### A call that waits -/

variable {c : Call} {w : Waiter}

/-- Two calls wait under two keys. -/
theorem Coherent.key_ne_of_call (hc : h.Coherent) (hcall : Table.get? call h.calls = some c)
    (hw : c.waiter? = some w) {c' : Call} {w' : Waiter}
    (hother : Table.get? other h.calls = some c') (hw' : c'.waiter? = some w')
    (hne : call ≠ other) : w'.key ≠ w.key := by
  have hperm := h.waiters_perm_erase hc call
  rw [hcall, Option.bind_some, hw] at hperm
  have hnodup := ((hperm.map Waiter.key).nodup_iff.mp hc.tables.distinct)
  obtain ⟨hnot, -⟩ := List.nodup_cons.mp hnodup
  have hmem : w' ∈ callWaiters (Table.erase call h.calls) ++ batchWaiters h.batches := by
    refine List.mem_append_left _ (List.mem_filterMap.mpr ⟨(other, c'), Table.mem_of_get? ?_, hw'⟩)
    rw [Table.get?_erase, if_neg hne, hother]
  intro hkey
  exact hnot (hkey ▸ List.mem_map_of_mem hmem)

/-- No replay waits under the key of a call. -/
theorem Coherent.key_ne_of_replay (hc : h.Coherent) (hcall : Table.get? call h.calls = some c)
    (hw : c.waiter? = some w) {b : Batch} (hb : b ∈ h.batches) {p : Replay}
    (hp : p ∈ b.replays) : p.pending.key ≠ w.key := by
  have hnodup := hc.tables.distinct
  rw [waiters, List.map_append] at hnodup
  have hdisjoint := (List.nodup_append.mp hnodup).2.2
  have hcallWaiter : w ∈ callWaiters h.calls :=
    List.mem_filterMap.mpr ⟨_, Table.mem_of_get? hcall, hw⟩
  have hreplay : p.waiter ∈ batchWaiters h.batches :=
    List.mem_flatMap.mpr ⟨b, hb, List.mem_map_of_mem hp⟩
  intro hkey
  exact hdisjoint _ (List.mem_map_of_mem hcallWaiter) _ (List.mem_map_of_mem hreplay) hkey.symm

/-- A call that waits stays as it is, unless a step withdraws it. -/
theorem get?_calls_step (s : Settings) (now : Duration) (event : Event) (hc : h.Coherent)
    (hcall : Table.get? call h.calls = some c)
    (hw : c.waiter? = some w) :
    (Table.get? call (h.step s now event).1.calls = some c ∧
      h.effect s now event ≠ .withdraw w.key) ∨
    (Table.get? call (h.step s now event).1.calls = none ∧
      h.effect s now event = .withdraw w.key) := by
  have hadm : h.admits call = false := by simp [admits, Table.has, hcall]
  by_cases hcaller : event.caller? = some call
  · cases event with
    | subscribe | request | unsubscribe | close | join =>
      obtain rfl := Option.some.inj hcaller
      simp [step, effect, hadm, hcall]
    | abandon =>
      obtain rfl := Option.some.inj hcaller
      refine .inr ⟨by simp [step, calls_abandon], ?_⟩
      simp only [effect, hcall, Option.bind_some, hw]
    | resume =>
      obtain rfl := Option.some.inj hcaller
      cases c with
      | unsubscribing | closing | joining => simp [Call.waiter?] at hw
      | subscribing feed pending deadline =>
        obtain rfl := Option.some.inj hw
        cases hres : h.replyResult s now pending deadline with
        | none => simp [step, resume, effect, hcall, hres]
        | some result => simp [step, resume, effect, hcall, hres, finish, withdraw, Waiter.key]
      | requesting pending deadline =>
        obtain rfl := Option.some.inj hw
        cases hres : h.replyResult s now pending deadline with
        | none => simp [step, resume, effect, hcall, hres]
        | some result => simp [step, resume, effect, hcall, hres, finish, withdraw, Waiter.key]
    | received | lost | noticed | dialed | woken | settle | release =>
      simp [Event.caller?] at hcaller
  · refine .inl ⟨(get?_calls_step_of_ne hc hcaller).trans hcall, ?_⟩
    have hcause := causes_effect s now h event
    intro heff
    rw [heff] at hcause
    generalize hkey : w.key = key at hcause
    cases hcause with
    | @withdraw _ call' c' w' hcaller' hcall' hw' =>
      refine hc.key_ne_of_call hcall hw hcall' hw' ?_ hkey.symm
      rintro rfl
      exact hcaller hcaller'

end Handler

/-! ### Verdicts -/

/-- What an effect makes of the registration under a key. -/
def Effect.verdict? (key : String) : Effect → Option Settlement
  | .reply k outcome => if k = key then some (.reply outcome) else none
  | .lose | .close => some .dropped
  | _ => none

/-- What a moment makes of the registration under a key: the reader handles the reply to it, or the
connection is lost or closed on which it was sent. -/
def Moment.verdict? (s : Settings) (key : String) (m : Moment) : Option Settlement :=
  (m.effect s).verdict? key

/-- What the first moment makes of a registration that makes anything of it. -/
def firstVerdict (s : Settings) (key : String) (ms : List Moment) : Option Settlement :=
  ms.findSome? (Moment.verdict? s key)

/-- A verdict that is a reply is the reply to the key. -/
theorem Effect.eq_reply_of_verdict {key : String} {effect : Effect} {outcome : Outcome}
    (h : effect.verdict? key = some (.reply outcome)) : effect = .reply key outcome := by
  cases effect with
  | reply k o =>
    obtain ⟨rfl, rfl⟩ : k = key ∧ o = outcome := by simpa [Effect.verdict?] using h
    rfl
  | _ => simp [Effect.verdict?] at h

/-- **A verdict is a reply** where the reader handles a frame that is looked at as one. -/
theorem Moment.verdict?_eq_reply_iff {s : Settings} {key : String} {m : Moment}
    {outcome : Outcome} :
    m.verdict? s key = some (.reply outcome) ↔
      ∃ link text, m.event = .received link text ∧ m.before.reader = .reading link ∧
        Inbound.parse text = .ok (.reply key outcome) := by
  constructor
  · intro hverdict
    have heff : m.before.effect s m.now m.event = .reply key outcome :=
      Effect.eq_reply_of_verdict hverdict
    have hcause := Handler.causes_effect s m.now m.before m.event
    rw [heff] at hcause
    generalize m.event = event at hcause
    cases hcause with
    | reply hreader hparse => exact ⟨_, _, rfl, hreader, hparse⟩
  · rintro ⟨link, text, hevent, hreader, hparse⟩
    simp [Moment.verdict?, Moment.effect, Handler.effect, Handler.frameEffect, Effect.verdict?,
      hevent, hreader, hparse]

/-- **A verdict drops a registration** where the connection is lost, or the handler is closed. -/
theorem Moment.verdict?_eq_dropped_iff {s : Settings} {key : String} {m : Moment} :
    m.verdict? s key = some .dropped ↔
      (∃ link e, m.event = .lost link e ∧ m.before.reader = .reading link ∧
        m.before.stopping = false) ∨
      ∃ call failure, m.event = .close call failure ∧ m.before.admits call = true ∧
        m.before.state ≠ .closed := by
  constructor
  · intro hverdict
    rw [Moment.verdict?, Moment.effect] at hverdict
    have hcause := Handler.causes_effect s m.now m.before m.event
    generalize m.before.effect s m.now m.event = effect at hverdict hcause
    generalize m.event = event at hcause
    cases hcause with
    | lose hreader hrunning => exact .inl ⟨_, _, rfl, hreader, hrunning⟩
    | close hadm hopen => exact .inr ⟨_, _, rfl, hadm, hopen⟩
    | _ => simp [Effect.verdict?] at hverdict
  · rintro (⟨link, e, hevent, hreader, hrunning⟩ | ⟨call, failure, hevent, hadm, hopen⟩)
    · simp [Moment.verdict?, Moment.effect, Handler.effect, Effect.verdict?, hevent, hreader,
        hrunning]
    · simp [Moment.verdict?, Moment.effect, Handler.effect, Effect.verdict?, hevent, hadm, hopen]

/-- The call is over after the moment: it has returned, or was dropped. -/
def Moment.Ends (s : Settings) (call : CallId) (m : Moment) : Prop :=
  Table.get? call (m.after s).calls = none

theorem firstVerdict_concat (s : Settings) (key : String) (ms : List Moment) (m : Moment) :
    firstVerdict s key (ms ++ [m]) = (firstVerdict s key ms).or (m.verdict? s key) := by
  simp only [firstVerdict, List.findSome?_append, List.findSome?_singleton]

namespace Handler

variable {h : Handler} {s : Settings} {now : Duration} {event : Event} {call : CallId} {c : Call}
  {w : Waiter}

/-- A pending registration stays pending until there is a verdict on it, as long as its waiter is
not withdrawn and no turn of a batch gives it up. -/
theorem Coherent.verdict_of_waiter (hc : h.Coherent) (hmem : w ∈ h.waiters)
    (hp : Table.get? w.key h.correlator.pending = some w.ticket)
    (hstay : h.effect s now event ≠ .withdraw w.key)
    (hturn : ∀ replays, h.effect s now event = .settle replays →
      Table.get? w.key (settleReplays s now h replays).1.correlator.pending = some w.ticket) :
    match (h.effect s now event).verdict? w.key with
    | some v => (h.step s now event).1.correlator.settlement? w.ticket = some v
    | none => Table.get? w.key (h.step s now event).1.correlator.pending = some w.ticket := by
  have hcause := causes_effect s now h event
  have hnew := hc.tables.key_ne_fresh hmem
  rw [correlator_step s now hc event]
  generalize h.effect s now event = effect at hcause hstay hturn
  cases hcause with
  | nothing | unregister => exact hp
  | refuse => exact (Correlator.get?_pending_evict_register hc.tables.pending_fresh ..).trans hp
  | @register _ method =>
    refine (Correlator.get?_pending_register hc.tables.pending_fresh method _).trans ?_
    rw [if_neg hnew, hp]
  | @reserve _ feed =>
    refine (Correlator.get?_pending_register hc.tables.pending_fresh
      ("subscribe to " ++ feed.name) _).trans ?_
    rw [if_neg hnew, hp]
  | @withdraw _ _ _ w' =>
    refine (Correlator.get?_pending_settle ..).trans ?_
    rw [if_neg fun hkey => hstay (congrArg Effect.withdraw hkey), hp]
  | @reply _ _ key outcome =>
    by_cases hkey : key = w.key
    · simp only [Effect.verdict?, if_pos hkey]
      refine (Correlator.settlement?_settle ..).trans ?_
      rw [hkey, if_pos hp]
    · simp only [Effect.verdict?, if_neg hkey]
      refine (Correlator.get?_pending_settle ..).trans ?_
      rw [if_neg hkey, hp]
  | lose | close => exact Correlator.settlement?_clear_of_pending hp
  | attach hdialing =>
    -- while the reader dials, nobody is pending
    simp [(hc.redialing (Reader.isRedialing_of_dialing hdialing)).2] at hp
  | settle => exact hturn _ rfl

/-- The replays that an effect looks after are those of a batch. -/
theorem batch_of_effect_settle {replays : List Replay}
    (heff : h.effect s now event = .settle replays) :
    ∃ b ∈ h.batches, b.replays = replays := by
  have hcause := causes_effect s now h event
  rw [heff] at hcause
  cases hcause with
  | settle hb => exact ⟨_, List.mem_of_find?_eq_some hb, rfl⟩

/-- The registration of a call stays pending until there is a verdict on it. -/
theorem verdict_step (hc : h.Coherent) (hcall : Table.get? call h.calls = some c)
    (hw : c.waiter? = some w) (hp : Table.get? w.key h.correlator.pending = some w.ticket)
    (hstay : h.effect s now event ≠ .withdraw w.key) :
    match (h.effect s now event).verdict? w.key with
    | some v => (h.step s now event).1.correlator.settlement? w.ticket = some v
    | none => Table.get? w.key (h.step s now event).1.correlator.pending = some w.ticket := by
  refine hc.verdict_of_waiter (mem_waiters_of_call hcall hw) hp hstay fun replays heff => ?_
  obtain ⟨b, hb, rfl⟩ := batch_of_effect_settle heff
  refine (pending_settleReplays_of_ne fun p hreplay => ?_).trans hp
  exact hc.key_ne_of_replay hcall hw hb hreplay

/-- A registration is settled by the first verdict, and by nothing else. -/
theorem settlement?_step (hc : h.Coherent) (hcall : Table.get? call h.calls = some c)
    (hw : c.waiter? = some w) (hstay : h.effect s now event ≠ .withdraw w.key) :
    (h.step s now event).1.correlator.settlement? w.ticket =
      (h.correlator.settlement? w.ticket).or ((h.effect s now event).verdict? w.key) := by
  rcases hc.tables.waits (mem_waiters_of_call hcall hw) with hp | ⟨-, v, hv⟩
  · have hstep := verdict_step hc hcall hw hp hstay
    rw [hc.tables.correlator.unsettled hp, Option.none_or]
    split at hstep
    · next v hv => rw [hstep, hv]
    · next hv => rw [hv, (hc.step event).tables.correlator.unsettled hstep]
  · rw [hv, Option.some_or]
    exact (hc.evolves_step s now event).settled hv

/-- **A call waits for the first verdict.** As long as it has not ended, it stays as it is, and its
registration is settled as the first verdict says. -/
theorem settlement?_after (hr : Reachable s h) (hcall : Table.get? call h.calls = some c)
    (hw : c.waiter? = some w) (hs : h.correlator.settlement? w.ticket = none)
    (events : List (Duration × Event)) (hstay : ∀ m ∈ moments s h events, ¬m.Ends s call) :
    Table.get? call (h.after s events).calls = some c ∧
      (h.after s events).correlator.settlement? w.ticket =
        firstVerdict s w.key (moments s h events) := by
  induction events using List.reverseRecOn with
  | nil => exact ⟨hcall, hs⟩
  | append_singleton events e ih =>
    obtain ⟨now, event⟩ := e
    rw [moments_concat] at hstay ⊢
    obtain ⟨hcall', hs'⟩ := ih fun m hm => hstay m (List.mem_append_left _ hm)
    have hlast := hstay ⟨h.after s events, now, event⟩ (by simp)
    have hc := (hr.after events).coherent
    rw [after_concat, firstVerdict_concat]
    rcases get?_calls_step s now event hc hcall' hw with
      ⟨hkeep, hne⟩ | ⟨hgone, -⟩
    · exact ⟨hkeep, (settlement?_step hc hcall' hw hne).trans (by rw [hs']; rfl)⟩
    · exact absurd hgone hlast

/-- **A call that has ended leaves nothing under its key**, now or later. -/
theorem withdrawn_after (hr : Reachable s h) (hcall : Table.get? call h.calls = some c)
    (hw : c.waiter? = some w) (events : List (Duration × Event))
    (hends : ∃ m ∈ moments s h events, m.Ends s call) :
    Table.get? w.key (h.after s events).correlator.pending = none ∧
      Table.get? w.key (h.after s events).registry.byToken = none := by
  induction events generalizing h with
  | nil => simp at hends
  | cons e rest ih =>
    obtain ⟨now, event⟩ := e
    have hc := hr.coherent
    rcases get?_calls_step s now event hc hcall hw with ⟨hkeep, -⟩ | ⟨-, heff⟩
    · refine ih (hr.step now event) hkeep ?_
      obtain ⟨m, hm, hend⟩ := hends
      rcases List.mem_cons.mp hm with rfl | hm
      · exact absurd (hkeep.symm.trans hend) (by simp)
      · exact ⟨m, hm, hend⟩
    · have hr' := hr.step now event
      have htables := tables_step s now hc event
      rw [heff] at htables
      obtain ⟨hcorrelator, hregistry⟩ := Prod.mk.inj htables
      have hissued : Issued (h.step s now event).1.nextId w.key :=
        (hc.tables.waiter_issued (mem_waiters_of_call hcall hw)).mono
          (nextId_le_step s now hc event)
      have hpending : Table.get? w.key (h.step s now event).1.correlator.pending = none := by
        rw [hcorrelator]
        exact (Correlator.get?_pending_settle ..).trans (if_pos rfl)
      have htoken : Table.get? w.key (h.step s now event).1.registry.byToken = none := by
        rw [hregistry]
        exact (Registry.get?_byToken_release ..).trans (if_pos rfl)
      have hevolves := hr'.evolves_after rest
      exact ⟨hevolves.pending_none hissued hpending,
        hevolves.token_none (hr'.after rest).coherent.tables.registry hr'.coherent.tables.registry
          hissued htoken⟩

end Handler

/-! ### What a call returns -/

/-- Is the call given a turn? -/
def Event.resumes (call : CallId) : Event → Bool
  | .resume c _ => c = call
  | _ => false

/-- What waiting for a reply comes to: the value of the reply, or its error as one of the server, or
the error that there was no response if the registration was dropped; and where nothing has settled
it, a timeout once the deadline is reached. -/
def waited (s : Settings) (what : String) (deadline now : Duration) :
    Option Settlement → Option (Except HandlerError Value)
  | some (.reply (.ok v)) => some (.ok v)
  | some (.reply (.error e)) => some (.error (.remote e))
  | some .dropped => some (.error .noResponse)
  | none =>
    if deadline ≤ now then some (.error (.timeout what s.timeouts.requestWait)) else none

/-- What a call that waits for a reply returns when it is given a turn. -/
def Call.turn (s : Settings) (now : Duration) (h : Handler) : Call → Option CallResult
  | .subscribing feed pending deadline =>
    (waited s pending.what deadline now (h.correlator.settlement? pending.ticket)).map
      (Handler.subscribeResult feed)
  | .requesting pending deadline =>
    (waited s pending.what deadline now (h.correlator.settlement? pending.ticket)).map (·.map some)
  | .unsubscribing .. | .closing _ | .joining => none

namespace Handler

variable {h : Handler} {s : Settings} {now : Duration} {event : Event} {call : CallId} {c : Call}
  {w : Waiter}

theorem replyResult_eq (s : Settings) (now : Duration) (h : Handler) (pending : PendingReply)
    (deadline : Duration) :
    h.replyResult s now pending deadline =
      waited s pending.what deadline now (h.correlator.settlement? pending.ticket) := by
  unfold replyResult
  cases h.correlator.settlement? pending.ticket with
  | none => rfl
  | some v =>
    cases v with
    | dropped => rfl
    | reply outcome => cases outcome <;> rfl

/-- A turn of a call that waits for a reply: it returns, and takes what it left in the tables with
it, or nothing happens. -/
theorem resume_of_waiting (hcall : Table.get? call h.calls = some c) (hw : c.waiter? = some w)
    (failure : Option TransportError) :
    h.resume s now call failure =
      match c.turn s now h with
      | none => (h, [])
      | some result => (h.withdraw w.key).finish call result := by
  cases c with
  | unsubscribing | closing | joining => simp [Call.waiter?] at hw
  | subscribing feed pending deadline =>
    obtain rfl := Option.some.inj hw
    simp only [resume, hcall, replyResult_eq, Call.turn]
    cases waited s pending.what deadline now (h.correlator.settlement? pending.ticket) <;> rfl
  | requesting pending deadline =>
    obtain rfl := Option.some.inj hw
    simp only [resume, hcall, replyResult_eq, Call.turn]
    cases waited s pending.what deadline now (h.correlator.settlement? pending.ticket) <;> rfl

theorem outputs_resume_of_waiting (hcall : Table.get? call h.calls = some c)
    (hw : c.waiter? = some w) (failure : Option TransportError) :
    (h.resume s now call failure).2 = ((c.turn s now h).map (Output.returned call)).toList := by
  rw [resume_of_waiting hcall hw]
  cases c.turn s now h <;> rfl

/-- The next moment, for a call that waits: it returns at its turn, and at no other event. -/
theorem results_of_waiting (s : Settings) (now : Duration) (event : Event)
    (hcall : Table.get? call h.calls = some c) (hw : c.waiter? = some w) :
    (Moment.mk h now event).results s call =
      if event.resumes call then (c.turn s now h).toList else [] := by
  have hadm : h.admits call = false := by simp [admits, Table.has, hcall]
  by_cases hcaller : event.caller? = some call
  · cases event with
    | subscribe | request | unsubscribe | close | join | abandon =>
      obtain rfl := Option.some.inj hcaller
      simp [Moment.results, Moment.outputs, step, hadm, Event.resumes]
    | resume =>
      obtain rfl := Option.some.inj hcaller
      simp only [Moment.results, Moment.outputs, step, resume_of_waiting hcall hw, Event.resumes]
      cases c.turn s now h <;> simp [finish]
    | received | lost | noticed | dialed | woken | settle | release =>
      simp [Event.caller?] at hcaller
  · rw [Moment.results_of_other hcaller, if_neg]
    intro hresumes
    cases event <;> simp_all [Event.resumes, Event.caller?]

/-- A call that waits ends where it is dropped or returns. -/
theorem ends_iff (s : Settings) (now : Duration) (event : Event) (hc : h.Coherent)
    (hcall : Table.get? call h.calls = some c) (hw : c.waiter? = some w) :
    (Moment.mk h now event).Ends s call ↔
      event = .abandon call ∨ (Moment.mk h now event).results s call ≠ [] := by
  rw [results_of_waiting s now event hcall hw]
  have hadm : h.admits call = false := by simp [admits, Table.has, hcall]
  unfold Moment.Ends Moment.after
  by_cases hcaller : event.caller? = some call
  · cases event with
    | subscribe | request | unsubscribe | close | join =>
      obtain rfl := Option.some.inj hcaller
      simp [step, hadm, hcall, Event.resumes]
    | abandon =>
      obtain rfl := Option.some.inj hcaller
      simp [step, calls_abandon]
    | resume =>
      obtain rfl := Option.some.inj hcaller
      simp only [step, resume_of_waiting hcall hw, Event.resumes]
      cases c.turn s now h <;> simp [hcall, finish, withdraw]
    | received | lost | noticed | dialed | woken | settle | release =>
      simp [Event.caller?] at hcaller
  · rw [get?_calls_step_of_ne hc hcaller, hcall]
    cases event <;> simp_all [Event.resumes, Event.caller?]

/-- Only a reply with the key is a verdict that a frame can bring. -/
theorem verdict?_received (s : Settings) (now : Duration) (h : Handler) (link : LinkId)
    {text key : String}
    (hother : ∀ outcome, Inbound.parse text ≠ .ok (.reply key outcome)) :
    (Moment.mk h now (.received link text)).verdict? s key = none := by
  rw [Option.eq_none_iff_forall_ne_some]
  intro v hv
  cases v with
  | dropped => simp [Moment.verdict?_eq_dropped_iff] at hv
  | reply outcome =>
    obtain ⟨_, _, hevent, -, hparse⟩ := Moment.verdict?_eq_reply_iff.mp hv
    obtain ⟨rfl, rfl⟩ := Event.received.inj hevent
    exact hother outcome hparse

/-- **A frame that is not the first reply to a call changes nothing for it.** -/
theorem turn_received (s : Settings) (now : Duration) (hc : h.Coherent)
    (hcall : Table.get? call h.calls = some c) (hw : c.waiter? = some w) (link : LinkId)
    {text : String}
    (hother : (∀ outcome, Inbound.parse text ≠ .ok (.reply w.key outcome)) ∨
      (h.correlator.settlement? w.ticket).isSome) (t : Duration) :
    c.turn s t (h.step s now (.received link text)).1 = c.turn s t h := by
  have hkeep : h.effect s now (.received link text) ≠ .withdraw w.key := by
    rcases get?_calls_step s now (.received link text) hc hcall hw with ⟨-, hne⟩ | ⟨hgone, -⟩
    · exact hne
    · rw [get?_calls_step_of_ne hc (by simp [Event.caller?]), hcall] at hgone
      contradiction
  have hsettlement : (h.step s now (.received link text)).1.correlator.settlement? w.ticket =
      h.correlator.settlement? w.ticket := by
    rw [settlement?_step hc hcall hw hkeep]
    rcases hother with hother | hsome
    · have hverdict := verdict?_received s now h link hother
      rw [show (h.effect s now (.received link text)).verdict? w.key = none from hverdict,
        Option.or_none]
    · obtain ⟨v, hv⟩ := Option.isSome_iff_exists.mp hsome
      rw [hv, Option.some_or]
  cases c with
  | unsubscribing | closing | joining => rfl
  | subscribing feed pending deadline =>
    obtain rfl := Option.some.inj hw
    exact congrArg (fun v => (waited s pending.what deadline t v).map (subscribeResult feed))
      hsettlement
  | requesting pending deadline =>
    obtain rfl := Option.some.inj hw
    exact congrArg (fun v => (waited s pending.what deadline t v).map (·.map some)) hsettlement

end Handler

end FeedLink.Socket
