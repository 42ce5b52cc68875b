import FeedLink.Proofs.Envelopes
import FeedLink.Proofs.Socket.Attendance
import FeedLink.Proofs.Socket.Closing
import FeedLink.Proofs.Socket.Reattachment
import FeedLink.Proofs.Socket.Waiting

/-!
# Unsubscribing is all or nothing

A call to unsubscribe makes one attempt after the other, with pauses in which everybody else goes
on: the feed may be reserved, made again under another id, lost, or given up by another caller. An
attempt that the connection takes is the last one. It takes the feed out of the registry in the same
step, and the call returns; so a call that returns without an error has had no request taken, if its
last attempt has found the feed free, or one, with the id that the feed was assigned on the
connection that took it. An attempt that fails leaves the registry as it was, and a call that fails
has made no other ones.

A feed that is free stays so until a caller subscribes to it. Nothing is written for it, no recovery
makes it again, and no push is delivered for it.

## Main definitions

* `Moment.accepted` — what the connection takes of what a call has written
* `Moment.Turn` — what a moment is for a call that unsubscribes
* `Unsubscribes` — a call to unsubscribe, from its first moment to its last
* `Moment.Spares` — a moment in which a feed is free

## Main results

* `Handler.turn_of_unsubscribing` — what the next moment is for a call that unsubscribes
* `Unsubscribes.turns` — a call takes its turns until it returns
* `Handler.spares_after` — a feed that is free stays so
* `Handler.unsubscribe_is_all_or_nothing`
-/

namespace FeedLink.Socket

open Json

/-! ### The turns of a call -/

/-- A request that the connection has refused. -/
def Output.IsRefused (o : Output) : Prop := ∃ link text e, o = .sent link text (some e)

/-- What a connection has taken: the request, if it was one that was not refused. -/
def Output.accepted? : Output → Option (LinkId × String)
  | .sent link text none => some (link, text)
  | .sent _ _ (some _) | .closed _ | .dialing | .notified .. | .returned .. => none

/-- What the connection takes of what a call has written. -/
def Moment.accepted (s : Settings) (call : CallId) (m : Moment) : List (LinkId × String) :=
  if m.event.caller? = some call then (m.outputs s).filterMap Output.accepted? else []

/-- The call waits for its next attempt to unsubscribe. -/
def Handler.Unsubscribing (h : Handler) (call : CallId) (f : Feed) : Prop :=
  ∃ backoff wake, Table.get? call h.calls = some (.unsubscribing f backoff wake)

/-- What a moment is for a call that unsubscribes. -/
inductive Moment.Turn (s : Settings) (call : CallId) (f : Feed) (m : Moment) : Prop
  /-- It belongs to somebody else. -/
  | other (other : m.event.caller? ≠ some call) (waits : (m.after s).Unsubscribing call f)
  /-- The call sleeps on, or its attempt fails and is worth another one. -/
  | pauses (own : m.event.caller? = some call) (waits : (m.after s).Unsubscribing call f)
      (kept : (m.after s).registry = m.before.registry)
      (refused : ∀ o ∈ m.outputs s, o.IsRefused)
  | fails {sent : List Output} {e : HandlerError} (own : m.event.caller? = some call)
      (kept : (m.after s).registry = m.before.registry) (refused : ∀ o ∈ sent, o.IsRefused)
      (returns : m.outputs s = sent ++ [.returned call (.error e)])
  /-- Nothing is left to give up. -/
  | finds (own : m.event.caller? = some call)
      (free : Table.get? f m.before.registry.slots = none)
      (kept : (m.after s).registry = m.before.registry)
      (returns : m.outputs s = [.returned call (.ok none)])
  /-- The connection takes the request, and the feed is given up. -/
  | gives {sub : Subscription} {link : LinkId} (own : m.event.caller? = some call)
      (attached : m.before.link = some link) (released : m.before.released = false)
      (active : Table.get? f m.before.registry.slots = some (.active sub))
      (taken : (m.after s).registry = (m.before.registry.unregister f).2)
      (returns : m.outputs s =
        [.sent link (Request.envelope m.before.nextId "unsubscribe" (.arr [.str sub.id.text])) none,
          .returned call (.ok none)])

namespace Handler

variable {h : Handler} {s : Settings} {now : Duration} {event : Event} {call : CallId} {f : Feed}
  {m : Moment}

/-- An attempt that leaves the registry alone, and fails. -/
theorem turn_of_failure (hown : event.caller? = some call) {backoff : Backoff}
    {failure : Option TransportError}
    (hstep : h.step s now event = h.unsubscribeAttempt now call f backoff failure)
    (hkept : (h.unsubscribeOnce f failure).1.registry = h.registry)
    (hrefused : ∀ o ∈ (h.unsubscribeOnce f failure).2.1, o.IsRefused)
    (hfails : (h.unsubscribeOnce f failure).2.2 ≠ .success ()) :
    (Moment.mk h now event).Turn s call f := by
  unfold unsubscribeAttempt at hstep
  generalize h.unsubscribeOnce f failure = once at hstep hkept hrefused hfails
  obtain ⟨h', sent, attempt⟩ := once
  cases attempt with
  | success u => exact absurd rfl hfails
  | permanent e =>
    refine .fails hown ?_ hrefused (congrArg Prod.snd hstep)
    exact (congrArg (Handler.registry ∘ Prod.fst) hstep).trans hkept
  | transient e =>
    dsimp only at hstep
    split at hstep
    · refine .fails hown ?_ hrefused (congrArg Prod.snd hstep)
      exact (congrArg (Handler.registry ∘ Prod.fst) hstep).trans hkept
    · next delay backoff' _ =>
      refine .pauses hown ⟨backoff', now + delay, ?_⟩ ?_ ?_
      · rw [show (Moment.mk h now event).after s = _ from congrArg Prod.fst hstep]
        exact Table.get?_set_self ..
      · exact (congrArg (Handler.registry ∘ Prod.fst) hstep).trans hkept
      · rw [show (Moment.mk h now event).outputs s = _ from congrArg Prod.snd hstep]
        exact hrefused

/-- What an attempt to unsubscribe is for its call. -/
theorem turn_of_attempt (hown : event.caller? = some call) (hreleased : h.released = false)
    {backoff : Backoff} {failure : Option TransportError}
    (hstep : h.step s now event = h.unsubscribeAttempt now call f backoff failure) :
    (Moment.mk h now event).Turn s call f := by
  have hfailure := turn_of_failure hown hstep
  unfold unsubscribeAttempt at hstep
  cases hslot : Table.get? f h.registry.slots with
  | none =>
    simp only [unsubscribeOnce, Registry.holding, hslot] at hstep
    exact .finds hown hslot (congrArg (Handler.registry ∘ Prod.fst) hstep) (congrArg Prod.snd hstep)
  | some slot =>
    cases slot with
    | reserved request callback previous =>
      simp only [unsubscribeOnce, Registry.holding, hslot] at hfailure
      exact hfailure trivial (by simp) (by simp)
    | active sub =>
      cases hlink : h.link with
      | none =>
        simp only [unsubscribeOnce, Registry.holding, hslot, hlink] at hfailure
        refine hfailure trivial (by simp) ?_
        split <;> simp
      | some link =>
        cases failure with
        | some e =>
          simp only [unsubscribeOnce, Registry.holding, hslot, hlink] at hfailure
          exact hfailure trivial (by simp [Output.IsRefused]) (by simp)
        | none =>
          simp only [unsubscribeOnce, Registry.holding, hslot, hlink] at hstep
          rw [Request.text_unsubscribe] at hstep
          exact .gives hown hlink hreleased hslot (congrArg (Handler.registry ∘ Prod.fst) hstep)
            (congrArg Prod.snd hstep)

/-- The first moment of a call to unsubscribe. -/
theorem turn_of_begins (hadm : h.admits call = true) (failure : Option TransportError) :
    (Moment.mk h now (.unsubscribe call f failure)).Turn s call f :=
  turn_of_attempt rfl (admits_iff.mp hadm).1 (by simp only [step, hadm, if_true]; rfl)

/-- **What the next moment is for a call that unsubscribes.** -/
theorem turn_of_unsubscribing (hc : h.Coherent) (hwaits : h.Unsubscribing call f)
    (hkept : event ≠ .abandon call) : (Moment.mk h now event).Turn s call f := by
  obtain ⟨backoff, wake, hcall⟩ := hwaits
  have hadm : h.admits call = false := by simp [admits, Table.has, hcall]
  -- a turn that comes to nothing
  have hidle (hown : event.caller? = some call) (hstep : h.step s now event = (h, [])) :
      (Moment.mk h now event).Turn s call f := by
    refine .pauses hown ⟨backoff, wake, ?_⟩ (congrArg (Handler.registry ∘ Prod.fst) hstep) ?_
    · rw [show (Moment.mk h now event).after s = h from congrArg Prod.fst hstep, hcall]
    · rw [show (Moment.mk h now event).outputs s = [] from congrArg Prod.snd hstep]
      exact fun o ho => absurd ho (List.not_mem_nil)
  by_cases hcaller : event.caller? = some call
  · cases event with
    | subscribe | request | unsubscribe | close | join =>
      obtain rfl := Option.some.inj hcaller
      exact hidle rfl (by simp [step, hadm])
    | abandon => exact absurd (congrArg Event.abandon (Option.some.inj hcaller)) hkept
    | resume own failure =>
      obtain rfl : own = call := Option.some.inj hcaller
      by_cases hwake : wake ≤ now
      · have hstep : h.step s now (.resume own failure) =
            h.unsubscribeAttempt now own f backoff failure := by
          simp only [step, resume, hcall, if_pos hwake]
        exact turn_of_attempt rfl (hc.not_released hcall) hstep
      · exact hidle rfl (by simp only [step, resume, hcall, if_neg hwake])
    | received | lost | noticed | dialed | woken | settle | release =>
      simp [Event.caller?] at hcaller
  · refine .other hcaller ⟨backoff, wake, ?_⟩
    rw [← hcall]
    exact get?_calls_step_of_ne hc hcaller

end Handler

/-! ### What a turn comes to -/

variable {s : Settings} {h : Handler} {call : CallId} {f : Feed} {m : Moment}
  {events : List (Duration × Event)} {result : CallResult}

/-- A connection takes nothing that it refuses. -/
theorem accepted?_of_refused {os : List Output} (hrefused : ∀ o ∈ os, o.IsRefused) :
    os.filterMap Output.accepted? = [] :=
  List.filterMap_eq_nil_iff.mpr fun o ho => by
    obtain ⟨link, text, e, rfl⟩ := hrefused o ho
    rfl

/-- A request that is refused is no result. -/
theorem results_of_refused (hrefused : ∀ o ∈ m.outputs s, o.IsRefused) :
    m.results s call = [] :=
  List.filterMap_eq_nil_iff.mpr fun o ho => by
    obtain ⟨link, text, e, rfl⟩ := hrefused o ho
    rfl

theorem results_of_returned {sent : List Output} (hrefused : ∀ o ∈ sent, o.IsRefused)
    (hout : m.outputs s = sent ++ [.returned call result]) : m.results s call = [result] := by
  rw [Moment.results, hout, List.filterMap_append, List.filterMap_eq_nil_iff.mpr]
  · simp
  · intro o ho
    obtain ⟨link, text, e, rfl⟩ := hrefused o ho
    rfl

namespace Moment.Turn

/-- A turn at which the call does not return: it waits for another one, the connection has taken
nothing from it, and it leaves the registry alone. -/
theorem of_no_result (hturn : m.Turn s call f) (hnone : m.results s call = []) :
    (m.after s).Unsubscribing call f ∧ m.accepted s call = [] ∧
      (m.event.caller? = some call → (m.after s).registry = m.before.registry) := by
  cases hturn with
  | other hother hwaits => exact ⟨hwaits, if_neg hother, fun hown => absurd hown hother⟩
  | pauses hown hwaits hkept hrefused =>
    exact ⟨hwaits, (if_pos hown).trans (accepted?_of_refused hrefused), fun _ => hkept⟩
  | fails _ _ hrefused hout => simp [results_of_returned hrefused hout] at hnone
  | finds _ _ _ hout | gives _ _ _ _ _ hout => simp [Moment.results, hout] at hnone

/-- **A turn at which the call returns.** -/
theorem of_result (hturn : m.Turn s call f) (hresult : m.results s call = [result]) :
    (∃ e, result = .error e ∧ m.accepted s call = [] ∧
      (m.after s).registry = m.before.registry) ∨
    (result = .ok none ∧ m.accepted s call = [] ∧
      Table.get? f m.before.registry.slots = none ∧ (m.after s).registry = m.before.registry) ∨
    ∃ sub link, result = .ok none ∧
      m.accepted s call =
        [(link, Request.envelope m.before.nextId "unsubscribe" (.arr [.str sub.id.text]))] ∧
      m.before.link = some link ∧ m.before.released = false ∧
      Table.get? f m.before.registry.slots = some (.active sub) ∧
      (m.after s).registry = (m.before.registry.unregister f).2 := by
  cases hturn with
  | other hother => simp [Moment.results_of_other hother] at hresult
  | pauses _ _ _ hrefused => simp [results_of_refused hrefused] at hresult
  | @fails _ e hown hkept hrefused hout =>
    have hresult' : .error e = result := by
      simpa [results_of_returned hrefused hout] using hresult
    refine .inl ⟨e, hresult'.symm, (if_pos hown).trans ?_, hkept⟩
    rw [hout, List.filterMap_append, accepted?_of_refused hrefused]
    rfl
  | finds hown hfree hkept hout =>
    have hresult' : .ok none = result := by simpa [Moment.results, hout] using hresult
    refine .inr (.inl ⟨hresult'.symm, (if_pos hown).trans ?_, hfree, hkept⟩)
    rw [hout]
    rfl
  | @gives sub link hown hlink hreleased hactive htaken hout =>
    have hresult' : .ok none = result := by simpa [Moment.results, hout] using hresult
    refine .inr (.inr ⟨sub, link, hresult'.symm, (if_pos hown).trans ?_, hlink, hreleased, hactive,
      htaken⟩)
    rw [hout]
    rfl

end Moment.Turn

/-! ### A call from its first moment to its last -/

/-- A call to unsubscribe: it begins with the first event, is not dropped, and returns at the last
moment and no earlier. -/
structure Unsubscribes (s : Settings) (h : Handler) (call : CallId) (f : Feed)
    (events : List (Duration × Event)) (result : CallResult) : Prop where
  admitted : h.admits call = true
  begins : ∃ now failure rest, events = (now, .unsubscribe call f failure) :: rest
  kept : ∀ e ∈ events, e.2 ≠ .abandon call
  returns : ∃ pre last, Handler.moments s h events = pre ++ [last] ∧
    (∀ m ∈ pre, m.results s call = []) ∧ last.results s call = [result]

/-- A call that waits takes its turns for as long as it does not return. -/
theorem turns_of_unsubscribing (hr : Handler.Reachable s h) (hwaits : h.Unsubscribing call f)
    (hkept : ∀ e ∈ events, e.2 ≠ .abandon call)
    (hnone : ∀ m ∈ Handler.moments s h events, m.results s call = []) :
    (h.after s events).Unsubscribing call f ∧
      ∀ m ∈ Handler.moments s h events, m.Turn s call f := by
  induction events generalizing h with
  | nil => exact ⟨hwaits, by simp⟩
  | cons e rest ih =>
    rw [Handler.moments, List.forall_mem_cons] at hnone
    rw [List.forall_mem_cons] at hkept
    have hturn : (Moment.mk h e.1 e.2).Turn s call f :=
      Handler.turn_of_unsubscribing hr.coherent hwaits hkept.1
    have hwaits' := (hturn.of_no_result hnone.1).1
    obtain ⟨hafter, hturns⟩ := ih (hr.step e.1 e.2) hwaits' hkept.2 hnone.2
    exact ⟨hafter, List.forall_mem_cons.mpr ⟨hturn, hturns⟩⟩

/-- **A call takes its turns until it returns.** -/
theorem Unsubscribes.turns (hun : Unsubscribes s h call f events result)
    (hr : Handler.Reachable s h) : ∀ m ∈ Handler.moments s h events, m.Turn s call f := by
  obtain ⟨now, failure, rest, rfl⟩ := hun.begins
  obtain ⟨pre, last, hms, hnone, -⟩ := hun.returns
  have hbegins : (Moment.mk h now (.unsubscribe call f failure)).Turn s call f :=
    Handler.turn_of_begins hun.admitted failure
  have hreach := hr.step now (.unsubscribe call f failure)
  rw [Handler.moments] at hms ⊢
  refine List.forall_mem_cons.mpr ⟨hbegins, ?_⟩
  rcases List.eq_nil_or_concat' rest with rfl | ⟨rest, e, rfl⟩
  · simp
  · -- the call does not return before the last of these events
    rw [Handler.moments_concat, ← List.cons_append] at hms
    obtain ⟨rfl, -⟩ := List.append_inj' hms rfl
    rw [List.forall_mem_cons] at hnone
    have hkept : ∀ e' ∈ rest ++ [e], e'.2 ≠ .abandon call := fun e' he' =>
      hun.kept e' (List.mem_cons_of_mem _ he')
    rw [List.forall_mem_append, List.forall_mem_singleton] at hkept
    obtain ⟨hwaits, hturns⟩ := turns_of_unsubscribing hreach (hbegins.of_no_result hnone.1).1
      hkept.1 hnone.2
    rw [Handler.moments_concat, List.forall_mem_append, List.forall_mem_singleton]
    exact ⟨hturns, Handler.turn_of_unsubscribing (hreach.after rest).coherent hwaits hkept.2⟩

/-- **What is taken from a call is taken at its last turn**, and no turn before it changes the
registry. -/
theorem Unsubscribes.exists_last (hun : Unsubscribes s h call f events result)
    (hr : Handler.Reachable s h) :
    ∃ pre last, Handler.moments s h events = pre ++ [last] ∧
      last.Turn s call f ∧ last.results s call = [result] ∧
      (pre ++ [last]).flatMap (Moment.accepted s call) = last.accepted s call ∧
      ∀ m ∈ pre, m.event.caller? = some call → (m.after s).registry = m.before.registry := by
  have hturns := hun.turns hr
  obtain ⟨pre, last, hms, hnone, hresult⟩ := hun.returns
  rw [hms, List.forall_mem_append, List.forall_mem_singleton] at hturns
  have hquiet := fun m hm => (hturns.1 m hm).of_no_result (hnone m hm)
  refine ⟨pre, last, hms, hturns.2, hresult, ?_, fun m hm => (hquiet m hm).2.2⟩
  rw [List.flatMap_append, List.flatMap_eq_nil_iff.mpr fun m hm => (hquiet m hm).2.1,
    List.nil_append, List.flatMap_singleton]

/-! ### A feed that is free -/

/-- A caller begins to subscribe to the feed. -/
def Moment.AsksFor (f : Feed) (m : Moment) : Prop :=
  ∃ call params callback failure,
    m.event = .subscribe call f params callback failure ∧ m.before.admits call = true

/-- The moment has nothing to do with the feed. It is free afterwards; a subscribe to it was written
only if a caller has spelled one out as a request of its own; there was nothing to make again for
it; and whoever is notified has subscribed to another feed. -/
structure Moment.Spares (s : Settings) (f : Feed) (m : Moment) : Prop where
  free : Table.get? f (m.after s).registry.slots = none
  unasked : ∀ link n params failure,
    .sent link (Request.envelope n "subscribe" (.arr [.str f.name, params])) failure ∈
        m.outputs s →
      ∃ call spelled refused, m.event = .request call "subscribe" spelled refused ∧
        spelled.render = (Value.arr [.str f.name, params]).render
  unreplayed : ∀ lost ∈ m.before.registry.replayables, lost.feed ≠ f
  unheard : ∀ callback delivery, (callback, delivery) ∈ m.notifications s →
    ∃ g sub payload, g ≠ f ∧ Table.get? g m.before.registry.slots = some (.active sub) ∧
      sub.callback = callback ∧ delivery = s.decoders.decode g payload

namespace Handler

/-- A feed stays free unless a caller begins to subscribe to it. -/
theorem free_after (hc : m.before.Coherent) (hfree : Table.get? f m.before.registry.slots = none)
    (hasks : ¬m.AsksFor f) : Table.get? f (m.after s).registry.slots = none := by
  have hbecomes := hc.becomes s m.now m.event f
  have hcause := causes_effect s m.now m.before m.event
  rw [hfree] at hbecomes
  unfold Moment.after
  generalize m.before.effect s m.now m.event = effect at hbecomes hcause
  generalize Table.get? f (m.before.step s m.now m.event).1.registry.slots = after at hbecomes ⊢
  cases hbecomes with
  | kept | closed | dropped | refused => rfl
  | reserved =>
    generalize hevent : m.event = event at hcause
    cases hcause with
    | reserve hadm => exact absurd ⟨_, _, _, _, hevent, hadm⟩ hasks
  | replayed hlost =>
    rcases slot_of_replayable hlost with hslot | hslot <;> simp [hfree] at hslot

/-- Nothing is to be made again for a feed that is free. -/
theorem feed_ne_of_replayable (hr : h.registry.Coherent)
    (hfree : Table.get? f h.registry.slots = none) {lost : Subscription}
    (hlost : lost ∈ h.registry.replayables) : lost.feed ≠ f := by
  rintro rfl
  rcases (mem_replayables_iff_lost hr).mp hlost with hslot | hslot <;> simp [hfree] at hslot

/-- What is to be made again was begun by a subscribe. -/
theorem subscribe_of_replayable (s : Settings) (first : LinkId)
    (events : List (Duration × Event)) {lost : Subscription}
    (hlost : ((initial first).after s events).registry.replayable? f = some lost) :
    ∃ n params, lost.request = .subscribe n f params := by
  obtain ⟨slot, hslot, hrequest⟩ := request_of_replayable hlost
  obtain ⟨n, params, -, hsubscribe⟩ := lastSubscribe_of_held s first events hslot
  exact ⟨n, params, hrequest.symm.trans hsubscribe⟩

/-- Whoever is notified has an active subscription. -/
theorem active_of_notification (hc : m.before.Coherent) {callback : Callback} {delivery : Delivery}
    (hmem : (callback, delivery) ∈ m.notifications s) :
    ∃ g sub payload, Table.get? g m.before.registry.slots = some (.active sub) ∧
      sub.callback = callback ∧ delivery = s.decoders.decode g payload := by
  by_cases hpush : ∃ x payload, m.Pushes x payload
  · obtain ⟨x, payload, hpush⟩ := hpush
    rw [Moment.notifications, outputs_of_push s hpush] at hmem
    cases hroute : m.before.registry.route x with
    | none => simp [hroute] at hmem
    | some target =>
      obtain ⟨g, owner⟩ := target
      obtain ⟨sub, hslot, -, rfl⟩ := Registry.active_of_route hc.tables.registry hroute
      obtain ⟨rfl, rfl⟩ : callback = sub.callback ∧ delivery = s.decoders.decode g payload := by
        simpa [hroute, Output.notification?] using hmem
      exact ⟨g, sub, payload, hslot, rfl, rfl⟩
  · have hnone := notifications_of_no_push s fun x payload h => hpush ⟨x, payload, h⟩
    simp [hnone] at hmem

/-- **A moment spares a feed that is free**, unless a caller begins to subscribe to it. -/
theorem spares_of_free (s : Settings) (first : LinkId) (events : List (Duration × Event))
    (hbefore : (initial first).after s events = m.before)
    (hfree : Table.get? f m.before.registry.slots = none) (hasks : ¬m.AsksFor f) :
    m.Spares s f := by
  have hc : m.before.Coherent := hbefore ▸ ((Reachable.initial first).after events).coherent
  have hreplay : ∀ lost ∈ m.before.registry.replayables, lost.feed ≠ f := fun _ =>
    feed_ne_of_replayable hc.tables.registry hfree
  refine ⟨free_after hc hfree hasks, fun link n params failure hsent => ?_, hreplay,
    fun callback delivery hmem => ?_⟩
  · rw [← Request.text_subscribe] at hsent
    obtain ⟨request, hwrites, htext⟩ := explains_step s m.now m.before m.event _ hsent
    generalize hevent : m.event = event at hwrites
    cases hwrites with
    | @subscribe call =>
      obtain rfl := Request.feed_of_text htext
      cases hadm : m.before.admits call with
      | true => exact absurd ⟨_, _, _, _, hevent, hadm⟩ hasks
      | false => simp [Moment.outputs, hevent, step, hadm] at hsent
    | @request call _ spelled refused =>
      obtain ⟨rfl, hparams⟩ := Request.method_of_text rfl rfl htext
      exact ⟨call, spelled, refused, hevent ▸ rfl, Option.some.inj hparams⟩
    | unsubscribe | close =>
      have hmethod : Request.unsubscribeMethod = Request.subscribeMethod :=
        (Request.method_of_text rfl rfl htext).1
      exact absurd hmethod (by decide)
    | @replay _ _ _ lost _ _ _ hlost =>
      have hlost' := (Registry.mem_replayables hc.tables.registry).mp hlost
      obtain ⟨k, params', hrequest⟩ := subscribe_of_replayable s first events (hbefore ▸ hlost')
      rw [hrequest] at htext
      exact absurd (Request.feed_of_text htext) (hreplay lost hlost)
  · obtain ⟨g, sub, payload, hslot, hcallback, hdelivery⟩ := active_of_notification hc hmem
    refine ⟨g, sub, payload, ?_, hslot, hcallback, hdelivery⟩
    rintro rfl
    simp [hfree] at hslot

/-- **A feed that is free stays so** until a caller begins to subscribe to it. -/
theorem spares_after (s : Settings) (first : LinkId) (before later : List (Duration × Event))
    (hfree : Table.get? f ((initial first).after s before).registry.slots = none)
    (hasks : ∀ m ∈ moments s ((initial first).after s before) later, ¬m.AsksFor f) :
    ∀ m ∈ moments s ((initial first).after s before) later, m.Spares s f := by
  induction later generalizing before with
  | nil => simp
  | cons e rest ih =>
    rw [moments, List.forall_mem_cons] at hasks ⊢
    have hspares : (Moment.mk ((initial first).after s before) e.1 e.2).Spares s f :=
      spares_of_free s first before rfl hfree hasks.1
    refine ⟨hspares, ?_⟩
    have hnext : (initial first).after s (before ++ [e]) =
        (((initial first).after s before).step s e.1 e.2).1 := after_concat ..
    rw [← hnext] at hasks ⊢
    exact ih (before ++ [e]) (hnext ▸ hspares.free) hasks.2

/-! ### What a call comes to -/

/-- **Unsubscribing is all or nothing.** A call that returns without an error leaves its feed free.
If its last attempt has found the feed so, the connection has taken nothing from the call; else it
has taken one request, an `unsubscribe` of the id that the feed was assigned on it, at the last
attempt. From then
on, until a caller begins to subscribe to the feed, no moment has anything to do with it. A call
that returns an error has had nothing taken, and none of its attempts has changed the registry. -/
theorem unsubscribe_is_all_or_nothing (s : Settings) (first : LinkId)
    (before during : List (Duration × Event))
    (hun : Unsubscribes s ((initial first).after s before) call f during result) :
    let h := (initial first).after s before
    let h' := h.after s during
    ∃ pre last, moments s h during = pre ++ [last] ∧
      (∀ value, result = .ok value →
        value = none ∧
        Table.get? f h'.registry.slots = none ∧
        (Table.get? f last.before.registry.slots = none ∧
            (pre ++ [last]).flatMap (Moment.accepted s call) = [] ∨
          ∃ link x, last.before.link = some link ∧
            AssignedOn s link f x (moments s (initial first) before ++ pre) ∧
            (pre ++ [last]).flatMap (Moment.accepted s call) =
              [(link, Request.envelope last.before.nextId "unsubscribe" (.arr [.str x.text]))]) ∧
        ∀ later, (∀ m ∈ moments s h' later, ¬m.AsksFor f) →
          ∀ m ∈ moments s h' later, m.Spares s f) ∧
      ∀ e, result = .error e →
        (pre ++ [last]).flatMap (Moment.accepted s call) = [] ∧
        ∀ m ∈ pre ++ [last], m.event.caller? = some call →
          (m.after s).registry = m.before.registry := by
  intro h h'
  have hr : Reachable s h := (Reachable.initial first).after before
  obtain ⟨pre, last, hms, hturn, hresult, hframes, hquiet⟩ := hun.exists_last hr
  obtain ⟨events, hduring, hpre, hbefore⟩ := moments_split_last hms
  have hafter : h' = last.after s := by
    rw [show h' = h.after s during from rfl, hduring, after_concat, hbefore]
  have hlater (hfree : Table.get? f h'.registry.slots = none) (later : List (Duration × Event))
      (hasks : ∀ m ∈ moments s h' later, ¬m.AsksFor f) :
      ∀ m ∈ moments s h' later, m.Spares s f := by
    rw [show h' = (initial first).after s (before ++ during) from
      (after_append s (initial first) before during).symm] at hfree hasks ⊢
    exact spares_after s first (before ++ during) later hfree hasks
  refine ⟨pre, last, hms, ?_⟩
  rw [hframes]
  rcases hturn.of_result hresult with ⟨e, rfl, haccepted, hkept⟩ |
    ⟨rfl, haccepted, hfree, hkept⟩ | ⟨sub, link, rfl, haccepted, hlink, hreleased, hactive, htaken⟩
  · refine ⟨by simp, fun e' he' => ⟨haccepted, ?_⟩⟩
    exact List.forall_mem_append.mpr ⟨hquiet, List.forall_mem_singleton.mpr fun _ => hkept⟩
  · have hfree' : Table.get? f h'.registry.slots = none := by rw [hafter, hkept, hfree]
    refine ⟨fun value hvalue => ?_, by simp⟩
    obtain rfl : none = value := Except.ok.inj hvalue
    exact ⟨rfl, hfree', .inl ⟨hfree, haccepted⟩, hlater hfree'⟩
  · have hfree' : Table.get? f h'.registry.slots = none := by
      rw [hafter, htaken, Registry.unregister_of_active hactive]
      exact Table.get?_erase_self ..
    have hhere : (initial first).after s (before ++ events) = last.before := by
      rw [after_append, hbefore]
    have hassigned : AssignedOn s link f sub.id (moments s (initial first) before ++ pre) := by
      rw [← hpre, ← moments_append]
      rw [← hhere] at hreleased hlink hactive
      exact assignedOn_of_active s first (before ++ events) hreleased hlink ⟨sub, hactive, rfl⟩
    refine ⟨fun value hvalue => ?_, by simp⟩
    obtain rfl : none = value := Except.ok.inj hvalue
    exact ⟨rfl, hfree', .inr ⟨link, sub.id, hlink, hassigned, haccepted⟩, hlater hfree'⟩

/-- The first subscription is given up at the second attempt: the connection refuses the request of
the first one. There is a push between them. -/
def secondAttempt : List (Duration × Event) :=
  [(.zero, .unsubscribe ⟨"u"⟩ .newTxs (some .closed)), (firstPush.now, firstPush.event),
    (.ofSeconds 1, .resume ⟨"u"⟩ none)]

/-- One request is taken, which names the id that the feed was assigned, and the push is not
delivered again. -/
theorem given_up_at_second_attempt :
    let h := (initial ⟨0⟩).after .standard firstSubscription
    let h' := h.after .standard secondAttempt
    (moments .standard h secondAttempt).flatMap (Moment.accepted .standard ⟨"u"⟩) =
        [(⟨0⟩, "\x7b\"jsonrpc\":\"2.0\",\"id\":\"3\",\"method\":\"unsubscribe\",\"params\":[\"x\"]\x7d")] ∧
      (∃ during, AssignedOn .standard ⟨0⟩ .newTxs ⟨"x"⟩
        (moments .standard (initial ⟨0⟩) firstSubscription ++ during)) ∧
      Table.get? .newTxs h'.registry.slots = none ∧
      ∀ m ∈ moments .standard h' [(firstPush.now, firstPush.event)],
        m.Spares .standard .newTxs := by
  intro h h'
  have hun : Unsubscribes .standard h ⟨"u"⟩ .newTxs secondAttempt (.ok none) := by
    refine ⟨by decide +kernel, ⟨_, _, _, rfl⟩, ?_, ⟨[_, _], _, rfl, ?_, by decide +kernel⟩⟩
    · simp [secondAttempt, firstPush]
    · simp only [List.forall_mem_cons]
      exact ⟨by decide +kernel, by decide +kernel, by simp⟩
  have htaken : (moments .standard h secondAttempt).flatMap (Moment.accepted .standard ⟨"u"⟩) =
      [(⟨0⟩, Request.envelope 3 "unsubscribe" (.arr [.str "x"]))] := by
    decide +kernel
  obtain ⟨pre, last, hms, hok, -⟩ :=
    unsubscribe_is_all_or_nothing .standard ⟨0⟩ firstSubscription secondAttempt hun
  obtain ⟨-, hfree, hframes, hlater⟩ := hok none rfl
  rw [← hms, htaken] at hframes
  obtain ⟨link, x, -, hassigned, hframes⟩ := hframes.resolve_left fun hnone => by simp at hnone
  obtain ⟨rfl, hframe⟩ := Prod.mk.inj (List.singleton_inj.mp hframes)
  obtain rfl : ⟨"x"⟩ = x := Request.unsubscribed_of_text hframe
  refine ⟨htaken.trans (by decide +kernel), ⟨pre, hassigned⟩, hfree,
    hlater [(firstPush.now, firstPush.event)] fun m hm => ?_⟩
  obtain rfl := List.mem_singleton.mp hm
  rintro ⟨call, params, callback, failure, hevent, -⟩
  contradiction

end Handler

end FeedLink.Socket
