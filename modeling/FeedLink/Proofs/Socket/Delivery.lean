import FeedLink.Proofs.Socket.Evolution
import FeedLink.Proofs.Socket.Outputs
import FeedLink.Proofs.Socket.Routing
import FeedLink.Proofs.Socket.Slot

/-!
# Every push reaches its subscriber

Which feed a push is for is decided by the acknowledgements that the reader has handled on the same
connection. A feed is assigned the id of its acknowledgement, until its caller gives it up, the
handler is closed, or another connection is attached; and the feeds that are assigned an id are the
ones that are active under it. As long as the server assigns no id twice at a time, a push calls
the callback of the feed that is assigned its id, and nothing else happens.

## Main definitions

* `Assigned` — a feed is assigned an id
* `LastSubscribe`, `Given` — the last subscribe to a feed, and its callback
* `AssignsApart` — the server assigns no id to two feeds at a time
* `Moment.Pushes` — the reader handles a push

## Main results

* `Handler.assigned_iff` — what is assigned is active
* `Handler.lastSubscribe_of_held` — what holds a feed repeats the last subscribe to it
* `Handler.every_push_reaches_its_subscriber`
-/

namespace FeedLink.Socket

open Json

/-- The callback that waits with a reservation, or is called by an active subscription. -/
def Slot.callback : Slot → Callback
  | .reserved _ callback _ => callback
  | .active sub => sub.callback

/-- A payload that cannot be decoded gives an error that names its feed. -/
theorem decode_eq_error {d : Decoders} {f : Feed} {payload : Value} {e : HandlerError}
    (h : d.decode f payload = .error e) : ∃ cause, e = .decode f cause := by
  unfold Decoders.decode at h
  split at h
  · next shape _ =>
    cases hshape : shape.decode payload with
    | ok notification => simp [hshape, Except.mapError] at h
    | error cause =>
      rw [hshape] at h
      exact ⟨cause, (Except.error.inj h).symm⟩
  · contradiction

namespace Moment

variable (s : Settings) (f : Feed)

/-- The reader handles a reply that acknowledges a feed: a string, under the key of the subscribe or
the replay for which the feed is reserved. -/
def Acknowledges (x : SubscriptionId) (m : Moment) : Prop :=
  ∃ key, m.effect s = .reply key (.ok (.str x.text)) ∧
    Table.get? key m.before.registry.byToken = some f

/-- The caller of a feed gives it up, the handler is closed, which gives up all feeds, or another
connection is attached. -/
def Unassigns (m : Moment) : Prop :=
  m.effect s = .unregister f ∨ m.effect s = .close ∨
    ∃ link failures, m.effect s = .attach link failures

/-- A subscribe to a feed is written. -/
def Subscribes (callback : Callback) (m : Moment) : Prop :=
  ∃ params, m.effect s = .reserve f params callback

/-- The reader handles a push. -/
def Pushes (x : SubscriptionId) (payload : Value) (m : Moment) : Prop :=
  ∃ link text, m.event = .received link text ∧ m.before.reader = .reading link ∧
    Inbound.parse text = .ok (.push x payload)

end Moment

/-- A feed was acknowledged with an id on the connection that is attached, and was not given up
since. -/
def Assigned (s : Settings) (f : Feed) (x : SubscriptionId) : List Moment → Prop :=
  Since (Moment.Acknowledges s f x) (Moment.Unassigns s f)

/-- The last subscribe to a feed that was written had these parameters and this callback. -/
def LastSubscribe (s : Settings) (f : Feed) (params : Value) (callback : Callback) :
    List Moment → Prop :=
  Since (fun m => m.effect s = .reserve f params callback) fun m =>
    ∃ params callback, m.effect s = .reserve f params callback

/-- The callback that was given to the last subscribe to a feed. -/
def Given (s : Settings) (f : Feed) (callback : Callback) : List Moment → Prop :=
  Since (Moment.Subscribes s f callback) fun m => ∃ other, m.Subscribes s f other

theorem Given.unique {s : Settings} {f : Feed} {callback other : Callback} {ms : List Moment}
    (h : Given s f callback ms) (h' : Given s f other ms) : callback = other := by
  induction ms using List.reverseRecOn with
  | nil => exact absurd h not_since_nil
  | append_singleton ms m ih =>
    rcases since_concat.mp h with ⟨params, heff⟩ | ⟨hbefore, hnone⟩
    · rcases since_concat.mp h' with ⟨params', heff'⟩ | ⟨-, hnone⟩
      · exact (Effect.reserve.inj (heff.symm.trans heff')).2.2
      · exact absurd ⟨callback, params, heff⟩ hnone
    · rcases since_concat.mp h' with hother | ⟨hbefore', -⟩
      · exact absurd ⟨other, hother⟩ hnone
      · exact ih hbefore hbefore'

/-- The server never assigns an id that is in use on the connection. -/
def AssignsApart (s : Settings) (ms : List Moment) : Prop :=
  ∀ pre m post, ms = pre ++ m :: post →
    ∀ f x, m.Acknowledges s f x → ∀ g, ¬Assigned s g x pre

theorem AssignsApart.of_append {s : Settings} {ms more : List Moment}
    (h : AssignsApart s (ms ++ more)) : AssignsApart s ms := by
  rintro pre m post rfl
  exact h pre m (post ++ more) (by simp)

theorem assignsApart_concat {s : Settings} {ms : List Moment} {m : Moment} :
    AssignsApart s (ms ++ [m]) ↔
      AssignsApart s ms ∧ ∀ f x, m.Acknowledges s f x → ∀ g, ¬Assigned s g x ms := by
  refine ⟨fun h => ⟨h.of_append, h ms m [] rfl⟩, ?_⟩
  rintro ⟨hms, hm⟩ pre m' post heq
  rcases List.eq_nil_or_concat post with rfl | ⟨post, last, rfl⟩
  · obtain ⟨rfl, hlast⟩ := List.append_inj' heq rfl
    obtain rfl : m = m' := by simpa using hlast
    exact hm
  · have heq' : ms ++ [m] = (pre ++ m' :: post) ++ [last] := by simpa using heq
    exact hms pre m' post (List.append_inj' heq' rfl).1

namespace Handler

variable {h : Handler} {s : Settings} {now : Duration} {m : Moment} {f : Feed}
  {x : SubscriptionId}

/-! ### What is assigned is active -/

/-- The feed is active under the id. -/
def Active (h : Handler) (f : Feed) (x : SubscriptionId) : Prop :=
  ∃ sub, Table.get? f h.registry.slots = some (.active sub) ∧ sub.id = x

/-- After a moment a feed is active under an id if the moment acknowledges it with the id, or it was
active under it before and the moment does not take it away. -/
theorem active_after_iff (hc : m.before.Coherent) :
    (m.after s).Active f x ↔
      m.Acknowledges s f x ∨ m.before.Active f x ∧ ¬m.Unassigns s f := by
  have hbecomes := hc.becomes s m.now m.event f
  have htoken : ∀ request callback previous,
      Table.get? f m.before.registry.slots = some (.reserved request callback previous) →
        Table.get? request.id.key m.before.registry.byToken = some f :=
    fun _ _ _ => hc.tables.registry.token_of_slot
  unfold Active Moment.Acknowledges Moment.Unassigns Moment.after Moment.effect
  generalize m.before.effect s m.now m.event = effect at hbecomes ⊢
  generalize Table.get? f m.before.registry.slots = before at hbecomes htoken ⊢
  generalize Table.get? f (m.before.step s m.now m.event).1.registry.slots = after at hbecomes ⊢
  cases hbecomes with
  | kept huntouched =>
    constructor
    · refine fun hactive => .inr ⟨hactive, ?_⟩
      rintro (rfl | rfl | ⟨link, failures, rfl⟩)
      · exact huntouched rfl
      · exact huntouched trivial
      · exact huntouched trivial
    · rintro (⟨key, rfl, hkey⟩ | ⟨hactive, -⟩)
      · exact absurd hkey huntouched
      · exact hactive
  | @acknowledged request callback previous y =>
    have hkey := htoken request callback previous rfl
    constructor
    · rintro ⟨sub, hsub, rfl⟩
      obtain rfl := Slot.active.inj (Option.some.inj hsub)
      exact .inl ⟨_, rfl, hkey⟩
    · rintro (⟨key, heff, -⟩ | ⟨⟨sub, hsub, -⟩, -⟩)
      · obtain ⟨-, hstr⟩ := Effect.reply.inj heff
        obtain rfl : y = x.text := Value.str.inj (Except.ok.inj hstr)
        exact ⟨_, rfl, rfl⟩
      · simp at hsub
  | denied hdenial =>
    constructor
    · rintro ⟨sub, hsub, -⟩
      contradiction
    · rintro (⟨key, heff, -⟩ | ⟨⟨sub, hsub, -⟩, -⟩)
      · exact absurd (Effect.reply.inj heff).2 (hdenial x.text)
      · simp at hsub
  | reserved | unregistered | withdrawn | expired | closed | dropped | replayed | refused => simp

/-- **What is assigned is active**: after any run, a feed is assigned an id if and only if it is
active under the id. -/
theorem assigned_iff (s : Settings) (link : LinkId) (events : List (Duration × Event)) (f : Feed)
    (x : SubscriptionId) :
    Assigned s f x (moments s (initial link) events) ↔
      ((initial link).after s events).Active f x := by
  induction events using List.reverseRecOn with
  | nil =>
    refine iff_of_false not_since_nil ?_
    rintro ⟨sub, hsub, -⟩
    simp [Handler.initial, Registry.empty] at hsub
  | append_singleton events e ih =>
    have hc := ((Reachable.initial (s := s) link).after events).coherent
    rw [moments_concat, after_concat, active_after_iff hc, ← ih]
    exact since_concat

/-! ### What holds a feed repeats the last subscribe to it -/

/-- A slot after a moment is by the subscribe that the moment has written, or repeats what held the
feed before. -/
theorem repeats_after (hc : m.before.Coherent) {slot : Slot}
    (hslot : Table.get? f (m.after s).registry.slots = some slot) :
    (∃ params, m.effect s = .reserve f params slot.callback ∧
      slot.request = .subscribe m.before.nextId f params) ∨
    (∃ old, Table.get? f m.before.registry.slots = some old ∧ old.callback = slot.callback ∧
        (slot.request = old.request ∨ ∃ n, slot.request = old.request.withFreshId n)) ∧
      ∀ params callback, m.effect s ≠ .reserve f params callback := by
  have hbecomes := hc.becomes s m.now m.event f
  unfold Moment.effect
  rw [show Table.get? f (m.before.step s m.now m.event).1.registry.slots = some slot from hslot]
    at hbecomes
  generalize m.before.effect s m.now m.event = effect at hbecomes ⊢
  generalize hold : Table.get? f m.before.registry.slots = before at hbecomes ⊢
  cases hbecomes with
  | kept huntouched =>
    refine .inr ⟨⟨slot, rfl, rfl, .inl rfl⟩, ?_⟩
    rintro params callback rfl
    exact huntouched rfl
  | @reserved params callback => exact .inl ⟨params, rfl, rfl⟩
  | acknowledged => exact .inr ⟨⟨_, rfl, rfl, .inl rfl⟩, by simp⟩
  | @replayed _ _ _ _ n hlost =>
    rcases slot_of_replayable hlost with hslot | hslot
    · exact .inr ⟨⟨_, hold.symm.trans hslot, rfl, .inr ⟨n, rfl⟩⟩, by simp⟩
    · exact .inr ⟨⟨_, hold.symm.trans hslot, rfl, .inr ⟨n, rfl⟩⟩, by simp⟩

/-- **What holds a feed repeats the last subscribe to it.** -/
theorem lastSubscribe_of_held (s : Settings) (first : LinkId) (events : List (Duration × Event))
    {slot : Slot}
    (hslot : Table.get? f ((initial first).after s events).registry.slots = some slot) :
    ∃ n params, LastSubscribe s f params slot.callback (moments s (initial first) events) ∧
      slot.request = .subscribe n f params := by
  induction events using List.reverseRecOn generalizing slot with
  | nil => simp [Handler.initial, Registry.empty] at hslot
  | append_singleton events e ih =>
    have hc := ((Reachable.initial (s := s) first).after events).coherent
    rw [after_concat] at hslot
    rw [moments_concat]
    rcases repeats_after hc hslot with
      ⟨params, heff, hrequest⟩ | ⟨⟨old, hold, hcallback, hsame⟩, hnone⟩
    · exact ⟨_, params, since_concat.mpr (.inl heff), hrequest⟩
    · obtain ⟨n, params, hlast, hrequest⟩ := ih hold
      have hlast' : LastSubscribe s f params slot.callback
          (moments s (initial first) events ++ [⟨(initial first).after s events, e.1, e.2⟩]) :=
        since_concat.mpr (.inr ⟨hcallback ▸ hlast, by simpa using hnone⟩)
      rcases hsame with hsame | ⟨k, hsame⟩
      · exact ⟨n, params, hlast', hsame.trans hrequest⟩
      · exact ⟨k, params, hlast', by rw [hsame, hrequest]; rfl⟩

/-- What holds a feed has the callback that was given for it. -/
theorem given_of_held (s : Settings) (link : LinkId) (events : List (Duration × Event))
    {slot : Slot}
    (hslot : Table.get? f ((initial link).after s events).registry.slots = some slot) :
    Given s f slot.callback (moments s (initial link) events) := by
  obtain ⟨n, params, hlast, -⟩ := lastSubscribe_of_held s link events hslot
  refine hlast.imp (fun m heff => ⟨params, heff⟩) fun m hother => ?_
  obtain ⟨other, params, heff⟩ := hother
  exact ⟨params, other, heff⟩

/-! ### Ids lead to their subscriptions -/

/-- As long as the server assigns no id twice at a time, every active subscription is found by its
id. -/
theorem routable_after (s : Settings) (link : LinkId) (events : List (Duration × Event))
    (hserver : AssignsApart s (moments s (initial link) events)) :
    ((initial link).after s events).registry.Routable := by
  induction events using List.reverseRecOn with
  | nil => exact Registry.routable_empty
  | append_singleton events e ih =>
    have hc := ((Reachable.initial (s := s) link).after events).coherent
    rw [moments_concat, assignsApart_concat] at hserver
    rw [after_concat]
    refine hc.routable_step (ih hserver.1) _ fun key y heff g htoken g' sub hsub hid => ?_
    -- the id would be in use
    refine hserver.2 g ⟨y⟩ ⟨key, heff, htoken⟩ g' ?_
    exact (assigned_iff s link events g' ⟨y⟩).mpr ⟨sub, hsub, hid⟩

/-! ### A push -/

variable {payload : Value}

/-- A push is delivered where its id leads, and does nothing else. -/
theorem outputs_of_push (s : Settings) (hpush : m.Pushes x payload) :
    m.outputs s = match m.before.registry.route x with
      | some (f, callback) => [.notified callback (s.decoders.decode f payload)]
      | none => [] := by
  obtain ⟨link, text, hevent, hreader, hparse⟩ := hpush
  simp only [Moment.outputs, hevent, step, hreader, if_true, handleText, hparse]
  cases m.before.registry.route x <;> rfl

/-- A push leaves the connection, the state and the tables alone. -/
theorem after_of_push (s : Settings) (hpush : m.Pushes x payload) :
    (m.after s).link = m.before.link ∧ (m.after s).state = m.before.state ∧
      (m.after s).registry = m.before.registry ∧ (m.after s).correlator = m.before.correlator := by
  have hafter : m.after s = m.before.readOn := by
    obtain ⟨link, text, hevent, hreader, hparse⟩ := hpush
    simp only [Moment.after, hevent, step, hreader, if_true, handleText, hparse]
    cases m.before.registry.route x <;> rfl
  rw [hafter]
  unfold readOn
  split <;> exact ⟨rfl, rfl, rfl, rfl⟩

/-- Nothing but a push notifies anybody. -/
theorem notifications_of_no_push (s : Settings) (hpush : ∀ x payload, ¬m.Pushes x payload) :
    m.notifications s = [] := by
  by_cases hreceived : ∃ link text, m.event = .received link text
  · obtain ⟨link, text, hevent⟩ := hreceived
    simp only [Moment.notifications, Moment.outputs, hevent, step]
    split
    · next l hreader =>
      split
      · next hl =>
        unfold handleText
        split
        · rfl
        · next hparse => exact absurd ⟨link, text, hevent, hl ▸ hreader, hparse⟩ (hpush _ _)
        · rfl
        · rfl
      · rfl
    · rfl
  · exact Moment.notifications_of_other fun link text hevent => hreceived ⟨link, text, hevent⟩

variable {link : LinkId} {events : List (Duration × Event)}

/-- A push with an id that is assigned to a feed calls the callback that was given for the feed. -/
theorem push_of_assigned (hserver : AssignsApart s (moments s (initial link) events))
    (hbefore : (initial link).after s events = m.before) (hpush : m.Pushes x payload)
    (hassigned : Assigned s f x (moments s (initial link) events)) :
    ∃ callback, (∀ other, Given s f other (moments s (initial link) events) ↔ other = callback) ∧
      m.outputs s = [.notified callback (s.decoders.decode f payload)] := by
  have hc := ((Reachable.initial (s := s) link).after events).coherent
  have hroutable := routable_after s link events hserver
  obtain ⟨sub, hslot, hid⟩ := (assigned_iff s link events f x).mp hassigned
  have hgiven : Given s f sub.callback (moments s (initial link) events) :=
    given_of_held s link events hslot
  refine ⟨sub.callback, fun other => ⟨fun h => h.unique hgiven, fun h => h ▸ hgiven⟩, ?_⟩
  have hroute := (Registry.route_eq_some_iff hc.tables.registry hroutable).mpr
    ⟨sub, hslot, hid, rfl⟩
  rw [hbefore] at hroute
  rw [outputs_of_push s hpush, hroute]

/-- A push with an id that is assigned to no feed does nothing. -/
theorem push_of_unassigned (hserver : AssignsApart s (moments s (initial link) events))
    (hbefore : (initial link).after s events = m.before) (hpush : m.Pushes x payload)
    (hunassigned : ∀ f, ¬Assigned s f x (moments s (initial link) events)) :
    m.outputs s = [] := by
  have hc := ((Reachable.initial (s := s) link).after events).coherent
  have hroutable := routable_after s link events hserver
  have hroute : ((initial link).after s events).registry.route x = none := by
    refine (Registry.route_eq_none_iff hc.tables.registry hroutable).mpr fun f sub hslot hid => ?_
    exact hunassigned f ((assigned_iff s link events f x).mpr ⟨sub, hslot, hid⟩)
  rw [hbefore] at hroute
  rw [outputs_of_push s hpush, hroute]

/-- An id from an earlier connection is assigned to no feed. -/
theorem not_assigned_of_attached {earlier later : List Moment}
    (hattached : ∃ link failures, m.effect s = .attach link failures)
    (hlater : ∀ m' ∈ later, ∀ f, ¬m'.Acknowledges s f x) (f : Feed) :
    ¬Assigned s f x (earlier ++ m :: later) := by
  refine not_since_of_ended (.inr (.inr hattached)) ?_ fun m' hm' => hlater m' hm' f
  rintro ⟨key, heff, -⟩
  obtain ⟨link, failures, hattach⟩ := hattached
  rw [heff] at hattach
  contradiction

/-- **Every push reaches its subscriber.** Take a run in which the server never assigns an id that
is in use on the connection. Callbacks are called in the order of the frames, and only by pushes. At
a push, if a feed is assigned its id, the callback that was given to the last subscribe to the feed
is called once, with what the decoder makes of the payload for that feed, and nothing else happens;
if no feed is, nothing happens at all. So the push right behind an acknowledgement is delivered, and
an id from an earlier connection leads nowhere until it is assigned on this one. Either way the
connection, the state and the tables stay as they are. -/
theorem every_push_reaches_its_subscriber (s : Settings) (link : LinkId)
    (events : List (Duration × Event)) :
    let ms := moments s (initial link) events
    AssignsApart s ms →
    (run s (initial link) events).2.filterMap Output.notification? =
      ms.flatMap (Moment.notifications s) ∧
    ∀ pre m post, ms = pre ++ m :: post →
      ((∀ x payload, ¬m.Pushes x payload) → m.notifications s = []) ∧
      ∀ x payload, m.Pushes x payload →
        (∀ f, Assigned s f x pre → ∃ callback,
          (∀ other, Given s f other pre ↔ other = callback) ∧
          m.outputs s = [.notified callback (s.decoders.decode f payload)] ∧
          ∀ e, s.decoders.decode f payload = .error e → ∃ cause, e = .decode f cause) ∧
        ((∀ f, ¬Assigned s f x pre) → m.outputs s = []) ∧
        (∀ earlier last f, pre = earlier ++ [last] → last.Acknowledges s f x →
          ∃ callback, Given s f callback pre ∧
            m.outputs s = [.notified callback (s.decoders.decode f payload)]) ∧
        (∀ earlier attached later, pre = earlier ++ attached :: later →
          (∃ link failures, attached.effect s = .attach link failures) →
          (∀ m' ∈ later, ∀ f, ¬m'.Acknowledges s f x) → m.outputs s = []) ∧
        (m.after s).link = m.before.link ∧ (m.after s).state = m.before.state ∧
        (m.after s).registry = m.before.registry ∧
        (m.after s).correlator = m.before.correlator := by
  intro ms hserver
  refine ⟨?_, fun pre m post hms => ⟨notifications_of_no_push s, fun x payload hpush => ?_⟩⟩
  · rw [outputs_run, List.filterMap_flatMap]
    rfl
  · obtain ⟨events₁, events₂, -, hpre, hbefore⟩ := moments_split hms
    obtain rfl := hpre
    rw [hms] at hserver
    have hserver' := hserver.of_append
    have hdelivered := fun f => push_of_assigned (f := f) hserver' hbefore hpush
    have hdropped := push_of_unassigned hserver' hbefore hpush
    refine ⟨fun f hassigned => ?_, hdropped, ?_, ?_, after_of_push s hpush⟩
    · obtain ⟨callback, hgiven, hout⟩ := hdelivered f hassigned
      exact ⟨callback, hgiven, hout, fun e => decode_eq_error⟩
    · intro earlier last f hlast hack
      obtain ⟨callback, hgiven, hout⟩ := hdelivered f (hlast ▸ since_concat.mpr (.inl hack))
      exact ⟨callback, (hgiven callback).mpr rfl, hout⟩
    · intro earlier attached later hsplit hattached hlater
      exact hdropped fun f => hsplit ▸ not_assigned_of_attached hattached hlater f

/-- A push right behind the acknowledgement of the first subscription. -/
def firstPush : Moment where
  before := (initial ⟨0⟩).after .standard firstSubscription
  now := .zero
  event := .received ⟨0⟩
    "\x7b\"method\":\"subscribe\",\"params\":\x7b\"subscription\":\"x\",\"result\":\"p\"\x7d\x7d"

theorem first_push_reaches_its_subscriber :
    firstPush.outputs .standard = [.notified ⟨"f"⟩ (.ok (.raw (.str "p")))] := by
  have hpush : firstPush.Pushes ⟨"x"⟩ (.str "p") := ⟨⟨0⟩, _, rfl, by cbv, by cbv⟩
  have hactive : Table.get? .newTxs firstPush.before.registry.slots =
      some (.active ⟨.newTxs, .subscribe 1 .newTxs .null, ⟨"f"⟩, ⟨"x"⟩⟩) := by cbv
  have heffects : (moments .standard (initial ⟨0⟩) firstSubscription).map
      (Moment.effect .standard) = [.reserve .newTxs .null ⟨"f"⟩, .reply "1" (.ok (.str "x"))] := by
    cbv
  have hms : moments .standard (initial ⟨0⟩)
      (firstSubscription ++ [(firstPush.now, firstPush.event)]) =
        moments .standard (initial ⟨0⟩) firstSubscription ++ [firstPush] := moments_concat ..
  obtain ⟨begun, acknowledged, hfirst⟩ : ∃ m m', moments .standard (initial ⟨0⟩)
    firstSubscription = [] ++ [m] ++ [m'] := ⟨_, _, rfl⟩
  have hbegun : begun.effect .standard = .reserve .newTxs .null ⟨"f"⟩ := by
    rw [hfirst] at heffects
    exact (List.cons.inj heffects).1
  -- nothing is acknowledged but at the second moment, and nothing is assigned before
  have hserver : AssignsApart .standard (moments .standard (initial ⟨0⟩)
      (firstSubscription ++ [(firstPush.now, firstPush.event)])) := by
    rw [hms, hfirst, assignsApart_concat, assignsApart_concat, assignsApart_concat]
    refine ⟨⟨⟨by simp [AssignsApart], fun _ _ _ _ => not_since_nil⟩, fun f x _ g hg => ?_⟩, ?_⟩
    · rcases since_concat.mp hg with ⟨key, heff, -⟩ | ⟨hnil, -⟩
      · rw [hbegun] at heff
        contradiction
      · exact not_since_nil hnil
    · rintro f x ⟨key, heff, -⟩
      have hpushed : firstPush.effect .standard = .nothing := by cbv
      rw [hpushed] at heff
      contradiction
  obtain ⟨-, hrun⟩ := every_push_reaches_its_subscriber .standard ⟨0⟩ _ hserver
  obtain ⟨callback, hgiven, hout, -⟩ := ((hrun _ firstPush [] hms).2 _ _ hpush).1 .newTxs
    ((assigned_iff ..).mpr ⟨_, hactive, rfl⟩)
  obtain rfl := (hgiven ⟨"f"⟩).mp (given_of_held _ _ _ hactive)
  exact hout

end Handler

end FeedLink.Socket
