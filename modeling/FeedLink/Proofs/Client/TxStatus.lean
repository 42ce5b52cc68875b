import FeedLink.Proofs.Client.Recording

/-!
# A subscription that outlives the call that made it

Whoever subscribes to the status of transactions and names some to follow has two things done: the
feed is subscribed, and then the handler is asked to follow the transactions. Nothing takes the
first back where the second fails. So a call that failed tells too little: if the subscription
itself was refused everything is as before, but if the transactions could not be followed the feed
is subscribed, the callback goes on to receive its notifications, and making the same call again is
refused, because the feed is subscribed.

All of this is about handlers that keep their side: a subscription that fails leaves nothing behind,
a feed is not subscribed twice, and a request subscribes to nothing and unsubscribes from nothing.

## Main definitions

* `FeedHandler.Honours` — what callers may rely on of a handler
* `Client.subscribeTxStatus` — the first of the two things that are done
* `Recorder.strict` — a recording handler that does not subscribe to a feed twice

## Main results

* `Client.onTxStatus_error_cases` — the two ways in which the call fails
* `Client.onTxStatus_keeps_status_iff` — a failed call leaves the feed as it was if and only if the
  subscription itself failed
* `Recorder.strict_honours` — such a handler keeps its side
* `Recorder.onTxStatus_leaves_status` — a failed call that leaves the feed subscribed
-/

namespace FeedLink

open Json

/-- What callers may rely on of a handler, where `held` tells which feeds are subscribed. -/
structure FeedHandler.Honours {σ : Type} (h : FeedHandler σ) (held : σ → Feed → Prop) : Prop where
  /-- A feed is subscribed once that was acknowledged, and no other feed is touched. -/
  subscribed {feed : Feed} {params : Value} {callback : Callback} {s s' : σ} :
    (h.subscribe feed params callback).run s = (.ok (), s') →
      ∀ other, held s' other ↔ other = feed ∨ held s other
  /-- A subscription that failed leaves nothing behind. -/
  rolledBack {feed : Feed} {params : Value} {callback : Callback} {e : HandlerError} {s s' : σ} :
    (h.subscribe feed params callback).run s = (.error e, s') →
      ∀ other, held s' other ↔ held s other
  /-- A feed is not subscribed twice. -/
  refused {feed : Feed} {s : σ} (params : Value) (callback : Callback) : held s feed →
    ∃ s', (h.subscribe feed params callback).run s = (.error (.alreadySubscribed feed), s')
  /-- A request does not touch subscriptions. -/
  requested {method : String} {params : Value} {out : Except HandlerError Value} {s s' : σ} :
    (h.request method params).run s = (out, s') → ∀ other, held s' other ↔ held s other

namespace FeedHandler.Honours

variable {σ : Type} {h : FeedHandler σ} {held : σ → Feed → Prop} {feed : Feed} {params : Value}
  {callback : Callback} {s s' : σ}

theorem not_held_of_subscribed (hhonours : h.Honours held)
    (hrun : (h.subscribe feed params callback).run s = (.ok (), s')) : ¬held s feed := by
  intro hheld
  obtain ⟨s₁, hrefused⟩ := hhonours.refused params callback hheld
  rw [hrun] at hrefused
  have hok : Except.ok () = Except.error _ := congrArg Prod.fst hrefused
  contradiction

theorem held_of_subscribed (hhonours : h.Honours held)
    (hrun : (h.subscribe feed params callback).run s = (.ok (), s')) : held s' feed :=
  (hhonours.subscribed hrun feed).mpr (.inl rfl)

end FeedHandler.Honours

namespace Client

variable {σ : Type} {c : Client σ} {held : σ → Feed → Prop} {transactions : List String}
  {callback : Callback} {s s' : σ} {e : HandlerError}

/-- The subscription to the status of transactions. -/
def subscribeTxStatus (c : Client σ) (callback : Callback) : Exchange σ Unit :=
  c.handler.subscribe .txStatus (.object [("include", Params.texts ["tx_hash", "status"])]) callback

theorem requireCloudApi_of_cloudApi (hcloud : c.kind = .cloudApi) (what : String) :
    c.requireCloudApi what = pure () := by
  rw [requireCloudApi, hcloud]
  rfl

/-- On the cloud API the call consists of the subscription and of following the transactions. -/
theorem onTxStatus_eq (hcloud : c.kind = .cloudApi) :
    c.onTxStatus transactions callback = (do
      c.subscribeTxStatus callback
      if transactions.isEmpty then pure () else c.monitorTxs transactions) := by
  rw [onTxStatus, requireCloudApi_of_cloudApi hcloud, pure_bind]
  rfl

/-- Following transactions touches no subscription, whether it succeeds or fails. -/
theorem held_of_monitorTxs (hhonours : c.handler.Honours held) (hcloud : c.kind = .cloudApi)
    {out : Except HandlerError Unit} (hrun : (c.monitorTxs transactions).run s = (out, s'))
    (feed : Feed) : held s' feed ↔ held s feed := by
  rw [monitorTxs, requireCloudApi_of_cloudApi hcloud, pure_bind] at hrun
  cases hid : c.subscriptionId? s .txStatus with
  | none =>
    rw [Exchange.run_bind_of_error (run_statusSubscription_of_none hid)] at hrun
    obtain ⟨-, rfl⟩ := Prod.mk.inj hrun
    exact .rfl
  | some id =>
    rw [Exchange.run_bind_of_ok (run_statusSubscription_of_some hid)] at hrun
    cases hrequest : (c.request "start_monitor_transaction" (.object [
        ("transactions", Params.texts transactions), ("subscription_id", .str id.text)])).run s with
    | mk answer s₁ =>
      -- whatever is answered, nothing is done after the request
      obtain rfl : s₁ = s' := by
        cases answer with
        | error e =>
          rw [Exchange.run_bind_of_error hrequest] at hrun
          exact congrArg Prod.snd hrun
        | ok v =>
          rw [Exchange.run_bind_of_ok hrequest] at hrun
          exact congrArg Prod.snd hrun
      exact hhonours.requested hrequest feed

/-- **The two ways in which the call fails.** Either the subscription failed, and everything is as
before; or it succeeded and the transactions could not be followed, and then the feed is subscribed
which was not. -/
theorem onTxStatus_error_cases (hhonours : c.handler.Honours held) (hcloud : c.kind = .cloudApi)
    (hrun : (c.onTxStatus transactions callback).run s = (.error e, s')) :
    ((c.subscribeTxStatus callback).run s = (.error e, s') ∧
        ∀ feed, held s' feed ↔ held s feed) ∨
      ∃ s₁, (c.subscribeTxStatus callback).run s = (.ok (), s₁) ∧
        (c.monitorTxs transactions).run s₁ = (.error e, s') ∧
        ¬held s .txStatus ∧ held s' .txStatus := by
  rw [onTxStatus_eq hcloud] at hrun
  cases hsubscribe : (c.subscribeTxStatus callback).run s with
  | mk out s₁ =>
    cases out with
    | error e' =>
      rw [Exchange.run_bind_of_error hsubscribe] at hrun
      rw [hrun]
      exact .inl ⟨rfl, hhonours.rolledBack (hsubscribe.trans hrun)⟩
    | ok a =>
      rw [Exchange.run_bind_of_ok hsubscribe] at hrun
      cases transactions with
      | nil =>
        have hdone : Except.ok () = Except.error e := congrArg Prod.fst hrun
        contradiction
      | cons transaction rest =>
        have hmonitor : (c.monitorTxs (transaction :: rest)).run s₁ = (.error e, s') := hrun
        refine .inr ⟨s₁, rfl, hmonitor, hhonours.not_held_of_subscribed hsubscribe, ?_⟩
        exact (held_of_monitorTxs hhonours hcloud hmonitor .txStatus).mpr
          (hhonours.held_of_subscribed hsubscribe)

/-- A call for a feed that is subscribed is refused. -/
theorem onTxStatus_of_held (hhonours : c.handler.Honours held) (hcloud : c.kind = .cloudApi)
    (hheld : held s .txStatus) (transactions : List String) (callback : Callback) :
    ∃ s', (c.onTxStatus transactions callback).run s =
      (.error (.alreadySubscribed .txStatus), s') := by
  obtain ⟨s', hrefused⟩ := hhonours.refused
    (.object [("include", Params.texts ["tx_hash", "status"])]) callback hheld
  refine ⟨s', ?_⟩
  rw [onTxStatus_eq hcloud]
  exact Exchange.run_bind_of_error hrefused

/-- **When a failed call leaves the feed as it was.** It does so if and only if the subscription
itself failed. Otherwise the feed is subscribed that was not before, the call has failed because the
transactions could not be followed, and it is refused from then on. -/
theorem onTxStatus_keeps_status_iff (hhonours : c.handler.Honours held)
    (hcloud : c.kind = .cloudApi)
    (hrun : (c.onTxStatus transactions callback).run s = (.error e, s')) :
    ((held s' .txStatus ↔ held s .txStatus) ↔
        (c.subscribeTxStatus callback).run s = (.error e, s')) ∧
      (¬(held s' .txStatus ↔ held s .txStatus) →
        ¬held s .txStatus ∧ held s' .txStatus ∧
          (∃ s₁, (c.subscribeTxStatus callback).run s = (.ok (), s₁) ∧
            (c.monitorTxs transactions).run s₁ = (.error e, s')) ∧
          ∀ again callback', ∃ s'', (c.onTxStatus again callback').run s' =
            (.error (.alreadySubscribed .txStatus), s'')) := by
  obtain ⟨hfailed, hsame⟩ | ⟨s₁, hsubscribe, hmonitor, hbefore, hafter⟩ :=
    onTxStatus_error_cases hhonours hcloud hrun
  · exact ⟨iff_of_true (hsame .txStatus) hfailed, fun hother => absurd (hsame .txStatus) hother⟩
  · have hother : ¬(held s' .txStatus ↔ held s .txStatus) := fun hsame => hbefore (hsame.mp hafter)
    have hsucceeded : (c.subscribeTxStatus callback).run s ≠ (.error e, s') := by
      rw [hsubscribe]
      exact fun heq => nomatch congrArg Prod.fst heq
    exact ⟨iff_of_false hother hsucceeded, fun _ => ⟨hbefore, hafter, ⟨s₁, hsubscribe, hmonitor⟩,
      onTxStatus_of_held hhonours hcloud hafter⟩⟩

end Client

/-! ### A handler that keeps its side -/

namespace Recorder

/-- A feed whose callback a recording handler has. -/
def Holds (r : Recorder) (feed : Feed) : Prop := Table.has feed r.callbacks = true

/-- The recording handler of a kind, except that it does not subscribe to a feed twice. -/
def strict (kind : EndpointKind) : FeedHandler Recorder :=
  { handler kind with
    subscribe := fun feed params callback => do
      if Table.has feed (← get).callbacks then throw (.alreadySubscribed feed)
      else (handler kind).subscribe feed params callback }

theorem run_strict_subscribe (kind : EndpointKind) (feed : Feed) (params : Value)
    (callback : Callback) (r : Recorder) :
    ((strict kind).subscribe feed params callback).run r =
      if Table.has feed r.callbacks then (.error (.alreadySubscribed feed), r)
      else ((handler kind).subscribe feed params callback).run r := by
  show (if Table.has feed r.callbacks then throw (.alreadySubscribed feed)
    else (handler kind).subscribe feed params callback : Exchange Recorder Unit).run r = _
  split <;> rfl

/-- Such a handler keeps its side. -/
theorem strict_honours (kind : EndpointKind) : (strict kind).Honours Holds where
  subscribed {feed params callback r r'} hrun other := by
    rw [run_strict_subscribe] at hrun
    split at hrun
    · have hrefused : Except.error _ = Except.ok () := congrArg Prod.fst hrun
      contradiction
    · rw [eq_of_run_perform hrun, Holds, Table.has, Table.get?_set, Holds, Table.has]
      by_cases hother : feed = other
      · simp [hother]
      · simp [hother, Ne.symm hother, noted]
  rolledBack {feed params callback e r r'} hrun other := by
    rw [run_strict_subscribe] at hrun
    split at hrun
    · obtain rfl : r = r' := congrArg Prod.snd hrun
      exact .rfl
    · rw [eq_of_run_perform_error hrun]
      rfl
  refused {feed r} params callback hheld := by
    refine ⟨r, ?_⟩
    rw [run_strict_subscribe]
    exact if_pos hheld
  requested {method params out r r'} hrun other := by
    have hasked : (((handler kind).request method params).run r).2 =
        r.noted (.request method params) := by
      show ((ask (.request method params) >>= _).run r).2 = _
      rw [run_ask_bind]
      cases r.planned.head?.getD .asUsual <;> rfl
    obtain rfl : r.noted (.request method params) = r' :=
      hasked.symm.trans (congrArg Prod.snd hrun)
    rfl

/-- A client of such a handler for the cloud API. -/
def strictCloud : Client Recorder := ⟨strict .cloudApi, "Mainnet"⟩

/-- The subscription will be acknowledged, and the connection is gone when the transactions are to
be followed. -/
def losingConnection : Recorder := ⟨[], [.asUsual, .fails .notConnected], []⟩

/-- What the handler knows then. -/
def lostConnection : Recorder where
  asked := [
    .subscribe .txStatus (.object [("include", Params.texts ["tx_hash", "status"])]),
    .request "start_monitor_transaction" (.object [
      ("transactions", Params.texts ["f86b01"]),
      ("subscription_id", .str "sub-transactionStatus")])]
  planned := []
  callbacks := [(.txStatus, ⟨"x"⟩)]

theorem losingConnection_fails :
    (strictCloud.onTxStatus ["f86b01"] ⟨"x"⟩).run losingConnection =
      (.error .notConnected, lostConnection) := rfl

/-- The general result about a call whose connection is lost in between. -/
theorem losingConnection_keeps_status_iff :
    strictCloud.handler.Honours Holds ∧ strictCloud.kind = .cloudApi ∧
      (strictCloud.onTxStatus ["f86b01"] ⟨"x"⟩).run losingConnection =
        (.error .notConnected, lostConnection) ∧
      ((lostConnection.Holds .txStatus ↔ losingConnection.Holds .txStatus) ↔
        (strictCloud.subscribeTxStatus ⟨"x"⟩).run losingConnection =
          (.error .notConnected, lostConnection)) :=
  ⟨strict_honours .cloudApi, rfl, losingConnection_fails,
    (Client.onTxStatus_keeps_status_iff (c := strictCloud) (strict_honours .cloudApi) rfl
      losingConnection_fails).1⟩

/-- **A failed call that leaves the feed subscribed.** The handler keeps its side, the feed was not
subscribed before, and calling again is refused. -/
theorem onTxStatus_leaves_status :
    strictCloud.handler.Honours Holds ∧ strictCloud.kind = .cloudApi ∧
      (strictCloud.onTxStatus ["f86b01"] ⟨"x"⟩).run losingConnection =
        (.error .notConnected, lostConnection) ∧
      ¬losingConnection.Holds .txStatus ∧ lostConnection.Holds .txStatus ∧
      (strictCloud.onTxStatus ["f86b01"] ⟨"x"⟩).run lostConnection =
        (.error (.alreadySubscribed .txStatus), lostConnection) :=
  ⟨strict_honours .cloudApi, rfl, losingConnection_fails, Bool.false_ne_true, rfl, rfl⟩

end Recorder

end FeedLink
