import FeedLink.Proofs.Grpc.Contract
import FeedLink.Proofs.Socket.Contract

/-!
# The two bindings agree

A WebSocket handler reserves a feed, waits for an acknowledgement and looks up the id of every push;
a gRPC handler opens a stream and leaves it to a receiver. Callers who ask for one thing after the
other cannot tell which of them they have, because both keep the same contract: calls return the
same results, and callbacks are given the same, in the same order, however the events in between
are arranged on either side.

Nothing depends on which feeds there are. A gateway streams some of them only; the plays of a gRPC
handler are the runs in which it opens every stream that a script asks for.

## Main results

* `bindings_agree`
-/

namespace FeedLink

/-- **The two bindings keep the same contract**, if they have the same decoders, and can therefore
not be told apart by a script: whatever the plays, when no call waits any longer, the same has been
observed of both. -/
theorem bindings_agree (s : Socket.Settings) (t : Grpc.Settings)
    (hdecoders : t.decoders = s.decoders) (link : Socket.LinkId) :
    (Socket.Handler.binding s).Keeps s.decoders (.initial link) ∧
    (Grpc.Handler.binding t).Keeps s.decoders .initial ∧
    ∀ script socketEvents grpcEvents socketObserved grpcObserved h k,
      (Socket.Handler.binding s).Plays (.initial link) socketEvents script socketObserved h →
      (Grpc.Handler.binding t).Plays .initial grpcEvents script grpcObserved k →
      h.calls = [] → k.calls = [] → socketObserved = grpcObserved := by
  have hsocket : (Socket.Handler.binding s).Keeps s.decoders (.initial link) :=
    (Socket.Handler.simulates s).keeps (Socket.Handler.follows_initial s link) rfl
  have hgrpc : (Grpc.Handler.binding t).Keeps s.decoders .initial :=
    hdecoders ▸ (Grpc.Handler.simulates t).keeps Grpc.Handler.follows_initial rfl
  exact ⟨hsocket, hgrpc, fun _ _ _ _ _ _ _ hplays hplays' hidle hidle' =>
    hsocket.agree hgrpc hplays hplays' hidle hidle'⟩

/-- A feed is subscribed to twice, pushed to, given up and given up again, and the handler is
closed: both bindings can play that, and the same is observed. -/
theorem subscribe_push_close_agree :
    let s : Socket.Settings := { Socket.Settings.standard with decoders := .standard }
    let t : Grpc.Settings := { Grpc.Settings.standard with decoders := .standard }
    let script : List Ask := [.subscribe .newTxs .null ⟨"f"⟩, .subscribe .newTxs .null ⟨"g"⟩,
      .push .newTxs .null, .unsubscribe .newTxs, .unsubscribe .newTxs, .close,
      .subscribe .newTxs .null ⟨"f"⟩]
    let observed : List Observation := [.returned (.ok none),
      .returned (.error (.alreadySubscribed .newTxs)),
      .notified ⟨"f"⟩ (Decoders.standard.decode .newTxs .null), .returned (.ok none),
      .returned (.ok none), .returned (.ok none), .returned (.error .notConnected)]
    (∃ events h, (Socket.Handler.binding s).Plays (.initial ⟨0⟩) events script observed h) ∧
    ∃ events k, (Grpc.Handler.binding t).Plays .initial events script observed k := by
  intro s t script observed
  obtain ⟨hsocket, hgrpc, hagree⟩ := bindings_agree s t rfl ⟨0⟩
  have hadmits : Contract.initial.AdmitsAll s.decoders script :=
    ⟨trivial, trivial, ⟨⟨_, rfl⟩, rfl, rfl⟩, trivial, trivial, trivial, trivial, trivial⟩
  obtain ⟨events, observed₁, h, hplays, hidle⟩ := hsocket.plays hadmits
  obtain ⟨events', observed₂, k, hplays', hidle'⟩ := hgrpc.plays hadmits
  obtain rfl := hagree _ _ _ _ _ _ _ hplays hplays' hidle hidle'
  obtain ⟨owed, hobserved, howed⟩ := hsocket.observed hplays
  obtain rfl : observed = observed₁ := by
    rw [howed hidle, List.append_nil] at hobserved
    exact hobserved
  exact ⟨⟨events, h, hplays⟩, events', k, hplays'⟩

end FeedLink
