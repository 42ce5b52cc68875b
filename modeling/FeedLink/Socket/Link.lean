import FeedLink.Config

/-!
# Links

A link is one open WebSocket. Whoever sends on it never waits: a text is put into a queue of bounded
length, which a writer empties, and if the queue is full the link is closed rather than buffered
further. The writer goes through

```text
writing → flushing → done
```

and leaves the first phase when the link is closed, by either side. What is still queued then is
written before the frame that says goodbye. In either phase the writer holds one text at a time,
which is in the queue no longer and on the socket not yet, and it goes through with that text before
it looks at anything else.

Senders, the reader and the writer take turns. Whose turn it is, what the socket accepts and what
comes in are up to the world outside, and arrive as a `Turn`; one that does not fit what the link is
doing changes nothing.
-/

namespace FeedLink.Socket

/-- What a link may hold and how long opening it may take. -/
structure LinkSettings where
  handshake : Duration
  /-- How many texts may wait to be written. -/
  capacity : UInt64
  /-- The longest message accepted, in bytes. -/
  maxMessage : UInt64
deriving DecidableEq, Repr

namespace LinkSettings

def standard : LinkSettings := ⟨.ofSeconds 15, 1000, 15728640⟩

/-- The settings that a configuration asks for; at least one text may wait. -/
def ofConfig (c : Config) : LinkSettings :=
  ⟨c.timeouts.handshake, max c.queueCapacity 1, c.maxMessageSize⟩

end LinkSettings

/-- What comes in on a socket. -/
inductive Incoming where
  | text (s : String)
  | binary (bytes : List UInt8)
  /-- A ping or a pong, which concerns nobody here. -/
  | control
  /-- The frame with which the other side says goodbye. -/
  | goodbye
  /-- The socket has nothing more. -/
  | ended
  /-- The socket failed, or was cut without a goodbye. -/
  | cut (reason : String)
  /-- Something came that is no message. -/
  | garbled (reason : String)
deriving DecidableEq, Repr

/-- What is written to a socket. -/
inductive Outgoing where
  | text (s : String)
  | goodbye
deriving DecidableEq, Repr

/-- What the writer of a link is doing. -/
inductive Writer where
  /-- It writes what is queued as it comes. -/
  | writing
  /-- The link is closed, and it writes what is still queued. -/
  | flushing
  | done
deriving DecidableEq, Repr

/-- An open WebSocket between two turns. -/
structure Link where
  closed : Bool
  /-- What waits to be written, the oldest first. -/
  waiting : List String
  /-- What the writer has taken out of the queue and the socket has not taken yet. -/
  held : Option String
  writer : Writer
deriving DecidableEq, Repr

namespace Link

/-- A link that was just opened. -/
def initial : Link := ⟨false, [], none, .writing⟩

/-- Marks the link as closed. The writer will notice. -/
def close (l : Link) : Link := { l with closed := true }

/-! ## Sending -/

/-- Queues a text. If the queue is full, the text is refused and the link closed. -/
def send (s : LinkSettings) (text : String) (l : Link) : Link × Except TransportError Unit :=
  if l.closed then (l, .error .closed)
  else if s.capacity.toNat ≤ l.waiting.length then (l.close, .error .queueFull)
  else ({ l with waiting := l.waiting ++ [text] }, .ok ())

/-! ## Receiving -/

/-- What a message is worth that has `size` bytes: its text, unless it is too long. -/
def accept (s : LinkSettings) (size : Nat) (text : String) (l : Link) :
    Link × Option (Except TransportError String) :=
  if s.maxMessage.toNat < size then
    (l.close, some (.error (.webSocket ("Space limit exceeded: Message too long: " ++
      toString size ++ " > " ++ toString s.maxMessage.toNat))))
  else (l, some (.ok text))

/-- What the reader makes of what comes in: it returns a text or an error, or reads on. Every error
closes the link; bytes that are no text are passed over. -/
def receive (s : LinkSettings) (l : Link) :
    Incoming → Link × Option (Except TransportError String)
  | .text text => l.accept s text.utf8ByteSize text
  | .binary bytes =>
    match Utf8.textOf? bytes with
    | some text => l.accept s bytes.length text
    | none => if s.maxMessage.toNat < bytes.length then l.accept s bytes.length "" else (l, none)
  | .control => (l, none)
  | .goodbye | .ended => (l.close, some (.error .closed))
  | .cut reason => (l.close, some (.error (.reset reason)))
  | .garbled reason => (l.close, some (.error (.webSocket reason)))

/-! ## Turns -/

/-- Whose turn it is. -/
inductive Turn where
  | send (text : String)
  | close
  /-- The reader gets something. -/
  | reads (incoming : Incoming)
  /-- The reader notices that the link is closed. -/
  | readerNotices
  /-- The writer takes the oldest text out of the queue. -/
  | takes
  /-- The socket takes the text that the writer holds. -/
  | writes
  /-- The writer notices that the link is closed. -/
  | writerNotices
  /-- Nothing is left to flush, and the socket takes the goodbye. -/
  | finishes
  /-- The socket refuses what the writer has for it. -/
  | refuses
  /-- The time to flush is over. -/
  | expires

/-- What a turn does to the world outside. -/
inductive Effect where
  | sent (result : Except TransportError Unit)
  | received (result : Except TransportError String)
  | wrote (message : Outgoing)

/-- A link whose writer had to stop. What was still queued is lost. -/
def stopped : Link := ⟨true, [], none, .done⟩

/-- One turn. -/
def step (s : LinkSettings) (l : Link) : Turn → Link × List Effect
  | .send text =>
    let (l, result) := l.send s text
    (l, [.sent result])
  | .close => (l.close, [])
  | .reads incoming =>
    let (l, result) := l.receive s incoming
    (l, (result.map Effect.received).toList)
  | .readerNotices => if l.closed then (l, [.received (.error .closed)]) else (l, [])
  | .takes =>
    match l.writer, l.held, l.waiting with
    | .writing, none, text :: rest | .flushing, none, text :: rest =>
      ({ l with waiting := rest, held := some text }, [])
    | _, _, _ => (l, [])
  | .writes =>
    match l.held with
    | some text => ({ l with held := none }, [.wrote (.text text)])
    | none => (l, [])
  | .writerNotices =>
    match l.closed, l.writer, l.held with
    | true, .writing, none => ({ l with writer := .flushing }, [])
    | _, _, _ => (l, [])
  | .finishes =>
    match l.writer, l.held, l.waiting with
    | .flushing, none, [] => ({ l with writer := .done }, [.wrote .goodbye])
    | _, _, _ => (l, [])
  | .refuses =>
    match l.writer, l.held, l.waiting with
    | .writing, some _, _ | .flushing, some _, _ | .flushing, none, [] => (stopped, [])
    | _, _, _ => (l, [])
  | .expires => if l.writer = .flushing then (stopped, []) else (l, [])

/-- Turns in a row: the link after all of them, and what they did. -/
def run (s : LinkSettings) : Link → List Turn → Link × List Effect
  | l, [] => (l, [])
  | l, turn :: rest =>
    let (l, effects) := l.step s turn
    let (l, more) := run s l rest
    (l, effects ++ more)

end Link

end FeedLink.Socket
