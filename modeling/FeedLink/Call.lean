import FeedLink.Error

/-!
# Calls

What callers ask of a handler goes on while the handler does, so a call has a name by which it can
be given a turn, dropped, and told apart from the others.
-/

namespace FeedLink

open Json

/-- Names a call of a caller. -/
structure CallId where
  name : String
deriving DecidableEq, Repr, Inhabited

/-- What a call returns: perhaps a value, or an error. -/
abbrev CallResult := Except HandlerError (Option Value)

end FeedLink
