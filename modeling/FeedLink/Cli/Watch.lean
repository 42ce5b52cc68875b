import FeedLink.Notification

/-!
# Watching a feed

A watch takes deliveries out of a channel in turn and prints the notifications among them. An error
is passed over. After each notification it stops if it has printed as many as were wanted, so that
one notification is printed even if none were wanted; what is left it does not take.
-/

namespace FeedLink.Cli

open Json

/-- A notification as it is printed, on one line. -/
def lineOf (n : Notification) : String := n.toValue.render

/-- Were as many seen as were wanted? Without a limit there never are enough. -/
def isEnough (limit : Option Nat) (seen : Nat) : Bool := limit.any (· ≤ seen)

/-- What a watch prints of deliveries, and which it leaves; `seen` were printed before. -/
def watch (limit : Option Nat) (seen : Nat) : List Delivery → List Notification × List Delivery
  | [] => ([], [])
  | .error _ :: rest => watch limit seen rest
  | .ok n :: rest =>
    if isEnough limit (seen + 1) then ([n], rest)
    else
      let (printed, left) := watch limit (seen + 1) rest
      (n :: printed, left)

end FeedLink.Cli
