/-!
# Header fields

A header has a name, which is a token, and a value. Names do not depend on case and are written in
lower case; a value may hold every byte but the control characters, of which only the tab is
allowed, so that it may hold any character outside ASCII.
-/

namespace FeedLink.HeaderField

/-- May a character stand in a token? -/
def isTokenChar (c : Char) : Bool := c.isAlphanum || "!#$%&'*+-.^_`|~".toList.contains c

/-- How many bytes a name may have. -/
def longestName : Nat := 65535

/-- The name that a text is, in lower case. -/
def name? (s : String) : Option String :=
  let cs := s.toList
  if !cs.isEmpty && cs.all isTokenChar && cs.length ≤ longestName then
    some (.ofList (cs.map Char.toLower))
  else none

/-- May a character stand in a value? -/
def isValueChar (c : Char) : Bool := c = '\t' || (0x20 ≤ c.toNat && c.toNat ≠ 0x7f)

/-- Can a text be sent as a value? -/
def isValue (s : String) : Bool := s.toList.all isValueChar

end FeedLink.HeaderField
