import FeedLink.Text.Utf8

/-!
# URIs

`Uri.parse` splits the text of a URI into its scheme, its authority, and its path with its query,
and drops the fragment. It takes the forms that can be dialed or requested:

```text
scheme://authority[path][?query][#fragment]
authority
/path[?query][#fragment]
*
```

The characters that may stand in each part are given by three classes. Where a reader asks for it,
the path and the query may also hold characters outside ASCII.
-/

namespace FeedLink

/-- Why a text is not a URI. -/
inductive UriError where
  | empty
  | tooLong
  /-- A character that may not stand where it stands. -/
  | char
  | schemeTooLong
  /-- Brackets, colons or an at sign that do not fit together. -/
  | authority
  /-- The parts do not make up one of the forms. -/
  | form
deriving DecidableEq, Repr

def UriError.message : UriError → String
  | .empty => "empty string"
  | .tooLong => "uri too long"
  | .char => "invalid uri character"
  | .schemeTooLong => "scheme too long"
  | .authority => "invalid authority"
  | .form => "invalid format"

/-- A URI in its parts. A part that its text lacks is empty. -/
structure Uri where
  scheme : String
  /-- The host, and whom and where to reach there. -/
  authority : String
  /-- The path and the query. -/
  path : String
deriving DecidableEq, Repr, Inhabited

namespace Uri

/-! ## Limits and classes -/

/-- How many bytes a URI may have. -/
def longest : Nat := 65534

/-- How many characters a scheme may have. -/
def longestScheme : Nat := 64

def isSchemeChar (c : Char) : Bool := c.isAlphanum || "+-.~".toList.contains c

/-- May a character stand in an authority? The percent sign may only stand before an at sign or
inside brackets, which `Authority.step` sees to. -/
def isAuthorityChar (c : Char) : Bool := c.isAlphanum || "!$&'()*+,-.:;=@[]_~%".toList.contains c

/-- Is a character outside ASCII? -/
def isWide (c : Char) : Bool := 0x80 ≤ c.toNat

def isPathChar (c : Char) : Bool :=
  c.isAlphanum || "!$%&'()*+,-./:;=@[\\]^_|~\"\x7b\x7d".toList.contains c

def isQueryChar (c : Char) : Bool :=
  c.isAlphanum || "!$%&'()*+,-./:;=?@[\\]^_`|~\x7b\x7d".toList.contains c

/-! ## The authority -/

/-- What is known of an authority after some of its characters. -/
structure Authority where
  /-- How many colons there are since the last at sign or closing bracket. -/
  colons : Nat
  opened : Bool
  closed : Bool
  /-- Is there a percent sign since the last at sign or closing bracket? -/
  percent : Bool
  /-- Is the latest character an at sign? -/
  atEnd : Bool
deriving DecidableEq, Repr

namespace Authority

def start : Authority := ⟨0, false, false, false, false⟩

/-- How many colons may follow one another, as they do in an address in brackets. -/
def mostColons : Nat := 8

/-- Takes one more character. -/
def step (a : Authority) (c : Char) : Except UriError Authority :=
  let a := { a with atEnd := false }
  match c with
  | ':' =>
    if mostColons ≤ a.colons then .error .authority else .ok { a with colons := a.colons + 1 }
  | '[' => if a.percent || a.opened then .error .authority else .ok { a with opened := true }
  | ']' =>
    if !a.opened || a.closed then .error .authority
    else .ok { a with closed := true, colons := 0, percent := false }
  | '@' => .ok { a with colons := 0, percent := false, atEnd := true }
  | '%' => .ok { a with percent := true }
  | c => if isAuthorityChar c then .ok a else .error .char

/-- Is it whole? Its brackets are closed, what follows them or the at sign has at most one colon and
no percent sign, and something follows the at sign. -/
def isWhole (a : Authority) : Bool :=
  a.opened = a.closed && a.colons ≤ 1 && !a.atEnd && !a.percent

end Authority

/-- Does a character end an authority? -/
def endsAuthority (c : Char) : Bool := c = '/' || c = '?' || c = '#'

/-- The authority that a text begins with, and what follows it. -/
def splitAuthority (cs : List Char) : Except UriError (List Char × List Char) := do
  let (name, rest) := cs.span fun c => !endsAuthority c
  let a ← name.foldlM Authority.step .start
  if a.isWhole then return (name, rest) else throw .authority

/-! ## The other parts -/

/-- The scheme that a text begins with, if there is one, and what follows its slashes. -/
def splitScheme (cs : List Char) : Except UriError (Option (List Char) × List Char) :=
  let (name, rest) := cs.span isSchemeChar
  match rest with
  | ':' :: '/' :: '/' :: rest =>
    if cs.length ≤ 3 then .ok (none, cs)
    else if longestScheme < name.length then .error .schemeTooLong
    else .ok (some name, rest)
  | _ => .ok (none, cs)

/-- A path with a query, which a fragment may follow. -/
def readPath (wide : Bool) (cs : List Char) : Except UriError (List Char) :=
  let fits (isPlain : Char → Bool) (c : Char) : Bool := isPlain c || (wide && isWide c)
  let (text, _) := cs.span (· ≠ '#')
  let (path, query) := text.span (· ≠ '?')
  if path.all (fits isPathChar) && (query.drop 1).all (fits isQueryChar) then .ok text
  else .error .char

/-! ## Whole texts -/

/-- A URI without a scheme is an authority and nothing else. -/
def ofAuthority (cs : List Char) (otherwise : UriError) : Except UriError Uri := do
  let (name, rest) ← splitAuthority cs
  if rest.isEmpty then return ⟨"", .ofList name, ""⟩ else throw otherwise

/-- Reads a URI; `wide` says whether its path and its query may hold characters outside ASCII. -/
def parse (wide : Bool) (text : String) : Except UriError Uri :=
  if longest < text.utf8ByteSize then .error .tooLong
  else
    match text.toList with
    | [] => .error .empty
    | ['*'] => .ok ⟨"", "", "*"⟩
    | '/' :: rest => (readPath wide ('/' :: rest)).map fun path => ⟨"", "", .ofList path⟩
    | [c] => ofAuthority [c] .char
    | cs => do
      match ← splitScheme cs with
      | (none, _) => ofAuthority cs .form
      | (some scheme, rest) =>
        let (name, rest) ← splitAuthority rest
        if name.isEmpty then throw .form
        else return ⟨.ofList scheme, .ofList name, .ofList (← readPath wide rest)⟩

end Uri

end FeedLink
