import FeedLink.Text.Printable

/-!
# Quoted text in messages

A message shows a text of unknown contents between double quotes. The quote, the backslash and the
usual control characters are escaped with one letter, and every character that would not be seen on
its own, an unassigned or formatting one or one that joins the character before it, as its code
point in hexadecimal.
-/

namespace FeedLink.Quoted

/-- One character between the quotes. -/
def escape (c : Char) : List Char :=
  if c = '\x00' then ['\\', '0']
  else if c = '\t' then ['\\', 't']
  else if c = '\r' then ['\\', 'r']
  else if c = '\n' then ['\\', 'n']
  else if c = '"' then ['\\', '"']
  else if c = '\\' then ['\\', '\\']
  else if isPrintable c && !extendsGrapheme c then [c]
  else ['\\', 'u', '\x7b'] ++ Nat.toDigits 16 c.toNat ++ ['\x7d']

/-- A text between double quotes. -/
def quote (s : String) : String :=
  String.ofList ('"' :: s.toList.flatMap escape ++ ['"'])

end FeedLink.Quoted
