import BlockPilot.Url.Percent

/-!
# Forms

A query can hold pairs of a name and a value, like a form that is sent. Letters and digits of ASCII
and four other signs stay as they are, a space becomes a plus sign, and all other characters are
written byte by byte.
-/

namespace BlockPilot.Url

/-- Whether a character stays as it is. -/
def isFormChar (c : Char) : Bool :=
  c.isAlphanum || c == '*' || c == '-' || c == '.' || c == '_'

def formChar (c : Char) : List Char :=
  if isFormChar c then [c]
  else if c = ' ' then ['+']
  else (String.utf8EncodeChar c).flatMap encodeByte

/-- A name or a value as a form shows it. -/
def formText (s : List Char) : List Char :=
  s.flatMap formChar

end BlockPilot.Url
