import BlockPilot.Json.Scan

/-!
# Percent encoding

Each part of an address has a set of characters that it cannot hold; those, the controls and
everything beyond ASCII are written byte by byte, a percent sign and two hexadecimal digits for
each byte of the character in UTF-8.
-/

namespace BlockPilot.Url

/-- The characters that no part of an address holds: controls and everything beyond ASCII. -/
def isControl (c : Char) : Bool :=
  c.toNat < 0x20 || 0x7E < c.toNat

def upperHexDigit (n : Nat) : Char :=
  (Nat.digitChar n).toUpper

/-- A byte behind a percent sign. -/
def encodeByte (b : UInt8) : List Char :=
  ['%', upperHexDigit (b.toNat / 16), upperHexDigit (b.toNat % 16)]

/-- A character as a part of an address shows it, where `reserved` are the ASCII characters that
the part cannot hold. -/
def encodeChar (reserved : List Char) (c : Char) : List Char :=
  if isControl c || reserved.contains c then (String.utf8EncodeChar c).flatMap encodeByte
  else [c]

def encode (reserved : List Char) (s : List Char) : List Char :=
  s.flatMap (encodeChar reserved)

/-! ## The sets -/

def fragmentSet : List Char := [' ', '"', '<', '>', '`']

def querySet : List Char := [' ', '"', '#', '<', '>', '\'']

def pathSet : List Char := fragmentSet ++ ['#', '?', '\x7b', '\x7d']

def userSet : List Char := pathSet ++ ['/', ':', ';', '=', '@', '[', '\\', ']', '^', '|']

/-! ## Decoding -/

/-- The bytes that a text stands for; a percent sign without two digits stands for itself. -/
def decode : List Char → List UInt8
  | '%' :: a :: b :: rest =>
    match Json.hexValue? a, Json.hexValue? b with
    | some m, some n => UInt8.ofNat (16 * m + n) :: decode rest
    | _, _ => String.utf8EncodeChar '%' ++ decode (a :: b :: rest)
  | c :: rest => String.utf8EncodeChar c ++ decode rest
  | [] => []

/-- The text that the bytes are in UTF-8, if they are one. -/
def textOf? (bytes : List UInt8) : Option (List Char) :=
  (String.fromUTF8? bytes.toByteArray).map String.toList

end BlockPilot.Url
