import BlockPilot.Storage.FileFault

/-!
# The bytes of texts

Files hold bytes. A text is written as its UTF-8 bytes, and bytes are read as a text only if they are those
of one.
-/

namespace BlockPilot

/-- The text that the bytes of a file are. -/
def textOfBytes (bytes : List UInt8) : Except FileFault String :=
  match String.fromUTF8? bytes.toByteArray with
  | some text => .ok text
  | none => .error .notText

/-- The bytes of a text. -/
def bytesOfText (text : String) : List UInt8 :=
  text.toList.flatMap String.utf8EncodeChar

end BlockPilot
