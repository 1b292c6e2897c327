/-!
Texts as bytes.
-/

namespace WallClock.Text

def bytes (s : List Char) : List UInt8 :=
  s.flatMap String.utf8EncodeChar

end WallClock.Text
