/-! Texts as bytes. -/

set_option autoImplicit false

namespace Kaleidoscope.Text

def encode (text : String) : List UInt8 :=
  text.toUTF8.data.toList

def decode? (bytes : List UInt8) : Option String :=
  String.fromUTF8? ⟨bytes.toArray⟩

end Kaleidoscope.Text
