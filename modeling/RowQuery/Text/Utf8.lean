/-! Texts as bytes. -/

namespace RowQuery.Text

/-- The bytes of a text. -/
def textBytes (text : String) : List UInt8 :=
  text.toUTF8.data.toList

/-- The text of bytes, if they are well formed. -/
def textOfBytes? (bytes : List UInt8) : Option String :=
  String.fromUTF8? ⟨bytes.toArray⟩

end RowQuery.Text
