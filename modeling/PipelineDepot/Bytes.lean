/-! # Byte strings

Objects and files hold byte strings. They are lists, so that every function on them is a
recursion on the data. Texts enter and leave them through UTF-8, and a text that enters is the
text that leaves (`Bytes.toText?_ofText`).
-/

namespace PipelineDepot

/-- The content of an object or of a file. -/
abbrev Bytes := List UInt8

namespace Bytes

/-- The UTF-8 encoding of a text. -/
def ofText (text : String) : Bytes :=
  text.toByteArray.data.toList

/-- The text a byte string encodes, if it is valid UTF-8. -/
def toText? (bytes : Bytes) : Option String :=
  String.fromUTF8? ⟨bytes.toArray⟩

@[simp]
theorem toText?_ofText (text : String) : toText? (ofText text) = some text := by
  have whole : (⟨(ofText text).toArray⟩ : ByteArray) = text.toByteArray := by
    simp [ofText]
  simp only [toText?, whole, String.fromUTF8?, text.isValidUTF8, dif_pos]
  rfl

end Bytes

end PipelineDepot
