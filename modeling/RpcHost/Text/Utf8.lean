/-!
# Texts as bytes

What files hold and connections carry are bytes; texts become bytes in UTF-8 and are read back from
them. Not every sequence of bytes is a text.
-/

namespace RpcHost

abbrev Bytes := List UInt8

namespace Text

def utf8 (s : String) : Bytes :=
  s.toUTF8.data.toList

def ofUtf8? (bytes : Bytes) : Option String :=
  String.fromUTF8? ⟨bytes.toArray⟩

@[simp] theorem ofUtf8?_utf8 (s : String) : ofUtf8? (utf8 s) = some s := by
  have h : (⟨(utf8 s).toArray⟩ : ByteArray) = s.toUTF8 := by simp [utf8]
  unfold ofUtf8?
  rw [h, String.fromUTF8?, dif_pos (show s.toUTF8.IsValidUTF8 from s.isValidUTF8)]
  rfl

end Text
end RpcHost
