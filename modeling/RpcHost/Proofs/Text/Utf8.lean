import RpcHost.Text.Utf8

/-!
# Laws of UTF-8

Bytes are the text `s` exactly when they are written from it (`ofUtf8?_eq_some_iff`), and bytes that
begin with those of a text come from a text that begins with it (`exists_append_of_utf8`).
-/

namespace RpcHost
namespace Text

@[simp] theorem utf8_append (s t : String) : utf8 (s ++ t) = utf8 s ++ utf8 t := by
  simp [utf8]

theorem ofUtf8?_eq_some_iff {bytes : Bytes} {s : String} :
    ofUtf8? bytes = some s ↔ bytes = utf8 s := by
  constructor
  · intro h
    unfold ofUtf8? String.fromUTF8? at h
    split at h
    · rename_i hvalid
      cases h
      simp [utf8, String.fromUTF8]
    · cases h
  · rintro rfl
    exact ofUtf8?_utf8 s

theorem exists_append_of_utf8 {u s : String} {more : Bytes} (h : utf8 u = utf8 s ++ more) :
    ∃ t, u = s ++ t ∧ utf8 t = more := by
  have hbytes : s.toList.utf8Encode ++ ⟨more.toArray⟩ = u.toList.utf8Encode := by
    apply ByteArray.ext
    apply Array.toList_inj.1
    simpa [utf8] using h.symm
  rcases List.isPrefix_of_utf8Encode_append_eq_utf8Encode _ hbytes with ⟨rest, hrest⟩
  have hu : u = s ++ String.ofList rest := by
    apply String.toList_inj.1
    simpa using hrest.symm
  refine ⟨String.ofList rest, hu, ?_⟩
  rw [hu, utf8_append] at h
  exact List.append_cancel_left h

/-- The bytes of a text are those of its characters. -/
theorem utf8_ofList (cs : List Char) :
    utf8 (String.ofList cs) = cs.flatMap String.utf8EncodeChar := by
  simp [utf8, List.utf8Encode]

end Text
end RpcHost
