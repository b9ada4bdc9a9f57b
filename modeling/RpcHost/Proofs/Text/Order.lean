import Mathlib
import RpcHost.Proofs.Text.Utf8

/-!
# The order of UTF-8

Text compares by code point, and bytes one after the other. The bytes of texts are ordered as the
texts are, since the first byte of a character grows with the number of bytes after it, and these
hold its last binary digits, six in each: `utf8_lt_utf8`.
-/

namespace RpcHost
namespace Text

/-! ## The bytes of a character -/

/-- The number of bytes after the first one of a character. -/
def restCount (v : Nat) : Nat :=
  if v ≤ 127 then 0 else if v ≤ 2047 then 1 else if v ≤ 65535 then 2 else 3

def firstByte (v : Nat) : Nat :=
  if v ≤ 127 then v else if v ≤ 2047 then v / 64 + 192
  else if v ≤ 65535 then v / 4096 + 224 else v / 262144 + 240

/-- The last digits of a number to the base 64, as bytes. -/
def restBytes : Nat → Nat → Bytes
  | 0, _ => []
  | k + 1, v => restBytes k (v / 64) ++ [UInt8.ofNat (v % 64 + 128)]

theorem toNat_lt (c : Char) : c.toNat < 1114112 := by
  have hvalid : c.toNat < 55296 ∨ 57343 < c.toNat ∧ c.toNat < 1114112 := c.valid
  omega

theorem utf8EncodeChar_eq (c : Char) :
    String.utf8EncodeChar c =
      UInt8.ofNat (firstByte c.toNat) :: restBytes (restCount c.toNat) c.toNat := by
  have hbound := toNat_lt c
  have hval : c.val.toNat = c.toNat := rfl
  simp only [String.utf8EncodeChar, firstByte, restCount, hval]
  split
  · rfl
  · split
    · have hfirst : c.toNat / 64 % 32 = c.toNat / 64 := by omega
      simp [restBytes, hfirst]
    · split
      · have hfirst : c.toNat / 4096 % 16 = c.toNat / 4096 := by omega
        simp [restBytes, hfirst]
      · have hfirst : c.toNat / 262144 % 8 = c.toNat / 262144 := by omega
        simp [restBytes, hfirst, Nat.div_div_eq_div_mul]

/-- Numbers with the same digits in front compare by the last ones. -/
theorem restBytes_append_lt {k v w : Nat} (hfront : v / 64 ^ k = w / 64 ^ k) (h : v < w)
    (t u : Bytes) : restBytes k v ++ t < restBytes k w ++ u := by
  -- The last digit decides when those before it are the same.
  induction k generalizing v w t u with
  | zero =>
      have heq : v = w := by simpa using hfront
      exact absurd heq (Nat.ne_of_lt h)
  | succ k ih =>
      have hdigits : v / 64 / 64 ^ k = w / 64 / 64 ^ k := by
        rwa [Nat.div_div_eq_div_mul, Nat.div_div_eq_div_mul, ← Nat.pow_succ']
      rw [restBytes, restBytes, List.append_assoc, List.append_assoc]
      rcases Nat.lt_or_eq_of_le (Nat.div_le_div_right (Nat.le_of_lt h)) with hlt | heq
      · exact ih hdigits hlt _ _
      · have hlast : v % 64 + 128 < w % 64 + 128 := by omega
        rw [heq]
        refine List.append_left_lt (List.cons_lt_cons_iff.2 (.inl ?_))
        refine (UInt8.ofNat_lt_iff_lt ?_ ?_).2 hlast
        · show v % 64 + 128 < 256
          omega
        · show w % 64 + 128 < 256
          omega

/-- The first byte grows with the number of bytes, and then with the digits in it. -/
theorem firstByte_lt_or {v w : Nat} (h : v < w) :
    firstByte v < firstByte w ∨ firstByte v = firstByte w ∧ restCount v = restCount w
      ∧ v / 64 ^ restCount v = w / 64 ^ restCount w := by
  unfold firstByte restCount
  split_ifs <;> omega

theorem firstByte_lt (c : Char) : firstByte c.toNat < UInt8.size := by
  have hbound := toNat_lt c
  unfold firstByte
  show _ < 256
  split_ifs <;> omega

/-- Characters are ordered like their bytes, whatever bytes come after them. -/
theorem utf8EncodeChar_append_lt {c d : Char} (h : c < d) (t u : Bytes) :
    String.utf8EncodeChar c ++ t < String.utf8EncodeChar d ++ u := by
  have hlt : c.toNat < d.toNat := h
  rw [utf8EncodeChar_eq, utf8EncodeChar_eq, List.cons_append, List.cons_append,
    List.cons_lt_cons_iff]
  rcases firstByte_lt_or hlt with hfirst | ⟨hfirst, hcount, hfront⟩
  · exact .inl ((UInt8.ofNat_lt_iff_lt (firstByte_lt c) (firstByte_lt d)).2 hfirst)
  · rw [hcount] at hfront ⊢
    exact .inr ⟨congrArg UInt8.ofNat hfirst, restBytes_append_lt hfront hlt t u⟩

/-! ## Texts -/

theorem utf8_ofList_lt {cs ds : List Char} (h : cs < ds) :
    utf8 (String.ofList cs) < utf8 (String.ofList ds) := by
  rw [utf8_ofList, utf8_ofList]
  induction cs generalizing ds with
  | nil =>
      cases ds with
      | nil => exact absurd h (List.not_lt_nil _)
      | cons d ds =>
          rw [List.flatMap_cons, utf8EncodeChar_eq]
          exact List.nil_lt_cons _ _
  | cons c cs ih =>
      cases ds with
      | nil => exact absurd h (List.not_lt_nil _)
      | cons d ds =>
          rw [List.flatMap_cons, List.flatMap_cons]
          rcases List.cons_lt_cons_iff.1 h with hlt | ⟨rfl, hlt⟩
          · exact utf8EncodeChar_append_lt hlt _ _
          · exact List.append_left_lt (ih hlt)

/-- Texts in ascending order have their bytes in ascending order. -/
theorem utf8_lt_utf8 {s t : String} (h : s < t) : utf8 s < utf8 t := by
  have hlt := utf8_ofList_lt (String.lt_iff.1 h)
  rwa [String.ofList_toList, String.ofList_toList] at hlt

end Text
end RpcHost
