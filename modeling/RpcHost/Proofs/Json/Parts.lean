import RpcHost.Proofs.Entries
import RpcHost.Proofs.Json.Passing

/-!
# Containers and their parts

What the reader finds between the brackets of a container, said without fuel and without what was
read before: `ItemsRead` for arrays and `MembersRead` for objects. A value that is read is one of
these or has no parts (`valueRead_of_scanValue`), and the parts are those that stand in the text
(`ItemsRead.texts`, `MembersRead.texts`).
-/

namespace RpcHost
namespace Json

/-- The text from a value on, and the value that is read there. -/
structure Part where
  text : List Char
  value : Value

/-- The items that are left of an array. -/
inductive ItemsRead (depth : Nat) : List Char → List Part → List Char → Prop where
  | last {cs after rest : List Char} {v : Value} (hitem : scanAny depth cs = .ok (v, after))
      (hclose : skipBlanks after = ']' :: rest) : ItemsRead depth cs [⟨cs, v⟩] rest
  | next {cs after more rest : List Char} {v : Value} {parts : List Part}
      (hitem : scanAny depth cs = .ok (v, after)) (hcomma : skipBlanks after = ',' :: more)
      (hmore : ItemsRead depth more parts rest) : ItemsRead depth cs (⟨cs, v⟩ :: parts) rest

/-- The members that are left of an object. -/
inductive MembersRead (depth : Nat) : List Char → List (String × Part) → List Char → Prop where
  | last {cs colon after rest : List Char} {key : String} {v : Value}
      (hkey : scanKey (skipBlanks cs) = .ok (key, colon))
      (hvalue : scanAny depth colon = .ok (v, after)) (hclose : skipBlanks after = '}' :: rest) :
      MembersRead depth cs [(key, ⟨colon, v⟩)] rest
  | next {cs colon after more rest : List Char} {key : String} {v : Value}
      {parts : List (String × Part)} (hkey : scanKey (skipBlanks cs) = .ok (key, colon))
      (hvalue : scanAny depth colon = .ok (v, after)) (hcomma : skipBlanks after = ',' :: more)
      (hmore : MembersRead depth more parts rest) :
      MembersRead depth cs ((key, ⟨colon, v⟩) :: parts) rest

/-- The members with their values. -/
def memberValues (parts : List (String × Part)) : List (String × Value) :=
  parts.map fun m => (m.1, m.2.value)

/-- The ways in which a value is read. -/
inductive ValueRead (depth : Nat) (cs : List Char) : Value → List Char → Prop where
  | noItems {body rest : List Char} (hopen : skipBlanks cs = '[' :: body) (hdepth : depth ≠ 0)
      (hclose : skipBlanks body = ']' :: rest) : ValueRead depth cs (.array []) rest
  | items {body rest : List Char} {parts : List Part} (hopen : skipBlanks cs = '[' :: body)
      (hdepth : depth ≠ 0) (hparts : ItemsRead (depth - 1) (skipBlanks body) parts rest) :
      ValueRead depth cs (.array (parts.map (·.value))) rest
  | noMembers {body rest : List Char} (hopen : skipBlanks cs = '{' :: body) (hdepth : depth ≠ 0)
      (hclose : skipBlanks body = '}' :: rest) : ValueRead depth cs (.object []) rest
  | members {body rest : List Char} {parts : List (String × Part)}
      (hopen : skipBlanks cs = '{' :: body) (hdepth : depth ≠ 0)
      (hparts : MembersRead (depth - 1) body parts rest) :
      ValueRead depth cs (.object (Entries.ofList (memberValues parts))) rest
  | scalar {rest : List Char} {v : Value} (hscalar : scanScalar (skipBlanks cs) = .ok (v, rest)) :
      ValueRead depth cs v rest

variable {fuel depth : Nat} {cs rest : List Char} {v : Value}

/-! ## What the reader finds -/

theorem itemsRead_of_scanItems {acc : List Value}
    (h : scanItems fuel depth acc cs = .ok (v, rest)) :
    ∃ parts, ItemsRead depth cs parts rest
      ∧ v = .array (acc.reverse ++ parts.map (·.value)) := by
  induction fuel generalizing acc cs with
  | zero => cases h
  | succ fuel ih =>
      cases itemsStep_of_ok h with
      | last hitem hclose =>
          exact ⟨_, .last (scanAny_of_scanValue hitem) hclose, by simp⟩
      | next hitem hcomma hmore =>
          rcases ih hmore with ⟨parts, hparts, rfl⟩
          exact ⟨_, .next (scanAny_of_scanValue hitem) hcomma hparts, by simp⟩

theorem membersRead_of_scanMembers {acc : Members}
    (h : scanMembers fuel depth acc cs = .ok (v, rest)) :
    ∃ parts, MembersRead depth cs parts rest
      ∧ v = .object ((memberValues parts).foldl (fun acc e => Entries.insert e.1 e.2 acc) acc) := by
  induction fuel generalizing acc cs with
  | zero => cases h
  | succ fuel ih =>
      cases membersStep_of_ok h with
      | last hkey hvalue hclose =>
          exact ⟨_, .last hkey (scanAny_of_scanValue hvalue) hclose, rfl⟩
      | next hkey hvalue hcomma hmore =>
          rcases ih hmore with ⟨parts, hparts, rfl⟩
          exact ⟨_, .next hkey (scanAny_of_scanValue hvalue) hcomma hparts, rfl⟩

/-- Blanks before a member make no difference. -/
theorem membersRead_congr {cs' : List Char} {parts : List (String × Part)}
    (h : skipBlanks cs = skipBlanks cs') (hparts : MembersRead depth cs parts rest) :
    MembersRead depth cs' parts rest := by
  cases hparts with
  | last hkey hvalue hclose => exact .last (h ▸ hkey) hvalue hclose
  | next hkey hvalue hcomma hmore => exact .next (h ▸ hkey) hvalue hcomma hmore

theorem valueRead_of_scanValue (h : scanValue fuel depth cs = .ok (v, rest)) :
    ValueRead depth cs v rest := by
  cases fuel with
  | zero => cases h
  | succ fuel =>
      cases valueStep_of_ok h with
      | noItems hopen hdepth hclose => exact .noItems hopen hdepth hclose
      | items hopen hdepth hitems =>
          rcases itemsRead_of_scanItems hitems with ⟨parts, hparts, rfl⟩
          exact .items hopen hdepth hparts
      | noMembers hopen hdepth hclose => exact .noMembers hopen hdepth hclose
      | @members body _ _ hopen hdepth hmembers =>
          rcases membersRead_of_scanMembers hmembers with ⟨parts, hparts, rfl⟩
          exact .members hopen hdepth (membersRead_congr (skipBlanks_skipBlanks body) hparts)
      | scalar hscalar => exact .scalar hscalar

theorem valueRead_of_scanAny (h : scanAny depth cs = .ok (v, rest)) : ValueRead depth cs v rest :=
  valueRead_of_scanValue h

/-! ## Parts in the text -/

theorem afterComma?_of_comma {after more : List Char} (h : scanAny depth cs = .ok (v, after))
    (hcomma : skipBlanks after = ',' :: more) :
    afterComma? cs = some more ∧ more.length < cs.length := by
  have hafter := length_of_scanValue h
  have hmore := length_of_skipBlanks hcomma
  exact ⟨by simp [afterComma?, skip_of_scanValue h, hcomma], by omega⟩

theorem afterComma?_of_close {c : Char} {after : List Char} (h : scanAny depth cs = .ok (v, after))
    (hclose : skipBlanks after = c :: rest) (hc : c ≠ ',') : afterComma? cs = none := by
  simp [afterComma?, skip_of_scanValue h, hclose, hc]

/-- A value has at least one character. -/
theorem length_pos_of_scanAny {after : List Char} (h : scanAny depth cs = .ok (v, after)) :
    0 < cs.length := by
  rcases List.eq_nil_or_concat cs with rfl | ⟨front, c, rfl⟩
  · exact absurd h (scanValue_ne_ok_of_close (.inl rfl))
  · simp

/-- An item begins with neither the end nor a bracket. -/
theorem open_of_scanAny (h : scanAny depth cs = .ok (v, rest)) :
    skipBlanks cs ≠ [] ∧ ∀ after, skipBlanks cs ≠ ']' :: after := by
  refine ⟨?_, ?_⟩
  · intro hnil
    exact scanValue_ne_ok_of_close (.inl hnil) h
  · intro after hclose
    exact scanValue_ne_ok_of_close (.inr ⟨after, hclose⟩) h

theorem ItemsRead.texts {parts : List Part} (h : ItemsRead depth cs parts rest)
    (hfuel : cs.length ≤ fuel) : itemTextsFrom fuel cs = parts.map (·.text) := by
  -- An item takes a character at least, so the length of the text is fuel enough.
  induction h generalizing fuel with
  | last hitem hclose =>
      have hpos := length_pos_of_scanAny hitem
      obtain ⟨fuel, rfl⟩ : ∃ n, fuel = n + 1 := ⟨fuel - 1, by omega⟩
      simp [itemTextsFrom, afterComma?_of_close hitem hclose (by decide)]
  | next hitem hcomma _ ih =>
      rcases afterComma?_of_comma hitem hcomma with ⟨hafter, hlength⟩
      obtain ⟨fuel, rfl⟩ : ∃ n, fuel = n + 1 := ⟨fuel - 1, by omega⟩
      have hmore := @ih fuel (by omega)
      simp [itemTextsFrom, hafter, hmore]

theorem MembersRead.texts {parts : List (String × Part)} (h : MembersRead depth cs parts rest)
    (hfuel : cs.length ≤ fuel) :
    memberTextsFrom fuel cs = parts.map fun m => (m.1, m.2.text) := by
  induction h generalizing fuel with
  | @last cs colon after rest key v hkey hvalue hclose =>
      have hlength := (skipKey_of_scanKey hkey).2
      have hblanks := length_skipBlanks cs
      obtain ⟨fuel, rfl⟩ : ∃ n, fuel = n + 1 := ⟨fuel - 1, by omega⟩
      simp [memberTextsFrom, hkey, afterComma?_of_close hvalue hclose (by decide)]
  | @next cs colon after more rest key v parts hkey hvalue hcomma _ ih =>
      have hlength := (skipKey_of_scanKey hkey).2
      have hblanks := length_skipBlanks cs
      rcases afterComma?_of_comma hvalue hcomma with ⟨hafter, hshorter⟩
      obtain ⟨fuel, rfl⟩ : ∃ n, fuel = n + 1 := ⟨fuel - 1, by omega⟩
      have hmore := @ih fuel (by omega)
      simp [memberTextsFrom, hkey, hafter, hmore]

theorem memberTexts_of_membersRead {body : List Char} {parts : List (String × Part)}
    (hopen : skipBlanks cs = '{' :: body) (h : MembersRead depth body parts rest) :
    memberTexts cs = parts.map fun m => (m.1, m.2.text) := by
  simp only [memberTexts, hopen]
  exact h.texts (Nat.le_refl _)

theorem itemTexts_of_itemsRead {body : List Char} {parts : List Part}
    (hopen : skipBlanks cs = '[' :: body) (h : ItemsRead depth (skipBlanks body) parts rest) :
    itemTexts cs = parts.map (·.text) := by
  have hclose : ∀ after, skipBlanks body ≠ ']' :: after := by
    cases h with
    | last hitem => simpa only [skipBlanks_skipBlanks] using (open_of_scanAny hitem).2
    | next hitem => simpa only [skipBlanks_skipBlanks] using (open_of_scanAny hitem).2
  have htexts := h.texts (Nat.le_refl _)
  simpa only [itemTexts, hopen] using htexts

/-- Blanks before a container make no difference to its parts. -/
theorem memberTexts_skipBlanks (cs : List Char) : memberTexts (skipBlanks cs) = memberTexts cs := by
  rw [memberTexts, memberTexts, skipBlanks_skipBlanks]

theorem noRepeats_skipBlanks {layout : Layout} (h : NoRepeats layout cs) :
    NoRepeats layout (skipBlanks cs) := by
  intro f hf
  rw [memberTexts_skipBlanks]
  exact h f hf

end Json
end RpcHost
