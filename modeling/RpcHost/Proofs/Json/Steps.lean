import RpcHost.Json.Reader

/-!
# The steps of the JSON reader

`scanValue`, `scanItems` and `scanMembers` call one another with less and less fuel. For each of
them the ways in which one step succeeds are written down once, with all that the step looked at:
`ValueStep`, `ItemsStep` and `MembersStep`. What the reader keeps is then shown case by case, and
what it reads is put together from such steps.
-/

namespace RpcHost
namespace Json

variable {fuel depth : Nat} {cs rest : List Char} {v w : Value}

/-! ## Values -/

/-- Blanks before a value make no difference. -/
theorem scanValue_congr {cs' : List Char} (h : skipBlanks cs = skipBlanks cs') :
    scanValue fuel depth cs = scanValue fuel depth cs' := by
  cases fuel with
  | zero => rfl
  | succ fuel => rw [scanValue, scanValue, h]

/-- The ways in which a value is read. -/
inductive ValueStep (fuel depth : Nat) (cs : List Char) : Value → List Char → Prop where
  | noItems {body rest : List Char} (hopen : skipBlanks cs = '[' :: body) (hdepth : depth ≠ 0)
      (hclose : skipBlanks body = ']' :: rest) : ValueStep fuel depth cs (.array []) rest
  | items {body rest : List Char} {v : Value} (hopen : skipBlanks cs = '[' :: body)
      (hdepth : depth ≠ 0)
      (hitems : scanItems fuel (depth - 1) [] (skipBlanks body) = .ok (v, rest)) :
      ValueStep fuel depth cs v rest
  | noMembers {body rest : List Char} (hopen : skipBlanks cs = '{' :: body) (hdepth : depth ≠ 0)
      (hclose : skipBlanks body = '}' :: rest) : ValueStep fuel depth cs (.object []) rest
  | members {body rest : List Char} {v : Value} (hopen : skipBlanks cs = '{' :: body)
      (hdepth : depth ≠ 0)
      (hmembers : scanMembers fuel (depth - 1) [] (skipBlanks body) = .ok (v, rest)) :
      ValueStep fuel depth cs v rest
  | scalar {rest : List Char} {v : Value} (hscalar : scanScalar (skipBlanks cs) = .ok (v, rest)) :
      ValueStep fuel depth cs v rest

theorem valueStep_of_ok (h : scanValue (fuel + 1) depth cs = .ok (v, rest)) :
    ValueStep fuel depth cs v rest := by
  rw [scanValue] at h
  -- An array, an object, or a value without parts; the first two need depth that is left.
  split at h
  · rename_i body hopen
    split at h
    · cases h
    · rename_i hdepth
      split at h
      · rename_i hclose
        cases h
        exact .noItems hopen hdepth hclose
      · cases h
      · exact .items hopen hdepth h
  · rename_i body hopen
    split at h
    · cases h
    · rename_i hdepth
      split at h
      · rename_i hclose
        cases h
        exact .noMembers hopen hdepth hclose
      · exact .members hopen hdepth h
  · exact .scalar h

/-! ## Items and members -/

/-- The ways in which the items that are left of an array are read. -/
inductive ItemsStep (fuel depth : Nat) (acc : List Value) (cs : List Char) :
    Value → List Char → Prop where
  | last {after rest : List Char} {v : Value} (hitem : scanValue fuel depth cs = .ok (v, after))
      (hclose : skipBlanks after = ']' :: rest) :
      ItemsStep fuel depth acc cs (.array (v :: acc).reverse) rest
  | next {after more rest : List Char} {v w : Value}
      (hitem : scanValue fuel depth cs = .ok (v, after)) (hcomma : skipBlanks after = ',' :: more)
      (hmore : scanItems fuel depth (v :: acc) more = .ok (w, rest)) :
      ItemsStep fuel depth acc cs w rest

theorem itemsStep_of_ok {acc : List Value}
    (h : scanItems (fuel + 1) depth acc cs = .ok (w, rest)) :
    ItemsStep fuel depth acc cs w rest := by
  rw [scanItems] at h
  split at h
  · cases h
  · rename_i v after hitem
    split at h
    · cases h
    · rename_i hclose
      cases h
      exact .last hitem hclose
    · rename_i hcomma
      exact .next hitem hcomma h
    · cases h

/-- The ways in which the members that are left of an object are read. -/
inductive MembersStep (fuel depth : Nat) (acc : Members) (cs : List Char) :
    Value → List Char → Prop where
  | last {colon after rest : List Char} {key : String} {v : Value}
      (hkey : scanKey (skipBlanks cs) = .ok (key, colon))
      (hvalue : scanValue fuel depth colon = .ok (v, after))
      (hclose : skipBlanks after = '}' :: rest) :
      MembersStep fuel depth acc cs (.object (Entries.insert key v acc)) rest
  | next {colon after more rest : List Char} {key : String} {v w : Value}
      (hkey : scanKey (skipBlanks cs) = .ok (key, colon))
      (hvalue : scanValue fuel depth colon = .ok (v, after))
      (hcomma : skipBlanks after = ',' :: more)
      (hmore : scanMembers fuel depth (Entries.insert key v acc) more = .ok (w, rest)) :
      MembersStep fuel depth acc cs w rest

theorem membersStep_of_ok {acc : Members}
    (h : scanMembers (fuel + 1) depth acc cs = .ok (w, rest)) :
    MembersStep fuel depth acc cs w rest := by
  rw [scanMembers] at h
  split at h
  · cases h
  · rename_i key colon hkey
    split at h
    · cases h
    · rename_i v after hvalue
      split at h
      · cases h
      · rename_i hclose
        cases h
        exact .last hkey hvalue hclose
      · rename_i hcomma
        exact .next hkey hvalue hcomma h
      · cases h

/-! ## From steps to readings -/

theorem scanItems_of_step {acc : List Value} (h : ItemsStep fuel depth acc cs w rest) :
    scanItems (fuel + 1) depth acc cs = .ok (w, rest) := by
  rw [scanItems]
  cases h with
  | last hitem hclose => simp [hitem, hclose]
  | next hitem hcomma hmore => simp [hitem, hcomma, hmore]

theorem scanMembers_of_step {acc : Members} (h : MembersStep fuel depth acc cs w rest) :
    scanMembers (fuel + 1) depth acc cs = .ok (w, rest) := by
  rw [scanMembers]
  cases h with
  | last hkey hvalue hclose => simp [hkey, hvalue, hclose]
  | next hkey hvalue hcomma hmore => simp [hkey, hvalue, hcomma, hmore]

/-- No value begins where a container is closed or the text ends. -/
theorem scanValue_ne_ok_of_close {body : List Char}
    (hbody : skipBlanks body = [] ∨ ∃ after, skipBlanks body = ']' :: after) :
    scanValue fuel depth body ≠ .ok (v, rest) := by
  intro h
  cases fuel with
  | zero => cases h
  | succ fuel =>
      rw [scanValue] at h
      rcases hbody with hend | ⟨after, hclose⟩
      · simp [hend, scanScalar] at h
      · simp [hclose, scanScalar] at h

theorem scanItems_ne_ok_of_close {body : List Char} {acc : List Value}
    (hbody : skipBlanks body = [] ∨ ∃ after, skipBlanks body = ']' :: after) :
    scanItems fuel depth acc body ≠ .ok (v, rest) := by
  intro h
  cases fuel with
  | zero => cases h
  | succ fuel =>
      cases itemsStep_of_ok h with
      | last hitem _ => exact scanValue_ne_ok_of_close hbody hitem
      | next hitem _ _ => exact scanValue_ne_ok_of_close hbody hitem

theorem scanMembers_ne_ok_of_close {body : List Char} {acc : Members}
    (hbody : skipBlanks body = [] ∨ ∃ after, skipBlanks body = '}' :: after) :
    scanMembers fuel depth acc body ≠ .ok (v, rest) := by
  intro h
  have hkey : ∀ key colon, scanKey (skipBlanks body) ≠ .ok (key, colon) := by
    intro key colon
    rcases hbody with hend | ⟨after, hclose⟩
    · simp [hend, scanKey]
    · simp [hclose, scanKey]
  cases fuel with
  | zero => cases h
  | succ fuel =>
      cases membersStep_of_ok h with
      | last hfound _ _ => exact hkey _ _ hfound
      | next hfound _ _ _ => exact hkey _ _ hfound

@[simp] theorem skipBlanks_skipBlanks (cs : List Char) :
    skipBlanks (skipBlanks cs) = skipBlanks cs := by
  induction cs with
  | nil => rfl
  | cons c cs ih =>
      cases hc : isBlank c with
      | true => simpa [skipBlanks, hc] using ih
      | false => simp [skipBlanks, hc]

theorem scanValue_of_step (h : ValueStep fuel depth cs v rest) :
    scanValue (fuel + 1) depth cs = .ok (v, rest) := by
  rw [scanValue]
  cases h with
  | noItems hopen hdepth hclose => simp [hopen, hdepth, hclose]
  | @items body _ _ hopen hdepth hitems =>
      rw [hopen]
      simp only [hdepth, if_false]
      -- What stands behind the bracket is an item, and neither a bracket nor the end.
      split
      · rename_i hclose
        exact absurd hitems (scanItems_ne_ok_of_close (.inr ⟨_, by
          rw [skipBlanks_skipBlanks, hclose]⟩))
      · rename_i hend
        exact absurd hitems (scanItems_ne_ok_of_close (.inl (by
          rw [skipBlanks_skipBlanks, hend])))
      · exact hitems
  | noMembers hopen hdepth hclose => simp [hopen, hdepth, hclose]
  | @members body _ _ hopen hdepth hmembers =>
      rw [hopen]
      simp only [hdepth, if_false]
      split
      · rename_i hclose
        exact absurd hmembers (scanMembers_ne_ok_of_close (.inr ⟨_, by
          rw [skipBlanks_skipBlanks, hclose]⟩))
      · exact hmembers
  | scalar hscalar =>
      split
      · rename_i hopen
        simp [hopen, scanScalar] at hscalar
      · rename_i hopen
        simp [hopen, scanScalar] at hscalar
      · exact hscalar

/-! ## Blanks before items and members -/

theorem scanItems_skipBlanks (acc : List Value) :
    scanItems fuel depth acc (skipBlanks cs) = scanItems fuel depth acc cs := by
  cases fuel with
  | zero => rfl
  | succ fuel => rw [scanItems, scanItems, scanValue_congr (skipBlanks_skipBlanks cs)]

theorem scanMembers_skipBlanks (acc : Members) :
    scanMembers fuel depth acc (skipBlanks cs) = scanMembers fuel depth acc cs := by
  cases fuel with
  | zero => rfl
  | succ fuel => rw [scanMembers, scanMembers, skipBlanks_skipBlanks]

end Json
end RpcHost
