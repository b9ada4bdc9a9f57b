import RpcHost.Json.Parts
import RpcHost.Proofs.Json.Tokens
import RpcHost.Proofs.Json.Steps

/-!
# Passing over what can be read

A value that can be read can also be passed over, and both come to the same place. How much fuel is
there makes no difference, as long as it is enough for the text: `scanAny_of_scanValue` and
`skip_of_scanValue`.
-/

namespace RpcHost
namespace Json

variable {fuel depth : Nat} {cs rest : List Char} {v w : Value}

/-! ## Strings -/

theorem skipString_quote (rest : List Char) : skipString ('"' :: rest) = .ok rest := by
  rw [skipString]

theorem skipString_escape (h : skipEscape cs = .ok rest) :
    skipString ('\\' :: cs) = skipString rest := by
  rw [skipString]
  split
  · rename_i e herror
    cases h.symm.trans herror
  · rename_i left hleft
    cases h.symm.trans hleft
    rfl

theorem skipString_raw {c : Char} (hquote : c ≠ '"') (hback : c ≠ '\\')
    (hprintable : ¬ c.toNat < 32) : skipString (c :: rest) = skipString rest := by
  rw [skipString]
  · rw [if_neg hprintable]
  · exact hquote
  · exact hback

/-- Two escapes for one character are passed over as two. -/
theorem skipString_of_scanLowSurrogate {high : Nat} {c : Char}
    (h : scanLowSurrogate high cs = .ok (c, rest)) : skipString cs = skipString rest := by
  unfold scanLowSurrogate at h
  split at h
  · cases h
  · cases h
  · rename_i after
    split at h
    · cases h
    · rename_i low left hscan
      have hskip : skipEscape ('u' :: after) = .ok left := by
        simp [skipEscape, hscan]
      split at h
      · simp only [Except.ok.injEq, Prod.mk.injEq] at h
        rcases h with ⟨_, rfl⟩
        exact skipString_escape hskip
      · cases h
  · cases h

theorem skipString_of_scanEscape {c : Char} (h : scanEscape cs = .ok (c, rest)) :
    skipString ('\\' :: cs) = skipString rest := by
  -- Only the numeric escapes need a look; both readers take the short ones alike.
  unfold scanEscape at h
  split at h
  case h_1 => cases h
  case h_10 after =>
    split at h
    · cases h
    · rename_i unit left hscan
      have hskip : skipEscape ('u' :: after) = .ok left := by
        simp [skipEscape, hscan]
      rw [skipString_escape hskip]
      split at h
      · cases h
      · split at h
        · exact skipString_of_scanLowSurrogate h
        · cases h
          rfl
  case h_11 => cases h
  all_goals
    cases h
    exact skipString_escape rfl

theorem skipString_of_scanString {acc : List Char} {s : String}
    (h : scanString acc cs = .ok (s, rest)) : skipString cs = .ok rest := by
  induction acc, cs using scanString.induct with
  | case1 acc =>
      rw [scanString] at h
      cases h
  | case2 acc after =>
      rw [scanString_quote] at h
      cases h
      exact skipString_quote _
  | case3 acc after e herror =>
      rw [scanString] at h
      split at h
      · cases h
      · rename_i c left hfound
        cases herror.symm.trans hfound
  | case4 acc after c left hfound _ ih =>
      rw [scanString_escape acc hfound] at h
      exact (skipString_of_scanEscape hfound).trans (ih h)
  | case5 acc c after hquote hback hcontrol =>
      rw [scanString] at h
      · rw [if_pos hcontrol] at h
        cases h
      · exact hquote
      · exact hback
  | case6 acc c after hquote hback hprintable ih =>
      rw [scanString_raw acc hquote hback hprintable] at h
      exact (skipString_raw hquote hback hprintable).trans (ih h)

theorem length_of_skipString (h : skipString cs = .ok rest) : rest.length ≤ cs.length := by
  induction cs using skipString.induct with
  | case1 =>
      rw [skipString] at h
      cases h
  | case2 after =>
      rw [skipString_quote] at h
      cases h
      simp
  | case3 after e herror =>
      rw [skipString] at h
      split at h
      · cases h
      · rename_i left hfound
        cases herror.symm.trans hfound
  | case4 after left hfound _ ih =>
      rw [skipString_escape hfound] at h
      have hleft := skipEscape_length hfound
      have hrest := ih h
      rw [List.length_cons]
      omega
  | case5 c after hquote hback hcontrol =>
      rw [skipString] at h
      · rw [if_pos hcontrol] at h
        cases h
      · exact hquote
      · exact hback
  | case6 c after hquote hback hprintable ih =>
      rw [skipString_raw hquote hback hprintable] at h
      have hrest := ih h
      rw [List.length_cons]
      omega

/-! ## Numbers -/

/-- What is read as digits does not depend on the complaint that a missing digit would get. -/
theorem scanDigits_of_ok {atEnd : ReadError} (other : ReadError) {ds : List Char}
    (h : scanDigits atEnd cs = .ok (ds, rest)) :
    scanDigits other cs = .ok (ds, rest) ∧ rest.length ≤ cs.length := by
  unfold scanDigits at h
  split at h
  · cases h
  · rename_i c after
    split at h
    · rename_i hdigit
      cases h
      exact ⟨by simp [scanDigits, hdigit], (List.dropWhile_suffix _).length_le⟩
    · cases h

theorem scanWhole_of_ok {atEnd : ReadError} (other : ReadError) {ds : List Char}
    (h : scanWhole atEnd cs = .ok (ds, rest)) :
    scanWhole other cs = .ok (ds, rest) ∧ rest.length ≤ cs.length := by
  cases cs with
  | nil => cases h
  | cons c cs =>
      by_cases hzero : c = '0'
      · subst hzero
        cases cs with
        | nil =>
            cases h
            exact ⟨rfl, by simp⟩
        | cons d cs =>
            cases hd : d.isDigit with
            | true => simp [scanWhole, hd] at h
            | false =>
                simp only [scanWhole, hd, Bool.false_eq_true, if_false] at h
                cases h
                exact ⟨by simp [scanWhole, hd], by simp⟩
      · rw [scanWhole_of_ne_zero hzero] at h ⊢
        exact scanDigits_of_ok other h

theorem scanFraction_of_ok {atEnd : ReadError} (other : ReadError) {ds : Option (List Char)}
    (h : scanFraction atEnd cs = .ok (ds, rest)) :
    scanFraction other cs = .ok (ds, rest) ∧ rest.length ≤ cs.length := by
  cases cs with
  | nil =>
      cases h
      exact ⟨rfl, Nat.le_refl _⟩
  | cons c cs =>
      by_cases hpoint : c = '.'
      · subst hpoint
        rcases map_eq_ok_iff.1 h with ⟨⟨digits, left⟩, hdigits, heq⟩
        cases heq
        rcases scanDigits_of_ok other hdigits with ⟨hother, hlength⟩
        refine ⟨map_eq_ok_iff.2 ⟨_, hother, rfl⟩, ?_⟩
        rw [List.length_cons]
        omega
      · rw [scanFraction_of_ne_point hpoint] at h ⊢
        cases h
        exact ⟨rfl, Nat.le_refl _⟩

theorem length_exponentSign (cs : List Char) : (exponentSign cs).2.length ≤ cs.length := by
  unfold exponentSign
  split <;> simp

theorem scanExponent_of_ok {atEnd : ReadError} (other : ReadError)
    {found : Option (Bool × List Char)}
    (h : scanExponent atEnd cs = .ok (found, rest)) :
    scanExponent other cs = .ok (found, rest) ∧ rest.length ≤ cs.length := by
  cases cs with
  | nil =>
      cases h
      exact ⟨rfl, Nat.le_refl _⟩
  | cons c cs =>
      rw [scanExponent_cons] at h ⊢
      split at h
      · rename_i hmark
        rcases map_eq_ok_iff.1 h with ⟨⟨digits, left⟩, hdigits, heq⟩
        cases heq
        rcases scanDigits_of_ok other hdigits with ⟨hother, hlength⟩
        rw [if_pos hmark]
        refine ⟨map_eq_ok_iff.2 ⟨_, hother, rfl⟩, ?_⟩
        have hsign := length_exponentSign cs
        rw [List.length_cons]
        omega
      · rename_i hmark
        cases h
        exact ⟨if_neg hmark, Nat.le_refl _⟩

theorem length_numberSign (cs : List Char) : (numberSign cs).2.length ≤ cs.length := by
  unfold numberSign
  split <;> simp

theorem scanNumeral_of_ok {atEnd : ReadError} (other : ReadError) {n : Numeral}
    (h : scanNumeral atEnd cs = .ok (n, rest)) :
    scanNumeral other cs = .ok (n, rest) ∧ rest.length ≤ cs.length := by
  rcases scanNumeral_eq_ok_iff.1 h with
    ⟨afterWhole, afterFraction, hsign, hwhole, hfraction, hexponent⟩
  rcases scanWhole_of_ok other hwhole with ⟨hwhole, hwholeLength⟩
  rcases scanFraction_of_ok other hfraction with ⟨hfraction, hfractionLength⟩
  rcases scanExponent_of_ok other hexponent with ⟨hexponent, hexponentLength⟩
  have hsignLength := length_numberSign cs
  exact ⟨scanNumeral_eq_ok_iff.2 ⟨_, _, hsign, hwhole, hfraction, hexponent⟩, by omega⟩

theorem skipNumber_of_scanNumber {n : Number} (h : scanNumber cs = .ok (n, rest)) :
    skipNumber cs = .ok rest ∧ rest.length ≤ cs.length := by
  rcases scanNumber_eq_ok_iff.1 h with ⟨numeral, hnumeral, _⟩
  rcases scanNumeral_of_ok .malformed hnumeral with ⟨hother, hlength⟩
  exact ⟨map_eq_ok_iff.2 ⟨_, hother, rfl⟩, hlength⟩

/-! ## Scalars and keys -/

theorem skipScalar_of_scanScalar (h : scanScalar cs = .ok (v, rest)) :
    skipScalar cs = .ok rest ∧ rest.length ≤ cs.length := by
  cases scalarStep_of_ok h with
  | null => exact ⟨rfl, by simp only [List.length_cons]; omega⟩
  | true => exact ⟨rfl, by simp only [List.length_cons]; omega⟩
  | false => exact ⟨rfl, by simp only [List.length_cons]; omega⟩
  | string hscan =>
      have hskip := skipString_of_scanString hscan
      have hlength := length_of_skipString hskip
      exact ⟨hskip, by rw [List.length_cons]; omega⟩
  | @number c body _ n hstart hscan =>
      rcases skipNumber_of_scanNumber hscan with ⟨hskip, hlength⟩
      refine ⟨?_, hlength⟩
      unfold skipScalar
      split
      all_goals rename_i heq
      · cases heq
      all_goals cases heq
      · simp at hstart
      · simp at hstart
      · simp at hstart
      · simp at hstart
      · rw [if_pos (by simpa using hstart)]
        exact hskip

theorem length_skipBlanks (cs : List Char) : (skipBlanks cs).length ≤ cs.length :=
  (List.dropWhile_suffix _).length_le

theorem length_of_skipBlanks {c : Char} (h : skipBlanks cs = c :: rest) :
    rest.length < cs.length := by
  have hblanks := length_skipBlanks cs
  rw [h, List.length_cons] at hblanks
  omega

theorem skipKey_of_scanKey {key : String} (h : scanKey cs = .ok (key, rest)) :
    skipKey cs = .ok rest ∧ rest.length < cs.length := by
  rcases scanKey_eq_ok_iff.1 h with ⟨body, after, rfl, hstring, hcolon⟩
  have hskip := skipString_of_scanString hstring
  have hlength := length_of_skipString hskip
  have hafter := length_of_skipBlanks hcolon
  refine ⟨?_, by rw [List.length_cons]; omega⟩
  simp [skipKey, bind, Except.bind, hskip, hcolon]

/-! ## Values -/

/-- What is read with this much fuel is read, and passed over, with any fuel that is enough for the
text. -/
structure ReadsAnyhow (fuel : Nat) : Prop where
  value : ∀ {depth : Nat} {cs rest : List Char} {v : Value},
    scanValue fuel depth cs = .ok (v, rest) → rest.length ≤ cs.length ∧
      ∀ enough, 2 * cs.length ≤ enough →
        scanValue enough depth cs = .ok (v, rest) ∧ skipValue enough cs = .ok rest
  items : ∀ {depth : Nat} {acc : List Value} {cs rest : List Char} {v : Value},
    scanItems fuel depth acc cs = .ok (v, rest) → rest.length ≤ cs.length ∧
      ∀ enough, 2 * cs.length + 1 ≤ enough →
        scanItems enough depth acc cs = .ok (v, rest) ∧ skipItems enough cs = .ok rest
  members : ∀ {depth : Nat} {acc : Members} {cs rest : List Char} {v : Value},
    scanMembers fuel depth acc cs = .ok (v, rest) → rest.length ≤ cs.length ∧
      ∀ enough, 2 * cs.length + 1 ≤ enough →
        scanMembers enough depth acc cs = .ok (v, rest) ∧ skipMembers enough cs = .ok rest

/-- What stands behind the bracket of an array with items is neither the end nor a bracket. -/
theorem skipValue_of_items {body : List Char} {acc : List Value}
    (hopen : skipBlanks cs = '[' :: body)
    (hitems : scanItems fuel depth acc (skipBlanks body) = .ok (v, rest)) {enough : Nat}
    (hskip : skipItems enough (skipBlanks body) = .ok rest) :
    skipValue (enough + 1) cs = .ok rest := by
  rw [skipValue, hopen]
  split
  · rename_i hclose
    cases hclose
    -- The reader would have refused items that begin so.
    split
    · rename_i hclose
      exact absurd hitems (scanItems_ne_ok_of_close (.inr ⟨_, by
        rw [skipBlanks_skipBlanks, hclose]⟩))
    · rename_i hend
      exact absurd hitems (scanItems_ne_ok_of_close (.inl (by
        rw [skipBlanks_skipBlanks, hend])))
    · exact hskip
  · rename_i hother
    cases hother
  · rename_i hother _
    exact absurd rfl (hother body)

theorem skipValue_of_members {body : List Char} {acc : Members}
    (hopen : skipBlanks cs = '{' :: body)
    (hmembers : scanMembers fuel depth acc (skipBlanks body) = .ok (v, rest)) {enough : Nat}
    (hskip : skipMembers enough (skipBlanks body) = .ok rest) :
    skipValue (enough + 1) cs = .ok rest := by
  rw [skipValue, hopen]
  split
  · rename_i hother
    cases hother
  · rename_i hclose
    cases hclose
    split
    · rename_i hclose
      exact absurd hmembers (scanMembers_ne_ok_of_close (.inr ⟨_, by
        rw [skipBlanks_skipBlanks, hclose]⟩))
    · exact hskip
  · rename_i hother
    exact absurd rfl (hother body)

theorem skipValue_of_scalar (hscalar : scanScalar (skipBlanks cs) = .ok (v, rest)) (enough : Nat) :
    skipValue (enough + 1) cs = .ok rest := by
  rw [skipValue]
  split
  · rename_i hopen
    simp [hopen, scanScalar] at hscalar
  · rename_i hopen
    simp [hopen, scanScalar] at hscalar
  · exact (skipScalar_of_scanScalar hscalar).1

theorem readsAnyhow_value (ih : ReadsAnyhow fuel)
    (h : scanValue (fuel + 1) depth cs = .ok (v, rest)) :
    rest.length ≤ cs.length ∧ ∀ enough, 2 * cs.length ≤ enough →
      scanValue enough depth cs = .ok (v, rest) ∧ skipValue enough cs = .ok rest := by
  have hcs : skipBlanks cs ≠ [] := by
    intro hnil
    exact scanValue_ne_ok_of_close (.inl hnil) h
  -- So there is fuel for this step, and twice the length leaves enough for the next one.
  have hpos : 0 < cs.length := by
    have hblanks := length_skipBlanks cs
    have hnonempty := List.length_pos_iff.2 hcs
    omega
  -- Every step of the reader is a step of what passes over the text.
  cases valueStep_of_ok h with
  | @noItems body _ hopen hdepth hclose =>
      have hbody := length_of_skipBlanks hopen
      have hrest := length_of_skipBlanks hclose
      refine ⟨by omega, ?_⟩
      rintro (_ | enough) henough
      · omega
      · exact ⟨scanValue_of_step (.noItems hopen hdepth hclose), by simp [skipValue, hopen, hclose]⟩
  | @items body _ _ hopen hdepth hitems =>
      have hbody := length_of_skipBlanks hopen
      have hblanks := length_skipBlanks body
      rcases ih.items hitems with ⟨hlength, hagain⟩
      refine ⟨by omega, ?_⟩
      rintro (_ | enough) henough
      · omega
      · rcases hagain enough (by omega) with ⟨hscan, hskip⟩
        exact ⟨scanValue_of_step (.items hopen hdepth hscan),
          skipValue_of_items hopen hitems hskip⟩
  | @noMembers body _ hopen hdepth hclose =>
      have hbody := length_of_skipBlanks hopen
      have hrest := length_of_skipBlanks hclose
      refine ⟨by omega, ?_⟩
      rintro (_ | enough) henough
      · omega
      · exact ⟨scanValue_of_step (.noMembers hopen hdepth hclose),
          by simp [skipValue, hopen, hclose]⟩
  | @members body _ _ hopen hdepth hmembers =>
      have hbody := length_of_skipBlanks hopen
      have hblanks := length_skipBlanks body
      rcases ih.members hmembers with ⟨hlength, hagain⟩
      refine ⟨by omega, ?_⟩
      rintro (_ | enough) henough
      · omega
      · rcases hagain enough (by omega) with ⟨hscan, hskip⟩
        exact ⟨scanValue_of_step (.members hopen hdepth hscan),
          skipValue_of_members hopen hmembers hskip⟩
  | scalar hscalar =>
      have hlength := (skipScalar_of_scanScalar hscalar).2
      have hblanks := length_skipBlanks cs
      refine ⟨by omega, ?_⟩
      rintro (_ | enough) henough
      · omega
      · exact ⟨scanValue_of_step (.scalar hscalar), skipValue_of_scalar hscalar enough⟩

theorem readsAnyhow_items (ih : ReadsAnyhow fuel) {acc : List Value}
    (h : scanItems (fuel + 1) depth acc cs = .ok (v, rest)) :
    rest.length ≤ cs.length ∧ ∀ enough, 2 * cs.length + 1 ≤ enough →
      scanItems enough depth acc cs = .ok (v, rest) ∧ skipItems enough cs = .ok rest := by
  cases itemsStep_of_ok h with
  | last hitem hclose =>
      rcases ih.value hitem with ⟨hlength, hagain⟩
      have hafter := length_of_skipBlanks hclose
      refine ⟨by omega, ?_⟩
      rintro (_ | enough) henough
      · omega
      · rcases hagain enough (by omega) with ⟨hscan, hskip⟩
        exact ⟨scanItems_of_step (.last hscan hclose), by simp [skipItems, hskip, hclose]⟩
  | next hitem hcomma hmore =>
      rcases ih.value hitem with ⟨hlength, hagain⟩
      have hafter := length_of_skipBlanks hcomma
      rcases ih.items hmore with ⟨hmoreLength, hmoreAgain⟩
      refine ⟨by omega, ?_⟩
      rintro (_ | enough) henough
      · omega
      · rcases hagain enough (by omega) with ⟨hscan, hskip⟩
        rcases hmoreAgain enough (by omega) with ⟨hmoreScan, hmoreSkip⟩
        exact ⟨scanItems_of_step (.next hscan hcomma hmoreScan), by
          simp [skipItems, hskip, hcomma, hmoreSkip]⟩

theorem readsAnyhow_members (ih : ReadsAnyhow fuel) {acc : Members}
    (h : scanMembers (fuel + 1) depth acc cs = .ok (v, rest)) :
    rest.length ≤ cs.length ∧ ∀ enough, 2 * cs.length + 1 ≤ enough →
      scanMembers enough depth acc cs = .ok (v, rest) ∧ skipMembers enough cs = .ok rest := by
  have hblanks := length_skipBlanks cs
  cases membersStep_of_ok h with
  | last hkey hvalue hclose =>
      rcases skipKey_of_scanKey hkey with ⟨hskipKey, hkeyLength⟩
      rcases ih.value hvalue with ⟨hlength, hagain⟩
      have hafter := length_of_skipBlanks hclose
      refine ⟨by omega, ?_⟩
      rintro (_ | enough) henough
      · omega
      · rcases hagain enough (by omega) with ⟨hscan, hskip⟩
        exact ⟨scanMembers_of_step (.last hkey hscan hclose), by
          simp [skipMembers, hskipKey, hskip, hclose]⟩
  | next hkey hvalue hcomma hmore =>
      rcases skipKey_of_scanKey hkey with ⟨hskipKey, hkeyLength⟩
      rcases ih.value hvalue with ⟨hlength, hagain⟩
      have hafter := length_of_skipBlanks hcomma
      rcases ih.members hmore with ⟨hmoreLength, hmoreAgain⟩
      refine ⟨by omega, ?_⟩
      rintro (_ | enough) henough
      · omega
      · rcases hagain enough (by omega) with ⟨hscan, hskip⟩
        rcases hmoreAgain enough (by omega) with ⟨hmoreScan, hmoreSkip⟩
        exact ⟨scanMembers_of_step (.next hkey hscan hcomma hmoreScan), by
          simp [skipMembers, hskipKey, hskip, hcomma, hmoreSkip]⟩

theorem readsAnyhow (fuel : Nat) : ReadsAnyhow fuel := by
  -- The three readers call one another with less fuel, so all three go through one induction.
  induction fuel with
  | zero =>
      refine ⟨?_, ?_, ?_⟩
      · intro depth cs rest v h
        cases h
      · intro depth acc cs rest v h
        cases h
      · intro depth acc cs rest v h
        cases h
  | succ fuel ih =>
      exact ⟨readsAnyhow_value ih, readsAnyhow_items ih, readsAnyhow_members ih⟩

theorem two_mul_length_le_enoughFuel (cs : List Char) : 2 * cs.length ≤ enoughFuel cs := by
  unfold enoughFuel
  omega

theorem length_of_scanValue (h : scanValue fuel depth cs = .ok (v, rest)) :
    rest.length ≤ cs.length :=
  ((readsAnyhow fuel).value h).1

theorem scanAny_of_scanValue (h : scanValue fuel depth cs = .ok (v, rest)) :
    scanAny depth cs = .ok (v, rest) :=
  (((readsAnyhow fuel).value h).2 _ (two_mul_length_le_enoughFuel cs)).1

theorem skip_of_scanValue (h : scanValue fuel depth cs = .ok (v, rest)) : skip cs = .ok rest :=
  (((readsAnyhow fuel).value h).2 _ (two_mul_length_le_enoughFuel cs)).2

end Json
end RpcHost
