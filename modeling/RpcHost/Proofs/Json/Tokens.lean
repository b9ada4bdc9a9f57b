import Mathlib.Data.List.TakeWhile
import RpcHost.Json.Reader
import RpcHost.Proofs.Results

/-!
# Where JSON tokens end

A scanner is self-delimiting if more text behind what it was given changes nothing but what is left
over. Literals, escapes, strings and keys are such tokens. A number is not, since digits may follow,
but it is once something is left over that is no part of it: `DelimitedInside`. The ways in which a
value without parts is read are written down in `ScalarStep`.
-/

namespace RpcHost
namespace Json

variable {α β : Type} {cs rest more : List Char}

/-! ## Delimited scanners -/

/-- What is read does not depend on the text after it. -/
def SelfDelimiting (scan : List Char → Scan α) : Prop :=
  ∀ {cs rest : List Char} {a : α} (more : List Char),
    scan cs = .ok (a, rest) → scan (cs ++ more) = .ok (a, rest ++ more)

/-- What is read does not depend on the text after it once some of that is there. -/
def DelimitedInside (scan : List Char → Scan α) : Prop :=
  ∀ {cs rest : List Char} {a : α} (more : List Char), rest ≠ [] →
    scan cs = .ok (a, rest) → scan (cs ++ more) = .ok (a, rest ++ more)

theorem SelfDelimiting.inside {scan : List Char → Scan α} (h : SelfDelimiting scan) :
    DelimitedInside scan := by
  intro cs rest a more _ hscan
  exact h more hscan

/-! ## Blanks -/

theorem skipBlanks_append (h : skipBlanks cs ≠ []) (more : List Char) :
    skipBlanks (cs ++ more) = skipBlanks cs ++ more := by
  unfold skipBlanks at h ⊢
  rw [List.dropWhile_append, if_neg (by simpa using h)]

theorem skipBlanks_eq_nil_iff : skipBlanks cs = [] ↔ ∀ c ∈ cs, isBlank c = true :=
  List.dropWhile_eq_nil_iff

theorem skipBlanks_append_of_blank (h : ∀ c ∈ cs, isBlank c = true) (more : List Char) :
    skipBlanks (cs ++ more) = skipBlanks more :=
  List.dropWhile_append_of_pos h

theorem skipBlanks_cons_of_not_blank {c : Char} (h : isBlank c = false) (rest : List Char) :
    skipBlanks (c :: rest) = c :: rest := by
  simp [skipBlanks, h]

/-! ## Literals and escapes -/

theorem scanExactly_eq_ok_iff {expected : List Char} :
    scanExactly expected cs = .ok rest ↔ cs = expected ++ rest := by
  induction expected generalizing cs with
  | nil => simp [scanExactly, eq_comm]
  | cons e es ih =>
      cases cs with
      | nil => simp [scanExactly]
      | cons c cs =>
          by_cases h : c = e
          · simp [scanExactly, h, ih]
          · simp [scanExactly, h]

theorem scanHex_selfDelimiting : SelfDelimiting scanHex := by
  intro cs rest n more h
  unfold scanHex at h
  split at h
  · rename_i a b c d after
    simp only [List.cons_append, scanHex]
    split at h
    · rename_i ha hb hc hd
      cases h
      rfl
    · cases h
  · split at h <;> cases h

theorem scanLowSurrogate_selfDelimiting (high : Nat) : SelfDelimiting (scanLowSurrogate high) := by
  intro cs rest c more h
  unfold scanLowSurrogate at h
  split at h
  · cases h
  · cases h
  · rename_i after
    split at h
    · cases h
    · rename_i low left hscan
      have hfurther := scanHex_selfDelimiting more hscan
      split at h
      · rename_i hlow
        simp only [Except.ok.injEq, Prod.mk.injEq] at h
        rcases h with ⟨rfl, rfl⟩
        rw [List.cons_append, List.cons_append, scanLowSurrogate, hfurther]
        exact if_pos hlow
      · cases h
  · cases h

theorem scanEscape_selfDelimiting : SelfDelimiting scanEscape := by
  intro cs rest c more h
  unfold scanEscape at h
  split at h
  case h_1 => cases h
  case h_10 after =>
    split at h
    · cases h
    · rename_i unit left hscan
      have hfurther := scanHex_selfDelimiting more hscan
      split at h
      · cases h
      · rename_i hlow
        split at h
        · rename_i hhigh
          have hpair := scanLowSurrogate_selfDelimiting unit more h
          simp only [List.cons_append, scanEscape, hfurther]
          rw [if_neg hlow, if_pos hhigh, hpair]
        · rename_i hhigh
          cases h
          simp only [List.cons_append, scanEscape, hfurther]
          rw [if_neg hlow, if_neg hhigh]
  case h_11 => cases h
  all_goals
    cases h
    rfl

/-! ## Strings -/

theorem scanString_quote (acc rest : List Char) :
    scanString acc ('"' :: rest) = .ok (String.ofList acc.reverse, rest) := by
  rw [scanString]

theorem scanString_escape {c : Char} (acc : List Char) (h : scanEscape cs = .ok (c, rest)) :
    scanString acc ('\\' :: cs) = scanString (c :: acc) rest := by
  rw [scanString]
  split
  · rename_i e herror
    cases h.symm.trans herror
  · rename_i found left hfound
    cases h.symm.trans hfound
    rfl

theorem scanString_raw {c : Char} (acc : List Char) (hquote : c ≠ '"') (hback : c ≠ '\\')
    (hprintable : ¬ c.toNat < 32) : scanString acc (c :: rest) = scanString (c :: acc) rest := by
  rw [scanString]
  · rw [if_neg hprintable]
  · exact hquote
  · exact hback

theorem scanString_selfDelimiting (acc : List Char) : SelfDelimiting (scanString acc) := by
  intro cs rest s more h
  -- The recursion of the scanner: a quote, an escape, or a character that stands for itself.
  induction acc, cs using scanString.induct with
  | case1 acc =>
      rw [scanString] at h
      cases h
  | case2 acc after =>
      rw [scanString_quote] at h
      cases h
      exact scanString_quote acc _
  | case3 acc after e herror =>
      rw [scanString] at h
      split at h
      · cases h
      · rename_i c left hfound
        cases herror.symm.trans hfound
  | case4 acc after c left hfound _ ih =>
      rw [scanString_escape acc hfound] at h
      have hfurther := scanEscape_selfDelimiting more hfound
      calc
        scanString acc ('\\' :: (after ++ more))
            = scanString (c :: acc) (left ++ more) := scanString_escape acc hfurther
        _ = .ok (s, rest ++ more) := ih h
  | case5 acc c after hquote hback hcontrol =>
      rw [scanString] at h
      · rw [if_pos hcontrol] at h
        cases h
      · exact hquote
      · exact hback
  | case6 acc c after hquote hback hprintable ih =>
      rw [scanString_raw acc hquote hback hprintable] at h
      calc
        scanString acc (c :: (after ++ more))
            = scanString (c :: acc) (after ++ more) :=
              scanString_raw acc hquote hback hprintable
        _ = .ok (s, rest ++ more) := ih h

/-- A key is a string with a colon after it. -/
theorem scanKey_eq_ok_iff {key : String} :
    scanKey cs = .ok (key, rest) ↔ ∃ body after, cs = '"' :: body
      ∧ scanString [] body = .ok (key, after) ∧ skipBlanks after = ':' :: rest := by
  constructor
  · intro h
    unfold scanKey at h
    split at h
    · cases h
    · rename_i body
      cases hstring : scanString [] body with
      | error e =>
          rw [hstring] at h
          cases h
      | ok found =>
          rcases found with ⟨found, after⟩
          rw [hstring] at h
          simp only [bind, Except.bind] at h
          split at h
          · cases h
          · rename_i hcolon
            cases h
            exact ⟨body, after, rfl, hstring, hcolon⟩
          · cases h
    · cases h
  · rintro ⟨body, after, rfl, hstring, hcolon⟩
    simp [scanKey, bind, Except.bind, hstring, hcolon]

theorem scanKey_selfDelimiting : SelfDelimiting scanKey := by
  intro cs rest key more h
  rcases scanKey_eq_ok_iff.1 h with ⟨body, after, rfl, hstring, hcolon⟩
  refine scanKey_eq_ok_iff.2 ⟨body ++ more, after ++ more, rfl, ?_, ?_⟩
  · exact scanString_selfDelimiting [] more hstring
  · rw [skipBlanks_append (by simp [hcolon]) more, hcolon]
    rfl

/-! ## Numbers -/

theorem takeWhile_append_of_dropWhile_ne_nil {p : Char → Bool} (h : cs.dropWhile p ≠ [])
    (more : List Char) : (cs ++ more).takeWhile p = cs.takeWhile p := by
  induction cs with
  | nil => exact absurd rfl h
  | cons c cs ih =>
      cases hc : p c with
      | true =>
          rw [List.dropWhile_cons_of_pos hc] at h
          simp [hc, ih h]
      | false => simp [hc]

theorem scanDigits_delimitedInside (atEnd : ReadError) : DelimitedInside (scanDigits atEnd) := by
  intro cs rest ds more hrest h
  unfold scanDigits at h
  split at h
  · cases h
  · rename_i c after
    split at h
    · rename_i hc
      cases h
      have htake := takeWhile_append_of_dropWhile_ne_nil hrest more
      have hdrop : (c :: after ++ more).dropWhile Char.isDigit =
          (c :: after).dropWhile Char.isDigit ++ more := by
        rw [List.dropWhile_append, if_neg (by simpa using hrest)]
      rw [← hdrop, ← htake]
      simp [scanDigits, hc]
    · cases h

theorem scanWhole_of_ne_zero {c : Char} (h : c ≠ '0') (atEnd : ReadError) (cs : List Char) :
    scanWhole atEnd (c :: cs) = scanDigits atEnd (c :: cs) := by
  unfold scanWhole
  split
  · rename_i heq
    exact absurd (List.cons.inj heq).1 h
  · rfl

theorem scanWhole_delimitedInside (atEnd : ReadError) : DelimitedInside (scanWhole atEnd) := by
  intro cs rest ds more hrest h
  cases cs with
  | nil => cases h
  | cons c cs =>
      by_cases hzero : c = '0'
      · subst hzero
        cases cs with
        | nil =>
            cases h
            exact absurd rfl hrest
        | cons d cs =>
            cases hd : d.isDigit with
            | true => simp [scanWhole, hd] at h
            | false =>
                simp only [scanWhole, hd, Bool.false_eq_true, if_false, Except.ok.injEq,
                  Prod.mk.injEq] at h
                rcases h with ⟨rfl, rfl⟩
                simp [scanWhole, hd]
      · rw [scanWhole_of_ne_zero hzero] at h
        calc
          scanWhole atEnd (c :: cs ++ more)
              = scanDigits atEnd (c :: cs ++ more) := scanWhole_of_ne_zero hzero atEnd _
          _ = .ok (ds, rest ++ more) := scanDigits_delimitedInside atEnd more hrest h

theorem scanFraction_of_ne_point {c : Char} (h : c ≠ '.') (atEnd : ReadError) (cs : List Char) :
    scanFraction atEnd (c :: cs) = .ok (none, c :: cs) := by
  unfold scanFraction
  split
  · rename_i heq
    exact absurd (List.cons.inj heq).1 h
  · rfl

theorem scanFraction_delimitedInside (atEnd : ReadError) :
    DelimitedInside (scanFraction atEnd) := by
  intro cs rest found more hrest h
  cases cs with
  | nil =>
      cases h
      exact absurd rfl hrest
  | cons c cs =>
      by_cases hpoint : c = '.'
      · subst hpoint
        rcases map_eq_ok_iff.1 h with ⟨⟨ds, left⟩, hdigits, heq⟩
        cases heq
        exact map_eq_ok_iff.2
          ⟨_, scanDigits_delimitedInside atEnd more hrest hdigits, rfl⟩
      · rw [scanFraction_of_ne_point hpoint] at h
        cases h
        exact scanFraction_of_ne_point hpoint atEnd _

/-- The sign of an exponent, and what follows it. -/
def exponentSign : List Char → Bool × List Char
  | '+' :: rest => (false, rest)
  | '-' :: rest => (true, rest)
  | rest => (false, rest)

theorem scanExponent_cons (c : Char) (cs : List Char) (atEnd : ReadError) :
    scanExponent atEnd (c :: cs) =
      if c = 'e' ∨ c = 'E' then
        (scanDigits atEnd (exponentSign cs).2).map
          fun (ds, rest) => (some ((exponentSign cs).1, ds), rest)
      else .ok (none, c :: cs) := by
  rfl

theorem exponentSign_append (h : cs ≠ []) (more : List Char) :
    exponentSign (cs ++ more) = ((exponentSign cs).1, (exponentSign cs).2 ++ more) := by
  cases cs with
  | nil => exact absurd rfl h
  | cons c cs =>
      by_cases hplus : c = '+'
      · subst hplus
        rfl
      · by_cases hminus : c = '-'
        · subst hminus
          rfl
        · simp [exponentSign, hplus, hminus]

theorem scanExponent_delimitedInside (atEnd : ReadError) :
    DelimitedInside (scanExponent atEnd) := by
  intro cs rest found more hrest h
  cases cs with
  | nil =>
      cases h
      exact absurd rfl hrest
  | cons c cs =>
      rw [scanExponent_cons] at h
      rw [List.cons_append, scanExponent_cons]
      split at h
      · rename_i hmark
        rcases map_eq_ok_iff.1 h with ⟨⟨ds, left⟩, hdigits, heq⟩
        cases heq
        have hne : cs ≠ [] := by
          rintro rfl
          cases hdigits
        rw [if_pos hmark, exponentSign_append hne]
        exact map_eq_ok_iff.2
          ⟨_, scanDigits_delimitedInside atEnd more hrest hdigits, rfl⟩
      · rename_i hmark
        cases h
        exact if_neg hmark

/-- The sign of a number, and what follows it. -/
def numberSign : List Char → Bool × List Char
  | '-' :: rest => (true, rest)
  | cs => (false, cs)

theorem numberSign_append (h : cs ≠ []) (more : List Char) :
    numberSign (cs ++ more) = ((numberSign cs).1, (numberSign cs).2 ++ more) := by
  cases cs with
  | nil => exact absurd rfl h
  | cons c cs =>
      by_cases hminus : c = '-'
      · subst hminus
        rfl
      · simp [numberSign, hminus]

/-- The parts of a numeral follow one another. -/
theorem scanNumeral_eq_ok_iff {atEnd : ReadError} {n : Numeral} :
    scanNumeral atEnd cs = .ok (n, rest) ↔ ∃ afterWhole afterFraction,
      n.negative = (numberSign cs).1
      ∧ scanWhole atEnd (numberSign cs).2 = .ok (n.whole, afterWhole)
      ∧ scanFraction atEnd afterWhole = .ok (n.fraction, afterFraction)
      ∧ scanExponent atEnd afterFraction = .ok (n.exponent, rest) := by
  have hunfold : scanNumeral atEnd cs =
      (scanWhole atEnd (numberSign cs).2).bind fun whole =>
        (scanFraction atEnd whole.2).bind fun fraction =>
          (scanExponent atEnd fraction.2).bind fun exponent =>
            .ok (⟨(numberSign cs).1, whole.1, fraction.1, exponent.1⟩, exponent.2) := by
    rfl
  rw [hunfold]
  constructor
  · intro h
    rcases bind_eq_ok_iff.1 h with ⟨whole, hwhole, h⟩
    rcases bind_eq_ok_iff.1 h with ⟨fraction, hfraction, h⟩
    rcases bind_eq_ok_iff.1 h with ⟨exponent, hexponent, h⟩
    cases h
    exact ⟨_, _, rfl, hwhole, hfraction, hexponent⟩
  · rintro ⟨afterWhole, afterFraction, hsign, hwhole, hfraction, hexponent⟩
    rw [hwhole, ← hsign]
    simp [Except.bind, hfraction, hexponent]

theorem scanNumeral_delimitedInside (atEnd : ReadError) :
    DelimitedInside (scanNumeral atEnd) := by
  intro cs rest n more hrest h
  rcases scanNumeral_eq_ok_iff.1 h with ⟨afterWhole, afterFraction, hsign, hwhole, hfraction, hexp⟩
  -- Where something is left over in the end, something was left over after every part.
  have hafterFraction : afterFraction ≠ [] := by
    rintro rfl
    simp only [scanExponent, Except.ok.injEq, Prod.mk.injEq] at hexp
    exact hrest hexp.2.symm
  have hafterWhole : afterWhole ≠ [] := by
    rintro rfl
    simp only [scanFraction, Except.ok.injEq, Prod.mk.injEq] at hfraction
    exact hafterFraction hfraction.2.symm
  have hcs : cs ≠ [] := by
    rintro rfl
    cases hwhole
  rw [scanNumeral_eq_ok_iff, numberSign_append hcs]
  exact ⟨afterWhole ++ more, afterFraction ++ more, hsign,
    scanWhole_delimitedInside atEnd more hafterWhole hwhole,
    scanFraction_delimitedInside atEnd more hafterFraction hfraction,
    scanExponent_delimitedInside atEnd more hrest hexp⟩

theorem scanNumber_eq_ok_iff {n : Number} :
    scanNumber cs = .ok (n, rest) ↔
      ∃ numeral, scanNumeral .ended cs = .ok (numeral, rest) ∧ numeral.toNumber = .ok n := by
  have hunfold : scanNumber cs =
      (scanNumeral .ended cs).bind fun numeral =>
        numeral.1.toNumber.bind fun n => .ok (n, numeral.2) := by
    rfl
  rw [hunfold]
  constructor
  · intro h
    rcases bind_eq_ok_iff.1 h with ⟨numeral, hnumeral, h⟩
    rcases bind_eq_ok_iff.1 h with ⟨n, hn, h⟩
    cases h
    exact ⟨_, hnumeral, hn⟩
  · rintro ⟨numeral, hnumeral, hn⟩
    simp [Except.bind, hnumeral, hn]

theorem scanNumber_delimitedInside : DelimitedInside scanNumber := by
  intro cs rest n more hrest h
  rcases scanNumber_eq_ok_iff.1 h with ⟨numeral, hnumeral, hn⟩
  exact scanNumber_eq_ok_iff.2
    ⟨numeral, scanNumeral_delimitedInside .ended more hrest hnumeral, hn⟩

/-! ## Values without parts -/

/-- The ways in which a value without parts is read. -/
inductive ScalarStep : List Char → Value → List Char → Prop where
  | null {rest : List Char} : ScalarStep ('n' :: 'u' :: 'l' :: 'l' :: rest) .null rest
  | true {rest : List Char} : ScalarStep ('t' :: 'r' :: 'u' :: 'e' :: rest) (.bool true) rest
  | false {rest : List Char} :
      ScalarStep ('f' :: 'a' :: 'l' :: 's' :: 'e' :: rest) (.bool false) rest
  | string {body rest : List Char} {s : String} (hscan : scanString [] body = .ok (s, rest)) :
      ScalarStep ('"' :: body) (.string s) rest
  | number {c : Char} {body rest : List Char} {n : Number} (hstart : c = '-' ∨ c.isDigit = true)
      (hscan : scanNumber (c :: body) = .ok (n, rest)) :
      ScalarStep (c :: body) (.number n) rest

theorem scalarStep_of_ok {v : Value} (h : scanScalar cs = .ok (v, rest)) :
    ScalarStep cs v rest := by
  unfold scanScalar at h
  split at h
  · cases h
  · rcases map_eq_ok_iff.1 h with ⟨left, hscan, heq⟩
    cases heq
    rw [scanExactly_eq_ok_iff.1 hscan]
    exact .null
  · rcases map_eq_ok_iff.1 h with ⟨left, hscan, heq⟩
    cases heq
    rw [scanExactly_eq_ok_iff.1 hscan]
    exact .true
  · rcases map_eq_ok_iff.1 h with ⟨left, hscan, heq⟩
    cases heq
    rw [scanExactly_eq_ok_iff.1 hscan]
    exact .false
  · rcases map_eq_ok_iff.1 h with ⟨left, hscan, heq⟩
    cases heq
    exact .string hscan
  · split at h
    · rename_i hstart
      rcases map_eq_ok_iff.1 h with ⟨left, hscan, heq⟩
      cases heq
      exact .number (by simpa using hstart) hscan
    · cases h

theorem scanScalar_of_step {v : Value} (h : ScalarStep cs v rest) :
    scanScalar cs = .ok (v, rest) := by
  cases h with
  | null => simp [scanScalar, scanExactly, Except.map]
  | true => simp [scanScalar, scanExactly, Except.map]
  | false => simp [scanScalar, scanExactly, Except.map]
  | string hscan => exact map_eq_ok_iff.2 ⟨_, hscan, rfl⟩
  | @number c body _ n hstart hscan =>
      unfold scanScalar
      split
      all_goals rename_i heq
      · cases heq
      all_goals cases heq
      · simp at hstart
      · simp at hstart
      · simp at hstart
      · simp at hstart
      · rw [if_pos (by simpa using hstart)]
        exact map_eq_ok_iff.2 ⟨_, hscan, rfl⟩

theorem scanScalar_delimitedInside : DelimitedInside scanScalar := by
  intro cs rest v more hrest h
  refine scanScalar_of_step ?_
  cases scalarStep_of_ok h with
  | null => exact .null
  | true => exact .true
  | false => exact .false
  | string hscan => exact .string (scanString_selfDelimiting [] more hscan)
  | number hstart hscan => exact .number hstart (scanNumber_delimitedInside more hrest hscan)

theorem isContainer_of_scanScalar {v : Value} (h : scanScalar cs = .ok (v, rest)) :
    v.isContainer = false := by
  cases scalarStep_of_ok h <;> rfl

end Json
end RpcHost
