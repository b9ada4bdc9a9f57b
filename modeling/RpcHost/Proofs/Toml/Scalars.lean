import RpcHost.Proofs.Text.Digits
import RpcHost.Proofs.Toml.Strings
import RpcHost.Toml.Reader
import RpcHost.Toml.Writer

/-!
# Scalars survive being written

A string, an integer or a truth value that is written at the end of a line is read back as itself
(`readValue_scalar`). For an integer the readers that come before the one of integers have to give
up: no date, time or float begins with digits that run up to the end of the line.
-/

namespace RpcHost
namespace Toml

variable {rest : List Char}

/-- The value that a scalar is read back as. -/
def Scalar.toValue : Scalar → Value
  | .string s => .string s
  | .integer i => .integer i
  | .boolean b => .boolean b

/-! ## Digits up to the end of a line -/

/-- Digits, and then the end of the line. -/
def DigitLine (rest cs : List Char) : Prop :=
  ∃ ds : List Char, cs = ds ++ '\n' :: rest ∧ ∀ c ∈ ds, c.isDigit = true

theorem digitLine_toDigits (n : Nat) (rest : List Char) :
    DigitLine rest (Nat.toDigits 10 n ++ '\n' :: rest) :=
  ⟨_, rfl, fun _ hc => Nat.isDigit_of_mem_toDigits (by decide) (by decide) hc⟩

/-- Only digits of the line can make up a field of a date or a time. -/
theorem DigitLine.readField {cs more : List Char} (h : DigitLine rest cs)
    {count low high n : Nat} (hread : readField count low high cs = some (n, more)) :
    DigitLine rest more := by
  rcases h with ⟨ds, rfl, hds⟩
  unfold Toml.readField at hread
  simp only at hread
  split at hread
  · rename_i hfield
    rcases hfield with ⟨hcount, hall, _⟩
    cases hread
    have hle : count ≤ ds.length := by
      refine Nat.le_of_not_lt ?_
      intro hlt
      -- The line feed would be one of the digits.
      have hmem : '\n' ∈ (ds ++ '\n' :: rest).take count := by
        have hone : count - ds.length = count - ds.length - 1 + 1 := by
          omega
        rw [List.take_append, hone, List.take_succ_cons]
        simp
      have hdigit := List.all_eq_true.1 hall '\n' hmem
      cases hdigit
    refine ⟨ds.drop count, List.drop_append_of_le_length hle, ?_⟩
    intro c hc
    exact hds c (List.mem_of_mem_drop hc)
  · cases hread

theorem DigitLine.readChar {cs : List Char} (h : DigitLine rest cs) {c : Char}
    (hdigit : c.isDigit = false) (hline : c ≠ '\n') : readChar c cs = none := by
  rcases h with ⟨ds, rfl, hds⟩
  cases ds with
  | nil => simp [Toml.readChar, hline]
  | cons d ds =>
      have hne : c ≠ d := by
        rintro rfl
        rw [hds c List.mem_cons_self] at hdigit
        cases hdigit
      simp [Toml.readChar, hne]

theorem DigitLine.readDatetime {cs : List Char} (h : DigitLine rest cs) :
    readDatetime cs = none := by
  have hdate : readDate cs = none := by
    unfold readDate
    cases hyear : Toml.readField 4 0 9999 cs with
    | none => rfl
    | some found => simp [(h.readField hyear).readChar (c := '-') rfl (by decide)]
  have htime : readTime cs = none := by
    unfold readTime
    cases hhour : Toml.readField 2 0 23 cs with
    | none => rfl
    | some found => simp [(h.readField hhour).readChar (c := ':') rfl (by decide)]
  simp [Toml.readDatetime, hdate, htime]

theorem readDigits_go_of_digits {ds : List Char} (hds : ∀ c ∈ ds, c.isDigit = true)
    (acc rest : List Char) :
    readDigits.go Char.isDigit acc (ds ++ '\n' :: rest) = (acc.reverse ++ ds, '\n' :: rest) := by
  induction ds generalizing acc with
  | nil =>
      rw [List.nil_append, readDigits.go]
      · simp
      · intro c cs heq
        cases heq
  | cons d ds ih =>
      have hd : d.isDigit = true := hds d List.mem_cons_self
      rw [List.cons_append, readDigits.go, if_pos hd, ih]
      · simp
      · intro c hc
        exact hds c (List.mem_cons_of_mem d hc)
      · rintro c cs heq
        cases heq
        cases hd

/-- A number is read whole up to the end of its line. -/
@[simp] theorem readDecimal_toDigits (n : Nat) (rest : List Char) :
    readDecimal (Nat.toDigits 10 n ++ '\n' :: rest) = some (Nat.toDigits 10 n, '\n' :: rest) := by
  rcases Text.toDigits_cons n with ⟨c, ds, hds, hdigit⟩
  by_cases hzero : c = '0'
  · subst hzero
    have hn : n = 0 := Text.eq_zero_of_toDigits_zero hds
    subst hn
    rfl
  · have hall : ∀ d ∈ ds, d.isDigit = true := by
      intro d hd
      refine Nat.isDigit_of_mem_toDigits (b := 10) (n := n) (by decide) (by decide) ?_
      rw [hds]
      exact List.mem_cons_of_mem c hd
    rw [hds, List.cons_append, readDecimal, readDigits, if_pos hdigit,
      readDigits_go_of_digits hall]
    · rfl
    · intro left heq
      exact hzero (List.cons.inj heq).1

theorem hexValue?_of_isDigit {c : Char} (h : c.isDigit = true) :
    Json.hexValue? c = some (c.toNat - '0'.toNat) := by
  have hrange : '0' ≤ c ∧ c ≤ '9' := by
    simpa [Char.isDigit, Char.le_def] using h
  rw [Json.hexValue?, if_pos hrange]
  rfl

@[simp] theorem inRadix_toDigits (n : Nat) : inRadix 10 (Nat.toDigits 10 n) = n := by
  have hfold : ∀ (ds : List Char) (acc : Nat), (∀ c ∈ ds, c.isDigit = true) →
      ds.foldl (fun n c => n * 10 + (Json.hexValue? c).getD 0) acc =
        Nat.ofDigitChars 10 ds acc := by
    intro ds
    induction ds with
    | nil =>
        intro acc _
        rfl
    | cons c ds ih =>
        intro acc hds
        rw [List.foldl_cons, ih _ fun d hd => hds d (List.mem_cons_of_mem c hd),
          hexValue?_of_isDigit (hds c List.mem_cons_self), Nat.mul_comm]
        rfl
  calc
    inRadix 10 (Nat.toDigits 10 n) = Nat.ofDigitChars 10 (Nat.toDigits 10 n) 0 :=
      hfold _ 0 fun _ hc => Nat.isDigit_of_mem_toDigits (by decide) (by decide) hc
    _ = n := Nat.ofDigitChars_ten_toDigits

/-! ## Integers -/

/-- An integer as it is written, up to the end of its line. -/
def integerLine (i : Int) (rest : List Char) : List Char :=
  (if i < 0 then ['-'] else []) ++ Nat.toDigits 10 i.natAbs ++ '\n' :: rest

theorem integerLine_of_negative {i : Int} (h : i < 0) (rest : List Char) :
    integerLine i rest = '-' :: (Nat.toDigits 10 i.natAbs ++ '\n' :: rest) := by
  simp [integerLine, h]

theorem integerLine_of_not_negative {i : Int} (h : ¬ i < 0) (rest : List Char) :
    integerLine i rest = Nat.toDigits 10 i.natAbs ++ '\n' :: rest := by
  simp [integerLine, h]

@[simp] theorem readSign_integerLine (i : Int) (rest : List Char) :
    readSign (integerLine i rest) = (decide (i < 0), Nat.toDigits 10 i.natAbs ++ '\n' :: rest) := by
  by_cases hnegative : i < 0
  · simp [integerLine_of_negative hnegative, readSign, hnegative]
  · rcases Text.toDigits_cons i.natAbs with ⟨c, ds, hds, hdigit⟩
    have hminus : c ≠ '-' := by
      rintro rfl
      cases hdigit
    have hplus : c ≠ '+' := by
      rintro rfl
      cases hdigit
    simp [integerLine_of_not_negative hnegative, hds, readSign, hnegative, hminus, hplus]

theorem readField_of_not_digit {c : Char} (hc : c.isDigit = false) (count low high : Nat)
    (cs : List Char) : readField (count + 1) low high (c :: cs) = none := by
  simp [readField, hc]

@[simp] theorem readDatetime_integerLine (i : Int) (rest : List Char) :
    readDatetime (integerLine i rest) = none := by
  by_cases hnegative : i < 0
  · rw [integerLine_of_negative hnegative]
    have hfield := fun count low high => readField_of_not_digit (c := '-') rfl count low high
      (Nat.toDigits 10 i.natAbs ++ '\n' :: rest)
    simp [readDatetime, readDate, readTime, hfield]
  · rw [integerLine_of_not_negative hnegative]
    exact (digitLine_toDigits i.natAbs rest).readDatetime

@[simp] theorem readPlainFloat_integerLine (i : Int) (rest : List Char) :
    readPlainFloat (integerLine i rest) = none := by
  have hexponent : readExponent ('\n' :: rest) = none := by
    simp [readExponent]
  simp [readPlainFloat, hexponent]

@[simp] theorem readSpecialFloat_integerLine (i : Int) (rest : List Char) :
    readSpecialFloat (integerLine i rest) = none := by
  rcases Text.toDigits_cons i.natAbs with ⟨c, ds, hds, hdigit⟩
  unfold readSpecialFloat
  rw [readSign_integerLine, hds, List.cons_append]
  split
  · rename_i heq
    rw [(List.cons.inj heq).1] at hdigit
    cases hdigit
  · rename_i heq
    rw [(List.cons.inj heq).1] at hdigit
    cases hdigit
  · rfl

/-- A leading zero is the only digit, so no other radix is asked for. -/
theorem eq_lineFeed_of_integerLine {i : Int} {c : Char} {more : List Char}
    (h : integerLine i rest = '0' :: c :: more) : c = '\n' := by
  by_cases hnegative : i < 0
  · rw [integerLine_of_negative hnegative] at h
    cases (List.cons.inj h).1
  · rw [integerLine_of_not_negative hnegative] at h
    rcases Text.toDigits_cons i.natAbs with ⟨d, ds, hds, _⟩
    rw [hds, List.cons_append] at h
    have hzero : i.natAbs = 0 := Text.eq_zero_of_toDigits_zero (hds.trans (by
      rw [(List.cons.inj h).1]))
    rw [hzero, Nat.toDigits_zero] at hds
    rw [← (List.cons.inj hds).2] at h
    exact (List.cons.inj (List.cons.inj h).2).1.symm

theorem word?_of_range {i : Int} (h : -0x8000000000000000 ≤ i ∧ i < 0x8000000000000000) :
    word? i = some (.integer i) :=
  if_pos h

theorem readInteger_integerLine {i : Int}
    (h : -0x8000000000000000 ≤ i ∧ i < 0x8000000000000000) (rest : List Char) :
    readInteger (integerLine i rest) = some (.integer i, '\n' :: rest) := by
  have hvalue : (if decide (i < 0) = true then -(i.natAbs : Int) else i.natAbs) = i := by
    split
    · rename_i hnegative
      rw [decide_eq_true_eq] at hnegative
      omega
    · rename_i hpositive
      rw [decide_eq_true_eq] at hpositive
      omega
  unfold readInteger
  split
  · rename_i heq
    cases eq_lineFeed_of_integerLine heq
  · rename_i heq
    cases eq_lineFeed_of_integerLine heq
  · rename_i heq
    cases eq_lineFeed_of_integerLine heq
  · simp only [readSign_integerLine, readDecimal_toDigits, inRadix_toDigits, bind, Option.bind,
      hvalue, word?_of_range h]
    rfl

theorem readNumeric_integerLine {i : Int}
    (h : -0x8000000000000000 ≤ i ∧ i < 0x8000000000000000) (rest : List Char) :
    readNumeric (integerLine i rest) = some (.integer i, '\n' :: rest) := by
  simp [readNumeric, readInteger_integerLine h]

/-! ## Scalars -/

theorem ne_of_isDigit {c d : Char} (hc : c.isDigit = true) (hd : d.isDigit = false) : c ≠ d := by
  rintro rfl
  rw [hc] at hd
  cases hd

/-- An integer begins with neither a quote nor a letter. -/
theorem exists_start_of_integerLine (i : Int) (rest : List Char) :
    ∃ c more, integerLine i rest = c :: more ∧ (c = '-' ∨ c.isDigit = true)
      ∧ ¬ (c = '"' ∨ c = '\'') ∧ ¬ (c = 't' ∨ c = 'f') := by
  by_cases hnegative : i < 0
  · refine ⟨'-', _, integerLine_of_negative hnegative rest, .inl rfl, ?_⟩
    decide
  · rcases Text.toDigits_cons i.natAbs with ⟨c, ds, hds, hdigit⟩
    refine ⟨c, ds ++ '\n' :: rest, ?_, .inr hdigit, ?_, ?_⟩
    · rw [integerLine_of_not_negative hnegative, hds, List.cons_append]
    · simp [ne_of_isDigit hdigit]
    · simp [ne_of_isDigit hdigit]

theorem readPlain_integerLine {i : Int}
    (h : -0x8000000000000000 ≤ i ∧ i < 0x8000000000000000) (rest : List Char) :
    readPlain (integerLine i rest) = some (.integer i, '\n' :: rest) := by
  have hread := readNumeric_integerLine h rest
  rcases exists_start_of_integerLine i rest with ⟨c, more, hc, _, hquote, hletter⟩
  rw [hc] at hread ⊢
  simp [readPlain, hquote, hletter, hread]

/-! ## Scalars -/

theorem exists_quote_of_write (form : StringForm) (cs : List Char) :
    ∃ q more, form.write cs = q :: more ∧ (q = '"' ∨ q = '\'') := by
  have hquote : form.quote = '"' ∨ form.quote = '\'' := by
    unfold StringForm.quote
    split
    · exact .inl rfl
    · exact .inr rfl
  have hdelimiter : ∃ more, form.delimiter = form.quote :: more := by
    unfold StringForm.delimiter
    split
    · exact ⟨_, rfl⟩
    · exact ⟨_, rfl⟩
  rcases hdelimiter with ⟨more, hmore⟩
  refine ⟨form.quote, more ++ (if form.tripled && cs.contains '\n' then ['\n'] else [])
    ++ form.body cs ++ form.delimiter, ?_, hquote⟩
  rw [StringForm.write, hmore]
  rfl

theorem readPlain_string (s : String) (rest : List Char) :
    readPlain ((stringText s).toList ++ '\n' :: rest) = some (.string s, '\n' :: rest) := by
  have hread : readString ((StringForm.choose s.toList).write s.toList ++ '\n' :: rest) =
      some (String.ofList s.toList, '\n' :: rest) :=
    readString_write s.toList (by simp) (by simp)
  rcases exists_quote_of_write (StringForm.choose s.toList) s.toList with ⟨q, more, hq, hquote⟩
  rw [stringText, String.toList_ofList]
  rw [hq, List.cons_append, String.ofList_toList] at hread
  rw [hq, List.cons_append]
  simp [readPlain, hquote, hread]

/-- What a scalar begins with: no blank, no bracket and no brace. -/
def StartsScalar (c : Char) : Prop :=
  c ∈ ['"', '\'', 't', 'f', '-'] ∨ c.isDigit = true

theorem StartsScalar.ne {c : Char} (h : StartsScalar c) :
    isBlank c = false ∧ c ≠ '[' ∧ c ≠ '\x7b' := by
  rcases h with hmem | hdigit
  · simp only [List.mem_cons, List.not_mem_nil, or_false] at hmem
    rcases hmem with rfl | rfl | rfl | rfl | rfl
    all_goals decide
  · simp [isBlank, ne_of_isDigit hdigit]

/-- A written scalar at the end of a line is read back, and begins like a scalar. -/
theorem readPlain_scalar {s : Scalar} {text : String} (h : s.text? = some text)
    (rest : List Char) :
    readPlain (text.toList ++ '\n' :: rest) = some (s.toValue, '\n' :: rest)
    ∧ ∃ c more, text.toList ++ '\n' :: rest = c :: more ∧ StartsScalar c := by
  cases s with
  | string s =>
      cases h
      refine ⟨readPlain_string s rest, ?_⟩
      rcases exists_quote_of_write (StringForm.choose s.toList) s.toList with ⟨q, more, hq, hquote⟩
      refine ⟨q, more ++ '\n' :: rest, ?_, .inl ?_⟩
      · rw [stringText, String.toList_ofList, hq, List.cons_append]
      · rcases hquote with rfl | rfl
        · decide
        · decide
  | integer i =>
      by_cases hrange : -0x8000000000000000 ≤ i ∧ i < 0x8000000000000000
      · have htext : toString i = text := Option.some.inj ((if_pos hrange).symm.trans h)
        have hline : text.toList ++ '\n' :: rest = integerLine i rest := by
          rw [← htext, Text.toList_toString_int, integerLine]
        rcases exists_start_of_integerLine i rest with ⟨c, more, hc, hstart, _⟩
        rw [hline]
        refine ⟨readPlain_integerLine hrange rest, c, more, hc, ?_⟩
        rcases hstart with rfl | hdigit
        · exact .inl (by decide)
        · exact .inr hdigit
      · cases (if_neg hrange).symm.trans h
  | boolean b =>
      cases b with
      | false =>
          cases h
          exact ⟨rfl, 'f', _, rfl, .inl (by decide)⟩
      | true =>
          cases h
          exact ⟨rfl, 't', _, rfl, .inl (by decide)⟩

/-- After a blank a written scalar is read back as a value. -/
theorem readValue_scalar {s : Scalar} {text : String} (h : s.text? = some text) (fuel levels : Nat)
    (rest : List Char) :
    readValue (fuel + 1) levels (skipBlanks (' ' :: (text.toList ++ '\n' :: rest))) =
      some (s.toValue, '\n' :: rest) := by
  rcases readPlain_scalar h rest with ⟨hread, c, more, hc, hstart⟩
  rcases hstart.ne with ⟨hblank, hbracket, hbrace⟩
  have hskip : skipBlanks (' ' :: (c :: more)) = c :: more := by
    have hspace : isBlank ' ' = true := rfl
    simp [skipBlanks, hspace, hblank]
  rw [hc] at hread ⊢
  rw [hskip, readValue]
  · exact hread
  · intro left heq
    exact hbracket (List.cons.inj heq).1
  · intro left heq
    exact hbrace (List.cons.inj heq).1

end Toml
end RpcHost
