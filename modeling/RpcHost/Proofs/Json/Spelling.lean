import Mathlib.Data.List.Forall2
import RpcHost.Json.Spelling
import RpcHost.Proofs.Entries
import RpcHost.Proofs.Json.Further
import RpcHost.Proofs.Json.Ordered
import RpcHost.Proofs.Text.Digits

/-!
# Reading spellings

The reader takes every text of a value back to that value (`readString_of_spelledBy`), as long as
the value is ordered, nests no deeper than the reader goes, and has no numbers but 64-bit words. The
compact text is one of those texts (`spelledBy_render`).
-/

namespace RpcHost
namespace Json

variable {cs rest : List Char}

/-! ## Escaped units -/

theorem hexValue?_hexDigit (n : Fin 16) : hexValue? (hexDigit n) = some n.val := by
  revert n
  decide

theorem hexValue?_toUpper_hexDigit (n : Fin 16) : hexValue? (hexDigit n).toUpper = some n.val := by
  revert n
  decide

theorem hexValue?_of_spells {n : Nat} {c : Char} (hn : n < 16) (h : SpellsDigit n c) :
    hexValue? c = some n := by
  rcases h with rfl | rfl
  · exact hexValue?_hexDigit ⟨n, hn⟩
  · exact hexValue?_toUpper_hexDigit ⟨n, hn⟩

/-- Both cases of the four digits are read as the unit. -/
theorem scanHex_of_spells {unit : Nat} {ds : List Char} (hunit : unit < 0x10000)
    (h : SpellsUnit unit ds) (rest : List Char) : scanHex (ds ++ rest) = .ok (unit, rest) := by
  cases h with
  | digits ha hb hc hd =>
      have hread := fun {n : Nat} {c : Char} => hexValue?_of_spells (n := n % 16) (c := c)
        (Nat.mod_lt n (by decide))
      have hsum : ((unit / 4096 % 16 * 16 + unit / 256 % 16) * 16 + unit / 16 % 16) * 16
          + unit % 16 = unit := by
        omega
      simp only [List.cons_append, List.nil_append, scanHex, hread ha, hread hb, hread hc, hread hd,
        hsum]

theorem toNat_range (c : Char) : c.toNat < 0xD800 ∨ 0xDFFF < c.toNat ∧ c.toNat < 0x110000 :=
  c.valid

/-- No character is itself a surrogate. -/
theorem isSurrogate_toNat (c : Char) :
    isHighSurrogate c.toNat = false ∧ isLowSurrogate c.toNat = false := by
  have hrange := toNat_range c
  simp only [isHighSurrogate, isLowSurrogate, Bool.and_eq_false_iff, decide_eq_false_iff_not]
  omega

theorem highSurrogate_range {c : Char} (h : 0x10000 ≤ c.toNat) :
    0xD800 ≤ highSurrogate c ∧ highSurrogate c ≤ 0xDBFF := by
  have hrange := toNat_range c
  unfold highSurrogate
  omega

theorem lowSurrogate_range (c : Char) : 0xDC00 ≤ lowSurrogate c ∧ lowSurrogate c ≤ 0xDFFF := by
  unfold lowSurrogate
  omega

theorem isHighSurrogate_highSurrogate {c : Char} (h : 0x10000 ≤ c.toNat) :
    isHighSurrogate (highSurrogate c) = true ∧ isLowSurrogate (highSurrogate c) = false := by
  have hrange := highSurrogate_range h
  simp only [isHighSurrogate, isLowSurrogate, Bool.and_eq_true, decide_eq_true_eq,
    Bool.and_eq_false_iff, decide_eq_false_iff_not]
  omega

@[simp] theorem isLowSurrogate_lowSurrogate (c : Char) :
    isLowSurrogate (lowSurrogate c) = true := by
  have hrange := lowSurrogate_range c
  simp only [isLowSurrogate, Bool.and_eq_true, decide_eq_true_eq]
  exact hrange

theorem joinSurrogates_surrogates {c : Char} (h : 0x10000 ≤ c.toNat) :
    joinSurrogates (highSurrogate c) (lowSurrogate c) = c := by
  have hjoined : 0x10000 + (highSurrogate c - 0xD800) * 0x400 + (lowSurrogate c - 0xDC00) =
      c.toNat := by
    unfold highSurrogate lowSurrogate
    omega
  rw [joinSurrogates, hjoined, Char.ofNat_toNat]

/-! ## Strings -/

theorem scanEscape_of_short {c e : Char} (h : (e, c) ∈ shortEscapes) (rest : List Char) :
    scanEscape (e :: rest) = .ok (c, rest) := by
  simp only [shortEscapes, List.mem_cons, Prod.mk.injEq, List.not_mem_nil, or_false] at h
  rcases h with h | h | h | h | h | h | h | h
  all_goals
    rcases h with ⟨rfl, rfl⟩
    rfl

theorem scanEscape_of_unit {unit : Nat} (hscan : scanHex cs = .ok (unit, rest))
    (hhigh : isHighSurrogate unit = false) (hlow : isLowSurrogate unit = false) :
    scanEscape ('u' :: cs) = .ok (Char.ofNat unit, rest) := by
  simp [scanEscape, hscan, hhigh, hlow]

/-- However a character is spelled, it is read. -/
theorem scanString_of_char {c : Char} {t : List Char} (h : SpellsChar c t)
    (acc rest : List Char) : scanString acc (t ++ rest) = scanString (c :: acc) rest := by
  cases h with
  | raw hquote hback hprintable =>
      exact scanString_raw acc hquote hback (by omega)
  | short he => exact scanString_escape acc (scanEscape_of_short he rest)
  | unit hsmall hds =>
      rcases isSurrogate_toNat c with ⟨hhigh, hlow⟩
      have hescape := scanEscape_of_unit (scanHex_of_spells hsmall hds rest) hhigh hlow
      rw [Char.ofNat_toNat] at hescape
      exact scanString_escape acc hescape
  | @pair high low hlarge hhigh hlow =>
      have hhighRange := highSurrogate_range hlarge
      have hlowRange := lowSurrogate_range c
      have hfirst := scanHex_of_spells (by omega) hhigh ('\\' :: 'u' :: (low ++ rest))
      have hsecond := scanHex_of_spells (by omega) hlow rest
      have hescape :
          scanEscape ('u' :: (high ++ '\\' :: 'u' :: (low ++ rest))) = .ok (c, rest) := by
        rcases isHighSurrogate_highSurrogate hlarge with ⟨hisHigh, hnotLow⟩
        simp [scanEscape, hfirst, hnotLow, hisHigh, scanLowSurrogate, hsecond,
          joinSurrogates_surrogates hlarge]
      simpa using scanString_escape acc hescape

theorem scanString_of_chars {chars body : List Char} (h : SpellsChars chars body)
    (acc rest : List Char) :
    scanString acc (body ++ '"' :: rest) = .ok (String.ofList (acc.reverse ++ chars), rest) := by
  -- Each character goes to those already read.
  induction h generalizing acc with
  | nil => simpa using scanString_quote acc rest
  | @cons c cs front back hc _ ih =>
      calc
        scanString acc (front ++ back ++ '"' :: rest)
            = scanString acc (front ++ (back ++ '"' :: rest)) := by rw [List.append_assoc]
        _ = scanString (c :: acc) (back ++ '"' :: rest) := scanString_of_char hc acc _
        _ = .ok (String.ofList ((c :: acc).reverse ++ cs), rest) := ih (c :: acc)
        _ = .ok (String.ofList (acc.reverse ++ c :: cs), rest) := by simp

theorem scanString_of_spells {s : String} {t : List Char} (h : SpellsString s t)
    (rest : List Char) : ∃ body, t ++ rest = '"' :: body ∧ scanString [] body = .ok (s, rest) := by
  cases h with
  | @quoted body hbody =>
      refine ⟨body ++ '"' :: rest, by simp, ?_⟩
      simpa using scanString_of_chars hbody [] rest

/-! ## Whole numbers -/

/-- No number goes on where this text begins. -/
def StopsNumber (cs : List Char) : Prop :=
  ∀ c ∈ cs.head?, c.isDigit = false ∧ c ≠ '.' ∧ c ≠ 'e' ∧ c ≠ 'E'

theorem scanWhole_toDigits (atEnd : ReadError) (n : Nat) (h : StopsNumber rest) :
    scanWhole atEnd (Nat.toDigits 10 n ++ rest) = .ok (Nat.toDigits 10 n, rest) := by
  rcases Text.takeWhile_toDigits (n := n) fun c hc => (h c hc).1 with ⟨htake, hdrop⟩
  rcases Text.toDigits_cons n with ⟨c, ds, hds, hdigit⟩
  by_cases hzero : c = '0'
  · -- A zero in front is the whole number.
    subst hzero
    have hn : n = 0 := Text.eq_zero_of_toDigits_zero hds
    subst hn
    cases rest with
    | nil => rfl
    | cons c rest =>
        have hc : c.isDigit = false := (h c rfl).1
        simp [scanWhole, Nat.toDigits_zero, hc]
  · rw [hds, List.cons_append, scanWhole_of_ne_zero hzero, scanDigits, if_pos hdigit,
      ← List.cons_append, ← hds, htake, hdrop]

theorem scanFraction_of_stop (atEnd : ReadError) (h : StopsNumber rest) :
    scanFraction atEnd rest = .ok (none, rest) := by
  cases rest with
  | nil => rfl
  | cons c rest => exact scanFraction_of_ne_point (h c rfl).2.1 atEnd rest

theorem scanExponent_of_stop (atEnd : ReadError) (h : StopsNumber rest) :
    scanExponent atEnd rest = .ok (none, rest) := by
  cases rest with
  | nil => rfl
  | cons c rest =>
      rcases h c rfl with ⟨_, _, hlower, hupper⟩
      rw [scanExponent_cons, if_neg]
      rintro (hmark | hmark)
      · exact hlower hmark
      · exact hupper hmark

/-- A whole number, taken apart. -/
def wholeNumeral (i : Int) : Numeral :=
  ⟨decide (i < 0), Nat.toDigits 10 i.natAbs, none, none⟩

theorem numberSign_integerText (i : Int) (rest : List Char) :
    numberSign (integerText i ++ rest) = (decide (i < 0), Nat.toDigits 10 i.natAbs ++ rest) := by
  unfold integerText
  split
  · rename_i hnegative
    simp [numberSign, hnegative]
  · rename_i hpositive
    have habs : i.toNat = i.natAbs := by
      omega
    rcases Text.toDigits_cons i.natAbs with ⟨c, ds, hds, hdigit⟩
    have hsign : c ≠ '-' := by
      rintro rfl
      cases hdigit
    rw [habs, hds]
    simp [numberSign, hpositive, hsign]

theorem scanNumeral_integerText (atEnd : ReadError) (i : Int) (h : StopsNumber rest) :
    scanNumeral atEnd (integerText i ++ rest) = .ok (wholeNumeral i, rest) := by
  rw [scanNumeral_eq_ok_iff, numberSign_integerText]
  exact ⟨rest, rest, rfl, scanWhole_toDigits atEnd i.natAbs h, scanFraction_of_stop atEnd h,
    scanExponent_of_stop atEnd h⟩

theorem toNumber_wholeNumeral {i : Int} (h : (Number.integer i).IsWord) :
    (wholeNumeral i).toNumber = .ok (.integer i) := by
  rcases h with ⟨hlow, hhigh⟩
  have hvalue : Nat.ofDigitChars 10 (wholeNumeral i).whole 0 = i.natAbs :=
    Nat.ofDigitChars_ten_toDigits
  have hsmall : ¬ 0x10000000000000000 ≤ i.natAbs := by
    omega
  simp only [Numeral.toNumber, hvalue, if_neg hsmall]
  by_cases hnegative : i < 0
  · have habs : -(i.natAbs : Int) = i := by
      omega
    have hword : ¬ (i.natAbs = 0 ∨ 0x8000000000000000 < i.natAbs) := by
      omega
    simp only [wholeNumeral, hnegative, decide_true, not_true, if_neg hword, habs]
    rfl
  · have habs : (i.natAbs : Int) = i := by
      omega
    simp only [wholeNumeral, hnegative, decide_false, Bool.false_eq_true, not_false_eq_true, habs]
    rfl

theorem scanNumber_integerText {i : Int} (hi : (Number.integer i).IsWord) (h : StopsNumber rest) :
    scanNumber (integerText i ++ rest) = .ok (.integer i, rest) :=
  scanNumber_eq_ok_iff.2 ⟨_, scanNumeral_integerText .ended i h, toNumber_wholeNumeral hi⟩

theorem integerText_cons (i : Int) :
    ∃ c ds, integerText i = c :: ds ∧ (c = '-' ∨ c.isDigit = true) := by
  unfold integerText
  split
  · exact ⟨'-', _, rfl, .inl rfl⟩
  · rcases Text.toDigits_cons i.toNat with ⟨c, ds, hds, hdigit⟩
    exact ⟨c, ds, hds, .inr hdigit⟩

/-! ## Values that are read back -/

namespace Value

/-- Ordered, with no numbers but words, and not nested deeper than this. -/
structure Fits (depth : Nat) (v : Value) : Prop where
  ordered : v.Ordered
  words : v.WordNumbers
  shallow : v.depth ≤ depth

theorem wordNumbersItems_iff {items : List Value} :
    WordNumbersItems items ↔ ∀ v ∈ items, WordNumbers v := by
  induction items with
  | nil => simp [WordNumbersItems]
  | cons v vs ih => simp [WordNumbersItems, ih]

theorem wordNumbersMembers_iff {members : List (String × Value)} :
    WordNumbersMembers members ↔ ∀ m ∈ members, WordNumbers m.2 := by
  induction members with
  | nil => simp [WordNumbersMembers]
  | cons m ms ih =>
      rcases m with ⟨key, v⟩
      simp [WordNumbersMembers, ih]

theorem depthItems_le_iff {items : List Value} {depth : Nat} :
    depthItems items ≤ depth ↔ ∀ v ∈ items, v.depth ≤ depth := by
  induction items with
  | nil => simp [depthItems]
  | cons v vs ih => rw [depthItems, Nat.max_le, ih, List.forall_mem_cons]

theorem depthMembers_le_iff {members : List (String × Value)} {depth : Nat} :
    depthMembers members ≤ depth ↔ ∀ m ∈ members, m.2.depth ≤ depth := by
  induction members with
  | nil => simp [depthMembers]
  | cons m ms ih =>
      rcases m with ⟨key, v⟩
      rw [depthMembers, Nat.max_le, ih, List.forall_mem_cons]

theorem Fits.items {depth : Nat} {items : List Value} (h : Fits depth (.array items)) :
    depth ≠ 0 ∧ ∀ v ∈ items, v.Fits (depth - 1) := by
  have hdepth : depthItems items + 1 ≤ depth := by
    simpa [Value.depth] using h.shallow
  refine ⟨by omega, ?_⟩
  intro v hv
  exact ⟨ordered_array_iff.1 h.ordered v hv, wordNumbersItems_iff.1 h.words v hv,
    depthItems_le_iff.1 (by omega) v hv⟩

theorem Fits.members {depth : Nat} {members : Members} (h : Fits depth (.object members)) :
    depth ≠ 0 ∧ Entries.Ascending members ∧ ∀ m ∈ members, m.2.Fits (depth - 1) := by
  have hdepth : depthMembers members + 1 ≤ depth := by
    simpa [Value.depth] using h.shallow
  rcases ordered_object_iff.1 h.ordered with ⟨hascending, hall⟩
  refine ⟨by omega, hascending, ?_⟩
  intro m hm
  exact ⟨hall m hm, wordNumbersMembers_iff.1 h.words m hm, depthMembers_le_iff.1 (by omega) m hm⟩

end Value

/-! ## Blanks around tokens -/

theorem skipBlanks_token {c : Char} (hc : isBlank c = false) {before : List Char}
    (hbefore : Blanks before) (after : List Char) :
    skipBlanks (before ++ c :: after) = c :: after := by
  rw [skipBlanks_append_of_blank hbefore, skipBlanks_cons_of_not_blank hc]

theorem stopsNumber_cons {c : Char} (h : c ∈ [',', ']', '}']) (rest : List Char) :
    StopsNumber (c :: rest) := by
  intro d hd
  cases hd
  simp only [List.mem_cons, List.not_mem_nil, or_false] at h
  rcases h with rfl | rfl | rfl <;> decide

theorem stopsNumber_of_blanks {after : List Char} (hafter : Blanks after)
    (h : StopsNumber rest) : StopsNumber (after ++ rest) := by
  cases after with
  | nil => exact h
  | cons b after =>
      intro c hc
      cases hc
      have hblank : isBlank b = true := hafter b List.mem_cons_self
      simp only [isBlank, Bool.or_eq_true, decide_eq_true_eq] at hblank
      rcases hblank with ((rfl | rfl) | rfl) | rfl <;> decide

/-- A value never begins with a blank. -/
theorem skipBlanks_of_spells {v : Value} {t : List Char} (h : Spells v t) (rest : List Char) :
    skipBlanks (t ++ rest) = t ++ rest := by
  have hnumber : ∀ c : Char, c = '-' ∨ c.isDigit = true → isBlank c = false := by
    rintro c (rfl | hdigit)
    · rfl
    · by_cases hblank : isBlank c = true
      · simp only [isBlank, Bool.or_eq_true, decide_eq_true_eq] at hblank
        rcases hblank with ((rfl | rfl) | rfl) | rfl <;> cases hdigit
      · simpa using hblank
  cases h with
  | integer i =>
      rcases integerText_cons i with ⟨c, ds, hds, hc⟩
      rw [hds]
      exact skipBlanks_cons_of_not_blank (hnumber c hc) _
  | string hs =>
      rcases scanString_of_spells hs rest with ⟨body, hbody, _⟩
      rw [hbody]
      exact skipBlanks_cons_of_not_blank rfl _
  | _ => exact skipBlanks_cons_of_not_blank rfl _

theorem scanKey_of_spells {key : String} {t : List Char} (h : SpellsKey key t)
    (rest : List Char) : scanKey (skipBlanks (t ++ rest)) = .ok (key, rest) := by
  cases h with
  | @colon before t after hbefore hkey hafter =>
      rcases scanString_of_spells hkey (after ++ ':' :: rest) with ⟨body, hbody, hscan⟩
      refine scanKey_eq_ok_iff.2 ⟨body, after ++ ':' :: rest, ?_, hscan, ?_⟩
      · calc
          skipBlanks (before ++ t ++ after ++ [':'] ++ rest)
              = skipBlanks (before ++ (t ++ (after ++ ':' :: rest))) := by simp
          _ = '"' :: body := by rw [hbody, skipBlanks_token rfl hbefore]
      · exact skipBlanks_token rfl hafter rest

/-! ## Reading a spelling -/

/-- With this much fuel every spelling is read back. -/
structure ReadsBack (fuel : Nat) : Prop where
  value : ∀ {depth : Nat} {v : Value} {t rest : List Char}, Spells v t → v.Fits depth →
    StopsNumber rest → 2 * t.length ≤ fuel → scanValue fuel depth (t ++ rest) = .ok (v, rest)
  items : ∀ {depth : Nat} (acc : List Value) {vs : List Value} {t : List Char}
    (rest : List Char), SpellsItems vs t → (∀ v ∈ vs, v.Fits depth) → 2 * t.length + 1 ≤ fuel →
    scanItems fuel depth acc (t ++ rest) = .ok (.array (acc.reverse ++ vs), rest)
  members : ∀ {depth : Nat} (acc : Members) {ms : List (String × Value)} {t : List Char}
    (rest : List Char), SpellsMembers ms t → (∀ m ∈ ms, m.2.Fits depth) →
    2 * t.length + 1 ≤ fuel →
    scanMembers fuel depth acc (t ++ rest) =
      .ok (.object (ms.foldl (fun acc e => Entries.insert e.1 e.2 acc) acc), rest)

theorem ReadsBack.padded {fuel : Nat} (ih : ReadsBack fuel) {depth : Nat} {v : Value}
    {before t after : List Char} (hbefore : Blanks before) (hv : Spells v t)
    (hafter : Blanks after) (hfits : v.Fits depth) (hrest : StopsNumber rest)
    (hfuel : 2 * t.length ≤ fuel) :
    scanValue fuel depth (before ++ t ++ after ++ rest) = .ok (v, after ++ rest) := by
  have hskip : skipBlanks (before ++ t ++ after ++ rest) = skipBlanks (t ++ (after ++ rest)) := by
    rw [List.append_assoc, List.append_assoc, skipBlanks_append_of_blank hbefore]
  rw [scanValue_congr hskip]
  exact ih.value hv hfits (stopsNumber_of_blanks hafter hrest) hfuel

theorem length_pos_of_spells {v : Value} {t : List Char} (h : Spells v t) : 0 < t.length := by
  cases h with
  | integer i =>
      rcases integerText_cons i with ⟨c, ds, hds, _⟩
      simp [hds]
  | string hs =>
      cases hs
      simp
  | _ => simp

theorem readsBack_value {fuel : Nat} (ih : ReadsBack fuel) {depth : Nat} {v : Value}
    {t : List Char} (h : Spells v t) (hfits : v.Fits depth) (hrest : StopsNumber rest)
    (hfuel : 2 * t.length ≤ fuel + 1) :
    scanValue (fuel + 1) depth (t ++ rest) = .ok (v, rest) := by
  have hskip : skipBlanks (t ++ rest) = t ++ rest := skipBlanks_of_spells h rest
  refine scanValue_of_step ?_
  cases h with
  | null =>
      refine .scalar ?_
      rw [hskip]
      exact scanScalar_of_step .null
  | true =>
      refine .scalar ?_
      rw [hskip]
      exact scanScalar_of_step .true
  | false =>
      refine .scalar ?_
      rw [hskip]
      exact scanScalar_of_step .false
  | integer i =>
      refine .scalar ?_
      rw [hskip]
      have hscan := scanNumber_integerText hfits.words hrest
      rcases integerText_cons i with ⟨c, ds, hds, hc⟩
      rw [hds] at hscan ⊢
      exact scanScalar_of_step (.number hc hscan)
  | string hs =>
      refine .scalar ?_
      rw [hskip]
      rcases scanString_of_spells hs rest with ⟨body, hbody, hscan⟩
      rw [hbody]
      exact scanScalar_of_step (.string hscan)
  | @noItems blanks hblanks =>
      refine .noItems hskip hfits.items.1 ?_
      simpa using skipBlanks_token rfl hblanks rest
  | @items vs body hitems =>
      rcases hfits.items with ⟨hdepth, hall⟩
      refine .items hskip hdepth ?_
      rw [List.append_eq, scanItems_skipBlanks]
      have hread := ih.items [] rest hitems hall
        (by simp only [List.length_cons] at hfuel; omega)
      simpa using hread
  | @noMembers blanks hblanks =>
      refine .noMembers hskip hfits.members.1 ?_
      simpa using skipBlanks_token rfl hblanks rest
  | @members ms order body horder hmembers =>
      rcases hfits.members with ⟨hdepth, hascending, hall⟩
      refine .members hskip hdepth ?_
      rw [List.append_eq, scanMembers_skipBlanks]
      have hread := ih.members [] rest hmembers
        (fun m hm => hall m (horder.mem_iff.1 hm))
        (by simp only [List.length_cons] at hfuel; omega)
      rw [hread, ← Entries.ofList_of_perm horder hascending]
      rfl

theorem readsBack_items {fuel : Nat} (ih : ReadsBack fuel) {depth : Nat} {acc vs : List Value}
    {t : List Char} (rest : List Char) (h : SpellsItems vs t) (hfits : ∀ v ∈ vs, v.Fits depth)
    (hfuel : 2 * t.length + 1 ≤ fuel + 1) :
    scanItems (fuel + 1) depth acc (t ++ rest) = .ok (.array (acc.reverse ++ vs), rest) := by
  cases h with
  | @last v before t after hbefore hv hafter =>
      have hitem := ih.padded hbefore hv hafter
        (hfits v List.mem_cons_self)
        (stopsNumber_cons (c := ']') (by decide) rest) (by simp at hfuel; omega)
      have hclose : skipBlanks (after ++ ']' :: rest) = ']' :: rest :=
        skipBlanks_token rfl hafter rest
      have hstep : ItemsStep fuel depth acc _ (.array (v :: acc).reverse) rest :=
        .last hitem hclose
      simpa using scanItems_of_step hstep
  | @next v vs before t after more hbefore hv hafter hmore =>
      have hitem := ih.padded hbefore hv hafter
        (hfits v List.mem_cons_self)
        (stopsNumber_cons (c := ',') (by decide) (more ++ rest)) (by simp at hfuel; omega)
      have hothers := ih.items (v :: acc) rest hmore
        (fun w hw => hfits w (List.mem_cons_of_mem v hw)) (by simp at hfuel; omega)
      have hstep := scanItems_of_step
        (.next hitem (skipBlanks_token rfl hafter (more ++ rest)) hothers)
      simpa using hstep

theorem readsBack_members {fuel : Nat} (ih : ReadsBack fuel) {depth : Nat} {acc : Members}
    {ms : List (String × Value)} {t : List Char} (rest : List Char) (h : SpellsMembers ms t)
    (hfits : ∀ m ∈ ms, m.2.Fits depth) (hfuel : 2 * t.length + 1 ≤ fuel + 1) :
    scanMembers (fuel + 1) depth acc (t ++ rest) =
      .ok (.object (ms.foldl (fun acc e => Entries.insert e.1 e.2 acc) acc), rest) := by
  cases h with
  | @last key v keyText before t after hkey hbefore hv hafter =>
      have hvalue := ih.padded hbefore hv hafter
        (hfits (key, v) List.mem_cons_self)
        (stopsNumber_cons (c := '}') (by decide) rest) (by simp at hfuel; omega)
      have hclose : skipBlanks (after ++ '}' :: rest) = '}' :: rest :=
        skipBlanks_token rfl hafter rest
      have hstep : MembersStep fuel depth acc _ (.object (Entries.insert key v acc)) rest :=
        .last (scanKey_of_spells hkey _) hvalue hclose
      simpa using scanMembers_of_step hstep
  | @next key v ms keyText before t after more hkey hbefore hv hafter hmore =>
      have hvalue := ih.padded hbefore hv hafter
        (hfits (key, v) List.mem_cons_self)
        (stopsNumber_cons (c := ',') (by decide) (more ++ rest)) (by simp at hfuel; omega)
      have hothers := ih.members (Entries.insert key v acc) rest hmore
        (fun m hm => hfits m (List.mem_cons_of_mem (key, v) hm)) (by simp at hfuel; omega)
      have hstep := scanMembers_of_step
        (.next (scanKey_of_spells hkey _) hvalue
          (skipBlanks_token rfl hafter (more ++ rest)) hothers)
      simpa using hstep

theorem readsBack (fuel : Nat) : ReadsBack fuel := by
  -- The three readers call one another with less fuel, so all three go through one induction.
  induction fuel with
  | zero =>
      refine ⟨?_, ?_, ?_⟩
      · intro depth v t rest h _ _ hfuel
        have hpos := length_pos_of_spells h
        omega
      · intro depth acc vs t rest _ _ hfuel
        omega
      · intro depth acc ms t rest _ _ hfuel
        omega
  | succ fuel ih =>
      refine ⟨?_, ?_, ?_⟩
      · intro depth v t rest h hfits hrest hfuel
        exact readsBack_value ih h hfits hrest hfuel
      · intro depth acc vs t rest h hfits hfuel
        exact readsBack_items ih rest h hfits hfuel
      · intro depth acc ms t rest h hfits hfuel
        exact readsBack_members ih rest h hfits hfuel

/-- However deep it nests, a value is found at the front of its text when there is room for it. -/
theorem scanValue_of_spelledBy {depth : Nat} {v : Value} {text : String} (hfits : v.Fits depth)
    (h : SpelledBy v text) : ∃ after, Blanks after
      ∧ scanValue (enoughFuel text.toList) depth text.toList = .ok (v, after) := by
  rcases h with ⟨before, t, after, hbefore, hv, hafter, htext⟩
  have hfuel : 2 * t.length ≤ enoughFuel text.toList := by
    simp only [enoughFuel, htext, List.length_append]
    omega
  have hend : StopsNumber [] := by
    intro c hc
    cases hc
  have hscan := (readsBack _).padded hbefore hv hafter hfits hend hfuel
  rw [List.append_nil, List.append_nil, ← htext] at hscan
  exact ⟨after, hafter, hscan⟩

/-- All texts of a value are read as that value. -/
theorem readString_of_spelledBy {v : Value} {text : String} (hfits : v.Fits greatestDepth)
    (h : SpelledBy v text) : readString text = .ok v := by
  rcases scanValue_of_spelledBy hfits h with ⟨after, hafter, hscan⟩
  exact read_eq_ok_iff.2 ⟨after, hscan, skipBlanks_eq_nil_iff.2 hafter⟩

/-! ## The compact text -/

theorem spellsChar_charText (c : Char) : SpellsChar c (charText c) := by
  unfold charText
  split
  all_goals try exact .short (by decide)
  rename_i hquote hback _ _ _ _ _
  split
  · rename_i hcontrol
    -- Two zeros in front and the two digits of the code, in lower case.
    refine .unit (by omega) (.digits (.inl ?_) (.inl ?_) (.inl ?_) (.inl ?_))
    · rw [show c.toNat / 4096 % 16 = 0 by omega]
      rfl
    · rw [show c.toNat / 256 % 16 = 0 by omega]
      rfl
    · rw [show c.toNat / 16 % 16 = c.toNat / 16 by omega]
    · rfl
  · exact .raw hquote hback (by omega)

theorem spellsChars_flatMap (cs : List Char) : SpellsChars cs (cs.flatMap charText) := by
  induction cs with
  | nil => exact .nil
  | cons c cs ih => exact .cons (spellsChar_charText c) ih

theorem spellsString_stringText (s : String) : SpellsString s (stringText s) :=
  .quoted (spellsChars_flatMap s.toList)

theorem blanks_nil : Blanks [] := by
  intro c hc
  cases hc

theorem spellsKey_stringText (key : String) : SpellsKey key (stringText key ++ [':']) := by
  simpa using SpellsKey.colon blanks_nil (spellsString_stringText key) blanks_nil

/-- The members of the second list are written so that they spell those of the first. -/
def WrittenAs : List (String × Value) → List (String × Value) → Prop :=
  List.Forall₂ fun m w => w.1 = m.1 ∧ Spells m.2 w.2.text

theorem spellsMembers_writtenAs {order written : List (String × Value)}
    (h : WrittenAs order written) (key : String) {v w : Value} (hv : Spells v w.text) :
    SpellsMembers ((key, v) :: order)
      (stringText key ++ ':' :: (w.text ++ membersText written)) := by
  induction h generalizing key v w with
  | nil =>
      have hkey := spellsKey_stringText key
      simpa [membersText] using SpellsMembers.last hkey blanks_nil hv blanks_nil
  | @cons m next order written hfirst _ ih =>
      rcases m with ⟨nextKey, nextValue⟩
      rcases next with ⟨_, nextWritten⟩
      rcases hfirst with ⟨rfl, hnext⟩
      have hkey := spellsKey_stringText key
      simpa [membersText] using SpellsMembers.next hkey blanks_nil hv blanks_nil (ih _ hnext)

mutual

/-- The compact text has no blanks, all members in order, and escapes only what it must. -/
theorem spells_text : (v : Value) → v.WordNumbers → Spells v v.text
  | .null, _ => .null
  | .bool true, _ => .true
  | .bool false, _ => .false
  | .number (.integer i), _ => .integer i
  | .number (.double _), h => h.elim
  | .string s, _ => .string (spellsString_stringText s)
  | .array [], _ => .noItems blanks_nil
  | .array (v :: vs), h => .items (spellsItems_text vs h.2 (spells_text v h.1))
  | .object [], _ => .noMembers blanks_nil
  | .object ((key, v) :: ms), h => by
      rw [Value.text]
      exact .members (.refl _)
        (spellsMembers_writtenAs (writtenAs_self ms h.2) key (spells_text v h.1))

theorem spellsItems_text : (vs : List Value) → Value.WordNumbersItems vs → ∀ {v : Value},
    Spells v v.text → SpellsItems (v :: vs) (v.text ++ itemsText vs)
  | [], _, v, hv => by
      simpa [itemsText] using SpellsItems.last blanks_nil hv blanks_nil
  | w :: vs, h, v, hv => by
      have hmore := spellsItems_text vs h.2 (spells_text w h.1)
      simpa [itemsText] using SpellsItems.next blanks_nil hv blanks_nil hmore

/-- Every list of members is written as itself. -/
theorem writtenAs_self : (ms : List (String × Value)) → Value.WordNumbersMembers ms →
    WrittenAs ms ms
  | [], _ => .nil
  | (_, v) :: ms, h => .cons ⟨rfl, spells_text v h.1⟩ (writtenAs_self ms h.2)

end

/-- The compact text is one of the texts of the value. -/
theorem spelledBy_render {v : Value} (h : v.WordNumbers) : SpelledBy v v.render := by
  refine ⟨[], v.text, [], blanks_nil, spells_text v h, blanks_nil, ?_⟩
  simp [Value.render]

end Json
end RpcHost
