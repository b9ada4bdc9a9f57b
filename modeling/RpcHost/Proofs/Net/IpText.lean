import Mathlib.Data.List.TakeDrop
import Mathlib.Data.List.TakeWhile
import RpcHost.Net.IpAddress
import RpcHost.Proofs.Text.Digits

/-!
# Texts of IP addresses

What an IPv4 address and an IPv6 address look like, said without the reader (`IsV4Text`,
`IsV6Text`). The reader takes as much as it can, so each of its parts is shown to read every text of
its form, provided that what follows does not go on, and to read nothing else. The main statement is
`isSome_read?_iff`.
-/

namespace RpcHost
namespace Net

open Text

variable {cs rest : List Char}

/-! ## Digits -/

def IsHexDigit (c : Char) : Prop :=
  c.isDigit = true ∨ ('a' ≤ c ∧ c ≤ 'f') ∨ ('A' ≤ c ∧ c ≤ 'F')

theorem isDigit_iff {c : Char} : c.isDigit = true ↔ '0' ≤ c ∧ c ≤ '9' := by
  simp only [Char.isDigit, ge_iff_le, Bool.and_eq_true, decide_eq_true_eq]
  exact Iff.rfl

theorem digitValue?_of_isDigit {c : Char} (h : c.isDigit = true) {radix : Nat}
    (hradix : 10 ≤ radix) : digitValue? radix c = some (c.toNat - 48) := by
  have hrange : '0' ≤ c ∧ c ≤ '9' := isDigit_iff.1 h
  have hvalue : c.toNat ≤ 57 := hrange.2
  rw [digitValue?, if_pos hrange]
  exact if_pos (by omega)

@[simp] theorem isSome_digitValue?_ten (c : Char) : (digitValue? 10 c).isSome = c.isDigit := by
  by_cases hdigit : c.isDigit = true
  · rw [digitValue?_of_isDigit hdigit (Nat.le_refl 10), hdigit]
    rfl
  · have hrange : ¬ ('0' ≤ c ∧ c ≤ '9') := fun h => hdigit (isDigit_iff.2 h)
    have hletter : ∀ {low high : Char} {offset : Nat}, low.toNat = offset + 10 →
        low ≤ c ∧ c ≤ high → ¬ c.toNat - offset < 10 := by
      intro low high offset hlow h
      have hle : low.toNat ≤ c.toNat := h.1
      omega
    rw [Bool.not_eq_true] at hdigit
    rw [digitValue?, if_neg hrange, hdigit]
    split
    · rename_i hsmall
      rw [if_neg (hletter rfl hsmall)]
      rfl
    · split
      · rename_i hlarge
        rw [if_neg (hletter rfl hlarge)]
        rfl
      · rfl

theorem isSome_digitValue?_sixteen (c : Char) :
    (digitValue? 16 c).isSome = true ↔ IsHexDigit c := by
  unfold IsHexDigit
  by_cases hdigit : c.isDigit = true
  · simp [digitValue?_of_isDigit hdigit (by decide : 10 ≤ 16), hdigit]
  · have hrange : ¬ ('0' ≤ c ∧ c ≤ '9') := fun h => hdigit (isDigit_iff.2 h)
    have hletter : ∀ {low high : Char} {offset : Nat}, high.toNat = offset + 15 →
        low ≤ c ∧ c ≤ high → c.toNat - offset < 16 := by
      intro low high offset hhigh h
      have hle : c.toNat ≤ high.toNat := h.2
      omega
    rw [digitValue?, if_neg hrange]
    by_cases hsmall : 'a' ≤ c ∧ c ≤ 'f'
    · simp [hsmall, @hletter 'a' 'f' 87 rfl hsmall]
    · by_cases hlarge : 'A' ≤ c ∧ c ≤ 'F'
      · simp [hsmall, hlarge, @hletter 'A' 'F' 55 rfl hlarge]
      · simp [hdigit, hsmall, hlarge]

/-- The digits at the front are as many as can be. -/
theorem splitDigits_eq_iff {radix : Nat} {ds : List Char} :
    splitDigits radix cs = (ds, rest) ↔
      cs = ds ++ rest ∧ (∀ c ∈ ds, (digitValue? radix c).isSome = true)
      ∧ ∀ c ∈ rest.head?, (digitValue? radix c).isSome = false := by
  rw [splitDigits, List.span_eq_takeWhile_dropWhile]
  constructor
  · intro h
    cases h
    refine ⟨List.takeWhile_append_dropWhile.symm, ?_, ?_⟩
    · intro c hc
      have hdigit := List.mem_takeWhile_imp hc
      exact hdigit
    · intro c hc
      have hstop := List.head?_dropWhile_not (fun c => (digitValue? radix c).isSome) cs
      rw [hc] at hstop
      exact hstop
  · rintro ⟨rfl, hds, hrest⟩
    rw [List.takeWhile_append_of_pos hds, List.dropWhile_append_of_pos hds]
    cases rest with
    | nil => simp
    | cons c rest => simp [hrest c rfl]

/-! ## IPv4 addresses -/

/-- Four numbers in decimal digits with dots between them. -/
def quad (a b c d : Nat) : List Char :=
  Nat.toDigits 10 a ++ '.' :: (Nat.toDigits 10 b ++ '.' :: (Nat.toDigits 10 c ++ '.' ::
    Nat.toDigits 10 d))

/-- Four bytes in decimal digits without leading zeros, with dots between them. -/
def IsV4Text (cs : List Char) : Prop :=
  ∃ a b c d, a < 256 ∧ b < 256 ∧ c < 256 ∧ d < 256 ∧ cs = quad a b c d

theorem valueOf_ten {ds : List Char} (h : ∀ c ∈ ds, c.isDigit = true) :
    valueOf 10 ds = Nat.ofDigitChars 10 ds 0 := by
  have hfold : ∀ n, ds.foldl (fun n c => n * 10 + (digitValue? 10 c).getD 0) n =
      Nat.ofDigitChars 10 ds n := by
    induction ds with
    | nil => simp
    | cons c ds ih =>
        rcases List.forall_mem_cons.1 h with ⟨hc, hds⟩
        intro n
        rw [List.foldl_cons, ih hds, Nat.ofDigitChars_cons,
          digitValue?_of_isDigit hc (Nat.le_refl 10), Nat.mul_comm]
        rfl
  exact hfold 0

/-- Where no digit follows, all digits of a number are split off. -/
theorem splitDigits_toDigits (n : Nat) (hrest : ∀ c ∈ rest.head?, c.isDigit = false) :
    splitDigits 10 (Nat.toDigits 10 n ++ rest) = (Nat.toDigits 10 n, rest) := by
  refine splitDigits_eq_iff.2 ⟨rfl, ?_, ?_⟩
  · intro c hc
    rw [isSome_digitValue?_ten]
    exact Nat.isDigit_of_mem_toDigits (by decide) (by decide) hc
  · simpa only [isSome_digitValue?_ten] using hrest

@[simp] theorem valueOf_toDigits (n : Nat) : valueOf 10 (Nat.toDigits 10 n) = n := by
  have hdigits : ∀ c ∈ Nat.toDigits 10 n, c.isDigit = true := fun c hc =>
    Nat.isDigit_of_mem_toDigits (by decide) (by decide) hc
  rw [valueOf_ten hdigits, Nat.ofDigitChars_ten_toDigits]

theorem readByte_eq_some_iff {n : Nat} :
    readByte cs = some (n, rest) ↔
      n < 256 ∧ cs = Nat.toDigits 10 n ++ rest ∧ ∀ c ∈ rest.head?, c.isDigit = false := by
  constructor
  · intro h
    unfold readByte at h
    rcases hsplit : splitDigits 10 cs with ⟨ds, after⟩
    rw [hsplit] at h
    rcases splitDigits_eq_iff.1 hsplit with ⟨rfl, hds, hafter⟩
    simp only [isSome_digitValue?_ten] at hds hafter
    simp only [Option.ite_none_left_eq_some, not_or, not_and, Nat.not_lt, Option.some.injEq,
      Prod.mk.injEq] at h
    rcases h with ⟨⟨hne, _⟩, hzero, hlimit, hn, rfl⟩
    cases ds with
    | nil => exact absurd rfl hne
    | cons c ds =>
        rw [valueOf_ten hds] at hlimit hn
        have hlead : c = '0' → ds = [] := by
          rintro rfl
          have hlength := hzero rfl
          exact List.length_eq_zero_iff.1 (by simpa using hlength)
        refine ⟨by omega, ?_, hafter⟩
        rw [← hn, toDigits_ofDigitChars hds hlead]
  · rintro ⟨hn, rfl, hrest⟩
    have hlength : (Nat.toDigits 10 n).length ≤ 3 :=
      (Nat.length_toDigits_le_iff (by decide) (by decide)).2 (by omega)
    have hlead : ¬ ((Nat.toDigits 10 n).head? = some '0' ∧ 1 < (Nat.toDigits 10 n).length) := by
      rintro ⟨hhead, hlong⟩
      rcases List.head?_eq_some_iff.1 hhead with ⟨ds, hdigits⟩
      rw [eq_zero_of_toDigits_zero hdigits] at hlong
      exact absurd hlong (by decide)
    simp only [readByte, splitDigits_toDigits n hrest, valueOf_toDigits]
    rw [if_neg (by simp [Nat.toDigits_ne_nil, hlength]), if_neg hlead, if_neg (by omega)]

/-- A dot ends a number, and so does the end of the text. -/
theorem isDigit_head_dot (cs : List Char) : ∀ c ∈ ('.' :: cs).head?, c.isDigit = false := by
  rintro c ⟨⟩
  rfl

/-- What stands in front of a part that is not the first. -/
def separation (separator : Char) (first : Bool) : List Char :=
  if first then [] else [separator]

theorem separated_append {α : Type} (separator : Char) (first : Bool) (read : List Char → Read α)
    (cs : List Char) :
    separated separator first read (separation separator first ++ cs) = read cs := by
  cases first with
  | false => exact if_pos rfl
  | true => rfl

theorem separated_eq_some_iff {α : Type} {separator : Char} {first : Bool}
    {read : List Char → Read α} {a : α} :
    separated separator first read cs = some (a, rest) ↔
      ∃ more, cs = separation separator first ++ more ∧ read more = some (a, rest) := by
  constructor
  · intro h
    cases first with
    | true => exact ⟨cs, rfl, h⟩
    | false =>
        cases cs with
        | nil => cases h
        | cons c cs =>
            rcases Option.ite_none_right_eq_some.1 h with ⟨rfl, hread⟩
            exact ⟨cs, rfl, hread⟩
  · rintro ⟨more, rfl, hread⟩
    rw [separated_append, hread]

theorem readV4_quad {a b c d : Nat} (h : a < 256 ∧ b < 256 ∧ c < 256 ∧ d < 256)
    (hrest : ∀ c ∈ rest.head?, c.isDigit = false) :
    readV4 (quad a b c d ++ rest) = some ([a, b, c, d], rest) := by
  rcases h with ⟨ha, hb, hc, hd⟩
  have hbyte : ∀ {n more}, n < 256 →
      readByte (Nat.toDigits 10 n ++ '.' :: more) = some (n, '.' :: more) := fun hn =>
    readByte_eq_some_iff.2 ⟨hn, rfl, isDigit_head_dot _⟩
  have hlast : readByte (Nat.toDigits 10 d ++ rest) = some (d, rest) :=
    readByte_eq_some_iff.2 ⟨hd, rfl, hrest⟩
  simp [readV4, quad, separated, hbyte ha, hbyte hb, hbyte hc, hlast]

theorem readV4_eq_some {bytes : List Nat} (h : readV4 cs = some (bytes, rest)) :
    ∃ a b c d, (a < 256 ∧ b < 256 ∧ c < 256 ∧ d < 256) ∧ bytes = [a, b, c, d]
      ∧ cs = quad a b c d ++ rest := by
  have hseparated : ∀ {cs : List Char} {n rest}, separated '.' false readByte cs = some (n, rest) →
      n < 256 ∧ cs = '.' :: (Nat.toDigits 10 n ++ rest) := by
    intro cs n rest hn
    rcases separated_eq_some_iff.1 hn with ⟨more, rfl, hmore⟩
    rcases readByte_eq_some_iff.1 hmore with ⟨hsmall, rfl, _⟩
    exact ⟨hsmall, rfl⟩
  rcases Option.bind_eq_some_iff.1 h with ⟨⟨a, cs₁⟩, ha, h⟩
  rcases Option.bind_eq_some_iff.1 h with ⟨⟨b, cs₂⟩, hb, h⟩
  rcases Option.bind_eq_some_iff.1 h with ⟨⟨c, cs₃⟩, hc, h⟩
  rcases Option.bind_eq_some_iff.1 h with ⟨⟨d, cs₄⟩, hd, heq⟩
  cases heq
  rcases readByte_eq_some_iff.1 ha with ⟨hasmall, rfl, _⟩
  rcases hseparated hb with ⟨hbsmall, rfl⟩
  rcases hseparated hc with ⟨hcsmall, rfl⟩
  rcases hseparated hd with ⟨hdsmall, rfl⟩
  exact ⟨a, b, c, d, ⟨hasmall, hbsmall, hcsmall, hdsmall⟩, rfl, by simp [quad]⟩

/-! ## Groups -/

/-- One to four hexadecimal digits. -/
structure IsGroup (cs : List Char) : Prop where
  ne_nil : cs ≠ []
  length_le : cs.length ≤ 4
  digits : ∀ c ∈ cs, IsHexDigit c

/-- Parts that stand for so many groups. The last one may be an IPv4 address, for two groups. -/
inductive Parts : (dotted : Bool) → (count : Nat) → List (List Char) → Prop where
  | nil : Parts false 0 []
  | address {part : List Char} (hpart : IsV4Text part) : Parts true 2 [part]
  | group {dotted : Bool} {count : Nat} {part : List Char} {parts : List (List Char)}
      (hpart : IsGroup part) (hmore : Parts dotted count parts) :
      Parts dotted (count + 1) (part :: parts)

/-- Eight groups with colons between them, or at most seven with two colons somewhere for the
others. -/
def IsV6Text (cs : List Char) : Prop :=
  (∃ dotted parts, Parts dotted 8 parts ∧ cs = [':'].intercalate parts)
  ∨ ∃ dotted m n front back, Parts false m front ∧ Parts dotted n back ∧ m + n ≤ 7
    ∧ cs = [':'].intercalate front ++ ':' :: ':' :: [':'].intercalate back

/-- Parts with a colon before each of them, but before the first only if it is not the first. -/
def partsText : (first : Bool) → List (List Char) → List Char
  | _, [] => []
  | first, part :: parts => separation ':' first ++ (part ++ partsText false parts)

theorem partsText_true (parts : List (List Char)) :
    partsText true parts = [':'].intercalate parts := by
  induction parts with
  | nil => rfl
  | cons part parts ih =>
      cases parts with
      | nil => simp [partsText, separation]
      | cons next parts =>
          rw [List.intercalate_cons_cons, ← ih]
          simp [partsText, separation]

/-- No part goes on with a colon, or at the end of the text. -/
def EndsPart (rest : List Char) : Prop :=
  ∀ c ∈ rest.head?, c = ':'

/-- Here no further part can begin. -/
def EndsParts (rest : List Char) : Prop :=
  rest = [] ∨ ∃ more, rest = ':' :: ':' :: more

theorem EndsParts.endsPart (h : EndsParts rest) : EndsPart rest := by
  rcases h with rfl | ⟨more, rfl⟩
  · rintro c ⟨⟩
  · rintro c ⟨⟩
    rfl

theorem EndsPart.partsText (h : EndsPart rest) (parts : List (List Char)) :
    EndsPart (partsText false parts ++ rest) := by
  cases parts with
  | nil => exact h
  | cons part parts =>
      rintro c ⟨⟩
      rfl

theorem splitDigits_group {part : List Char} (hpart : IsGroup part) (hrest : EndsPart rest) :
    splitDigits 16 (part ++ rest) = (part, rest) := by
  refine splitDigits_eq_iff.2 ⟨rfl, ?_, ?_⟩
  · intro c hc
    exact (isSome_digitValue?_sixteen c).2 (hpart.digits c hc)
  · intro c hc
    rw [hrest c hc]
    rfl

theorem readGroup_group {part : List Char} (hpart : IsGroup part) (hrest : EndsPart rest) :
    readGroup (part ++ rest) = some (valueOf 16 part, rest) := by
  have hgroup : ¬ (part = [] ∨ 4 < part.length) := by
    rintro (hnil | hlong)
    · exact hpart.ne_nil hnil
    · exact absurd hpart.length_le (Nat.not_le.2 hlong)
  simp only [readGroup, splitDigits_group hpart hrest, if_neg hgroup]

theorem readGroup_eq_some {n : Nat} (h : readGroup cs = some (n, rest)) :
    ∃ part, IsGroup part ∧ cs = part ++ rest := by
  unfold readGroup at h
  rcases hsplit : splitDigits 16 cs with ⟨part, after⟩
  rw [hsplit] at h
  rcases splitDigits_eq_iff.1 hsplit with ⟨rfl, hdigits, _⟩
  simp only [Option.ite_none_left_eq_some, not_or, Nat.not_lt, Option.some.injEq,
    Prod.mk.injEq] at h
  rcases h with ⟨⟨hne, hlength⟩, _, rfl⟩
  refine ⟨part, ⟨hne, hlength, ?_⟩, rfl⟩
  intro c hc
  exact (isSome_digitValue?_sixteen c).1 (hdigits c hc)

/-- A group is no beginning of an IPv4 address: no dot follows it. -/
theorem readV4_group {part : List Char} (hpart : IsGroup part) (hrest : EndsPart rest) :
    readV4 (part ++ rest) = none := by
  refine Option.eq_none_iff_forall_ne_some.2 ?_
  rintro ⟨bytes, after⟩ h
  rcases readV4_eq_some h with ⟨a, b, c, d, _, _, htext⟩
  have hsplit := splitDigits_group hpart hrest
  have hquad : splitDigits 16 (part ++ rest) =
      (Nat.toDigits 10 a, '.' :: (Nat.toDigits 10 b ++ '.' :: (Nat.toDigits 10 c ++ '.' ::
        (Nat.toDigits 10 d ++ after)))) := by
    refine splitDigits_eq_iff.2 ⟨by rw [htext]; simp [quad], ?_, ?_⟩
    · intro c hc
      have hdigit : c.isDigit = true := Nat.isDigit_of_mem_toDigits (by decide) (by decide) hc
      exact (isSome_digitValue?_sixteen c).2 (.inl hdigit)
    · rintro c ⟨⟩
      rfl
  have hdot := (Prod.mk.inj (hsplit.symm.trans hquad)).2
  rw [hdot] at hrest
  exact absurd (hrest '.' rfl) (by decide)

theorem readGroups_end (room : Nat) (first : Bool) (h : EndsParts rest) :
    readGroups room first rest = (([], false), rest) := by
  cases room with
  | zero => rfl
  | succ room =>
      have hnone : separated ':' first readV4 rest = none
          ∧ separated ':' first readGroup rest = none := by
        rcases h with rfl | ⟨more, rfl⟩
        · cases first <;> exact ⟨rfl, rfl⟩
        · cases first <;> exact ⟨rfl, rfl⟩
      simp [readGroups, hnone]

/-- All parts are read, up to the end of the text or two colons. -/
theorem readGroups_parts {dotted : Bool} {count : Nat} {parts : List (List Char)}
    (h : Parts dotted count parts) (hrest : EndsParts rest) (room : Nat) (hroom : count ≤ room)
    (first : Bool) :
    ∃ groups, groups.length = count
      ∧ readGroups room first (partsText first parts ++ rest) = ((groups, dotted), rest) := by
  induction h generalizing room first with
  | nil => exact ⟨[], rfl, readGroups_end room first hrest⟩
  | @address part hpart =>
      rcases hpart with ⟨a, b, c, d, ha, hb, hc, hd, rfl⟩
      obtain ⟨room, rfl⟩ : ∃ more, room = more + 2 := ⟨room - 2, by omega⟩
      have hdigit : ∀ c ∈ rest.head?, c.isDigit = false := by
        intro c hc
        rw [hrest.endsPart c hc]
        rfl
      have hread : separated ':' first readV4 (partsText first [quad a b c d] ++ rest) =
          some ([a, b, c, d], rest) := by
        rw [partsText, partsText, List.append_nil, List.append_assoc, separated_append]
        exact readV4_quad ⟨ha, hb, hc, hd⟩ hdigit
      refine ⟨[a * 256 + b, c * 256 + d], rfl, ?_⟩
      simp [readGroups, hread]
  | @group dotted count part parts hpart _ ih =>
      obtain ⟨room, rfl⟩ : ∃ more, room = more + 1 := ⟨room - 1, by omega⟩
      have hends := hrest.endsPart.partsText parts
      have htext : partsText first (part :: parts) ++ rest =
          separation ':' first ++ (part ++ (partsText false parts ++ rest)) := by
        simp [partsText]
      have haddress : separated ':' first readV4 (partsText first (part :: parts) ++ rest)
          = none := by
        rw [htext, separated_append, readV4_group hpart hends]
      have hgroup : separated ':' first readGroup (partsText first (part :: parts) ++ rest) =
          some (valueOf 16 part, partsText false parts ++ rest) := by
        rw [htext, separated_append, readGroup_group hpart hends]
      rcases ih room (by omega) false with ⟨groups, hlength, hmore⟩
      refine ⟨valueOf 16 part :: groups, by rw [List.length_cons, hlength], ?_⟩
      simp [readGroups, haddress, hgroup, hmore]

/-- Nothing but parts is read, and no more groups than there is room for. -/
theorem parts_of_readGroups {room : Nat} {first dotted : Bool} {groups : List Nat}
    (h : readGroups room first cs = ((groups, dotted), rest)) :
    groups.length ≤ room
    ∧ ∃ parts, Parts dotted groups.length parts ∧ cs = partsText first parts ++ rest := by
  induction room generalizing first cs groups dotted rest with
  | zero =>
      cases h
      exact ⟨Nat.le_refl 0, [], .nil, rfl⟩
  | succ room ih =>
      rw [readGroups] at h
      split at h
      · rename_i a b c d after haddress
        cases h
        rcases Option.ite_none_left_eq_some.1 haddress with ⟨hroom, haddress⟩
        rcases separated_eq_some_iff.1 haddress with ⟨more, rfl, hread⟩
        rcases readV4_eq_some hread with ⟨a', b', c', d', hsmall, heq, rfl⟩
        refine ⟨?_, [quad a' b' c' d'], .address ⟨a', b', c', d', ?_⟩, ?_⟩
        · simp only [List.length_cons, List.length_nil]
          omega
        · exact ⟨hsmall.1, hsmall.2.1, hsmall.2.2.1, hsmall.2.2.2, rfl⟩
        · simp [partsText]
      · split at h
        · cases h
          exact ⟨Nat.zero_le _, [], .nil, rfl⟩
        · rename_i group after hgroup
          rcases hmore : readGroups room false after with ⟨⟨others, dotted'⟩, rest'⟩
          rw [hmore] at h
          cases h
          rcases separated_eq_some_iff.1 hgroup with ⟨more, rfl, hread⟩
          rcases readGroup_eq_some hread with ⟨part, hpart, rfl⟩
          rcases ih hmore with ⟨hlength, parts, hparts, rfl⟩
          refine ⟨Nat.succ_le_succ hlength, part :: parts, .group hpart hparts, ?_⟩
          simp [partsText]

/-! ## IPv6 addresses -/

theorem exists_readV6_iff : (∃ groups, readV6 cs = some (groups, [])) ↔ IsV6Text cs := by
  constructor
  · rintro ⟨groups, h⟩
    unfold readV6 at h
    rcases hfront : readGroups 8 true cs with ⟨⟨front, dotted⟩, rest⟩
    rw [hfront] at h
    rcases parts_of_readGroups hfront with ⟨hroom, parts, hparts, rfl⟩
    rw [partsText_true]
    simp only at h
    split at h
    · rename_i hlength
      cases h
      exact .inl ⟨dotted, parts, hlength ▸ hparts, List.append_nil _⟩
    · rename_i hlength
      split at h
      · cases h
      · rename_i hdotted
        split at h
        · rename_i after
          rcases hback : readGroups (7 - front.length) true after with ⟨⟨back, dotted'⟩, rest'⟩
          rw [hback] at h
          cases h
          rcases parts_of_readGroups hback with ⟨hroom', parts', hparts', rfl⟩
          rw [Bool.not_eq_true] at hdotted
          subst hdotted
          refine .inr ⟨dotted', _, _, parts, parts', hparts, hparts', by omega, ?_⟩
          rw [partsText_true, List.append_nil]
        · cases h
  · rintro (⟨dotted, parts, hparts, rfl⟩ | ⟨dotted, m, n, front, back, hfront, hback, hcount, rfl⟩)
    · rcases readGroups_parts hparts (.inl rfl) 8 (Nat.le_refl 8) true with ⟨groups, hlength, hread⟩
      rw [partsText_true, List.append_nil] at hread
      exact ⟨groups, by simp [readV6, hread, hlength]⟩
    · rcases readGroups_parts hfront (.inr ⟨[':'].intercalate back, rfl⟩) 8 (by omega) true with
        ⟨groups, hlength, hread⟩
      rcases readGroups_parts hback (.inl rfl) (7 - groups.length) (by omega) true with
        ⟨groups', hlength', hread'⟩
      rw [partsText_true] at hread
      rw [partsText_true, List.append_nil] at hread'
      have hfew : ¬ groups.length = 8 := by
        omega
      refine ⟨groups ++ List.replicate (8 - groups.length - groups'.length) 0 ++ groups', ?_⟩
      simp only [readV6, hread, hread', if_neg hfew]
      rfl

/-- An IPv6 address does not begin like an IPv4 address. -/
theorem readV4_of_isV6Text (h : IsV6Text cs) : readV4 cs = none := by
  have hgroup : ∀ {part : List Char} {parts : List (List Char)} {rest : List Char}, IsGroup part →
      EndsPart rest → readV4 ([':'].intercalate (part :: parts) ++ rest) = none := by
    intro part parts rest hpart hrest
    have hnone := readV4_group hpart (hrest.partsText parts)
    rwa [← partsText_true, partsText, List.append_assoc, List.append_assoc]
  rcases h with ⟨dotted, parts, hparts, rfl⟩ | ⟨dotted, m, n, front, back, hfront, _, _, rfl⟩
  · cases hparts with
    | @group _ _ part parts hpart _ =>
        have hnone : readV4 ([':'].intercalate (part :: parts) ++ []) = none :=
          hgroup hpart (EndsParts.endsPart (.inl rfl))
        rwa [List.append_nil] at hnone
  · cases hfront with
    | nil => rfl
    | group hpart _ => exact hgroup hpart (EndsParts.endsPart (.inr ⟨_, rfl⟩))

/-- The addresses that are read are those that look like one. -/
theorem isSome_read?_iff (s : String) :
    (IpAddress.read? s).isSome = true ↔ IsV4Text s.toList ∨ IsV6Text s.toList := by
  unfold IpAddress.read?
  constructor
  · intro h
    split at h
    · rename_i bytes rest hread
      split at h
      · rename_i hrest
        rcases readV4_eq_some hread with ⟨a, b, c, d, ⟨ha, hb, hc, hd⟩, _, htext⟩
        rw [hrest, List.append_nil] at htext
        exact .inl ⟨a, b, c, d, ha, hb, hc, hd, htext⟩
      · cases h
    · rw [Option.isSome_map] at h
      refine .inr (exists_readV6_iff.1 ?_)
      rcases Option.isSome_iff_exists.1 h with ⟨groups, hgroups⟩
      unfold whole at hgroups
      split at hgroups
      · rename_i found hread
        exact ⟨found, hread⟩
      · cases hgroups
  · rintro (⟨a, b, c, d, ha, hb, hc, hd, htext⟩ | htext)
    · have hends : ∀ c ∈ ([] : List Char).head?, c.isDigit = false := by
        simp
      have hread := readV4_quad ⟨ha, hb, hc, hd⟩ hends
      rw [List.append_nil, ← htext] at hread
      rw [hread]
      rfl
    · rcases exists_readV6_iff.2 htext with ⟨groups, hread⟩
      rw [readV4_of_isV6Text htext, hread]
      rfl

end Net
end RpcHost
