import RpcHost.Net.Endpoint
import RpcHost.Proofs.Net.IpText

/-!
# Listen addresses

What can be listened on, said without the check: an IP address, or a host name made of labels. The
main statement is `listen_address_is_ip_or_host_name`, with what follows for texts of digits and
dots and for the characters of an address.
-/

namespace RpcHost
namespace Net

variable {cs : List Char} {s : String}

/-! ## Host names -/

structure IsHostLabel (label : List Char) : Prop where
  length : 1 ≤ label.length ∧ label.length ≤ 63
  chars : ∀ c ∈ label, c.isAlphanum = true ∨ c = '-' ∨ c = '_'
  first : label.head? ≠ some '-'
  last : label.getLast? ≠ some '-'

/-- Labels with dots between them, with something other than digits in at least one of them. -/
structure IsHostNameText (s : String) : Prop where
  size : 1 ≤ s.utf8ByteSize ∧ s.utf8ByteSize ≤ 253
  labels : ∃ labels : List (List Char), s.toList = ['.'].intercalate labels
    ∧ (∀ label ∈ labels, IsHostLabel label) ∧ ∃ label ∈ labels, ∃ c ∈ label, c.isDigit = false

theorem isAsciiDigit_eq (c : Char) : isAsciiDigit c = c.isDigit := by
  rw [Bool.eq_iff_iff, isDigit_iff]
  simp [isAsciiDigit]

theorem isLabel_iff {label : List Char} : isLabel label = true ↔ IsHostLabel label := by
  have hlength : 1 ≤ label.length ↔ label ≠ [] := by
    rw [← List.length_pos_iff]
    rfl
  simp only [isLabel, isLabelChar, Bool.and_eq_true, Bool.or_eq_true, decide_eq_true_eq,
    List.all_eq_true, ne_eq, or_assoc]
  constructor
  · rintro ⟨⟨⟨⟨hne, hle⟩, hfirst⟩, hlast⟩, hchars⟩
    exact ⟨⟨hlength.2 hne, hle⟩, hchars, hfirst, hlast⟩
  · rintro ⟨⟨hne, hle⟩, hchars, hfirst, hlast⟩
    exact ⟨⟨⟨⟨hlength.1 hne, hle⟩, hfirst⟩, hlast⟩, hchars⟩

theorem IsHostLabel.dot_notMem {label : List Char} (h : IsHostLabel label) : '.' ∉ label := by
  intro hdot
  simpa using h.chars '.' hdot

theorem one_le_utf8ByteSize_iff : 1 ≤ s.utf8ByteSize ↔ s ≠ "" := by
  rw [Nat.one_le_iff_ne_zero, ne_eq, ne_eq, String.utf8ByteSize_eq_zero_iff]

theorem isHostName_iff : isHostName s = true ↔ IsHostNameText s := by
  have hcheck : isHostName s = true ↔ (s ≠ "" ∧ s.utf8ByteSize ≤ 253)
      ∧ (∀ label ∈ labels s.toList, IsHostLabel label)
      ∧ ∃ label ∈ labels s.toList, ∃ c ∈ label, c.isDigit = false := by
    simp only [isHostName, Bool.and_eq_true, decide_eq_true_eq, Bool.not_eq_true',
      List.all_eq_false, List.all_eq_true, isLabel_iff, isAsciiDigit_eq, not_forall, exists_prop,
      Bool.not_eq_true, and_assoc]
    rw [and_comm (b := ∀ label ∈ labels s.toList, IsHostLabel label)]
  rw [hcheck]
  constructor
  · rintro ⟨⟨hne, hle⟩, hlabels, hother⟩
    exact ⟨⟨one_le_utf8ByteSize_iff.2 hne, hle⟩, labels s.toList,
      (List.intercalate_splitOn '.').symm, hlabels, hother⟩
  · rintro ⟨⟨hne, hle⟩, parts, hs, hlabels, hother⟩
    have hparts : labels s.toList = parts := by
      rw [hs]
      refine List.splitOn_intercalate '.' (fun label hlabel => (hlabels label hlabel).dot_notMem) ?_
      rcases hother with ⟨label, hlabel, _⟩
      exact List.ne_nil_of_mem hlabel
    rw [hparts]
    exact ⟨⟨one_le_utf8ByteSize_iff.1 hne, hle⟩, hlabels, hother⟩

/-! ## Characters of addresses -/

theorem mem_intercalate {separator c : Char} {parts : List (List Char)}
    (h : c ∈ [separator].intercalate parts) : c = separator ∨ ∃ part ∈ parts, c ∈ part := by
  induction parts with
  | nil => cases h
  | cons part parts ih =>
      cases parts with
      | nil => exact .inr ⟨part, List.mem_cons_self, by simpa using h⟩
      | cons next parts =>
          rw [List.intercalate_cons_cons, List.mem_append, List.mem_append] at h
          rcases h with (hpart | hseparator) | hmore
          · exact .inr ⟨part, List.mem_cons_self, hpart⟩
          · exact .inl (List.mem_singleton.1 hseparator)
          · rcases ih hmore with hseparator | ⟨found, hfound, hc⟩
            · exact .inl hseparator
            · exact .inr ⟨found, List.mem_cons_of_mem _ hfound, hc⟩

theorem mem_intercalate_of_mem {separator c : Char} {part : List Char} {parts : List (List Char)}
    (hpart : part ∈ parts) (hc : c ∈ part) : c ∈ [separator].intercalate parts := by
  induction parts with
  | nil => cases hpart
  | cons first parts ih =>
      cases parts with
      | nil =>
          rw [List.mem_singleton.1 hpart] at hc
          simpa using hc
      | cons next parts =>
          rw [List.intercalate_cons_cons, List.mem_append]
          rcases List.mem_cons.1 hpart with rfl | hmore
          · exact .inl (List.mem_append_left _ hc)
          · exact .inr (ih hmore)

theorem chars_of_isV4Text (h : IsV4Text cs) : ∀ c ∈ cs, c.isDigit = true ∨ c = '.' := by
  rcases h with ⟨a, b, c, d, _, _, _, _, rfl⟩
  have hdigit : ∀ {n x}, x ∈ Nat.toDigits 10 n → x.isDigit = true := fun hx =>
    Nat.isDigit_of_mem_toDigits (by decide) (by decide) hx
  intro x hx
  simp only [quad, List.mem_append, List.mem_cons] at hx
  rcases hx with hx | rfl | hx | rfl | hx | rfl | hx
  · exact .inl (hdigit hx)
  · exact .inr rfl
  · exact .inl (hdigit hx)
  · exact .inr rfl
  · exact .inl (hdigit hx)
  · exact .inr rfl
  · exact .inl (hdigit hx)

theorem Parts.part_of_mem {dotted : Bool} {count : Nat} {parts : List (List Char)}
    (h : Parts dotted count parts) : ∀ part ∈ parts, IsGroup part ∨ IsV4Text part := by
  induction h with
  | nil => simp
  | address hpart => simpa using .inr hpart
  | group hpart _ ih => exact List.forall_mem_cons.2 ⟨.inl hpart, ih⟩

/-- An IPv6 address has a colon, which no other address has. -/
theorem colon_mem_of_isV6Text (h : IsV6Text cs) : ':' ∈ cs := by
  rcases h with ⟨dotted, parts, hparts, rfl⟩ | ⟨dotted, m, n, front, back, _, _, _, rfl⟩
  · cases hparts with
    | group _ hmore =>
        cases hmore with
        | group _ _ => simp [List.intercalate_cons_cons]
  · simp

theorem chars_of_isV6Text (h : IsV6Text cs) : ∀ c ∈ cs, IsHexDigit c ∨ c = '.' ∨ c = ':' := by
  have hparts : ∀ {dotted count parts}, Parts dotted count parts →
      ∀ c ∈ [':'].intercalate parts, IsHexDigit c ∨ c = '.' ∨ c = ':' := by
    intro dotted count parts hparts c hc
    rcases mem_intercalate hc with hcolon | ⟨part, hpart, hc⟩
    · exact .inr (.inr hcolon)
    · rcases hparts.part_of_mem part hpart with hgroup | haddress
      · exact .inl (hgroup.digits c hc)
      · rcases chars_of_isV4Text haddress c hc with hdigit | hdot
        · exact .inl (.inl hdigit)
        · exact .inr (.inl hdot)
  rcases h with ⟨dotted, parts, hall, rfl⟩ | ⟨dotted, m, n, front, back, hfront, hback, _, rfl⟩
  · exact hparts hall
  · intro c hc
    simp only [List.mem_append, List.mem_cons] at hc
    rcases hc with hc | rfl | rfl | hc
    · exact hparts hfront c hc
    · exact .inr (.inr rfl)
    · exact .inr (.inr rfl)
    · exact hparts hback c hc

theorem IsHostNameText.chars (h : IsHostNameText s) :
    ∀ c ∈ s.toList, c.isAlphanum = true ∨ c = '-' ∨ c = '_' ∨ c = '.' := by
  rcases h.labels with ⟨labels, hs, hlabels, _⟩
  intro c hc
  rw [hs] at hc
  rcases mem_intercalate hc with hdot | ⟨label, hlabel, hc⟩
  · exact .inr (.inr (.inr hdot))
  · rcases (hlabels label hlabel).chars c hc with halphanum | hdash | hunderscore
    · exact .inl halphanum
    · exact .inr (.inl hdash)
    · exact .inr (.inr (.inl hunderscore))

/-! ## Listen addresses -/

theorem isAlphanum_of_isHexDigit {c : Char} (h : IsHexDigit c) : c.isAlphanum = true := by
  have hletter : c.isUpper = true ∨ c.isLower = true → c.isAlphanum = true := fun hcase =>
    Bool.or_eq_true_iff.2 (.inl (Bool.or_eq_true_iff.2 hcase))
  rcases h with hdigit | ⟨hlow, hhigh⟩ | ⟨hlow, hhigh⟩
  · exact Bool.or_eq_true_iff.2 (.inr hdigit)
  · have hlast : c ≤ 'z' := Char.le_trans hhigh (by decide)
    exact hletter (.inr (Bool.and_eq_true_iff.2 ⟨decide_eq_true hlow, decide_eq_true hlast⟩))
  · have hlast : c ≤ 'Z' := Char.le_trans hhigh (by decide)
    exact hletter (.inl (decide_eq_true ⟨hlow, hlast⟩))

/-- A host name has a character that is neither a digit nor a dot. -/
theorem IsHostNameText.exists_other (h : IsHostNameText s) :
    ∃ c ∈ s.toList, c.isDigit = false ∧ c ≠ '.' := by
  rcases h.labels with ⟨labels, hs, hlabels, label, hlabel, c, hc, hdigit⟩
  have hdot : c ≠ '.' := fun h => (hlabels label hlabel).dot_notMem (h ▸ hc)
  exact ⟨c, hs ▸ mem_intercalate_of_mem hlabel hc, hdigit, hdot⟩

theorem isListenAddress_iff :
    isListenAddress s = true ↔ IsV4Text s.toList ∨ IsV6Text s.toList ∨ IsHostNameText s := by
  rw [isListenAddress, Bool.or_eq_true, isSome_read?_iff, isHostName_iff, or_assoc]

theorem isV4Text_of_digits (hdigits : ∀ c ∈ s.toList, c.isDigit = true ∨ c = '.')
    (h : isListenAddress s = true) : IsV4Text s.toList := by
  rcases isListenAddress_iff.1 h with hv4 | hv6 | hname
  · exact hv4
  · simpa using hdigits ':' (colon_mem_of_isV6Text hv6)
  · rcases hname.exists_other with ⟨c, hc, hdigit, hdot⟩
    rcases hdigits c hc with hd | hd
    · simp [hd] at hdigit
    · exact absurd hd hdot

theorem chars_of_isListenAddress (h : isListenAddress s = true) :
    ∀ c ∈ s.toList, c.isAlphanum = true ∨ c = '.' ∨ c = '-' ∨ c = '_' ∨ c = ':' := by
  intro c hc
  have hdigit : c.isDigit = true → c.isAlphanum = true := fun h => by simp [Char.isAlphanum, h]
  rcases isListenAddress_iff.1 h with hv4 | hv6 | hname
  · rcases chars_of_isV4Text hv4 c hc with h | h
    · exact .inl (hdigit h)
    · exact .inr (.inl h)
  · rcases chars_of_isV6Text hv6 c hc with h | h | h
    · exact .inl (isAlphanum_of_isHexDigit h)
    · exact .inr (.inl h)
    · exact .inr (.inr (.inr (.inr h)))
  · rcases hname.chars c hc with h | h | h | h
    · exact .inl h
    · exact .inr (.inr (.inl h))
    · exact .inr (.inr (.inr (.inl h)))
    · exact .inr (.inl h)

theorem isV6Text_of_colon (h : isListenAddress s = true) (hcolon : ':' ∈ s.toList) :
    IsV6Text s.toList := by
  rcases isListenAddress_iff.1 h with hv4 | hv6 | hname
  · simpa using chars_of_isV4Text hv4 ':' hcolon
  · exact hv6
  · simpa using hname.chars ':' hcolon

/-- A listen address is the text of an IPv4 or IPv6 address, or a host name. One of digits and dots
alone is an IPv4 address, and one with a colon an IPv6 address. -/
theorem listen_address_is_ip_or_host_name (s : String) :
    ((IpAddress.read? s).isSome = true ↔ IsV4Text s.toList ∨ IsV6Text s.toList)
    ∧ (isListenAddress s = true ↔ (IpAddress.read? s).isSome = true ∨ IsHostNameText s)
    ∧ ((∀ c ∈ s.toList, c.isDigit = true ∨ c = '.') →
        (isListenAddress s = true ↔ IsV4Text s.toList))
    ∧ (isListenAddress s = true →
        (∀ c ∈ s.toList, c.isAlphanum = true ∨ c = '.' ∨ c = '-' ∨ c = '_' ∨ c = ':')
        ∧ (':' ∈ s.toList → IsV6Text s.toList)) := by
  refine ⟨isSome_read?_iff s, ?_, fun hdigits => ⟨isV4Text_of_digits hdigits, fun hv4 => ?_⟩,
    fun h => ⟨chars_of_isListenAddress h, isV6Text_of_colon h⟩⟩
  · rw [isListenAddress, Bool.or_eq_true, isHostName_iff]
  · exact isListenAddress_iff.2 (.inl hv4)

/-- Three numbers are no address, a mapped address is one, and a name may have labels of digits. -/
theorem listen_address_of_each_kind :
    ¬ IsV4Text "1.2.3".toList ∧ IsV6Text "::ffff:1.2.3.4".toList
    ∧ IsHostNameText "7.node_1.local" := by
  have hnumbers := listen_address_is_ip_or_host_name "1.2.3"
  have hmapped := listen_address_is_ip_or_host_name "::ffff:1.2.3.4"
  have hname := listen_address_is_ip_or_host_name "7.node_1.local"
  refine ⟨fun hv4 => ?_, ?_, ?_⟩
  · have haccepted : isListenAddress "1.2.3" = true := (hnumbers.2.2.1 (by simp)).2 hv4
    exact absurd haccepted (by decide)
  · exact (hmapped.2.2.2 (by decide)).2 (by decide)
  · have haccepted : isListenAddress "7.node_1.local" = true := by decide
    exact (hname.2.1.1 haccepted).resolve_left (by decide)

end Net
end RpcHost
