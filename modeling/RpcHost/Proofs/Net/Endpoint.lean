import Mathlib
import RpcHost.Config.Basic
import RpcHost.Proofs.Net.ListenAddress

/-!
# Reading endpoints back

An endpoint is an address with a colon and a port behind it. No part of an IPv4 address goes on with
a colon, so its endpoint is read back. An IPv6 address goes on with one, and so its endpoint is only
read with brackets around the address. The address itself may be spelt in any of its forms: all that
is used of it is that what is put behind it leaves its reader alone (`Ignores`). The main statement
is `bind_address_is_read_back_iff_v4`.
-/

namespace RpcHost
namespace Net

variable {α β : Type} {cs tail : List Char} {c : Char} {s : String}

/-! ## What stands behind an address -/

/-- With more behind a text the reader takes the same from its front. -/
def Ignores (tail : List Char) (read : List Char → Read α) : Prop :=
  ∀ cs, read (cs ++ tail) = (read cs).map fun r => (r.1, r.2 ++ tail)

theorem Ignores.pure (a : α) : Ignores tail fun cs => some (a, cs) :=
  fun _ => rfl

theorem Ignores.bind {f : List Char → Read α} {g : α → List Char → Read β} (hf : Ignores tail f)
    (hg : ∀ a, Ignores tail (g a)) : Ignores tail fun cs => (f cs).bind fun r => g r.1 r.2 := by
  intro cs
  have hfirst := hf cs
  cases hread : f cs with
  | none => simp [hfirst, hread]
  | some r => simp [hfirst, hread, hg r.1 r.2]

theorem Ignores.separated {read : List Char → Read α} {separator : Char}
    (h : Ignores (c :: tail) read) (hc : c ≠ separator) (first : Bool) :
    Ignores (c :: tail) (separated separator first read) := by
  intro cs
  cases first with
  | true => exact h cs
  | false =>
      cases cs with
      | nil => exact if_neg hc
      | cons d cs =>
          by_cases hd : d = separator
          · simpa [Net.separated, hd] using h cs
          · simp [Net.separated, hd]

theorem splitDigits_append {radix : Nat} (hc : (digitValue? radix c).isSome = false)
    (cs tail : List Char) :
    splitDigits radix (cs ++ c :: tail) =
      ((splitDigits radix cs).1, (splitDigits radix cs).2 ++ c :: tail) := by
  rcases hsplit : splitDigits radix cs with ⟨ds, rest⟩
  rcases splitDigits_eq_iff.1 hsplit with ⟨rfl, hds, hrest⟩
  refine splitDigits_eq_iff.2 ⟨List.append_assoc _ _ _, hds, ?_⟩
  cases rest with
  | nil =>
      rintro d ⟨⟩
      exact hc
  | cons d rest => exact hrest

theorem ignores_readByte (hdigit : c.isDigit = false) : Ignores (c :: tail) readByte := by
  intro cs
  have hc : (digitValue? 10 c).isSome = false := by
    rw [isSome_digitValue?_ten, hdigit]
  simp only [readByte, splitDigits_append hc]
  split_ifs <;> rfl

theorem ignores_readGroup (hdigit : ¬ IsHexDigit c) : Ignores (c :: tail) readGroup := by
  intro cs
  have hc : (digitValue? 16 c).isSome = false := by
    rwa [← Bool.not_eq_true, isSome_digitValue?_sixteen]
  simp only [readGroup, splitDigits_append hc]
  split_ifs <;> rfl

theorem ignores_readV4 (hdigit : c.isDigit = false) (hdot : c ≠ '.') :
    Ignores (c :: tail) readV4 := by
  have hbyte : Ignores (c :: tail) readByte := ignores_readByte hdigit
  have hnext := hbyte.separated hdot false
  exact hbyte.bind fun a => hnext.bind fun b => hnext.bind fun c => hnext.bind fun d =>
    .pure [a, b, c, d]

/-! ## What closes an IPv6 address -/

/-- A character with which no group, no IPv4 address and no further group begins. -/
structure Closes (c : Char) : Prop where
  digit : ¬ IsHexDigit c
  dot : c ≠ '.'
  colon : c ≠ ':'

theorem closes_bracket : Closes ']' := by
  refine ⟨?_, by decide, by decide⟩
  rw [← isSome_digitValue?_sixteen]
  decide

theorem Closes.isDigit (h : Closes c) : c.isDigit = false := by
  by_contra hdigit
  exact h.digit (.inl (by simpa using hdigit))

theorem readGroups_append (h : Closes c) (room : Nat) (first : Bool) (cs tail : List Char) :
    readGroups room first (cs ++ c :: tail) =
      ((readGroups room first cs).1, (readGroups room first cs).2 ++ c :: tail) := by
  -- A part is read first, as an address or as a group, and then the parts that there is room for.
  induction room generalizing first cs with
  | zero => rfl
  | succ room ih =>
      have haddress : Ignores (c :: tail) (separated ':' first readV4) :=
        (ignores_readV4 h.isDigit h.dot).separated h.colon first
      have hgroup : Ignores (c :: tail) (separated ':' first readGroup) :=
        (ignores_readGroup h.digit).separated h.colon first
      rw [readGroups, readGroups, hgroup cs]
      have hfound : (if room = 0 then none else separated ':' first readV4 (cs ++ c :: tail)) =
          (if room = 0 then none else separated ':' first readV4 cs).map
            fun r => (r.1, r.2 ++ c :: tail) := by
        split_ifs
        · rfl
        · exact haddress cs
      rw [hfound]
      cases hread : (if room = 0 then none else separated ':' first readV4 cs) with
      | some r =>
          -- What is read as an address has four bytes, and so it ends the parts.
          rcases r with ⟨bytes, after⟩
          rcases separated_eq_some_iff.1 (Option.ite_none_left_eq_some.1 hread).2 with
            ⟨more, rfl, hmore⟩
          rcases readV4_eq_some hmore with ⟨a, b, c, d, _, rfl, _⟩
          rfl
      | none =>
          cases separated ':' first readGroup cs with
          | none => rfl
          | some r => simp [ih]

/-- The two colons that stand for groups left out. -/
def readColons : List Char → Read Unit :=
  separated ':' false (separated ':' false fun cs => some ((), cs))

theorem readColons_eq_some_iff {rest : List Char} :
    readColons cs = some ((), rest) ↔ cs = ':' :: ':' :: rest := by
  simp [readColons, separated_eq_some_iff, separation]

/-- The reader of IPv6 addresses with the two colons as a part of their own. -/
theorem readV6_eq (cs : List Char) :
    readV6 cs =
      let ((front, dotted), rest) := readGroups 8 true cs
      if front.length = 8 then some (front, rest)
      else if dotted then none
      else (readColons rest).map fun r =>
        let ((back, _), rest) := readGroups (7 - front.length) true r.2
        (front ++ List.replicate (8 - front.length - back.length) 0 ++ back, rest) := by
  rcases hfront : readGroups 8 true cs with ⟨⟨front, dotted⟩, rest⟩
  simp only [readV6, hfront]
  split_ifs
  · rfl
  · rfl
  · cases hcolons : readColons rest with
    | some r =>
        rw [readColons_eq_some_iff.1 hcolons]
        rfl
    | none =>
        split
        · rw [readColons_eq_some_iff.2 rfl] at hcolons
          cases hcolons
        · rfl

theorem ignores_readV6 (h : Closes c) : Ignores (c :: tail) readV6 := by
  have hcolons : Ignores (c :: tail) readColons :=
    ((Ignores.pure ()).separated h.colon false).separated h.colon false
  intro cs
  simp only [readV6_eq, readGroups_append h, hcolons _]
  split_ifs
  · rfl
  · rfl
  · cases readColons (readGroups 8 true cs).2 with
    | none => rfl
    | some r => simp [readGroups_append h]

/-! ## Addresses -/

theorem whole_eq_some_iff {read : Read α} {a : α} : whole read = some a ↔ read = some (a, []) := by
  rcases read with _ | ⟨b, _ | ⟨c, rest⟩⟩ <;> simp [whole]

/-- An address is read to the end of the text, and as IPv6 only where it is not IPv4. -/
theorem read?_eq_some_iff {ip : IpAddress} :
    IpAddress.read? s = some ip ↔
      (∃ bytes, ip = .v4 bytes ∧ readV4 s.toList = some (bytes, []))
      ∨ ∃ groups, ip = .v6 groups ∧ readV4 s.toList = none
        ∧ readV6 s.toList = some (groups, []) := by
  cases hv4 : readV4 s.toList with
  | none =>
      simp only [IpAddress.read?, hv4, Option.map_eq_some_iff, whole_eq_some_iff]
      simp [and_comm, eq_comm]
  | some r =>
      simp only [IpAddress.read?, hv4, Option.ite_none_right_eq_some]
      simp [and_comm, eq_comm, Prod.ext_iff]

/-! ## Endpoints -/

/-- What stands behind an address. -/
def portText (port : UInt16) : List Char :=
  ':' :: Nat.toDigits 10 port.toNat

theorem toList_endpoint (address : String) (port : UInt16) :
    (endpoint address port).toList = address.toList ++ portText port := by
  simp [endpoint, portText, Nat.toList_repr]

@[simp] theorem readPort_portText (port : UInt16) :
    separated ':' false readPort (portText port) = some (port, []) := by
  have hsplit : splitDigits 10 (Nat.toDigits 10 port.toNat) =
      (Nat.toDigits 10 port.toNat, []) := by
    have hends : ∀ c ∈ ([] : List Char).head?, c.isDigit = false := by
      simp
    simpa using splitDigits_toDigits port.toNat hends
  have hport : ¬ (Nat.toDigits 10 port.toNat = [] ∨ 65535 < port.toNat) := by
    have hsmall := port.toNat_lt
    exact not_or.2 ⟨Nat.toDigits_ne_nil, by omega⟩
  have hread : readPort (Nat.toDigits 10 port.toNat) = some (port, []) := by
    simp only [readPort, hsplit, valueOf_toDigits, if_neg hport, UInt16.ofNat_toNat]
  exact hread

theorem readV4_append_portText (cs : List Char) (port : UInt16) :
    readV4 (cs ++ portText port) = (readV4 cs).map fun r => (r.1, r.2 ++ portText port) :=
  ignores_readV4 (by decide) (by decide) cs

theorem read?_endpoint_v4 {bytes : List Nat} (h : readV4 s.toList = some (bytes, []))
    (port : UInt16) : SocketAddress.read? (endpoint s port) = some ⟨.v4 bytes, port⟩ := by
  have haddress : readV4 (endpoint s port).toList = some (bytes, portText port) := by
    rw [toList_endpoint, readV4_append_portText, h]
    rfl
  have hread : readV4Endpoint (endpoint s port).toList = some (⟨.v4 bytes, port⟩, []) := by
    simp [readV4Endpoint, haddress]
  simp [SocketAddress.read?, hread, whole]

/-- An IPv6 address does not begin with a bracket. -/
theorem read?_endpoint_v6 {groups : List Nat} (hv4 : readV4 s.toList = none)
    (h : readV6 s.toList = some (groups, [])) (port : UInt16) :
    SocketAddress.read? (endpoint s port) = none := by
  have haddress : readV4 (endpoint s port).toList = none := by
    rw [toList_endpoint, readV4_append_portText, hv4]
    rfl
  have hfirst : ∀ cs, (endpoint s port).toList ≠ '[' :: cs := by
    intro cs hcs
    have hchars := chars_of_isV6Text (exists_readV6_iff.1 ⟨groups, h⟩)
    rw [toList_endpoint] at hcs
    cases htext : s.toList with
    | nil =>
        rw [htext] at hcs
        cases hcs
    | cons c rest =>
        rw [htext] at hcs hchars
        cases hcs
        simpa [IsHexDigit] using hchars '[' List.mem_cons_self
  have hread : readV6Endpoint (endpoint s port).toList = none := by
    unfold readV6Endpoint
    split
    · rename_i cs hcs
      exact absurd hcs (hfirst cs)
    · rfl
  simp [SocketAddress.read?, readV4Endpoint, haddress, hread, whole]

theorem read?_endpoint_brackets {groups : List Nat} (h : readV6 s.toList = some (groups, []))
    (port : UInt16) :
    SocketAddress.read? (endpoint ("[" ++ s ++ "]") port) = some ⟨.v6 groups, port⟩ := by
  have htext : (endpoint ("[" ++ s ++ "]") port).toList =
      '[' :: (s.toList ++ ']' :: portText port) := by
    simp [toList_endpoint]
  have haddress : readV6 (s.toList ++ ']' :: portText port) =
      some (groups, ']' :: portText port) := by
    rw [ignores_readV6 closes_bracket, h]
    rfl
  have hread : readV6Endpoint ('[' :: (s.toList ++ ']' :: portText port)) =
      some (⟨.v6 groups, port⟩, []) := by
    simp [readV6Endpoint, haddress, readScope]
  have hv4 : readV4Endpoint ('[' :: (s.toList ++ ']' :: portText port)) = none := rfl
  simp [SocketAddress.read?, htext, hv4, hread, whole]

end Net

namespace Config

open Net

/-- However an IP address is spelt and whatever the port is, the bind address is read back as these
two just if the address is IPv4. For an IPv6 address it is not read at all, and all that it lacks is
the brackets. -/
theorem bind_address_is_read_back_iff_v4 (c : Config) (ip : IpAddress)
    (h : IpAddress.read? c.control.listenAddress = some ip) :
    (SocketAddress.read? c.serverSettings.bindAddress = some ⟨ip, c.control.listenPort⟩ ↔
      ∃ bytes, ip = .v4 bytes)
    ∧ ((∃ groups, ip = .v6 groups) →
        SocketAddress.read? c.serverSettings.bindAddress = none
        ∧ SocketAddress.read? (endpoint ("[" ++ c.control.listenAddress ++ "]")
            c.control.listenPort) = some ⟨ip, c.control.listenPort⟩) := by
  rcases read?_eq_some_iff.1 h with ⟨bytes, rfl, hv4⟩ | ⟨groups, rfl, hv4, hv6⟩
  · refine ⟨⟨fun _ => ⟨bytes, rfl⟩, fun _ => read?_endpoint_v4 hv4 _⟩, ?_⟩
    rintro ⟨groups, ⟨⟩⟩
  · have hnone : SocketAddress.read? c.serverSettings.bindAddress = none :=
      read?_endpoint_v6 hv4 hv6 _
    refine ⟨⟨fun hread => ?_, ?_⟩, fun _ => ⟨hnone, read?_endpoint_brackets hv6 _⟩⟩
    · rw [hnone] at hread
      cases hread
    · rintro ⟨bytes, ⟨⟩⟩

def listeningOn (address : String) (port : UInt16) : Config :=
  { control := { listenAddress := address, listenPort := port } }

/-- The second address shows its last two groups as bytes, and it is not IPv4 for that. -/
theorem bind_address_of_bytes_is_read_back :
    SocketAddress.read? (listeningOn "10.0.0.7" 10081).serverSettings.bindAddress
      = some ⟨.v4 [10, 0, 0, 7], 10081⟩
    ∧ SocketAddress.read? (listeningOn "::ffff:1.2.3.4" 0).serverSettings.bindAddress = none
    ∧ SocketAddress.read? "[::ffff:1.2.3.4]:0"
      = some ⟨.v6 [0, 0, 0, 0, 0, 65535, 258, 772], 0⟩ := by
  have hbytes : IpAddress.read? "10.0.0.7" = some (.v4 [10, 0, 0, 7]) := by
    cbv
  have hgroups : IpAddress.read? "::ffff:1.2.3.4" =
      some (.v6 [0, 0, 0, 0, 0, 65535, 258, 772]) := by
    cbv
  have hv4 := bind_address_is_read_back_iff_v4 (listeningOn "10.0.0.7" 10081) _ hbytes
  have hv6 := bind_address_is_read_back_iff_v4 (listeningOn "::ffff:1.2.3.4" 0) _ hgroups
  exact ⟨hv4.1.2 ⟨_, rfl⟩, hv6.2 ⟨_, rfl⟩⟩

/-- The loopback address is valid, and the text to bind it is no socket address. -/
theorem loopback_bind_address_is_not_read :
    (listeningOn "::1" 10081).validate = .ok ()
    ∧ IpAddress.read? "::1" = some (.v6 [0, 0, 0, 0, 0, 0, 0, 1])
    ∧ (listeningOn "::1" 10081).serverSettings.bindAddress = "::1:10081"
    ∧ SocketAddress.read? (listeningOn "::1" 10081).serverSettings.bindAddress = none := by
  refine ⟨?_, ?_, ?_, ?_⟩ <;> cbv

end Config
end RpcHost
