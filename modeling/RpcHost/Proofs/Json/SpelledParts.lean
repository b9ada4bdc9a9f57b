import RpcHost.Proofs.Json.Parts
import RpcHost.Proofs.Json.Spelling

/-!
# Parts of a spelling

Between the brackets of a text that spells an object, each of its members stands once, in some order
(`OpensWith.memberTexts`), and so no key stands twice (`OpensWith.noRepeats`). Members that are
written in an order of their own spell the object in which they are sorted (`spells_ofMembers`).
-/

namespace RpcHost
namespace Json

variable {depth : Nat} {cs rest : List Char} {v : Value} {members : Members}

/-- After any blanks the text spells the value, and may go on after it. -/
def OpensWith (v : Value) (cs : List Char) : Prop :=
  ∃ before t more, Blanks before ∧ Spells v t ∧ cs = before ++ t ++ more

theorem opensWith_of_spelledBy {text : String} (h : SpelledBy v text) :
    OpensWith v text.toList := by
  rcases h with ⟨before, t, after, hbefore, hv, _, htext⟩
  exact ⟨before, t, after, hbefore, hv, htext⟩

theorem OpensWith.skipBlanks (h : OpensWith v cs) :
    ∃ t more, Spells v t ∧ skipBlanks cs = t ++ more := by
  rcases h with ⟨before, t, more, hbefore, hv, rfl⟩
  refine ⟨t, more, hv, ?_⟩
  rw [List.append_assoc, skipBlanks_append_of_blank hbefore, skipBlanks_of_spells hv]

/-! ## Members -/

theorem scanAny_of_spells {before t after : List Char} (hbefore : Blanks before) (hv : Spells v t)
    (hafter : Blanks after) (hfits : v.Fits depth) (hrest : StopsNumber rest) :
    scanAny depth (before ++ t ++ after ++ rest) = .ok (v, after ++ rest) := by
  refine (readsBack _).padded hbefore hv hafter hfits hrest ?_
  simp only [enoughFuel, List.length_append]
  omega

theorem membersRead_of_spells {order : List (String × Value)} {t : List Char}
    (h : SpellsMembers order t) (hfits : ∀ m ∈ order, m.2.Fits depth) (rest : List Char) :
    ∃ parts, MembersRead depth (t ++ rest) parts rest ∧ memberValues parts = order
      ∧ ∀ p ∈ parts, OpensWith p.2.value p.2.text := by
  -- Behind each value stands a comma or the brace, at which any number ends.
  induction order generalizing t with
  | nil => cases h
  | cons m order ih =>
      have hfirst := hfits m List.mem_cons_self
      cases h with
      | @last key v keyText before t after hkey hbefore hv hafter =>
          have hvalue := scanAny_of_spells hbefore hv hafter hfirst
            (stopsNumber_cons (c := '}') (by decide) rest)
          have hread := MembersRead.last (scanKey_of_spells hkey _) hvalue
            (skipBlanks_token rfl hafter rest)
          refine ⟨_, by simpa using hread, rfl, List.forall_mem_singleton.2 ?_⟩
          exact ⟨before, t, after ++ '}' :: rest, hbefore, hv, by simp⟩
      | @next key v ms keyText before t after more hkey hbefore hv hafter hmore =>
          have hvalue := scanAny_of_spells hbefore hv hafter hfirst
            (stopsNumber_cons (c := ',') (by decide) (more ++ rest))
          rcases ih hmore (fun m hm => hfits m (List.mem_cons_of_mem _ hm)) with
            ⟨parts, hparts, hvalues, hopens⟩
          have hread := MembersRead.next (scanKey_of_spells hkey _) hvalue
            (skipBlanks_token rfl hafter (more ++ rest)) hparts
          refine ⟨_, by simpa using hread, ?_, List.forall_mem_cons.2 ⟨?_, hopens⟩⟩
          · rw [← hvalues]
            rfl
          · exact ⟨before, t, after ++ ',' :: (more ++ rest), hbefore, hv, by simp⟩

/-- The members in a text that spells an object, in the order in which they stand there. -/
theorem OpensWith.memberTexts (h : OpensWith (.object members) cs)
    (hfits : (Value.object members).Fits depth) :
    ∃ parts : List (String × Part), (memberValues parts).Perm members
      ∧ (∀ p ∈ parts, OpensWith p.2.value p.2.text)
      ∧ memberTexts cs = parts.map fun p => (p.1, p.2.text) := by
  rcases h.skipBlanks with ⟨t, more, hspells, hskip⟩
  cases hspells with
  | @noMembers blanks hblanks =>
      refine ⟨[], .nil, by simp, ?_⟩
      have hclose : Json.skipBlanks (blanks ++ '}' :: more) = '}' :: more :=
        skipBlanks_token rfl hblanks more
      have hkey : scanKey ('}' :: more) = .error .malformed := rfl
      simp [Json.memberTexts, hskip, memberTextsFrom, hclose, hkey]
  | @members _ order body horder hmembers =>
      rcases hfits.members with ⟨_, _, hall⟩
      rcases membersRead_of_spells hmembers (fun m hm => hall m (horder.mem_iff.1 hm)) more with
        ⟨parts, hparts, hvalues, hopens⟩
      exact ⟨parts, hvalues ▸ horder, hopens, memberTexts_of_membersRead hskip hparts⟩

theorem OpensWith.noRepeats (h : OpensWith (.object members) cs)
    (hfits : (Value.object members).Fits depth) (layout : Layout) : NoRepeats layout cs := by
  rcases h.memberTexts hfits with ⟨parts, hperm, _, htexts⟩
  have hkeys : (Json.memberTexts cs).map (·.1) = Entries.keys (memberValues parts) := by
    simp [htexts, memberValues, Entries.keys]
  have hnodup : (Entries.keys (memberValues parts)).Nodup :=
    (hperm.map _).nodup_iff.2 hfits.members.2.1.nodup_keys
  intro f _
  rw [hkeys]
  exact List.nodup_iff_count.1 hnodup f.name

theorem OpensWith.of_mem_memberTexts (h : OpensWith (.object members) cs)
    (hfits : (Value.object members).Fits depth) {m : String × List Char}
    (hm : m ∈ Json.memberTexts cs) : ∃ v, (m.1, v) ∈ members ∧ OpensWith v m.2 := by
  rcases h.memberTexts hfits with ⟨parts, hperm, hopens, htexts⟩
  rw [htexts] at hm
  rcases List.mem_map.1 hm with ⟨p, hp, rfl⟩
  exact ⟨p.2.value, hperm.mem_iff.1 (List.mem_map.2 ⟨p, hp, rfl⟩), hopens p hp⟩

/-- An object has no items. -/
theorem OpensWith.itemTexts (h : OpensWith (.object members) cs) : itemTexts cs = [] := by
  rcases h.skipBlanks with ⟨t, more, hspells, hskip⟩
  cases hspells <;> simp [Json.itemTexts, hskip]

/-! ## Written in another order -/

/-- The text has the members in their own order, the value has them sorted. -/
theorem spells_ofMembers {order written : List (String × Value)}
    (hkeys : (Entries.keys order).Nodup) (h : WrittenAs order written) :
    Spells (.ofMembers order) (Value.object written).text := by
  have hperm := (Entries.perm_ofList hkeys).symm
  cases h with
  | nil => exact .noMembers blanks_nil
  | @cons m w order written hfirst hrest =>
      rcases m with ⟨key, v⟩
      rcases w with ⟨_, w⟩
      rcases hfirst with ⟨rfl, hv⟩
      rw [Value.text]
      exact .members hperm (spellsMembers_writtenAs hrest _ hv)

theorem spelledBy_ofMembers {order written : List (String × Value)}
    (hkeys : (Entries.keys order).Nodup) (h : WrittenAs order written) :
    SpelledBy (.ofMembers order) (Value.object written).render := by
  refine ⟨[], _, [], blanks_nil, spells_ofMembers hkeys h, blanks_nil, ?_⟩
  simp [Value.render]

theorem wordNumbers_ofMembers {l : List (String × Value)} (hkeys : (Entries.keys l).Nodup) :
    (Value.ofMembers l).WordNumbers ↔ Value.WordNumbersMembers l := by
  rw [Value.ofMembers, Value.WordNumbers, Value.wordNumbersMembers_iff,
    Value.wordNumbersMembers_iff]
  exact forall_congr' fun m => by rw [(Entries.perm_ofList hkeys).mem_iff]

end Json
end RpcHost
