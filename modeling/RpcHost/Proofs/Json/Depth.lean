import RpcHost.Proofs.Json.Spelling

/-!
# Depth and the reader

The reader counts the containers around each value. So no value that it makes nests deeper than it
was allowed to go, and with more room it reads the same. A text that spells a value is therefore
read just if the value does not nest deeper than the reader goes: `readString_isOk_iff_depth`.
-/

namespace RpcHost
namespace Json

variable {fuel depth : Nat} {cs rest : List Char} {v : Value}

/-! ## Depth of parts -/

namespace Value

theorem depth_of_not_isContainer (h : v.isContainer = false) : v.depth = 0 := by
  cases v with
  | array items => cases h
  | object members => cases h
  | _ => rfl

theorem depth_array_le_iff {items : List Value} {depth : Nat} :
    (Value.array items).depth ≤ depth + 1 ↔ ∀ v ∈ items, v.depth ≤ depth := by
  rw [Value.depth, Nat.add_le_add_iff_right, depthItems_le_iff]

theorem depth_object_le_iff {members : Members} {depth : Nat} :
    (Value.object members).depth ≤ depth + 1 ↔ ∀ m ∈ members, m.2.depth ≤ depth := by
  rw [Value.depth, Nat.add_le_add_iff_right, depthMembers_le_iff]

end Value

/-! ## Room for containers -/

/-- With this much fuel, what is read with some room fits into it and is read with more room too. -/
structure NeedsRoom (fuel : Nat) : Prop where
  value : ∀ {depth : Nat} {cs rest : List Char} {v : Value},
    scanValue fuel depth cs = .ok (v, rest) →
    v.depth ≤ depth ∧ ∀ {greater : Nat}, depth ≤ greater →
      scanValue fuel greater cs = .ok (v, rest)
  items : ∀ {depth : Nat} {acc : List Value} {cs rest : List Char} {v : Value},
    (∀ item ∈ acc, item.depth ≤ depth) → scanItems fuel depth acc cs = .ok (v, rest) →
    v.depth ≤ depth + 1 ∧ ∀ {greater : Nat}, depth ≤ greater →
      scanItems fuel greater acc cs = .ok (v, rest)
  members : ∀ {depth : Nat} {acc : Members} {cs rest : List Char} {v : Value},
    (∀ m ∈ acc, m.2.depth ≤ depth) → scanMembers fuel depth acc cs = .ok (v, rest) →
    v.depth ≤ depth + 1 ∧ ∀ {greater : Nat}, depth ≤ greater →
      scanMembers fuel greater acc cs = .ok (v, rest)

theorem needsRoom_value (ih : NeedsRoom fuel) (h : scanValue (fuel + 1) depth cs = .ok (v, rest)) :
    v.depth ≤ depth ∧ ∀ {greater : Nat}, depth ≤ greater →
      scanValue (fuel + 1) greater cs = .ok (v, rest) := by
  cases valueStep_of_ok h with
  | noItems hopen hdepth hclose =>
      refine ⟨Nat.pos_of_ne_zero hdepth, ?_⟩
      intro greater hle
      exact scanValue_of_step (.noItems hopen (by omega) hclose)
  | items hopen hdepth hitems =>
      -- One level is taken by the brackets, and the items have what is left.
      rcases ih.items (by simp) hitems with ⟨hbound, hmore⟩
      refine ⟨by omega, ?_⟩
      intro greater hle
      exact scanValue_of_step (.items hopen (by omega) (hmore (by omega)))
  | noMembers hopen hdepth hclose =>
      refine ⟨Nat.pos_of_ne_zero hdepth, ?_⟩
      intro greater hle
      exact scanValue_of_step (.noMembers hopen (by omega) hclose)
  | members hopen hdepth hmembers =>
      rcases ih.members (by simp) hmembers with ⟨hbound, hmore⟩
      refine ⟨by omega, ?_⟩
      intro greater hle
      exact scanValue_of_step (.members hopen (by omega) (hmore (by omega)))
  | scalar hscalar =>
      have hflat : v.depth = 0 := Value.depth_of_not_isContainer (isContainer_of_scanScalar hscalar)
      refine ⟨by omega, ?_⟩
      intro greater _
      exact scanValue_of_step (.scalar hscalar)

theorem needsRoom_items (ih : NeedsRoom fuel) {acc : List Value}
    (hacc : ∀ item ∈ acc, item.depth ≤ depth)
    (h : scanItems (fuel + 1) depth acc cs = .ok (v, rest)) :
    v.depth ≤ depth + 1 ∧ ∀ {greater : Nat}, depth ≤ greater →
      scanItems (fuel + 1) greater acc cs = .ok (v, rest) := by
  cases itemsStep_of_ok h with
  | last hitem hclose =>
      rcases ih.value hitem with ⟨hbound, hmore⟩
      refine ⟨Value.depth_array_le_iff.2 ?_, ?_⟩
      · intro item hmem
        rcases List.mem_cons.1 (List.mem_reverse.1 hmem) with rfl | hold
        · exact hbound
        · exact hacc item hold
      · intro greater hle
        exact scanItems_of_step (.last (hmore hle) hclose)
  | next hitem hcomma hothers =>
      rcases ih.value hitem with ⟨hbound, hmore⟩
      rcases ih.items (List.forall_mem_cons.2 ⟨hbound, hacc⟩) hothers with ⟨hwhole, hrest⟩
      refine ⟨hwhole, ?_⟩
      intro greater hle
      exact scanItems_of_step (.next (hmore hle) hcomma (hrest hle))

theorem needsRoom_members (ih : NeedsRoom fuel) {acc : Members}
    (hacc : ∀ m ∈ acc, m.2.depth ≤ depth)
    (h : scanMembers (fuel + 1) depth acc cs = .ok (v, rest)) :
    v.depth ≤ depth + 1 ∧ ∀ {greater : Nat}, depth ≤ greater →
      scanMembers (fuel + 1) greater acc cs = .ok (v, rest) := by
  have hinsert : ∀ (key : String) {w : Value}, w.depth ≤ depth →
      ∀ m ∈ Entries.insert key w acc, m.2.depth ≤ depth := by
    intro key w hw m hmem
    rcases Entries.mem_insert hmem with rfl | hold
    · exact hw
    · exact hacc m hold
  cases membersStep_of_ok h with
  | last hkey hvalue hclose =>
      rcases ih.value hvalue with ⟨hbound, hmore⟩
      refine ⟨Value.depth_object_le_iff.2 (hinsert _ hbound), ?_⟩
      intro greater hle
      exact scanMembers_of_step (.last hkey (hmore hle) hclose)
  | next hkey hvalue hcomma hothers =>
      rcases ih.value hvalue with ⟨hbound, hmore⟩
      rcases ih.members (hinsert _ hbound) hothers with ⟨hwhole, hrest⟩
      refine ⟨hwhole, ?_⟩
      intro greater hle
      exact scanMembers_of_step (.next hkey (hmore hle) hcomma (hrest hle))

theorem needsRoom (fuel : Nat) : NeedsRoom fuel := by
  -- The three readers call one another with less fuel, so all three go through one induction.
  induction fuel with
  | zero =>
      refine ⟨?_, ?_, ?_⟩
      · intro depth cs rest v h
        cases h
      · intro depth acc cs rest v _ h
        cases h
      · intro depth acc cs rest v _ h
        cases h
  | succ fuel ih =>
      refine ⟨?_, ?_, ?_⟩
      · intro depth cs rest v h
        exact needsRoom_value ih h
      · intro depth acc cs rest v hacc h
        exact needsRoom_items ih hacc h
      · intro depth acc cs rest v hacc h
        exact needsRoom_members ih hacc h

/-! ## Whole texts -/

theorem depth_of_readString {text : String} (h : readString text = .ok v) :
    v.depth ≤ greatestDepth := by
  rcases read_eq_ok_iff.1 h with ⟨rest, hscan, _⟩
  exact ((needsRoom _).value hscan).1

/-- What is read of a spelling, at all, is the value that is spelled. -/
theorem eq_of_readString {text : String} {w : Value} (hordered : v.Ordered)
    (hwords : v.WordNumbers) (h : SpelledBy v text) (hread : readString text = .ok w) : w = v := by
  rcases read_eq_ok_iff.1 hread with ⟨rest, hscan, _⟩
  -- With room for both, the text is read as what it is read as and as what it spells.
  have hfits : v.Fits (max greatestDepth v.depth) := ⟨hordered, hwords, Nat.le_max_right _ _⟩
  rcases scanValue_of_spelledBy hfits h with ⟨after, _, hspelled⟩
  have hroom := ((needsRoom _).value hscan).2 (Nat.le_max_left greatestDepth v.depth)
  rw [hspelled] at hroom
  exact (congrArg Prod.fst (Except.ok.inj hroom)).symm

/-- A spelling is read back as long as the value fits, and is not read at all otherwise. -/
theorem readString_isOk_iff_depth {text : String} (hordered : v.Ordered) (hwords : v.WordNumbers)
    (h : SpelledBy v text) :
    (readString text = .ok v ↔ v.depth ≤ greatestDepth)
    ∧ ((∃ e, readString text = .error e) ↔ greatestDepth < v.depth) := by
  have hback : v.depth ≤ greatestDepth → readString text = .ok v := by
    intro hdepth
    exact readString_of_spelledBy ⟨hordered, hwords, hdepth⟩ h
  refine ⟨⟨depth_of_readString, hback⟩, ?_, ?_⟩
  · rintro ⟨e, he⟩
    by_contra hle
    rw [hback (by omega)] at he
    cases he
  · intro hdeep
    cases hread : readString text with
    | error e => exact ⟨e, rfl⟩
    | ok w =>
        have hsame := eq_of_readString hordered hwords h hread
        have hbound := depth_of_readString hread
        rw [hsame] at hbound
        omega

end Json
end RpcHost
