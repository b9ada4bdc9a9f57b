import RpcHost.Proofs.Entries
import RpcHost.Proofs.Json.Steps

/-!
# Ordered values

Every value that the reader makes is ordered: all objects inside it have strictly ascending keys, so
no key stands twice. Values that are put together from ordered parts are ordered again.
-/

namespace RpcHost
namespace Json

namespace Value

/-! ## Parts -/

theorem orderedItems_iff {items : List Value} : OrderedItems items ↔ ∀ v ∈ items, Ordered v := by
  induction items with
  | nil => simp [OrderedItems]
  | cons v vs ih => simp [OrderedItems, ih]

theorem orderedMembers_iff {members : List (String × Value)} :
    OrderedMembers members ↔ ∀ m ∈ members, Ordered m.2 := by
  induction members with
  | nil => simp [OrderedMembers]
  | cons m ms ih =>
      rcases m with ⟨key, v⟩
      simp [OrderedMembers, ih]

theorem ordered_object_iff {members : Members} :
    Ordered (.object members) ↔ Entries.Ascending members ∧ ∀ m ∈ members, Ordered m.2 := by
  rw [Ordered, orderedMembers_iff]

theorem ordered_noMembers : Ordered (.object []) :=
  ordered_object_iff.2 ⟨List.Pairwise.nil, by simp⟩

theorem Ordered.insert {members : Members} (h : Ordered (.object members)) (key : String)
    {v : Value} (hv : v.Ordered) : Ordered (.object (Entries.insert key v members)) := by
  rcases ordered_object_iff.1 h with ⟨hasc, hall⟩
  refine ordered_object_iff.2 ⟨Entries.ascending_insert key v hasc, ?_⟩
  intro m hm
  rcases Entries.mem_insert hm with rfl | hold
  · exact hv
  · exact hall m hold

theorem ordered_array_iff {items : List Value} :
    Ordered (.array items) ↔ ∀ v ∈ items, Ordered v := by
  rw [Ordered, orderedItems_iff]

end Value

/-! ## What the reader makes -/

theorem ordered_of_map {α : Type} {x : Except ReadError α} {f : α → Value × List Char}
    {v : Value} {rest : List Char} (hf : ∀ a, (f a).1.Ordered) (h : x.map f = .ok (v, rest)) :
    v.Ordered := by
  cases x with
  | error e => cases h
  | ok a =>
      have hfa : f a = (v, rest) := Except.ok.inj h
      have hv : (f a).1 = v := by rw [hfa]
      exact hv ▸ hf a

theorem ordered_of_scanScalar {cs rest : List Char} {v : Value}
    (h : scanScalar cs = .ok (v, rest)) : v.Ordered := by
  unfold scanScalar at h
  split at h
  · cases h
  · exact ordered_of_map (fun _ => by simp [Value.Ordered]) h
  · exact ordered_of_map (fun _ => by simp [Value.Ordered]) h
  · exact ordered_of_map (fun _ => by simp [Value.Ordered]) h
  · exact ordered_of_map (fun _ => by simp [Value.Ordered]) h
  · split at h
    · exact ordered_of_map (fun _ => by simp [Value.Ordered]) h
    · cases h

/-- With this much fuel the reader makes ordered values out of ordered parts. -/
structure OrderedUpTo (fuel : Nat) : Prop where
  value : ∀ {depth : Nat} {cs rest : List Char} {v : Value},
    scanValue fuel depth cs = .ok (v, rest) → v.Ordered
  items : ∀ {depth : Nat} {acc : List Value} {cs rest : List Char} {v : Value},
    (∀ item ∈ acc, item.Ordered) → scanItems fuel depth acc cs = .ok (v, rest) → v.Ordered
  members : ∀ {depth : Nat} {acc : Members} {cs rest : List Char} {v : Value},
    Value.Ordered (.object acc) → scanMembers fuel depth acc cs = .ok (v, rest) → v.Ordered

theorem orderedUpTo (fuel : Nat) : OrderedUpTo fuel := by
  -- The three readers call one another with less fuel, so all three go through one induction.
  induction fuel with
  | zero =>
      refine ⟨?_, ?_, ?_⟩
      · intro depth cs rest v h
        cases h
      · intro depth acc cs rest v _ h
        cases h
      · intro depth acc cs rest v _ h
        cases h
  | succ fuel ih =>
      refine ⟨?_, ?_, ?_⟩
      · intro depth cs rest v h
        cases valueStep_of_ok h with
        | noItems => exact Value.ordered_array_iff.2 (by simp)
        | items _ _ hitems => exact ih.items (by simp) hitems
        | noMembers => exact Value.ordered_noMembers
        | members _ _ hmembers => exact ih.members Value.ordered_noMembers hmembers
        | scalar hscalar => exact ordered_of_scanScalar hscalar
      · intro depth acc cs rest v hacc h
        cases itemsStep_of_ok h with
        | last hitem _ =>
            -- The items were gathered back to front.
            refine Value.ordered_array_iff.2 ?_
            intro item hmem
            rcases List.mem_cons.1 (List.mem_reverse.1 hmem) with rfl | hold
            · exact ih.value hitem
            · exact hacc item hold
        | next hitem _ hmore =>
            refine ih.items ?_ hmore
            intro item hmem
            rcases List.mem_cons.1 hmem with rfl | hold
            · exact ih.value hitem
            · exact hacc item hold
      · intro depth acc cs rest v hacc h
        cases membersStep_of_ok h with
        | last _ hvalue _ => exact hacc.insert _ (ih.value hvalue)
        | next _ hvalue _ hmore => exact ih.members (hacc.insert _ (ih.value hvalue)) hmore

theorem ordered_of_read {cs : List Char} {v : Value} (h : read cs = .ok v) : v.Ordered := by
  unfold read finish at h
  split at h
  · cases h
  · rename_i value rest hscan
    split at h
    · cases h
      exact (orderedUpTo _).value hscan
    · cases h

theorem ordered_of_readBytes {bytes : Bytes} {v : Value} (h : readBytes bytes = .ok v) :
    v.Ordered := by
  unfold readBytes at h
  split at h
  · exact ordered_of_read h
  · cases h

end Json
end RpcHost
