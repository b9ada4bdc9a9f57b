import RpcHost.Entries

/-!
# Laws of entries

A list of entries is a finite map. `find?_insert` says what an insertion changes, `ascending_insert`
and `ascending_ofList` that the order of keys is kept, and `eq_of_find?_eq` that two lists in
ascending order are equal once every key finds the same in both.
-/

namespace RpcHost
namespace Entries

variable {α β : Type _} {key : String} {a : α} {entries : Entries α}

/-! ## Looking up -/

theorem find?_insert (key : String) (a : α) (other : String) (entries : Entries α) :
    find? other (insert key a entries) = if other = key then some a else find? other entries := by
  by_cases h : other = key
  · subst h
    simp
  · simp [h]

theorem find?_eq_none_iff : find? key entries = none ↔ key ∉ keys entries := by
  induction entries with
  | nil => simp [keys]
  | cons e rest ih =>
      rcases e with ⟨k, b⟩
      by_cases h : key = k
      · simp [keys, h]
      · simpa [keys, h] using ih

theorem mem_of_find? (h : find? key entries = some a) : (key, a) ∈ entries := by
  induction entries with
  | nil => cases h
  | cons e rest ih =>
      rcases e with ⟨k, b⟩
      by_cases hkey : key = k
      · subst hkey
        have hab : b = a := by simpa using h
        exact hab ▸ List.mem_cons_self
      · exact List.mem_cons_of_mem _ (ih (by simpa [hkey] using h))

theorem mem_keys_iff : key ∈ keys entries ↔ (find? key entries).isSome := by
  rw [← Option.ne_none_iff_isSome, Ne, find?_eq_none_iff, Decidable.not_not]

theorem find?_foldl_insert (key : String) (l : List (String × α)) (entries : Entries α) :
    find? key (l.foldl (fun acc e => insert e.1 e.2 acc) entries) =
      (find? key (ofList l)).or (find? key entries) := by
  -- Every insertion changes what the rest is inserted into.
  induction l generalizing entries with
  | nil => rfl
  | cons e rest ih =>
      rw [List.foldl_cons, ofList, List.foldl_cons, ih, ih, find?_insert, find?_insert]
      split <;> simp

@[simp] theorem find?_map (f : α → β) (key : String) (entries : Entries α) :
    find? key (entries.map fun e => (e.1, f e.2)) = (find? key entries).map f := by
  induction entries with
  | nil => rfl
  | cons e rest ih =>
      rcases e with ⟨k, b⟩
      by_cases h : key = k <;> simp [h, ih]

/-- Sorting a list does not change what is found under a key that does not stand twice. -/
theorem find?_ofList_of_count {l : List (String × α)} (h : (keys l).count key ≤ 1) :
    find? key (ofList l) = find? key l := by
  induction l with
  | nil => rfl
  | cons e rest ih =>
      rcases e with ⟨k, a⟩
      have hkeys : keys ((k, a) :: rest) = k :: keys rest := rfl
      rw [hkeys, List.count_cons] at h
      have hrest : find? key (ofList rest) = find? key rest := ih (Nat.le_of_add_right_le h)
      have hcons : find? key (ofList ((k, a) :: rest)) =
          (find? key rest).or (find? key [(k, a)]) := by
        rw [ofList, List.foldl_cons, find?_foldl_insert, hrest]
        rfl
      by_cases hkey : key = k
      · subst hkey
        have hout : key ∉ keys rest := by
          have hcount : (keys rest).count key = 0 := by
            simpa using h
          exact List.count_eq_zero.1 hcount
        rw [hcons, find?_eq_none_iff.2 hout]
        simp
      · rw [hcons]
        simp [hkey]

/-- Sorting a list in which no key stands twice does not change what is found. -/
theorem find?_ofList {l : List (String × α)} (h : (keys l).Nodup) :
    find? key (ofList l) = find? key l :=
  find?_ofList_of_count (List.nodup_iff_count.1 h key)

/-- The later of two insertions under one key replaces the earlier one. -/
@[simp] theorem insert_insert (key : String) (a b : α) (entries : Entries α) :
    insert key b (insert key a entries) = insert key b entries := by
  induction entries with
  | nil => simp [insert]
  | cons e rest ih =>
      rcases e with ⟨k, c⟩
      by_cases hlt : key < k
      · simp [insert, hlt]
      · by_cases heq : key = k
        · simp [insert, heq]
        · simp [insert, hlt, heq, ih]

/-! ## Order -/

theorem mem_insert {e : String × α} (h : e ∈ insert key a entries) :
    e = (key, a) ∨ e ∈ entries := by
  induction entries with
  | nil => exact Or.inl (by simpa [insert] using h)
  | cons old rest ih =>
      rcases old with ⟨k, b⟩
      rw [insert] at h
      split at h
      · simpa using h
      · split at h
        · rcases List.mem_cons.1 h with hnew | hold
          · exact Or.inl hnew
          · exact Or.inr (List.mem_cons_of_mem _ hold)
        · rcases List.mem_cons.1 h with hold | hrest
          · exact Or.inr (hold ▸ List.mem_cons_self)
          · rcases ih hrest with hnew | hold
            · exact Or.inl hnew
            · exact Or.inr (List.mem_cons_of_mem _ hold)

/-- Sorting adds no entries. -/
theorem mem_foldl_insert {e : String × α} {l : List (String × α)}
    (h : e ∈ l.foldl (fun acc e => insert e.1 e.2 acc) entries) : e ∈ l ∨ e ∈ entries := by
  induction l generalizing entries with
  | nil => exact Or.inr h
  | cons first rest ih =>
      rcases ih h with hrest | hinserted
      · exact Or.inl (List.mem_cons_of_mem _ hrest)
      · rcases mem_insert hinserted with rfl | hold
        · exact Or.inl List.mem_cons_self
        · exact Or.inr hold

theorem mem_of_mem_ofList {e : String × α} {l : List (String × α)} (h : e ∈ ofList l) : e ∈ l := by
  rcases mem_foldl_insert h with hmem | hnil
  · exact hmem
  · cases hnil

theorem ascending_insert (key : String) (a : α) (h : Ascending entries) :
    Ascending (insert key a entries) := by
  induction entries with
  | nil => exact List.pairwise_singleton _ _
  | cons old rest ih =>
      rcases old with ⟨k, b⟩
      rcases List.pairwise_cons.1 h with ⟨hold, hrest⟩
      rw [insert]
      split
      · rename_i hlt
        refine List.pairwise_cons.2 ⟨?_, h⟩
        intro e he
        rcases List.mem_cons.1 he with rfl | he
        · exact hlt
        · exact String.lt_trans hlt (hold e he)
      · rename_i hnlt
        split
        · rename_i heq
          refine List.pairwise_cons.2 ⟨?_, hrest⟩
          intro e he
          exact heq ▸ hold e he
        · rename_i hne
          -- Neither smaller nor equal: the new entry goes somewhere behind `k`.
          have hgt : k < key := by
            rcases Std.lt_trichotomy key k with hlt | heq | hgt
            · exact absurd hlt hnlt
            · exact absurd heq hne
            · exact hgt
          refine List.pairwise_cons.2 ⟨?_, ih hrest⟩
          intro e he
          rcases mem_insert he with rfl | he
          · exact hgt
          · exact hold e he

theorem ascending_foldl_insert (l : List (String × α)) (h : Ascending entries) :
    Ascending (l.foldl (fun acc e => insert e.1 e.2 acc) entries) := by
  induction l generalizing entries with
  | nil => exact h
  | cons e rest ih => exact ih (ascending_insert e.1 e.2 h)

theorem ascending_ofList (l : List (String × α)) : Ascending (ofList l) :=
  ascending_foldl_insert l List.Pairwise.nil

theorem Ascending.nodup_keys (h : Ascending entries) : (keys entries).Nodup := by
  refine List.pairwise_map.2 (h.imp ?_)
  intro e e' hlt
  exact String.ne_of_lt hlt

theorem find?_head {rest : Entries α} (key : String) (a : α) :
    find? key ((key, a) :: rest) = some a := by
  simp

/-- No key stands twice. -/
theorem find?_tail {rest : Entries α} (h : Ascending ((key, a) :: rest)) :
    find? key rest = none := by
  refine find?_eq_none_iff.2 ?_
  intro hmem
  rcases List.mem_map.1 hmem with ⟨e, he, heq⟩
  exact String.ne_of_lt (List.rel_of_pairwise_cons h he) heq.symm

/-- The first key is smaller than all others, so nothing is found under a smaller one. -/
theorem find?_eq_none_of_lt {k : String} {b : α} {rest : Entries α}
    (h : Ascending ((k, b) :: rest)) (hlt : key < k) : find? key ((k, b) :: rest) = none := by
  refine find?_eq_none_iff.2 ?_
  intro hmem
  rcases List.mem_map.1 hmem with ⟨e, he, rfl⟩
  rcases List.mem_cons.1 he with rfl | he
  · exact String.lt_irrefl _ hlt
  · exact String.lt_asymm hlt (List.rel_of_pairwise_cons h he)

theorem eq_of_find?_eq {l m : Entries α} (hl : Ascending l) (hm : Ascending m)
    (h : ∀ key, find? key l = find? key m) : l = m := by
  induction l generalizing m with
  | nil =>
      cases m with
      | nil => rfl
      | cons e rest =>
          have hfound := (h e.1).trans (find?_head e.1 e.2)
          simp at hfound
  | cons e l ih =>
      rcases e with ⟨k, a⟩
      cases m with
      | nil =>
          have hfound := (h k).symm.trans (find?_head k a)
          simp at hfound
      | cons e' m =>
          rcases e' with ⟨k', a'⟩
          -- The smaller of two different first keys would be found on one side only.
          have hk : k = k' := by
            rcases Std.lt_trichotomy k k' with hlt | heq | hgt
            · have hfound := (find?_head k a).symm.trans (h k)
              have hnone := find?_eq_none_of_lt hm hlt
              cases hfound.trans hnone
            · exact heq
            · have hfound := (find?_head k' a').symm.trans (h k').symm
              have hnone := find?_eq_none_of_lt hl hgt
              cases hfound.trans hnone
          subst hk
          have ha : a = a' := by
            have hfound := (find?_head k a).symm.trans (h k)
            exact Option.some.inj (hfound.trans (find?_head k a'))
          subst ha
          have htail : ∀ key, find? key l = find? key m := by
            intro key
            by_cases hkey : key = k
            · subst hkey
              exact (find?_tail hl).trans (find?_tail hm).symm
            · have hfound := h key
              simpa [hkey] using hfound
          exact congrArg _ (ih hl.of_cons hm.of_cons htail)

/-- Nothing changes when a key gets the value that it has. -/
theorem insert_of_find? (hasc : Ascending entries) (h : find? key entries = some a) :
    insert key a entries = entries := by
  refine eq_of_find?_eq (ascending_insert key a hasc) hasc ?_
  intro other
  rw [find?_insert]
  split
  · rename_i heq
    rw [heq, h]
  · rfl

/-! ## Entries in another order -/

theorem find?_eq_some_iff (h : (keys entries).Nodup) :
    find? key entries = some a ↔ (key, a) ∈ entries := by
  induction entries with
  | nil => simp
  | cons e rest ih =>
      rcases e with ⟨k, b⟩
      rcases List.nodup_cons.1 h with ⟨hk, hrest⟩
      by_cases hkey : key = k
      · subst hkey
        have hout : (key, a) ∉ rest := fun hmem => hk (List.mem_map.2 ⟨_, hmem, rfl⟩)
        simp [hout, eq_comm]
      · simp [hkey, ih hrest]

theorem find?_perm {l m : Entries α} (h : l.Perm m) (hm : (keys m).Nodup) (key : String) :
    find? key l = find? key m := by
  have hl : (keys l).Nodup := (h.map _).nodup_iff.2 hm
  refine Option.ext ?_
  intro a
  rw [find?_eq_some_iff hl, find?_eq_some_iff hm, h.mem_iff]

/-- Sorting only changes the order if no key stands twice. -/
theorem perm_ofList {l : List (String × α)} (h : (keys l).Nodup) : (ofList l).Perm l := by
  have hsorted := (ascending_ofList l).nodup_keys
  have hnodup : ∀ {m : Entries α}, (keys m).Nodup → m.Nodup := by
    intro m hm
    refine List.Pairwise.of_map Prod.fst ?_ hm
    rintro e e' hne rfl
    exact hne rfl
  refine (List.perm_ext_iff_of_nodup (hnodup hsorted) (hnodup h)).2 ?_
  rintro ⟨key, a⟩
  rw [← find?_eq_some_iff hsorted, ← find?_eq_some_iff h, find?_ofList h]

/-- Entries in any order are put back in ascending order. -/
theorem ofList_of_perm {l m : Entries α} (h : l.Perm m) (hm : Ascending m) : ofList l = m := by
  refine eq_of_find?_eq (ascending_ofList l) hm ?_
  intro key
  have hl : (keys l).Nodup := (h.map _).nodup_iff.2 hm.nodup_keys
  rw [find?_ofList hl, find?_perm h hm.nodup_keys]

end Entries
end RpcHost
