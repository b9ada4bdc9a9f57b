import RpcHost.Proofs.Toml.Documents

/-!
# Integers of a document

Every integer that is read, however deep it lies in arrays and tables, is a signed 64-bit word
(`words_of_read`). The readers of values keep this, and so does every statement that is carried out.
-/

namespace RpcHost
namespace Toml

/-! ## Values whose integers are words -/

namespace Value

mutual

/-- Every integer inside the value is a signed 64-bit word. -/
def Words : Value → Prop
  | .integer i => -0x8000000000000000 ≤ i ∧ i < 0x8000000000000000
  | .array items => WordsItems items
  | .table entries => WordsEntries entries
  | _ => True

def WordsItems : List Value → Prop
  | [] => True
  | v :: vs => Words v ∧ WordsItems vs

def WordsEntries : List (String × Value) → Prop
  | [] => True
  | (_, v) :: es => Words v ∧ WordsEntries es

end

theorem words_array_iff {items : List Value} : Words (.array items) ↔ ∀ v ∈ items, Words v := by
  rw [Words]
  induction items with
  | nil => simp [WordsItems]
  | cons v vs ih => simp [WordsItems, ih]

theorem words_table_iff {entries : List (String × Value)} :
    Words (.table entries) ↔ ∀ e ∈ entries, Words e.2 := by
  rw [Words]
  induction entries with
  | nil => simp [WordsEntries]
  | cons e es ih =>
      rcases e with ⟨key, v⟩
      simp [WordsEntries, ih]

theorem Words.insert {entries : Entries Value} (h : Words (.table entries)) (key : String)
    {v : Value} (hv : v.Words) : Words (.table (Entries.insert key v entries)) := by
  refine words_table_iff.2 ?_
  intro e he
  rcases Entries.mem_insert he with rfl | hold
  · exact hv
  · exact words_table_iff.1 h e hold

end Value

/-! ## What a reader yields -/

/-- What was read, if anything, is so. -/
def Yields {α : Type} (P : α → Prop) (found : Option (α × List Char)) : Prop :=
  ∀ a rest, found = some (a, rest) → P a

section Yields

variable {α β : Type} {P : α → Prop}

theorem yields_some {a : α} {rest : List Char} (h : P a) : Yields P (some (a, rest)) := by
  intro a' rest' heq
  cases heq
  exact h

theorem yields_none : Yields P none := by
  intro a rest heq
  cases heq

theorem yields_bind {found : Option β} {f : β → Option (α × List Char)}
    (h : ∀ b, found = some b → Yields P (f b)) : Yields P (found.bind f) := by
  intro a rest heq
  rcases Option.bind_eq_some_iff.1 heq with ⟨b, hb, hf⟩
  exact h b hb a rest hf

theorem yields_map {found : Option β} {f : β → α × List Char} (h : ∀ b, P (f b).1) :
    Yields P (found.map f) := by
  intro a rest heq
  rcases Option.map_eq_some_iff.1 heq with ⟨b, _, hf⟩
  have hb := h b
  rw [hf] at hb
  exact hb

theorem yields_or {found other : Option (α × List Char)} (h : Yields P found)
    (hother : Yields P other) : Yields P (found.or other) := by
  cases found with
  | none => exact hother
  | some found => exact h

end Yields

/-! ## Values without parts -/

theorem words_of_word? {i : Int} {v : Value} (h : word? i = some v) : v.Words := by
  unfold word? at h
  split at h
  · rename_i hrange
    cases h
    exact hrange
  · cases h

theorem yields_readInteger (cs : List Char) : Yields Value.Words (readInteger cs) := by
  unfold readInteger
  split
  all_goals
    refine yields_bind fun found _ => ?_
    refine yields_bind fun v hword => ?_
    exact yields_some (words_of_word? hword)

theorem yields_readDatetime (cs : List Char) : Yields Value.Words (readDatetime cs) := by
  unfold readDatetime
  dsimp only
  repeat' first
    | exact yields_bind fun _ _ => yields_some trivial
    | split

theorem yields_readPlainFloat (cs : List Char) : Yields Value.Words (readPlainFloat cs) := by
  unfold readPlainFloat
  refine yields_bind fun whole _ => ?_
  dsimp only
  repeat' first
    | exact yields_some trivial
    | refine yields_bind fun _ _ => ?_
    | split

theorem yields_readSpecialFloat (cs : List Char) : Yields Value.Words (readSpecialFloat cs) := by
  unfold readSpecialFloat
  split
  · exact yields_some trivial
  · exact yields_some trivial
  · exact yields_none

theorem yields_readPlain (cs : List Char) : Yields Value.Words (readPlain cs) := by
  unfold readPlain
  split
  · exact yields_none
  · split
    · exact yields_map fun _ => trivial
    · split
      · unfold readBoolean
        split
        · exact yields_some trivial
        · exact yields_some trivial
        · exact yields_none
      · exact yields_or (yields_or (yields_readDatetime _) (yields_readPlainFloat _))
          (yields_or (yields_readSpecialFloat _) (yields_readInteger _))

/-! ## Tables in the making -/

namespace Table

/-- Every integer that the table holds so far is a word. -/
def Words (t : Table) : Prop := t.toValue.Words

theorem words_empty (origin : Origin) : (Table.empty origin).Words :=
  Value.words_table_iff.2 (by simp [Table.empty, toEntries])

theorem Words.put {t : Table} (h : t.Words) (name : String) {node : Node}
    (hnode : node.toValue.Words) : (t.put name node).Words := by
  unfold Words Table.toValue Table.put
  rw [toEntries_insert]
  exact Value.Words.insert h name hnode

theorem Words.of_find? {t : Table} (h : t.Words) {name : String} {node : Node}
    (hnode : Entries.find? name t.entries = some node) : node.toValue.Words := by
  have hall := Value.words_table_iff.1 h
  rcases t with ⟨origin, entries⟩
  induction entries with
  | nil => cases hnode
  | cons e entries ih =>
      rcases e with ⟨k, n⟩
      simp only [toEntries, List.mem_cons, forall_eq_or_imp] at hall
      rw [Entries.find?] at hnode
      split at hnode
      · cases hnode
        exact hall.1
      · exact ih (Value.words_table_iff.2 hall.2) hnode hall.2

/-- An array of tables has the integers of all its elements. -/
theorem words_tables_iff {earlier : List Node} {origin : Origin} {entries : Entries Node} :
    (Node.tables earlier origin entries).toValue.Words ↔
      (Value.array (toItems earlier)).Words ∧ Words ⟨origin, entries⟩ := by
  simp only [Node.toValue, Value.words_array_iff, List.mem_append, List.mem_singleton, or_imp,
    forall_and, forall_eq]
  rfl

theorem words_descend {dotted : Bool} {act : Table → Option Table}
    (hact : ∀ t t', t.Words → act t = some t' → t'.Words) {path : Path} {t t' : Table}
    (ht : t.Words) (h : descend dotted act path t = some t') : t'.Words := by
  induction path generalizing t t' with
  | nil => exact hact t t' ht h
  | cons name path ih =>
      rw [descend] at h
      split at h
      · rcases Option.bind_eq_some_iff.1 h with ⟨inner, hinner, heq⟩
        cases heq
        exact ht.put name (ih (words_empty _) hinner)
      · cases h
      · rename_i earlier origin entries hfind
        rcases Option.bind_eq_some_iff.1 h with ⟨inner, hinner, heq⟩
        cases heq
        rcases words_tables_iff.1 (ht.of_find? hfind) with ⟨hearlier, hopen⟩
        exact ht.put name (words_tables_iff.2 ⟨hearlier, ih hopen hinner⟩)
      · rename_i origin entries hfind
        split at h
        · cases h
        · rcases Option.bind_eq_some_iff.1 h with ⟨inner, hinner, heq⟩
          cases heq
          have hnode : Words ⟨origin, entries⟩ := ht.of_find? hfind
          exact ht.put name (ih hnode hinner)

theorem words_assign {path : Path} {name : String} {v : Value} (hv : v.Words) {t t' : Table}
    (ht : t.Words) (h : t.assign path name v = some t') : t'.Words := by
  refine words_descend ?_ ht h
  intro t t' ht h
  unfold assignHere at h
  split at h
  · cases h
  · split at h
    · cases h
    · cases h
      exact ht.put name hv

theorem words_openHere {name : String} {t t' : Table} (ht : t.Words)
    (h : t.openHere name = some t') : t'.Words := by
  unfold openHere at h
  split at h
  · cases h
    exact ht.put name (words_empty .header)
  · rename_i entries hfind
    cases h
    have hnode := ht.of_find? hfind
    exact ht.put name hnode
  · cases h

theorem toItems_append (earlier later : List Node) :
    toItems (earlier ++ later) = toItems earlier ++ toItems later := by
  induction earlier with
  | nil => rfl
  | cons node earlier ih => rw [List.cons_append, toItems, toItems, ih, List.cons_append]

theorem words_pushHere {name : String} {t t' : Table} (ht : t.Words)
    (h : t.pushHere name = some t') : t'.Words := by
  unfold pushHere at h
  split at h
  · cases h
    exact ht.put name (words_tables_iff.2 ⟨Value.words_array_iff.2 (by simp [toItems]),
      words_empty .header⟩)
  · rename_i earlier origin entries hfind
    cases h
    refine ht.put name (words_tables_iff.2 ⟨?_, words_empty .header⟩)
    -- The element that was open goes to the earlier ones.
    rw [toItems_append]
    exact ht.of_find? hfind
  · cases h

end Table

/-! ## Values with parts -/

/-- With this much fuel the readers of values yield words for integers. -/
structure WordsUpTo (fuel : Nat) : Prop where
  value : ∀ levels cs, Yields Value.Words (readValue fuel levels cs)
  items : ∀ levels {acc} cs, (∀ v ∈ acc, v.Words) →
    Yields (fun items => ∀ v ∈ items, v.Words) (readItems fuel levels acc cs)
  pairs : ∀ levels {table : Table} cs, table.Words →
    Yields Table.Words (readPairs fuel levels table cs)

theorem wordsUpTo_value {fuel : Nat} (ih : WordsUpTo fuel) (levels : Nat) (cs : List Char) :
    Yields Value.Words (readValue (fuel + 1) levels cs) := by
  unfold readValue
  split
  · rename_i heq
    cases heq
  · rename_i heq
    cases heq
    split
    · exact yields_none
    · refine yields_bind fun found hfound => ?_
      have hitems := ih.items _ _ (by simp) found.1 found.2 hfound
      exact yields_some (Value.words_array_iff.2 hitems)
  · rename_i heq
    cases heq
    split
    · exact yields_none
    · split
      · exact yields_some (Value.words_table_iff.2 (by simp))
      · refine yields_bind fun found hfound => ?_
        exact yields_some (ih.pairs _ _ (Table.words_empty .header) found.1 found.2 hfound)
  · exact yields_readPlain _

theorem wordsUpTo_items {fuel : Nat} (ih : WordsUpTo fuel) (levels : Nat) {acc : List Value}
    (cs : List Char) (hacc : ∀ v ∈ acc, v.Words) :
    Yields (fun items => ∀ v ∈ items, v.Words) (readItems (fuel + 1) levels acc cs) := by
  unfold readItems
  split
  · exact yields_some (by simpa using hacc)
  · refine yields_bind fun found hfound => ?_
    have hitem := ih.value _ _ found.1 found.2 hfound
    have hmore : ∀ v ∈ found.1 :: acc, v.Words := by
      intro v hv
      rcases List.mem_cons.1 hv with rfl | hold
      · exact hitem
      · exact hacc v hold
    dsimp only
    split
    · exact ih.items levels _ hmore
    · exact yields_some fun v hv => hmore v (List.mem_reverse.1 hv)
    · exact yields_none

theorem wordsUpTo_pairs {fuel : Nat} (ih : WordsUpTo fuel) (levels : Nat) {table : Table}
    (cs : List Char) (htable : table.Words) :
    Yields Table.Words (readPairs (fuel + 1) levels table cs) := by
  unfold readPairs
  refine yields_bind fun key _ => ?_
  refine yields_bind fun afterSign _ => ?_
  refine yields_bind fun split _ => ?_
  refine yields_bind fun value hvalue => ?_
  refine yields_bind fun table' htable' => ?_
  have hv := ih.value _ _ value.1 value.2 hvalue
  have hmore := Table.words_assign hv htable htable'
  split
  · exact ih.pairs levels _ hmore
  · exact yields_some hmore
  · exact yields_none

theorem wordsUpTo (fuel : Nat) : WordsUpTo fuel := by
  -- The three readers call one another with less fuel, so all three go through one induction.
  induction fuel with
  | zero =>
      refine ⟨?_, ?_, ?_⟩
      · intro levels cs
        exact yields_none
      · intro levels acc cs _
        exact yields_none
      · intro levels table cs _
        exact yields_none
  | succ fuel ih =>
      refine ⟨?_, ?_, ?_⟩
      · exact wordsUpTo_value ih
      · exact fun levels _ cs hacc => wordsUpTo_items ih levels cs hacc
      · exact fun levels _ cs htable => wordsUpTo_pairs ih levels cs htable

/-! ## Statements -/

/-- Every integer that the statement assigns is a word. -/
def Statement.Words : Statement → Prop
  | .assign _ v => v.Words
  | _ => True

theorem yields_readStatement (cs : List Char) : Yields Statement.Words (readStatement cs) := by
  unfold readStatement
  split
  · refine yields_bind fun key _ => ?_
    refine yields_bind fun inner _ => ?_
    refine yields_bind fun outer _ => ?_
    exact yields_bind fun rest _ => yields_some trivial
  · refine yields_bind fun key _ => ?_
    refine yields_bind fun after _ => ?_
    exact yields_bind fun rest _ => yields_some trivial
  · refine yields_bind fun key _ => ?_
    refine yields_bind fun after _ => ?_
    refine yields_bind fun value hvalue => ?_
    refine yields_bind fun rest _ => ?_
    have hv := (wordsUpTo _).value _ _ value.1 value.2 hvalue
    exact yields_some hv

theorem words_of_readStatements {fuel : Nat} {cs : List Char} {stmts : List Statement}
    (h : readStatements fuel cs = some stmts) : ∀ st ∈ stmts, st.Words := by
  induction fuel generalizing cs stmts with
  | zero => cases h
  | succ fuel ih =>
      rw [readStatements] at h
      split at h
      · cases h
        simp
      · split at h
        · exact ih h
        · rcases Option.bind_eq_some_iff.1 h with ⟨found, hfound, h⟩
          rcases Option.bind_eq_some_iff.1 h with ⟨others, hothers, heq⟩
          cases heq
          have hfirst := yields_readStatement _ found.1 found.2 hfound
          exact List.forall_mem_cons.2 ⟨hfirst, ih hothers⟩

/-! ## Documents -/

theorem words_carryOut {st : Statement} (hst : st.Words) {d d' : Draft} (hd : d.root.Words)
    (h : d.carryOut st = some d') : d'.root.Words := by
  cases st with
  | table path =>
      rcases openTable_eq_some h with ⟨_, _, root, _, hroot, rfl⟩
      exact Table.words_descend (fun _ _ => Table.words_openHere) hd hroot
  | element path =>
      rcases openElement_eq_some h with ⟨_, _, root, _, hroot, rfl⟩
      exact Table.words_descend (fun _ _ => Table.words_pushHere) hd hroot
  | assign path v =>
      rcases assign_eq_some h with ⟨_, _, root, _, hroot, rfl⟩
      exact Table.words_descend (fun _ _ => Table.words_assign hst) hd hroot

theorem words_run {stmts : List Statement} (hstmts : ∀ st ∈ stmts, st.Words) {d d' : Draft}
    (hd : d.root.Words) (h : stmts.foldlM Draft.carryOut d = some d') : d'.root.Words := by
  induction stmts generalizing d with
  | nil =>
      cases h
      exact hd
  | cons st stmts ih =>
      rcases run_cons_iff.1 h with ⟨next, hnext, hrest⟩
      rcases List.forall_mem_cons.1 hstmts with ⟨hst, hmore⟩
      exact ih hmore (words_carryOut hst hd hnext) hrest

/-- Every integer of a document is a word. -/
theorem words_of_read {text : String} {v : Value} (h : read text = some v) : v.Words := by
  rcases Option.bind_eq_some_iff.1 h with ⟨stmts, hstmts, h⟩
  rcases Option.bind_eq_some_iff.1 h with ⟨d, hd, heq⟩
  cases heq
  exact words_run (words_of_readStatements hstmts) (Table.words_empty .header) hd

end Toml
end RpcHost
