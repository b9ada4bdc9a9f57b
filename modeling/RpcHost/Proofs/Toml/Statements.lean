import RpcHost.Proofs.Toml.Places

/-!
# What a document holds at a path

A document is what its statements make one after the other. So it holds a value at a path when a
statement writes it there, nothing when no statement reaches the path, and a table or an array of
tables otherwise (`IsDocument.exists_holds`), unless an array of tables is in the way.
-/

namespace RpcHost
namespace Toml

variable {path : Path} {d d' : Draft} {st : Statement} {stmts : List Statement}

/-! ## Runs of statements -/

theorem mem_of_placed {p : Path × Statement} {opened : Path} (h : p ∈ placed opened stmts) :
    p.2 ∈ stmts := by
  induction stmts generalizing opened with
  | nil => cases h
  | cons st rest ih =>
      rcases List.mem_cons.1 h with rfl | hrest
      · exact List.mem_cons_self
      · exact List.mem_cons_of_mem _ (ih hrest)

/-- What no change of a statement ends holds at the path after a run if it held before. -/
theorem run_induction {P : Option Node → Prop} (h : stmts.foldlM Draft.carryOut d = some d')
    (hstep : ∀ p ∈ placed d.opened stmts, ∀ {x y}, Change path p x y → P x → P y)
    (hd : P (d.root.at? path)) : P (d'.root.at? path) := by
  induction stmts generalizing d with
  | nil =>
      cases h
      exact hd
  | cons st rest ih =>
      rcases run_cons_iff.1 h with ⟨next, hnext, hrest⟩
      rcases change_carryOut hnext path with ⟨hchange, hopened⟩
      rcases List.forall_mem_cons.1 hstep with ⟨hst, hmore⟩
      exact ih hrest (hopened ▸ hmore) (hst hchange hd)

/-- Nothing is where no statement gets. -/
theorem run_absent (h : stmts.foldlM Draft.carryOut d = some d')
    (hstmts : ∀ p ∈ placed d.opened stmts, ¬ Statement.Reaches path p)
    (hd : d.root.at? path = none) : d'.root.at? path = none :=
  run_induction h (fun p hp _ _ hchange => hchange.absent (hstmts p hp)) hd

/-- Every value was there before, or a statement wrote it. -/
theorem run_written {v : Value} (h : stmts.foldlM Draft.carryOut d = some d')
    (hv : d'.root.at? path = some (.value v)) :
    d.root.at? path = some (.value v)
    ∨ ∃ p ∈ placed d.opened stmts, Statement.WritesAt path v p := by
  refine run_induction (P := fun x => x = some (.value v) → _) h ?_ .inl hv
  intro p hp x y hchange hbefore hy
  rcases hchange.written_of_value hy with hx | hwrites
  · exact hbefore hx
  · exact .inr ⟨p, hp, hwrites⟩

/-- Every array of tables was there before, or a statement opened an element of it. -/
theorem run_element {earlier : List Node} {origin : Origin} {entries : Entries Node}
    (h : stmts.foldlM Draft.carryOut d = some d')
    (hd' : d'.root.at? path = some (.tables earlier origin entries))
    (hd : ∀ earlier origin entries, d.root.at? path ≠ some (.tables earlier origin entries)) :
    .element path ∈ stmts := by
  refine Classical.byContradiction fun hnever => ?_
  have hfree := run_induction
    (P := fun x => ∀ earlier origin entries, x ≠ some (.tables earlier origin entries)) h
    (fun p hp _ _ hchange => hchange.free fun heq => hnever (heq ▸ mem_of_placed hp)) hd
  exact hfree _ _ _ hd'

theorem free_carryOut (h : d.carryOut st = some d') (hfree : d.root.Free path)
    (hst : ∀ place, st = .element place → ¬ place <+: path) : d'.root.Free path := by
  intro place hplace
  refine (change_carryOut h place).1.free ?_ (hfree place hplace)
  intro heq
  exact hst place heq hplace

/-- What a statement brings about at the path, when no array of tables is in the way, and no change
ends, holds after a run with such a statement. -/
theorem run_of_mem {P : Option Node → Prop} {Q : Path × Statement → Prop}
    (hkeep : ∀ {p x y}, Change path p x y → P x → P y)
    (hstep : ∀ {d d' : Draft} {st}, d.root.Free path.dropLast → Q (st.place d.opened, st) →
      d.carryOut st = some d' → P (d'.root.at? path))
    (h : stmts.foldlM Draft.carryOut d = some d') (hfree : d.root.Free path.dropLast)
    (helements : NoElements stmts path.dropLast) (hq : ∃ p ∈ placed d.opened stmts, Q p) :
    P (d'.root.at? path) := by
  induction stmts generalizing d with
  | nil =>
      rcases hq with ⟨p, hp, _⟩
      cases hp
  | cons st rest ih =>
      rcases run_cons_iff.1 h with ⟨next, hnext, hrest⟩
      rcases change_carryOut hnext path with ⟨_, hopened⟩
      rcases hq with ⟨p, hp, hq⟩
      rcases List.mem_cons.1 hp with rfl | hmore
      · exact run_induction hrest (fun _ _ _ _ => hkeep) (hstep hfree hq hnext)
      · have hst : ∀ place, st = .element place → ¬ place <+: path.dropLast :=
          fun place hst => helements place (hst ▸ List.mem_cons_self)
        exact ih hrest (free_carryOut hnext hfree hst)
          (fun place hplace => helements place (List.mem_cons_of_mem _ hplace))
          ⟨p, hopened ▸ hmore, hq⟩

theorem run_writes {v : Value} (h : stmts.foldlM Draft.carryOut d = some d')
    (hfree : d.root.Free path.dropLast) (helements : NoElements stmts path.dropLast)
    (hv : ∃ p ∈ placed d.opened stmts, Statement.WritesAt path v p) :
    d'.root.at? path = some (.value v) :=
  run_of_mem (P := (· = some (.value v))) Change.value carryOut_writes h hfree helements hv

theorem run_reaches (h : stmts.foldlM Draft.carryOut d = some d')
    (hfree : d.root.Free path.dropLast) (helements : NoElements stmts path.dropLast)
    (hv : ∃ p ∈ placed d.opened stmts, Statement.Reaches path p) :
    d'.root.at? path ≠ none := by
  refine run_of_mem (P := (· ≠ none)) Change.present ?_ h hfree helements hv
  intro d d' st hfree hreaches h
  cases hreaches with
  | below hpath => exact carryOut_reaches hpath hfree h
  | inside hv =>
      rw [carryOut_writes hfree hv h]
      exact Option.some_ne_none _

/-! ## Documents -/

theorem free_empty (path : Path) : Draft.empty.root.Free path := by
  intro place _ earlier origin entries h
  cases place with
  | nil => cases h
  | cons name place => cases h

/-- Every text that is read is a document of some statements, and no other text is. -/
theorem exists_isDocument_iff {text : String} :
    (∃ stmts, IsDocument text stmts) ↔ (read text).isSome = true := by
  constructor
  · rintro ⟨stmts, hstmts, hreadable⟩
    rw [read_of_statements hstmts, Option.isSome_map]
    exact hreadable
  · intro h
    rcases Option.isSome_iff_exists.1 h with ⟨v, hv⟩
    rcases Option.bind_eq_some_iff.1 hv with ⟨stmts, hstmts, _⟩
    rw [read_of_statements hstmts, Option.isSome_map] at h
    exact ⟨stmts, hstmts, h⟩

/-- What a document holds at a path, as the statements say it. -/
structure Holds (doc : Value) (stmts : List Statement) (path : Path) : Prop where
  written : ∀ v, Writes stmts path v → doc.at? path = some v
  absent : ¬ Reaches stmts path → doc.at? path = none
  /-- What no statement wrote there is a table, or an array of tables. -/
  reached : Reaches stmts path → ∃ v, doc.at? path = some v
    ∧ (Writes stmts path v ∨ (∃ entries, v = .table entries)
      ∨ .element path ∈ stmts ∧ ∃ items, v = .array items)

theorem IsDocument.exists_holds {text : String} (h : IsDocument text stmts) :
    ∃ entries, read text = some (.table entries)
      ∧ ∀ path, path ≠ [] → NoElements stmts path.dropLast →
        Holds (.table entries) stmts path := by
  rcases Option.isSome_iff_exists.1 h.readable with ⟨d, hd⟩
  refine ⟨toEntries d.root.entries, ?_, fun path hne helements => ?_⟩
  · rw [read_of_statements h.statements, hd]
    rfl
  · have hdoc : (Value.table (toEntries d.root.entries)).at? path =
        (d.root.at? path).map Node.toValue :=
      Node.at?_toValue path (.table d.root.origin d.root.entries)
    have hnone : Draft.empty.root.at? path = none := by
      cases path with
      | nil => exact absurd rfl hne
      | cons name path => rfl
    refine ⟨fun v hv => ?_, fun habsent => ?_, fun hreach => ?_⟩
    · rw [hdoc, run_writes hd (free_empty _) helements hv]
      rfl
    · rw [hdoc, run_absent hd (fun p hp hreach => habsent ⟨p, hp, hreach⟩) hnone]
      rfl
    · cases hat : d.root.at? path with
      | none => exact absurd hat (run_reaches hd (free_empty _) helements hreach)
      | some n =>
          refine ⟨n.toValue, by rw [hdoc, hat]; rfl, ?_⟩
          cases n with
          | value v =>
              rcases run_written hd hat with hempty | hwrites
              · rw [hnone] at hempty
                cases hempty
              · exact .inl hwrites
          | table origin entries => exact .inr (.inl ⟨_, rfl⟩)
          | tables earlier origin entries =>
              refine .inr (.inr ⟨run_element hd hat ?_, _, rfl⟩)
              rw [hnone]
              exact fun _ _ _ h => by cases h

def Statement.assigns : Statement → Bool
  | .assign _ _ => true
  | _ => false

theorem not_writes_of_places (h : ∀ p ∈ placed [] stmts, p.2.assigns = true → ¬ p.1 <+: path)
    (v : Value) : ¬ Writes stmts path v := by
  rintro ⟨p, hp, hwrites⟩
  cases hwrites with
  | assign hpath _ => exact h _ hp rfl (hpath ▸ List.prefix_append _ _)

/-- Places alone show that a path is not reached: none is below it, and nothing is assigned above
it. -/
theorem not_reaches_of_places
    (h : ∀ p ∈ placed [] stmts, ¬ path <+: p.1 ∧ (p.2.assigns = true → ¬ p.1 <+: path)) :
    ¬ Reaches stmts path := by
  rintro ⟨p, hp, hreaches⟩
  cases hreaches with
  | below hpath => exact (h _ hp).1 hpath
  | inside hv => exact not_writes_of_places (fun p hp => (h p hp).2) _ ⟨_, hp, hv⟩

/-! ## Sections in any order -/

theorem element_notMem_sections (sections : List (String × List (String × Value))) (place : Path) :
    .element place ∉ sectionStatements sections := by
  simp [sectionStatements]

theorem placed_keys (keys : List (String × Value)) (name : String) (rest : List Statement) :
    placed [name] ((keys.map fun e => Statement.assign [e.1] e.2) ++ rest) =
      (keys.map fun e => ([name, e.1], Statement.assign [e.1] e.2)) ++ placed [name] rest := by
  induction keys with
  | nil => rfl
  | cons e keys ih => exact congrArg (List.cons _) ih

/-- In sections every key stands below the name of its section. -/
theorem placed_sections (sections : List (String × List (String × Value))) (opened : Path) :
    placed opened (sectionStatements sections) = sections.flatMap fun s =>
      ([s.1], .table [s.1]) :: s.2.map fun e => ([s.1, e.1], .assign [e.1] e.2) := by
  induction sections generalizing opened with
  | nil => rfl
  | cons s sections ih =>
      rw [sectionStatements, List.flatMap_cons, List.flatMap_cons, List.cons_append,
        List.cons_append, placed, Statement.opens, placed_keys]
      exact congrArg (fun more => _ :: (_ ++ more)) (ih [s.1])

theorem writes_of_mem_sections {sections : List (String × List (String × Value))}
    {name key : String} {keys : List (String × Value)} {v : Value}
    (hname : (name, keys) ∈ sections) (hkey : (key, v) ∈ keys) :
    Writes (sectionStatements sections) [name, key] v := by
  rw [Writes, placed_sections]
  refine ⟨([name, key], .assign [key] v), ?_, .assign (List.append_nil _).symm rfl⟩
  refine List.mem_flatMap.2 ⟨(name, keys), hname, List.mem_cons_of_mem _ ?_⟩
  exact List.mem_map.2 ⟨(key, v), hkey, rfl⟩

end Toml
end RpcHost
