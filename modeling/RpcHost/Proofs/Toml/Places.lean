import RpcHost.Proofs.Toml.Documents
import RpcHost.Toml.Statements

/-!
# What one statement does at a path

Each statement acts at its place, and what that means for any path is said once (`Change`): either
the path is on the way to the place, or at it, or nothing happens there. Where no array of tables is
in the way (`Table.Free`), the statement also gets to its place.
-/

namespace RpcHost
namespace Toml

variable {path : Path} {t t' : Table} {d d' : Draft} {st : Statement} {stmts : List Statement}

/-! ## Nodes at a path -/

/-- What is found at a path of tables. An array of tables is not entered. -/
def Node.at? : Path → Node → Option Node
  | [], n => some n
  | name :: path, .table _ entries => (Entries.find? name entries).bind (at? path)
  | name :: path, .value v => (v.at? (name :: path)).map .value
  | _ :: _, .tables .. => none

def Table.at? (path : Path) (t : Table) : Option Node :=
  Node.at? path (.table t.origin t.entries)

theorem Node.at?_value (path : Path) (v : Value) :
    Node.at? path (.value v) = (v.at? path).map .value := by
  cases path <;> rfl

theorem Table.at?_cons (name : String) (path : Path) (t : Table) :
    t.at? (name :: path) = (Entries.find? name t.entries).bind (Node.at? path) :=
  rfl

theorem Table.at?_put (name other : String) (path : Path) (n : Node) (t : Table) :
    (t.put name n).at? (other :: path) =
      if other = name then n.at? path else t.at? (other :: path) := by
  rw [Table.at?_cons, Table.at?_cons, Table.put, Entries.find?_insert]
  split <;> rfl

theorem at?_put_ne_none {name : String} {n : Node} (hpath : path <+: [name]) :
    (t.put name n).at? path ≠ none := by
  cases path with
  | nil => exact Option.some_ne_none _
  | cons other path =>
      rcases List.cons_prefix_cons.1 hpath with ⟨rfl, hrest⟩
      rw [List.prefix_nil.1 hrest, Table.at?_put, if_pos rfl]
      exact Option.some_ne_none _

theorem find?_toEntries (name : String) (entries : Entries Node) :
    Entries.find? name (toEntries entries) = (Entries.find? name entries).map Node.toValue := by
  induction entries with
  | nil => rfl
  | cons e entries ih =>
      rcases e with ⟨k, n⟩
      simp only [toEntries, Entries.find?]
      split
      · rfl
      · exact ih

theorem Node.at?_toValue (path : Path) (n : Node) :
    n.toValue.at? path = (n.at? path).map Node.toValue := by
  induction path generalizing n with
  | nil => rfl
  | cons name path ih =>
      cases n with
      | value v =>
          rw [Node.toValue, Node.at?]
          cases v.at? (name :: path) <;> rfl
      | table origin entries =>
          rw [Node.toValue, Value.at?, Node.at?, find?_toEntries]
          cases Entries.find? name entries with
          | none => rfl
          | some n => exact ih n
      | tables earlier origin entries => rfl

/-! ## Tables on the way -/

/-- One step down: the table under the first name is made, entered, or entered as the last one of
its array. -/
theorem descend_cons_cases {dotted : Bool} {act : Table → Option Table} {name : String}
    {place : Path} (h : t.descend dotted act (name :: place) = some t') :
    ∃ u inner : Table, u.descend dotted act place = some inner
      ∧ ((Entries.find? name t.entries = none ∧ u.entries = []
            ∧ t' = t.put name (.table inner.origin inner.entries))
        ∨ (Entries.find? name t.entries = some (.table u.origin u.entries)
            ∧ t' = t.put name (.table inner.origin inner.entries))
        ∨ ∃ earlier, Entries.find? name t.entries = some (.tables earlier u.origin u.entries)
            ∧ t' = t.put name (.tables earlier inner.origin inner.entries)) := by
  rw [Table.descend] at h
  split at h
  · rename_i hfind
    rcases Option.bind_eq_some_iff.1 h with ⟨inner, hinner, heq⟩
    cases heq
    exact ⟨_, inner, hinner, .inl ⟨hfind, rfl, rfl⟩⟩
  · cases h
  · rename_i earlier origin entries hfind
    rcases Option.bind_eq_some_iff.1 h with ⟨inner, hinner, heq⟩
    cases heq
    exact ⟨⟨origin, entries⟩, inner, hinner, .inr (.inr ⟨earlier, hfind, rfl⟩)⟩
  · rename_i origin entries hfind
    split at h
    · cases h
    · rcases Option.bind_eq_some_iff.1 h with ⟨inner, hinner, heq⟩
      cases heq
      exact ⟨⟨origin, entries⟩, inner, hinner, .inr (.inl ⟨hfind, rfl⟩)⟩

theorem descend_cons_eq_some {dotted : Bool} {act : Table → Option Table} {name : String}
    {place : Path} (h : t.descend dotted act (name :: place) = some t') :
    ∃ n, t' = t.put name n := by
  rcases descend_cons_cases h with ⟨u, inner, _, hcases⟩
  rcases hcases with ⟨_, _, rfl⟩ | ⟨_, rfl⟩ | ⟨earlier, _, rfl⟩
  · exact ⟨_, rfl⟩
  · exact ⟨_, rfl⟩
  · exact ⟨_, rfl⟩

/-- Any relation of nodes that allows for tables to grow on the way, and that holds of what is done
to the table at the end. -/
theorem rel_descend {R : Option Node → Option Node → Prop} {dotted : Bool}
    {act : Table → Option Table} {place : Path} (hsame : ∀ x, R x x)
    (htable : path <+: place → ∀ x origin entries,
      (x = none ∨ ∃ origin' entries', x = some (.table origin' entries')) →
        R x (some (.table origin entries)))
    (htables : path <+: place → ∀ earlier origin entries origin' entries',
      R (some (.tables earlier origin entries)) (some (.tables earlier origin' entries')))
    (hact : ∀ u u', act u = some u' → ∀ inner, path = place ++ inner →
      R (u.at? inner) (u'.at? inner))
    (h : t.descend dotted act place = some t') : R (t.at? path) (t'.at? path) := by
  induction place generalizing t t' path with
  | nil => exact hact t t' h path rfl
  | cons name place ih =>
      cases path with
      | nil => exact htable List.nil_prefix _ _ _ (.inr ⟨_, _, rfl⟩)
      | cons other path =>
          by_cases hother : other = name
          · subst hother
            rcases descend_cons_cases h with ⟨u, inner, hinner, hcases⟩
            have hrel : R (u.at? path) (inner.at? path) :=
              ih (fun hle => htable ((List.prefix_cons_inj other).2 hle))
                (fun hle => htables ((List.prefix_cons_inj other).2 hle))
                (fun u u' hu q hq => hact u u' hu q (by rw [hq, List.cons_append])) hinner
            -- A new table was nothing before, and an array is not entered: `hrel` is no help there
            -- when the path ends.
            rcases hcases with ⟨hfind, hempty, rfl⟩ | ⟨hfind, rfl⟩ | ⟨earlier, hfind, rfl⟩
            · rw [Table.at?_put, if_pos rfl, Table.at?_cons, hfind]
              cases path with
              | nil => exact htable (List.prefix_append [other] place) _ _ _ (.inl rfl)
              | cons next path =>
                  rw [Table.at?_cons, hempty] at hrel
                  exact hrel
            · rw [Table.at?_put, if_pos rfl, Table.at?_cons, hfind]
              exact hrel
            · rw [Table.at?_put, if_pos rfl, Table.at?_cons, hfind]
              cases path with
              | nil => exact htables (List.prefix_append [other] place) ..
              | cons next path => exact hsame none
          · rcases descend_cons_eq_some h with ⟨n, rfl⟩
            rw [Table.at?_put, if_neg hother]
            exact hsame _

/-- No array of tables is met on the way. -/
def Table.Free (path : Path) (t : Table) : Prop :=
  ∀ place, place <+: path → ∀ earlier origin entries,
    t.at? place ≠ some (.tables earlier origin entries)

theorem Table.Free.of_prefix {front : Path} (hfree : t.Free path) (hpath : front <+: path) :
    t.Free front :=
  fun place hplace => hfree place (hplace.trans hpath)

theorem Table.Free.below {u : Table} {front back : Path} (hfree : t.Free (front ++ back))
    (hbelow : ∀ inner, inner ≠ [] → u.at? inner = t.at? (front ++ inner)) : u.Free back := by
  intro inner hinner earlier origin entries hmet
  cases inner with
  | nil => cases hmet
  | cons first inner =>
      rw [hbelow _ (List.cons_ne_nil first inner)] at hmet
      exact hfree _ ((List.prefix_append_right_inj front).2 hinner) _ _ _ hmet

/-- One step down where no array is met. -/
theorem descend_cons_of_free {dotted : Bool} {act : Table → Option Table} {name : String}
    {place : Path} (hfree : t.Free [name]) (h : t.descend dotted act (name :: place) = some t') :
    ∃ u next : Table, u.descend dotted act place = some next
      ∧ (∀ inner, t'.at? (name :: inner) = next.at? inner)
      ∧ ∀ inner, inner ≠ [] → u.at? inner = t.at? ([name] ++ inner) := by
  rcases descend_cons_cases h with ⟨u, next, hnext, hcases⟩
  refine ⟨u, next, hnext, ?_⟩
  rcases hcases with ⟨hfind, hempty, rfl⟩ | ⟨hfind, rfl⟩ | ⟨earlier, hfind, _⟩
  · refine ⟨fun inner => ?_, fun inner hne => ?_⟩
    · rw [Table.at?_put, if_pos rfl]
      rfl
    · cases inner with
      | nil => exact absurd rfl hne
      | cons first inner =>
          rw [List.singleton_append, Table.at?_cons, Table.at?_cons, hfind, hempty]
          rfl
  · refine ⟨fun inner => ?_, fun inner _ => ?_⟩
    · rw [Table.at?_put, if_pos rfl]
      rfl
    · rw [List.singleton_append, Table.at?_cons, hfind]
      rfl
  · refine absurd ?_ (hfree [name] List.prefix_rfl earlier u.origin u.entries)
    rw [Table.at?_cons, hfind]
    rfl

/-- Where no array is met, the table at the end is the one at the path. -/
theorem at?_descend {dotted : Bool} {act : Table → Option Table} {place : Path}
    (hfree : t.Free place) (h : t.descend dotted act place = some t') :
    ∃ u u', act u = some u' ∧ (∀ inner, t'.at? (place ++ inner) = u'.at? inner)
      ∧ ∀ inner, inner ≠ [] → u.at? inner = t.at? (place ++ inner) := by
  induction place generalizing t t' with
  | nil => exact ⟨t, t', h, fun _ => rfl, fun _ _ => rfl⟩
  | cons name place ih =>
      have hname : t.Free [name] := hfree.of_prefix (List.prefix_append [name] place)
      rcases descend_cons_of_free hname h with ⟨u, next, hnext, hput, hbelow⟩
      rcases ih (Table.Free.below hfree hbelow) hnext with ⟨last, last', hact, hafter, hbefore⟩
      refine ⟨last, last', hact, fun inner => ?_, fun inner hne => ?_⟩
      · rw [List.cons_append, hput, hafter]
      · rw [hbefore inner hne, hbelow _ (List.append_ne_nil_of_right_ne_nil _ hne)]
        rfl

/-- All tables on the way are there afterwards. -/
theorem present_descend {dotted : Bool} {act : Table → Option Table} {place : Path}
    (hpath : path <+: place) (hfree : t.Free path.dropLast)
    (h : t.descend dotted act place = some t') : t'.at? path ≠ none := by
  induction place generalizing t t' path with
  | nil =>
      rw [List.prefix_nil.1 hpath]
      exact Option.some_ne_none _
  | cons name place ih =>
      cases path with
      | nil => exact Option.some_ne_none _
      | cons other path =>
          rcases List.cons_prefix_cons.1 hpath with ⟨rfl, hrest⟩
          cases path with
          | nil =>
              rcases descend_cons_eq_some h with ⟨n, rfl⟩
              exact at?_put_ne_none List.prefix_rfl
          | cons inner path =>
              have hname : t.Free [other] := hfree.of_prefix (List.prefix_append [other] _)
              rcases descend_cons_of_free hname h with ⟨u, next, hnext, hput, hbelow⟩
              rw [hput]
              exact ih hrest (Table.Free.below hfree hbelow) hnext

/-- What is on the way to a place below, when the table at the end has it. -/
theorem reach_descend {dotted : Bool} {act : Table → Option Table} {front back : Path}
    (hact : ∀ u u', act u = some u' → ∀ inner, inner <+: back → u.Free inner.dropLast →
      u'.at? inner ≠ none)
    (hpath : path <+: front ++ back) (hfree : t.Free path.dropLast)
    (h : t.descend dotted act front = some t') : t'.at? path ≠ none := by
  rcases List.prefix_or_prefix_of_prefix hpath (List.prefix_append front back) with hle | hge
  · exact present_descend hle hfree h
  · rcases hge with ⟨inner, rfl⟩
    by_cases hinner : inner = []
    · subst hinner
      rw [List.append_nil] at hfree ⊢
      exact present_descend List.prefix_rfl hfree h
    · rw [List.dropLast_append_of_ne_nil hinner] at hfree
      rcases at?_descend (hfree.of_prefix (List.prefix_append front _)) h with
        ⟨u, u', hu, hafter, hbelow⟩
      rw [hafter]
      exact hact u u' hu inner ((List.prefix_append_right_inj front).1 hpath)
        (Table.Free.below hfree hbelow)

/-! ## What one statement does -/

/-- How a statement at its place can change what is found at a path. -/
inductive Change (path : Path) (p : Path × Statement) : Option Node → Option Node → Prop where
  | same (x : Option Node) : Change path p x x
  | table {x : Option Node} {origin : Origin} {entries : Entries Node} (hpath : path <+: p.1)
      (hx : x = none ∨ ∃ origin' entries', x = some (.table origin' entries')) :
      Change path p x (some (.table origin entries))
  | tables {earlier earlier' : List Node} {origin origin' : Origin}
      {entries entries' : Entries Node} (hpath : path <+: p.1) :
      Change path p (some (.tables earlier origin entries))
        (some (.tables earlier' origin' entries'))
  | element {earlier : List Node} {origin : Origin} {entries : Entries Node}
      (hp : p = (path, .element path)) : Change path p none (some (.tables earlier origin entries))
  | written {v : Value} (hv : Statement.WritesAt path v p) : Change path p none (some (.value v))

variable {p : Path × Statement} {u u' : Table} {parents inner : Path} {name : String}

theorem openHere_eq_some (h : u.openHere name = some u') :
    ∃ entries, ((Entries.find? name u.entries = none ∧ entries = [])
        ∨ Entries.find? name u.entries = some (.table .implied entries))
      ∧ u' = u.put name (.table .header entries) := by
  unfold Table.openHere at h
  split at h
  · rename_i hfind
    cases h
    exact ⟨[], .inl ⟨hfind, rfl⟩, rfl⟩
  · rename_i entries hfind
    cases h
    exact ⟨entries, .inr hfind, rfl⟩
  · cases h

theorem pushHere_eq_some (h : u.pushHere name = some u') :
    ∃ found, (Entries.find? name u.entries = none
        ∨ ∃ earlier origin entries,
          Entries.find? name u.entries = some (.tables earlier origin entries))
      ∧ u' = u.put name (.tables found .header []) := by
  unfold Table.pushHere at h
  split at h
  · rename_i hfind
    cases h
    exact ⟨[], .inl hfind, rfl⟩
  · rename_i earlier origin entries hfind
    cases h
    exact ⟨_, .inr ⟨earlier, origin, entries, hfind⟩, rfl⟩
  · cases h

theorem assignHere_eq_some {direct : Bool} {v : Value} (h : u.assignHere direct name v = some u') :
    Entries.find? name u.entries = none ∧ u' = u.put name (.value v) := by
  unfold Table.assignHere at h
  split at h
  · cases h
  · split at h
    · cases h
    · rename_i hcontains
      cases h
      exact ⟨by simpa [Entries.contains] using hcontains, rfl⟩

/-- What is put under a name at the place changes nothing under other names. -/
theorem change_put {n : Node} (hpath : path = parents ++ inner) (hplace : p.1 = parents ++ [name])
    (hname : ∀ rest, inner = name :: rest →
      Change path p ((Entries.find? name u.entries).bind (Node.at? rest)) (n.at? rest)) :
    Change path p (u.at? inner) ((u.put name n).at? inner) := by
  cases inner with
  | nil =>
      rw [List.append_nil] at hpath
      exact .table (hpath ▸ hplace ▸ List.prefix_append parents [name]) (.inr ⟨_, _, rfl⟩)
  | cons other rest =>
      rw [Table.at?_put]
      split
      · rename_i hother
        subst hother
        exact hname rest rfl
      · exact .same _

theorem change_openHere (hpath : path = parents ++ inner) (hplace : p.1 = parents ++ [name])
    (h : u.openHere name = some u') : Change path p (u.at? inner) (u'.at? inner) := by
  rcases openHere_eq_some h with ⟨entries, hfind, rfl⟩
  refine change_put hpath hplace fun rest hrest => ?_
  cases rest with
  | nil =>
      refine .table (hplace ▸ hpath ▸ hrest ▸ List.prefix_rfl) ?_
      rcases hfind with ⟨hfind, _⟩ | hfind
      · exact .inl (by rw [hfind]; rfl)
      · exact .inr ⟨_, _, by rw [hfind]; rfl⟩
  | cons next rest =>
      rcases hfind with ⟨hfind, rfl⟩ | hfind
      · rw [hfind]
        exact .same none
      · rw [hfind]
        exact .same _

theorem change_pushHere (hpath : path = parents ++ inner)
    (hp : p = (parents ++ [name], .element (parents ++ [name])))
    (h : u.pushHere name = some u') : Change path p (u.at? inner) (u'.at? inner) := by
  have hplace : p.1 = parents ++ [name] := by rw [hp]
  rcases pushHere_eq_some h with ⟨found, hfind, rfl⟩
  refine change_put hpath hplace fun rest hrest => ?_
  rcases hfind with hfind | ⟨earlier, origin, entries, hfind⟩
  · rw [hfind]
    cases rest with
    | nil => exact .element (by rw [hp, hpath, hrest])
    | cons next rest => exact .same none
  · rw [hfind]
    cases rest with
    | nil => exact .tables (hplace ▸ hpath ▸ hrest ▸ List.prefix_rfl)
    | cons next rest => exact .same none

theorem change_assignHere {key : Path} {direct : Bool} {v : Value}
    (hpath : path = parents ++ inner) (hp : p = (parents ++ [name], .assign key v))
    (h : u.assignHere direct name v = some u') : Change path p (u.at? inner) (u'.at? inner) := by
  rcases assignHere_eq_some h with ⟨hfind, rfl⟩
  refine change_put hpath (by rw [hp]) fun rest hrest => ?_
  rw [hfind]
  have hwhole : path = (parents ++ [name]) ++ rest := by
    rw [hpath, hrest, List.append_assoc, List.singleton_append]
  rw [Node.at?_value]
  cases hv : v.at? rest with
  | none => exact .same none
  | some found => exact .written (hp ▸ .assign hwhole hv)

theorem change_descend {dotted : Bool} {act : Table → Option Table} (outer : Path)
    (hpath : path = outer ++ inner) (hparents : outer ++ parents <+: p.1)
    (hact : ∀ u u', act u = some u' → ∀ q, path = outer ++ parents ++ q →
      Change path p (u.at? q) (u'.at? q))
    (h : t.descend dotted act parents = some t') : Change path p (t.at? inner) (t'.at? inner) := by
  have hplace : inner <+: parents → path <+: p.1 := by
    intro hinner
    rw [hpath]
    exact ((List.prefix_append_right_inj outer).2 hinner).trans hparents
  exact rel_descend .same (fun hinner _ _ _ hx => .table (hplace hinner) hx)
    (fun hinner _ _ _ _ _ => .tables (hplace hinner))
    (fun u u' hu q hq => hact u u' hu q (by rw [hpath, hq, List.append_assoc])) h

/-- Everything that a statement can do. -/
theorem change_carryOut (h : d.carryOut st = some d') (path : Path) :
    Change path (st.place d.opened, st) (d.root.at? path) (d'.root.at? path)
      ∧ d'.opened = st.opens d.opened := by
  cases st with
  | table key =>
      rcases openTable_eq_some h with ⟨parents, name, root, rfl, hroot, rfl⟩
      refine ⟨change_descend [] rfl (List.prefix_append parents [name]) ?_ hroot, rfl⟩
      exact fun u u' hu q hq => change_openHere hq rfl hu
  | element key =>
      rcases openElement_eq_some h with ⟨parents, name, root, rfl, hroot, rfl⟩
      refine ⟨change_descend [] rfl (List.prefix_append parents [name]) ?_ hroot, rfl⟩
      exact fun u u' hu q hq => change_pushHere hq rfl hu
  | assign key v =>
      rcases assign_eq_some h with ⟨parents, name, root, rfl, hroot, rfl⟩
      have hparents : d.opened ++ parents <+: d.opened ++ (parents ++ [name]) :=
        (List.prefix_append_right_inj _).2 (List.prefix_append parents [name])
      refine ⟨change_descend [] rfl (List.prefix_append d.opened _) ?_ hroot, rfl⟩
      intro u u' hu q hq
      refine change_descend d.opened hq hparents (fun u u' hu q hq => ?_) hu
      exact change_assignHere hq (by rw [Statement.place, List.append_assoc]) hu

/-! ## What a change leaves alone -/

theorem Change.value {x y : Option Node} {v : Value} (h : Change path p x y)
    (hx : x = some (.value v)) : y = some (.value v) := by
  cases h with
  | same => exact hx
  | table _ hkind =>
      rcases hkind with rfl | ⟨_, _, rfl⟩
      · cases hx
      · cases hx
  | tables => cases hx
  | element => cases hx
  | written => cases hx

theorem Change.present {x y : Option Node} (h : Change path p x y) (hx : x ≠ none) : y ≠ none := by
  cases h with
  | same => exact hx
  | table => exact Option.some_ne_none _
  | tables => exact Option.some_ne_none _
  | element => exact Option.some_ne_none _
  | written => exact Option.some_ne_none _

theorem Change.absent {x y : Option Node} (h : Change path p x y)
    (hst : ¬ Statement.Reaches path p) (hx : x = none) : y = none := by
  cases h with
  | same => exact hx
  | table hpath => exact absurd (.below hpath) hst
  | tables hpath => exact absurd (.below hpath) hst
  | element hp => exact absurd (hp ▸ .below List.prefix_rfl) hst
  | written hv => exact absurd (.inside hv) hst

theorem Change.written_of_value {x y : Option Node} {v : Value} (h : Change path p x y)
    (hy : y = some (.value v)) : x = some (.value v) ∨ Statement.WritesAt path v p := by
  cases h with
  | same => exact .inl hy
  | table => cases hy
  | tables => cases hy
  | element => cases hy
  | written hv =>
      cases hy
      exact .inr hv

theorem Change.free {x y : Option Node} (h : Change path p x y) (hst : p.2 ≠ .element path)
    (hx : ∀ earlier origin entries, x ≠ some (.tables earlier origin entries)) :
    ∀ earlier origin entries, y ≠ some (.tables earlier origin entries) := by
  cases h with
  | same => exact hx
  | table => exact fun _ _ _ h => by cases h
  | tables => exact absurd rfl (hx _ _ _)
  | element hp => exact absurd (congrArg Prod.snd hp) hst
  | written => exact fun _ _ _ h => by cases h

/-! ## Where statements get to -/

theorem at?_assign {key : Path} {v : Value} (hfree : d.root.Free (d.opened ++ key).dropLast)
    (h : d.assign key v = some d') (inner : Path) :
    d'.root.at? (d.opened ++ key ++ inner) = Node.at? inner (.value v) := by
  rcases assign_eq_some h with ⟨parents, name, root, rfl, hroot, rfl⟩
  rw [← List.append_assoc, List.dropLast_concat] at hfree
  have hopened : d.root.Free d.opened := hfree.of_prefix (List.prefix_append _ _)
  rcases at?_descend hopened hroot with ⟨u, u', hu, hafter, hbelow⟩
  rcases at?_descend (Table.Free.below hfree hbelow) hu with ⟨last, last', hlast, hput, _⟩
  rcases assignHere_eq_some hlast with ⟨_, rfl⟩
  rw [List.append_assoc, hafter, List.append_assoc, hput, List.singleton_append, Table.at?_put,
    if_pos rfl]

theorem carryOut_writes {v : Value} (hfree : d.root.Free path.dropLast)
    (hv : Statement.WritesAt path v (st.place d.opened, st)) (h : d.carryOut st = some d') :
    d'.root.at? path = some (.value v) := by
  cases hv with
  | @assign _ key inner whole hpath hvalue =>
      have hkey : d.root.Free (d.opened ++ key).dropLast := by
        rw [hpath, Statement.place] at hfree
        cases inner with
        | nil => simpa using hfree
        | cons first inner =>
            rw [List.dropLast_append_cons] at hfree
            exact hfree.of_prefix ((List.dropLast_prefix _).trans (List.prefix_append _ _))
      rw [hpath, Statement.place, at?_assign hkey h, Node.at?_value, hvalue]
      rfl

/-- A statement gets to its place, where no array of tables is in the way. -/
theorem carryOut_reaches (hpath : path <+: st.place d.opened) (hfree : d.root.Free path.dropLast)
    (h : d.carryOut st = some d') : d'.root.at? path ≠ none := by
  cases st with
  | table key =>
      rcases openTable_eq_some h with ⟨parents, name, root, rfl, hroot, rfl⟩
      refine reach_descend (fun u u' hu inner hinner _ => ?_) hpath hfree hroot
      rcases openHere_eq_some hu with ⟨_, _, rfl⟩
      exact at?_put_ne_none hinner
  | element key =>
      rcases openElement_eq_some h with ⟨parents, name, root, rfl, hroot, rfl⟩
      refine reach_descend (fun u u' hu inner hinner _ => ?_) hpath hfree hroot
      rcases pushHere_eq_some hu with ⟨_, _, rfl⟩
      exact at?_put_ne_none hinner
  | assign key v =>
      rcases assign_eq_some h with ⟨parents, name, root, rfl, hroot, rfl⟩
      refine reach_descend (fun u u' hu inner hinner hfree => ?_) hpath hfree hroot
      refine reach_descend (fun u u' hu inner hinner _ => ?_) hinner hfree hu
      rcases assignHere_eq_some hu with ⟨_, rfl⟩
      exact at?_put_ne_none hinner

end Toml
end RpcHost
