import RpcHost.Proofs.Rpc.Separation
import RpcHost.Proofs.Entries
import RpcHost.Proofs.Text.Order

/-!
# Registering methods

A table is a finite map from names to methods in which the last registration counts. It does not
matter in which order names were registered, nor what was replaced. The same holds while the table
is in use: what is under a name is the method that was registered last, after the requests for it
since then. The main statement is `last_registration_counts`.
-/

namespace RpcHost
namespace Rpc

open MethodTable

variable {τ : Type} {name : String} {m : Method τ} {rs others : List (String × Method τ)}
  {table other : MethodTable τ}

/-! ## Registrations -/

/-- The table that some registrations make, one after the other. -/
def registered (rs : List (String × Method τ)) : MethodTable τ :=
  rs.foldl (fun table e => register e.1 e.2 table) []

/-- The method of the last of some registrations under a name. -/
def lastUnder? (name : String) (rs : List (String × Method τ)) : Option (Method τ) :=
  (rs.filter (·.1 = name)).getLast?.map (·.2)

theorem registered_concat (rs : List (String × Method τ)) (name : String) (m : Method τ) :
    registered (rs ++ [(name, m)]) = register name m (registered rs) := by
  rw [registered, List.foldl_append]
  rfl

theorem lastUnder?_concat (name key : String) (rs : List (String × Method τ)) (m : Method τ) :
    lastUnder? name (rs ++ [(key, m)]) = if name = key then some m else lastUnder? name rs := by
  by_cases h : key = name
  · simp [lastUnder?, h]
  · simp [lastUnder?, h, Ne.symm h]

theorem lastUnder?_eq_none_iff : lastUnder? name rs = none ↔ name ∉ Entries.keys rs := by
  rw [lastUnder?, Option.map_eq_none_iff, List.getLast?_eq_none_iff, List.filter_eq_nil_iff]
  constructor
  · intro h hmem
    rcases List.mem_map.1 hmem with ⟨e, he, rfl⟩
    exact h e he (decide_eq_true rfl)
  · intro h e he hname
    exact h (List.mem_map.2 ⟨e, he, of_decide_eq_true hname⟩)

theorem find?_registered (name : String) (rs : List (String × Method τ)) :
    Entries.find? name (registered rs) = lastUnder? name rs := by
  -- The last registration is the first to be looked at.
  induction rs using List.reverseRecOn with
  | nil => rfl
  | append_singleton rs e ih =>
      rcases e with ⟨key, m⟩
      rw [registered_concat, lastUnder?_concat, register, Entries.find?_insert, ih]

theorem ascending_registered (rs : List (String × Method τ)) :
    Entries.Ascending (registered rs) :=
  Entries.ascending_ofList rs

theorem mem_names_registered_iff : name ∈ names (registered rs) ↔ name ∈ Entries.keys rs := by
  rw [names, Entries.mem_keys_iff, find?_registered, ← Option.ne_none_iff_isSome, Ne,
    lastUnder?_eq_none_iff, Decidable.not_not]

theorem contains_registered_iff :
    contains name (registered rs) = true ↔ name ∈ Entries.keys rs := by
  rw [← mem_names_registered_iff, names, Entries.mem_keys_iff]
  rfl

/-- Tables show the last registration under each name, and nothing else. -/
theorem registered_eq_iff :
    registered rs = registered others ↔ ∀ name, lastUnder? name rs = lastUnder? name others := by
  constructor
  · intro h name
    rw [← find?_registered, ← find?_registered, h]
  · intro h
    -- Both tables are in ascending order, so it is enough to look every name up.
    refine Entries.eq_of_find?_eq (ascending_registered rs) (ascending_registered others) ?_
    intro name
    rw [find?_registered, find?_registered, h]

/-! ## Names -/

theorem pairwise_names (h : Entries.Ascending table) : (names table).Pairwise (· < ·) :=
  List.pairwise_map.2 h

theorem pairwise_utf8_names (h : Entries.Ascending table) :
    (names table).Pairwise fun a b => Text.utf8 a < Text.utf8 b := by
  refine (pairwise_names h).imp ?_
  intro a b hlt
  exact Text.utf8_lt_utf8 hlt

/-- What is listed depends only on which names there are. -/
theorem names_eq_of_mem_iff (h : Entries.Ascending table) (hother : Entries.Ascending other)
    (hsame : ∀ name, name ∈ names table ↔ name ∈ names other) : names table = names other :=
  (pairwise_names h).eq_of_mem_iff (pairwise_names hother) hsame

/-! ## Serving -/

/-- Serving where calling a method is an effect, so that it shows which methods are called and how
often. -/
def serveBy {f : Type → Type} [Monad f] (call : Method τ → Request → f (Outcome × Method τ))
    (r : Request) (table : MethodTable τ) : f (Outcome × MethodTable τ) :=
  match Entries.find? r.method table with
  | some m => do
      let (outcome, m) ← call m r
      return (outcome, register r.method m table)
  | none => pure (unknownMethod r, table)

theorem serve_eq_serveBy (r : Request) (table : MethodTable τ) :
    MethodTable.serve r table = Id.run (serveBy (fun m r => pure (m.call r)) r table) := by
  unfold MethodTable.serve serveBy
  cases Entries.find? r.method table <;> rfl

/-- A request calls just this method, once, and the table keeps what the call leaves of it. -/
structure Calls (r : Request) (m : Method τ) (table : MethodTable τ) : Prop where
  serve : MethodTable.serve r table = ((m.call r).1, register r.method (m.call r).2 table)
  serveBy : ∀ (f : Type → Type) [Monad f] (call : Method τ → Request → f (Outcome × Method τ)),
    serveBy call r table = do
      let (outcome, m) ← call m r
      return (outcome, register r.method m table)

/-- A request calls no method, and is told so. -/
structure CallsNone (r : Request) (table : MethodTable τ) : Prop where
  serve : MethodTable.serve r table = (.fault .unknownMethod, table)
  serveBy : ∀ (f : Type → Type) [Monad f] (call : Method τ → Request → f (Outcome × Method τ)),
    serveBy call r table = pure (.fault .unknownMethod, table)

theorem calls_of_find? {r : Request} (h : Entries.find? r.method table = some m) :
    Calls r m table := by
  have hserveBy : ∀ (f : Type → Type) [Monad f]
      (call : Method τ → Request → f (Outcome × Method τ)),
      serveBy call r table = do
        let (outcome, m) ← call m r
        return (outcome, register r.method m table) := by
    intro f _ call
    rw [serveBy, h]
  refine ⟨?_, hserveBy⟩
  rw [serve_eq_serveBy, hserveBy]
  rfl

theorem callsNone_of_find? {r : Request} (h : Entries.find? r.method table = none) :
    CallsNone r table := by
  have hserveBy : ∀ (f : Type → Type) [Monad f]
      (call : Method τ → Request → f (Outcome × Method τ)),
      serveBy call r table = pure (.fault .unknownMethod, table) := by
    intro f _ call
    rw [serveBy, h]
    rfl
  refine ⟨?_, hserveBy⟩
  rw [serve_eq_serveBy, hserveBy]
  rfl

/-! ## Tables in use -/

/-- What is done with a table. -/
inductive TableUse (τ : Type) where
  | register (name : String) (m : Method τ)
  | serve (r : Request)

namespace TableUse

/-- The table after that. -/
def after (table : MethodTable τ) : TableUse τ → MethodTable τ
  | register name m => MethodTable.register name m table
  | serve r => (MethodTable.serve r table).2

/-- The request for a method that this serves, if it serves one. -/
def requestTo? (name : String) : TableUse τ → Option Request
  | register _ _ => none
  | serve r => if r.method = name then some r else none

/-- A method that is asked for is called, and one that is not stays as it is. -/
theorem find?_after {use : TableUse τ} (h : ∀ m, use ≠ .register name m)
    (hfound : Entries.find? name table = some m) :
    Entries.find? name (use.after table) =
      some ((use.requestTo? name).elim m fun r => (m.call r).2) := by
  cases use with
  | register key other =>
      -- Only a registration under the same name would replace the method.
      have hne : name ≠ key := by
        rintro rfl
        exact h other rfl
      exact (Entries.find?_insert_of_ne hne other table).trans hfound
  | serve r =>
      by_cases hname : r.method = name
      · subst hname
        simp [after, requestTo?, MethodTable.serve, hfound]
      · have hother : Entries.find? name (MethodTable.serve r table).2 = some m :=
          (find?_dispatch_serve_of_ne hname table).trans hfound
        simpa [after, requestTo?, hname] using hother

theorem ascending_after (use : TableUse τ) (h : Entries.Ascending table) :
    Entries.Ascending (use.after table) := by
  cases use with
  | register key m => exact Entries.ascending_insert key m h
  | serve r =>
      rw [after, MethodTable.serve]
      cases Entries.find? r.method table with
      | none => exact h
      | some m => exact Entries.ascending_insert _ _ h

end TableUse

/-- A table after all that is done with it, one after the other. -/
def afterAll (uses : List (TableUse τ)) (table : MethodTable τ) : MethodTable τ :=
  uses.foldl TableUse.after table

/-- A method after some calls, one after the other. -/
def Method.afterCalls (m : Method τ) (requests : List Request) : Method τ :=
  requests.foldl (fun m r => (m.call r).2) m

theorem ascending_afterAll (uses : List (TableUse τ)) (h : Entries.Ascending table) :
    Entries.Ascending (afterAll uses table) := by
  induction uses generalizing table with
  | nil => exact h
  | cons use uses ih => exact ih (use.ascending_after h)

theorem find?_afterAll {uses : List (TableUse τ)}
    (h : ∀ m, TableUse.register name m ∉ uses) (hfound : Entries.find? name table = some m) :
    Entries.find? name (afterAll uses table) =
      some (m.afterCalls (uses.filterMap (TableUse.requestTo? name))) := by
  -- Each use leaves a method under the name, which the rest goes on from.
  induction uses generalizing table m with
  | nil => exact hfound
  | cons use uses ih =>
      have hrest : ∀ m, TableUse.register name m ∉ uses := by
        intro m hmem
        exact h m (List.mem_cons_of_mem use hmem)
      have huse : ∀ m, use ≠ .register name m := by
        rintro m rfl
        exact h m List.mem_cons_self
      have hstep := ih hrest (use.find?_after huse hfound)
      rw [List.filterMap_cons]
      cases hrequest : use.requestTo? name with
      | none =>
          rw [hrequest] at hstep
          exact hstep
      | some r =>
          rw [hrequest] at hstep
          exact hstep

/-- A method starts with the state that it was registered with, whatever was there before. -/
theorem find?_afterAll_register {later : List (TableUse τ)}
    (h : ∀ m, TableUse.register name m ∉ later) (earlier : List (TableUse τ)) (m : Method τ)
    (table : MethodTable τ) :
    Entries.find? name (afterAll (earlier ++ .register name m :: later) table) =
      some (m.afterCalls (later.filterMap (TableUse.requestTo? name))) := by
  have hregistered : Entries.find? name (register name m (afterAll earlier table)) = some m :=
    Entries.find?_insert_self name m _
  rw [afterAll, List.foldl_append, List.foldl_cons]
  exact find?_afterAll h hregistered

/-- Nothing is left of what is replaced. -/
theorem register_eq_register (h : Entries.Ascending table) (hother : Entries.Ascending other)
    (hsame : ∀ key, key ≠ name → Entries.find? key table = Entries.find? key other)
    (m : Method τ) : register name m table = register name m other := by
  refine Entries.eq_of_find?_eq (Entries.ascending_insert name m h)
    (Entries.ascending_insert name m hother) ?_
  intro key
  rw [register, register, Entries.find?_insert, Entries.find?_insert]
  by_cases hkey : key = name
  · rw [if_pos hkey, if_pos hkey]
  · rw [if_neg hkey, if_neg hkey, hsame key hkey]

/-! ## The last registration -/

/-- Whatever is registered, repeatedly and in any order, a table knows the last registration under
each name and nothing else. -/
theorem last_registration_counts (rs : List (String × Method τ)) :
    -- a request calls the method that was registered last under just its name, or none
    (∀ r m, lastUnder? r.method rs = some m → Calls r m (registered rs))
    ∧ (∀ r, r.method ∉ Entries.keys rs → CallsNone r (registered rs))
    -- the names that are listed are those that were registered, each once and in byte order
    ∧ (∀ name, contains name (registered rs) = true ↔ name ∈ Entries.keys rs)
    ∧ (∀ name, name ∈ names (registered rs) ↔ name ∈ Entries.keys rs)
    ∧ (names (registered rs)).Pairwise (fun a b => Text.utf8 a < Text.utf8 b)
    -- tables with the same last registrations are the same, and show the same with the same names
    ∧ (∀ others, registered rs = registered others ↔
        ∀ name, lastUnder? name rs = lastUnder? name others)
    ∧ (∀ others : List (String × Method τ),
        (∀ name, name ∈ Entries.keys rs ↔ name ∈ Entries.keys others) →
        names (registered rs) = names (registered others)
        ∧ display (registered rs) = display (registered others))
    -- while the table is in use, a method has seen just the requests since it was registered
    ∧ (∀ earlier r m later, (∀ m, TableUse.register r.method m ∉ later) →
        Calls r (m.afterCalls (later.filterMap (TableUse.requestTo? r.method)))
          (afterAll (earlier ++ .register r.method m :: later) (registered rs)))
    -- and nothing is left of the one that it replaced
    ∧ ∀ (uses others : List (TableUse τ)) (name : String),
        (∀ key, key ≠ name → Entries.find? key (afterAll uses (registered rs)) =
          Entries.find? key (afterAll others (registered rs))) →
        ∀ m, register name m (afterAll uses (registered rs)) =
          register name m (afterAll others (registered rs)) := by
  have hsorted := ascending_registered rs
  refine ⟨?_, ?_, ?_, ?_, pairwise_utf8_names hsorted, ?_, ?_, ?_, ?_⟩
  · intro r m hlast
    exact calls_of_find? ((find?_registered r.method rs).trans hlast)
  · intro r hnone
    exact callsNone_of_find?
      ((find?_registered r.method rs).trans (lastUnder?_eq_none_iff.2 hnone))
  · intro name
    exact contains_registered_iff
  · intro name
    exact mem_names_registered_iff
  · intro others
    exact registered_eq_iff
  · intro others hkeys
    have hnames : names (registered rs) = names (registered others) := by
      refine names_eq_of_mem_iff hsorted (ascending_registered others) ?_
      intro name
      rw [mem_names_registered_iff, mem_names_registered_iff]
      exact hkeys name
    refine ⟨hnames, ?_⟩
    unfold display
    rw [hnames]
  · intro earlier r m later hlater
    exact calls_of_find? (find?_afterAll_register hlater earlier m (registered rs))
  · intro uses others name hsame m
    exact register_eq_register (ascending_afterAll uses hsorted) (ascending_afterAll others hsorted)
      hsame m

/-- A counter that another one replaces, which goes on from five. -/
def renumbered : List (String × Method Nat) :=
  [("n", ⟨0, numbering⟩), ("m", ⟨0, numbering⟩), ("n", ⟨5, numbering⟩)]

/-- The same without the first counter, and in another order. -/
def numbered : List (String × Method Nat) :=
  [("n", ⟨5, numbering⟩), ("m", ⟨0, numbering⟩)]

/-- A call of the counter, another counter from zero, and a call of that one. -/
def recounted : List (TableUse Nat) :=
  [.serve (asked "n" 1), .register "n" ⟨0, numbering⟩, .serve (asked "n" 2)]

theorem last_registration_counts_when_replaced :
    (MethodTable.serve (asked "n" 1) (registered renumbered)).1 = .result (.number (.integer 5))
    ∧ (MethodTable.serve (asked "N" 1) (registered renumbered)).1 = .fault .unknownMethod
    ∧ registered renumbered = registered numbered
    ∧ display (registered renumbered) = display (registered numbered)
    -- the third call is the second one of the counter that is there by then
    ∧ (MethodTable.serve (asked "n" 3) (afterAll recounted (registered renumbered))).1 =
        .result (.number (.integer 1))
    ∧ register "n" ⟨0, numbering⟩ (afterAll [.serve (asked "n" 1)] (registered renumbered)) =
        register "n" ⟨0, numbering⟩ (registered renumbered) := by
  rcases last_registration_counts renumbered with
    ⟨hcalls, hnone, _, _, _, htables, hnames, huse, hreplaced⟩
  have hlast : ∀ name, lastUnder? name renumbered = lastUnder? name numbered := by
    intro name
    by_cases hn : "n" = name
    · subst hn
      rfl
    · by_cases hm : "m" = name
      · subst hm
        rfl
      · simp [lastUnder?, renumbered, numbered, hn, hm]
  refine ⟨?_, ?_, (htables numbered).2 hlast, (hnames numbered ?_).2, ?_, ?_⟩
  · exact congrArg Prod.fst (hcalls (asked "n" 1) ⟨5, numbering⟩ rfl).serve
  · exact congrArg Prod.fst (hnone (asked "N" 1) (by decide)).serve
  · intro name
    simp only [renumbered, numbered, Entries.keys, List.map_cons, List.map_nil, List.mem_cons,
      List.not_mem_nil, or_false]
    grind
  · exact congrArg Prod.fst (huse [.serve (asked "n" 1)] (asked "n" 3) ⟨0, numbering⟩
      [.serve (asked "n" 2)] (by simp)).serve
  · refine hreplaced [.serve (asked "n" 1)] [] "n" ?_ _
    intro key hkey
    have hother : (asked "n" 1).method ≠ key := hkey.symm
    exact find?_dispatch_serve_of_ne hother (registered renumbered)

end Rpc
end RpcHost
