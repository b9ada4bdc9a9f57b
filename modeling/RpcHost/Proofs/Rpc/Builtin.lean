import RpcHost.Proofs.Rpc.Serving
import RpcHost.Rpc.MethodTable

/-!
# The table that is there from the start

None of the methods that are there from the start has a state, so the table stays as it is whatever
it is asked, and each request is answered as if it were the first: `serve_builtin`.
-/

namespace RpcHost

namespace Rpc
namespace MethodTable

variable {τ : Type}

/-- A method without state leaves the table as it was. -/
theorem serve_of_stateless {table : MethodTable τ} (hasc : Entries.Ascending table) {r : Request}
    {state : τ} {run : Request → Outcome}
    (h : Entries.find? r.method table = some (.stateless state run)) :
    serve r table = (run r, table) := by
  have hcall : (Method.stateless state run).call r = (run r, .stateless state run) := rfl
  simp [serve, h, hcall, Entries.insert_of_find? hasc h]

/-- What the methods do that are there from the start, by name. -/
def builtinRuns : Entries (Request → Outcome) :=
  [("build_info", buildInfo), ("echo", echo), ("ping", ping), ("unimplemented", unimplemented)]

theorem builtin_eq (state : τ) :
    builtin state = builtinRuns.map fun e => (e.1, .stateless state e.2) :=
  rfl

/-- What a request is answered from the start. -/
def builtinOutcome (r : Request) : Outcome :=
  ((Entries.find? r.method builtinRuns).getD unknownMethod) r

theorem ascending_builtin (state : τ) : Entries.Ascending (builtin state) := by
  have hruns : Entries.Ascending builtinRuns := by
    decide
  rw [builtin_eq]
  exact List.pairwise_map.2 hruns

@[simp] theorem serve_builtin (state : τ) (r : Request) :
    serve r (builtin state) = (builtinOutcome r, builtin state) := by
  have hfound : Entries.find? r.method (builtin state) =
      (Entries.find? r.method builtinRuns).map (Method.stateless state) := by
    rw [builtin_eq, Entries.find?_map]
  cases hrun : Entries.find? r.method builtinRuns with
  | none => simp [serve, hfound, hrun, builtinOutcome]
  | some run =>
      rw [hrun] at hfound
      simp [serve_of_stateless (ascending_builtin state) hfound, builtinOutcome, hrun]

end MethodTable
end Rpc
end RpcHost
