import Mathlib
import RpcHost.Proofs.Json.Further
import RpcHost.Proofs.Rpc.Serving

/-!
# Bodies that are cut off or padded out

A request that arrives only in part, or with something behind it, must not run in part. The main
statement, `spoiled_body_runs_nothing`, says so of every place at which an object or array can be
cut off and of everything that can stand behind it. Only blanks around it make no difference.
-/

namespace RpcHost
namespace Rpc

open Json

variable {σ : Type}

/-- A body that is answered as no JSON at all, and for which nothing is called and no state
changes. -/
structure TurnsAway (d : Dispatcher σ) (body : Bytes) (s : σ) : Prop where
  status : (process d body s).1.status.code = 500
  envelope : (process d body s).1.envelope =
    (Response.failure .null ⟨-32700, "Parse Error", none⟩).toValue
  state : (process d body s).2 = s
  calls : ∀ calls, process d.recorded body (s, calls) = ((process d body s).1, s, calls)

/-- Whatever does not read as a value is turned away. -/
theorem turnsAway_of_ne_ok (d : Dispatcher σ) {body : Bytes} (h : ∀ v, readBytes body ≠ .ok v)
    (s : σ) : TurnsAway d body s := by
  cases hbody : readBytes body with
  | ok v => exact absurd hbody (h v)
  | error e =>
      have hprocess : process d body s = (.unreadable, s) := process_unreadable d hbody s
      refine ⟨?_, ?_, ?_, ?_⟩
      · rw [hprocess]
        rfl
      · rw [hprocess]
        rfl
      · rw [hprocess]
      · intro calls
        rw [hprocess, process_unreadable d.recorded hbody]

/-- An object or array that ends with its closing bracket runs only as a whole. The dispatcher,
`d`, is any machine; what it is called with is seen from outside by recording its calls. -/
theorem spoiled_body_runs_nothing (d : Dispatcher σ) (s : σ) {text : String} {v : Value}
    (hread : readString text = .ok v) (hv : v.isContainer = true)
    (hlast : text.toList.getLast? = some ']' ∨ text.toList.getLast? = some '}') :
    -- cut off at any byte, inside a character too, down to nothing at all
    (∀ front, front <+: Text.utf8 text → front ≠ Text.utf8 text → TurnsAway d front s)
    ∧ TurnsAway d [] s
    -- padded out with anything that is not blank throughout
    ∧ (∀ more, (∃ b ∈ more, isBlankByte b = false) → TurnsAway d (Text.utf8 text ++ more) s)
    -- between blanks it is answered as it stands
    ∧ (∀ before after, (∀ b ∈ before, isBlankByte b = true) → (∀ b ∈ after, isBlankByte b = true) →
        process d (before ++ Text.utf8 text ++ after) s = process d (Text.utf8 text) s
        ∧ ∀ calls, process d.recorded (before ++ Text.utf8 text ++ after) (s, calls) =
            process d.recorded (Text.utf8 text) (s, calls)) := by
  have hclose : ∃ c, text.toList.getLast? = some c ∧ isBlank c = false := by
    rcases hlast with hlast | hlast
    · exact ⟨_, hlast, rfl⟩
    · exact ⟨_, hlast, rfl⟩
  refine ⟨?_, ?_, ?_, ?_⟩
  · rintro front ⟨cut, hcut⟩ hne
    have hrest : cut ≠ [] := by
      rintro rfl
      exact hne (by simpa using hcut)
    exact turnsAway_of_ne_ok d (fun w => readBytes_ne_ok_of_cut hread hv hclose hcut hrest) s
  · refine turnsAway_of_ne_ok d ?_ s
    intro w h
    cases h
  · intro more hmore
    exact turnsAway_of_ne_ok d (fun w => readBytes_append_ne_ok hread hv hmore) s
  · intro before after hbefore hafter
    have hwhole : readBytes (Text.utf8 text) = .ok v := (readBytes_utf8 text).trans hread
    have hblanks := readBytes_blank_append hread hv hbefore hafter
    exact ⟨process_congr d hblanks hwhole s, fun calls => process_congr d.recorded hblanks hwhole _⟩

/-- A batch of one request whose method has a name with a character of two bytes. -/
def accentedBatch : Value :=
  .array [(Request.new "é" none .null).toValue]

/-- Cut off inside that character, or with one more bracket behind it, the batch runs no call;
between blanks it runs the one that it holds. -/
theorem spoiled_body_runs_nothing_accented :
    readString accentedBatch.render = .ok accentedBatch
    ∧ TurnsAway counting ((Text.utf8 accentedBatch.render).take 39) 0
    ∧ TurnsAway counting [] 0
    ∧ TurnsAway counting (Text.utf8 accentedBatch.render ++ [0x5D]) 0
    ∧ process counting ([0x0A] ++ Text.utf8 accentedBatch.render ++ [0x20]) 0 =
        process counting (Text.utf8 accentedBatch.render) 0
    ∧ (process counting (Text.utf8 accentedBatch.render) 0).2 = 1 := by
  have hread : readString accentedBatch.render = .ok accentedBatch := by
    cbv
  have hlast : accentedBatch.render.toList.getLast? = some ']' := by
    cbv
  have hwhole : readBytes (Text.utf8 accentedBatch.render) = .ok accentedBatch :=
    (readBytes_utf8 _).trans hread
  rcases spoiled_body_runs_nothing counting 0 hread rfl (.inl hlast) with
    ⟨hcut, hempty, hpadded, hblanks⟩
  have hlength : (Text.utf8 accentedBatch.render).length = 43 := by
    cbv
  have hshorter : (Text.utf8 accentedBatch.render).take 39 ≠ Text.utf8 accentedBatch.render := by
    intro heq
    have htake := congrArg List.length heq
    rw [List.length_take, hlength] at htake
    omega
  refine ⟨hread, hcut _ (List.take_prefix 39 _) hshorter, hempty, ?_, ?_, ?_⟩
  · exact hpadded _ ⟨0x5D, by decide, by decide⟩
  · exact (hblanks _ _ (List.forall_mem_singleton.2 rfl) (List.forall_mem_singleton.2 rfl)).1
  · rw [process_of_read counting hwhole]
    cbv

end Rpc
end RpcHost
