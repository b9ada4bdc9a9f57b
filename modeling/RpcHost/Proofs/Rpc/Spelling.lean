import Mathlib
import RpcHost.Http.Routes
import RpcHost.Proofs.Json.Spelling
import RpcHost.Proofs.Rpc.Serving

/-!
# Bodies that spell one value

A client is free in how it writes a request down: where it puts blanks, in which order it names the
members of an object, and which characters it escapes. The main statement,
`spelling_does_not_matter`, says that nothing of this can be told from the answer or from the calls.
-/

namespace RpcHost
namespace Rpc

open Json

variable {σ : Type}

/-- Every body that spells a value is handled like the compact text of that value. In a value the
members of an object are ascending, whatever their order in the text was. The dispatcher, `d`, is
any machine; what it is called with is seen from outside by recording its calls. -/
theorem spelling_does_not_matter (d : Dispatcher σ) (s : σ) {v : Value} (hordered : v.Ordered)
    (hwords : v.WordNumbers) (hdepth : v.depth ≤ 127) {text : String} (h : SpelledBy v text) :
    -- the same status, envelope and state, which are those of the value itself
    process d (Text.utf8 text) s = process d (Text.utf8 v.render) s
    ∧ process d (Text.utf8 text) s = answer d v s
    -- the same calls in the same order
    ∧ (∀ calls, process d.recorded (Text.utf8 text) (s, calls) =
        process d.recorded (Text.utf8 v.render) (s, calls))
    -- the same reply byte for byte, wherever and however the body is sent
    ∧ ∀ (cors : Bool) (request : Http.Request),
        Http.handle d cors { request with body := Text.utf8 text } s =
          Http.handle d cors { request with body := Text.utf8 v.render } s := by
  have hfits : v.Fits greatestDepth := ⟨hordered, hwords, hdepth⟩
  have hread : readBytes (Text.utf8 text) = .ok v :=
    (readBytes_utf8 text).trans (readString_of_spelledBy hfits h)
  have hcompact : readBytes (Text.utf8 v.render) = .ok v :=
    (readBytes_utf8 v.render).trans (readString_of_spelledBy hfits (spelledBy_render hwords))
  have hprocess := process_congr d hread hcompact s
  refine ⟨hprocess, process_of_read d hread s, ?_, ?_⟩
  · intro calls
    exact process_congr d.recorded hread hcompact (s, calls)
  · intro cors request
    simp only [Http.handle, hprocess]
    rfl

/-- A request for the method with this name. -/
def methodCall (name : String) : Value :=
  .object [("jsonrpc", .string version), ("method", .string name)]

/-- The method comes first, its name is one character written as two escapes in different cases, and
there are blanks of all kinds. -/
def strangeCall : String :=
  "\r\n\x7b\t\"method\" : \"\\uD83D\\ude00\",\"jsonrpc\":\"2.0\" \x7d"

theorem spelledBy_strangeCall : SpelledBy (methodCall "😀") strangeCall := by
  have hhigh : SpellsUnit 0xD83D ['D', '8', '3', 'D'] :=
    .digits (.inr rfl) (.inl rfl) (.inl rfl) (.inr rfl)
  have hlow : SpellsUnit 0xDE00 ['d', 'e', '0', '0'] :=
    .digits (.inl rfl) (.inl rfl) (.inl rfl) (.inl rfl)
  have hhighSurrogate : highSurrogate '😀' = 0xD83D := by
    cbv
  have hlowSurrogate : lowSurrogate '😀' = 0xDE00 := by
    cbv
  have hname : SpellsString "😀" _ :=
    .quoted (.cons (.pair (by decide) (hhighSurrogate ▸ hhigh) (hlowSurrogate ▸ hlow)) .nil)
  have hspace : Blanks [' '] := by
    decide
  have hmethod : SpellsKey "method" (['\t'] ++ stringText "method" ++ [' '] ++ [':']) :=
    .colon (by decide) (spellsString_stringText "method") hspace
  have hversion : SpellsMembers [("jsonrpc", .string version)] _ :=
    .last (spellsKey_stringText "jsonrpc") blanks_nil (.string (spellsString_stringText version))
      hspace
  have hcall : Spells (methodCall "😀") _ :=
    .members (.swap _ _ []) (.next hmethod hspace (.string hname) blanks_nil hversion)
  have hlines : Blanks ['\r', '\n'] := by
    decide
  exact ⟨_, _, _, hlines, hcall, blanks_nil, by cbv⟩

/-- Spelled like that or in compact text, the request is the same single call. -/
theorem spelling_does_not_matter_for_strange_call :
    SpelledBy (methodCall "😀") strangeCall
    ∧ process counting (Text.utf8 strangeCall) 0 =
        process counting (Text.utf8 (methodCall "😀").render) 0
    ∧ process counting (Text.utf8 strangeCall) 0 =
        (.single ⟨.ok, .success .null .null⟩, 1)
    ∧ process counting.recorded (Text.utf8 strangeCall) (0, []) =
        process counting.recorded (Text.utf8 (methodCall "😀").render) (0, []) := by
  have hordered : (methodCall "😀").Ordered :=
    Value.ordered_object_iff.2 ⟨by decide, by simp [Value.Ordered]⟩
  have hwords : (methodCall "😀").WordNumbers := by
    simp [methodCall, Value.WordNumbers, Value.WordNumbersMembers]
  rcases spelling_does_not_matter counting 0 hordered hwords (by decide) spelledBy_strangeCall with
    ⟨hsame, hanswer, hcalls, _⟩
  refine ⟨spelledBy_strangeCall, hsame, ?_, hcalls []⟩
  rw [hanswer]
  cbv

end Rpc
end RpcHost
