import RpcHost.Rpc.Envelope

/-!
# Decoding envelopes

Each envelope has a layout. Its fields are found either in a value or directly in a text, and the
envelope is put together from them in one way. For an optional field `null` means absent.
-/

namespace RpcHost
namespace Rpc

open Json

/-- An optional field: absent when left out or `null`. -/
def present : Option Value → Option Value
  | none => none
  | some .null => none
  | some v => some v

/-! ## Faults -/

def Fault.layout : Layout :=
  [⟨"code", .word, true⟩, ⟨"message", .text, true⟩, ⟨"data", .any, false⟩]

def Fault.ofSlots : Slots → Option Fault
  | [some (.number (.integer code)), some (.string message), data] =>
      some ⟨Int64.ofInt code, message, present data⟩
  | _ => none

def Fault.ofValue? (v : Value) : Option Fault :=
  (slots Fault.layout v).bind Fault.ofSlots

/-! ## Requests -/

def Request.layout : Layout :=
  [⟨"jsonrpc", .text, true⟩, ⟨"method", .text, true⟩, ⟨"params", .any, false⟩, ⟨"id", .any, false⟩]

def Request.ofSlots : Slots → Option Request
  | [some (.string jsonrpc), some (.string method), params, id] =>
      some ⟨jsonrpc, method, present params, id.getD .null⟩
  | _ => none

def Request.ofValue? (v : Value) : Option Request :=
  (slots Request.layout v).bind Request.ofSlots

/-! ## Responses -/

def Response.layout : Layout :=
  [⟨"jsonrpc", .text, true⟩, ⟨"id", .any, true⟩, ⟨"result", .any, false⟩, ⟨"error", .any, false⟩]

def Response.ofSlots : Slots → Option Response
  | [some (.string jsonrpc), some id, result, fault] =>
      match present fault with
      | none => some ⟨jsonrpc, id, present result, none⟩
      | some v => (Fault.ofValue? v).map fun f => ⟨jsonrpc, id, present result, some f⟩
  | _ => none

def Response.ofValue? (v : Value) : Option Response :=
  (slots Response.layout v).bind Response.ofSlots

/-! ## Straight from text -/

/-- The record with the fields that were found, as a value. -/
def recordOf (layout : Layout) (found : Slots) : Value :=
  .ofMembers ((layout.zip found).filterMap fun p => p.2.map fun v => (p.1.name, v))

/-- A fault or `null`. -/
def scanFault (depth : Nat) (cs : List Char) : Except ReadError (Value × List Char) :=
  match skipBlanks cs with
  | 'n' :: rest => (scanExactly ['u', 'l', 'l'] rest).map fun rest => (.null, rest)
  | cs =>
      (scanRecord (fun f => f.kind.scan) Fault.layout depth cs).map fun (found, rest) =>
        (recordOf Fault.layout found, rest)

/-- The fault inside a response is itself a record. -/
def Response.scanField (f : Field) : FieldScan :=
  if f.name = "error" then scanFault else f.kind.scan

def assemble {α : Type} (ofSlots : Slots → Option α) :
    Except ReadError (Slots × List Char) → Except ReadError α
  | .error e => .error e
  | .ok (found, rest) =>
      match ofSlots found with
      | some a => finish (.ok (a, rest))
      | none => .error .mismatched

def Fault.read (cs : List Char) : Except ReadError Fault :=
  assemble Fault.ofSlots (scanRecord (fun f => f.kind.scan) Fault.layout greatestDepth cs)

def Request.read (cs : List Char) : Except ReadError Request :=
  assemble Request.ofSlots (scanRecord (fun f => f.kind.scan) Request.layout greatestDepth cs)

def Response.read (cs : List Char) : Except ReadError Response :=
  assemble Response.ofSlots (scanRecord Response.scanField Response.layout greatestDepth cs)

/-- Reads a value first and the envelope from it. -/
def readThrough {α : Type} (ofValue? : Value → Option α) (cs : List Char) : Except ReadError α :=
  match Json.read cs with
  | .error e => .error e
  | .ok v =>
      match ofValue? v with
      | some a => .ok a
      | none => .error .mismatched

end Rpc
end RpcHost
