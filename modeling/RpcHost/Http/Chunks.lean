import RpcHost.Http.Body
import RpcHost.Http.Fields

/-!
# Chunked bodies

A chunk has a size in hexadecimal digits, perhaps an extension, and its bytes; a chunk of size zero
and perhaps trailing fields end the body. The bytes of each chunk are one frame. Trailing fields
have to be well formed, but nothing else comes of them.
-/

namespace RpcHost
namespace Http

def hexValue (b : UInt8) : Option Nat :=
  if 48 ≤ b && b ≤ 57 then some (b.toNat - 48)
  else if 97 ≤ b && b ≤ 102 then some (b.toNat - 87)
  else if 65 ≤ b && b ≤ 70 then some (b.toNat - 55)
  else none

/-- What is expected next. -/
inductive ChunkPlace where
  | firstDigit
  | digits (size : Nat)
  | blanks (size : Nat)
  | extension (size : Nat)
  | sizeEnd (size : Nat)
  /-- So many bytes are still missing, and there is at least one. -/
  | content (missing : Nat)
  | contentReturn
  | contentFeed
  | lastReturn
  | lastFeed
  | trailer
  | trailerFeed
  | done
  deriving DecidableEq, Repr

/-- After the digits of a size or the blanks behind them. -/
def afterSize (size : Nat) (b : UInt8) : Option ChunkPlace :=
  if b = tab || b = blank then some (.blanks size)
  else if b = 59 then some (.extension size)
  else if b = cr then some (.sizeEnd size)
  else none

def expect (wanted : UInt8) (next : ChunkPlace) (b : UInt8) : Option ChunkPlace :=
  if b = wanted then some next else none

/-- One byte further, or nothing if the byte cannot stand there. -/
def ChunkPlace.next (b : UInt8) : ChunkPlace → Option ChunkPlace
  | .firstDigit => (hexValue b).map .digits
  | .digits size =>
      match hexValue b with
      | some digit =>
          if size * 16 + digit < 0x10000000000000000 then some (.digits (size * 16 + digit))
          else none
      | none => afterSize size b
  | .blanks size => afterSize size b
  | .extension size =>
      if b = cr then some (.sizeEnd size) else if b = lf then none else some (.extension size)
  | .sizeEnd size =>
      expect lf (if size = 0 then .lastReturn else .content size) b
  | .content missing => some (if missing ≤ 1 then .contentReturn else .content (missing - 1))
  | .contentReturn => expect cr .contentFeed b
  | .contentFeed => expect lf .firstDigit b
  | .lastReturn => some (if b = cr then .lastFeed else .trailer)
  | .lastFeed => expect lf .done b
  | .trailer => some (if b = cr then .trailerFeed else .trailer)
  | .trailerFeed => expect lf .lastReturn b
  | .done => none

/-- There are fewer lines of trailing fields. -/
def trailingLineLimit : Nat := 100

/-- All trailing fields together, and all extensions together, have fewer bytes. -/
def asideLimit : Nat := 0x4000

/-- Whether the bytes after the chunk of size zero are trailing fields. -/
def isTrailer (lines : Nat) (bytes : Bytes) : Bool :=
  lines < trailingLineLimit &&
    match readFields lines bytes with
    | .ok _ => true
    | .error _ => false

/-- Reads what follows the chunk of size zero. `room` is how many bytes there may be, `lines` counts
the lines of trailing fields, and `seen` holds their bytes, the last one first. -/
def readTrailer (ending : BodyEnd) :
    (room lines : Nat) → (seen : Bytes) → ChunkPlace → Bytes → BodyEnd
  | _, _, _, _, [] => ending
  | room, lines, seen, place, b :: rest =>
      match place.next b with
      | none => .broken
      | some next =>
          let lines := if place = .trailerFeed then lines + 1 else lines
          if room = 0 || trailingLineLimit < lines then .broken
          else if next = .done then
            if isTrailer lines (b :: seen).reverse then .complete else .broken
          else readTrailer ending (room - 1) lines (b :: seen) next rest

/-- The frame so far, if it holds bytes. -/
def finished (frame : Bytes) : List Bytes :=
  if frame = [] then [] else [frame.reverse]

/-- Reads to the end of the body. `extra` counts the bytes of extensions, `frame` holds the bytes of
the current chunk, the last one first, and `ending` says what follows the bytes that are there. -/
def readChunks (ending : BodyEnd) : ChunkPlace → (extra : Nat) → (frame : Bytes) → Bytes → Delivery
  | .lastReturn, _, frame, rest =>
      ⟨finished frame, readTrailer ending (asideLimit - 1) 0 [] .lastReturn rest⟩
  | _, _, frame, [] => ⟨finished frame, ending⟩
  | place, extra, frame, b :: rest =>
      match place, place.next b with
      | _, none => ⟨finished frame, .broken⟩
      | .content _, some next => readChunks ending next extra (b :: frame) rest
      | .extension _, some (.extension size) =>
          if asideLimit ≤ extra + 1 then ⟨finished frame, .broken⟩
          else readChunks ending (.extension size) (extra + 1) frame rest
      | _, some next =>
          let d := readChunks ending next extra [] rest
          ⟨finished frame ++ d.frames, d.ending⟩

/-- How the end of a body is found. -/
inductive Framing where
  | sized (size : Nat)
  | chunked
  deriving DecidableEq, Repr

/-- The body at the front of what was received. -/
def Framing.read (framing : Framing) (ending : BodyEnd) (received : Bytes) : Delivery :=
  match framing with
  | .sized size =>
      ⟨finished (received.take size).reverse, if size ≤ received.length then .complete else ending⟩
  | .chunked => readChunks ending .firstDigit 0 [] received

end Http
end RpcHost
