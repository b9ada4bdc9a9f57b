import RpcHost.Http.Chunks
import RpcHost.Http.Target

/-!
# The opening of a request

A request opens with a request line and fields. `readOpening` gives the head of the request and the
way its body is framed.
-/

namespace RpcHost
namespace Http

/-! ## The request line -/

def isTargetByte (b : UInt8) : Bool :=
  32 < b && b ≠ 127

def skipEmptyLines : Bytes → Except Stop Bytes
  | [] => .error .unfinished
  | [13] => .error .unfinished
  | 13 :: 10 :: rest => skipEmptyLines rest
  | 10 :: rest => skipEmptyLines rest
  | 13 :: _ => malformed
  | bytes => .ok bytes

inductive Version where
  | old
  | current
  deriving DecidableEq, Repr

def Version.text : Version → String
  | old => "HTTP/1.0"
  | current => "HTTP/1.1"

def Version.bytes (v : Version) : Bytes :=
  Text.utf8 v.text

def readVersion (bytes : Bytes) : Except Stop (Version × Bytes) :=
  let word := bytes.take 8
  if word = Version.old.bytes then .ok (.old, bytes.drop 8)
  else if word = Version.current.bytes then .ok (.current, bytes.drop 8)
  else if word.isPrefixOf Version.old.bytes
      || word.isPrefixOf Version.current.bytes then .error .unfinished
  else malformed

structure RequestLine where
  method : Bytes
  target : Bytes
  version : Version
  deriving DecidableEq, Repr

def readRequestLine (bytes : Bytes) : Except Stop (RequestLine × Bytes) := do
  let bytes ← skipEmptyLines bytes
  let (method, bytes) ← readRun isTokenByte blank bytes
  let (target, bytes) ← readRun isTargetByte blank bytes
  if (Text.ofUtf8? target).isNone then malformed
  let (version, bytes) ← readVersion bytes
  let bytes ← readLineEnd bytes
  return (⟨method, target, version⟩, bytes)

def greatestFieldCount : Nat := 100

/-! ## Framing -/

def greatestBodySize : Nat := 0xfffffffffffffffd

/-- A body size in decimal digits, which has to be a word of 64 bits. -/
def readSize (digits : Bytes) : Except Stop Nat :=
  let size := digits.foldl (fun n b => 10 * n + (b.toNat - 48)) 0
  if digits = [] || !digits.all (fun b => 48 ≤ b && b ≤ 57) || 0x10000000000000000 ≤ size then
    malformed
  else .ok size

def comma : UInt8 := 44

/-- Whether the last coding in a list is the chunked one. Lists of codings are plain ASCII. -/
def endsInChunked (value : Bytes) : Bool :=
  let last := value.reverse.takeWhile (· ≠ comma)
  let bare := ((last.dropWhile isBlankByte).reverse.dropWhile isBlankByte)
  value.all (fun b => b = tab || 32 ≤ b && b < 127)
    && lowerCase (String.ofList (bare.map fun b => Char.ofNat b.toNat)) = "chunked"

/-- What the fields so far say about the body. -/
structure FramingScan where
  size : Option Nat := none
  /-- Whether a transfer coding was given, and whether it was the chunked one. -/
  coding : Option Bool := none
  deriving DecidableEq, Repr

/-- Transfer codings are not for old requests. Sizes after a coding do not count, and others must
not differ; the first of them has to be one that a body may have. -/
def FramingScan.next (version : Version) (s : FramingScan) (f : Field) : Except Stop FramingScan :=
  if f.name = "transfer-encoding" then
    if version = .old then malformed else .ok { s with coding := some (endsInChunked f.value) }
  else if f.name = "content-length" ∧ s.coding = none then
    match readSize f.value, s.size with
    | .error stop, _ => .error stop
    | .ok size, none =>
        if greatestBodySize < size then .error (.refused .headTooLarge)
        else .ok { s with size := some size }
    | .ok size, some before => if size = before then .ok s else malformed
  else .ok s

def framingOf (version : Version) (fields : List Field) : Except Stop Framing := do
  let s ← fields.foldlM (FramingScan.next version) ({} : FramingScan)
  match s.coding with
  | some true => return .chunked
  | some false => malformed
  | none => return .sized (s.size.getD 0)

/-! ## Openings -/

structure Opening where
  version : Version
  head : Head
  framing : Framing
  deriving DecidableEq

def readPath (target : Bytes) : Except Stop String :=
  if greatestTargetSize < target.length then .error (.refused .uriTooLong)
  else
    match (Text.ofUtf8? target).bind fun text => readTarget text.toList with
    | some path => .ok path
    | none => malformed

/-- The opening at the front of some bytes, and the bytes after it. -/
def Opening.ofBytes (bytes : Bytes) : Except Stop (Opening × Bytes) := do
  let (line, rest) ← readRequestLine bytes
  let (fields, rest) ← readFields greatestFieldCount rest
  let path ← readPath line.target
  let framing ← framingOf line.version fields
  let method := String.ofList (line.method.map fun b => Char.ofNat b.toNat)
  return (⟨line.version, ⟨method, path, fields⟩, framing⟩, rest)

/-- So many bytes are received at first. -/
def firstSize : Nat := 8192

/-- Whether an empty line is in some bytes. -/
def hasEmptyLine : Bytes → Bool
  | [] => false
  | b :: rest =>
      b = lf && rest.head? = some lf
        || b = cr && [lf, cr, lf].isPrefixOf rest
        || hasEmptyLine rest

/-- The opening at the front of what was received, and the bytes after it. When the bytes received
at first do not settle it, it is looked at again only after the empty line that ends it, so that
mistakes before that are not seen until then. -/
def readOpening (received : Bytes) : Except Stop (Opening × Bytes) :=
  match Opening.ofBytes (received.take firstSize) with
  | .error .unfinished =>
      if hasEmptyLine (received.drop (firstSize - 3)) then Opening.ofBytes received
      else .error .unfinished
  | .error stop => .error stop
  | .ok (opening, rest) => .ok (opening, rest ++ received.drop firstSize)

end Http
end RpcHost
