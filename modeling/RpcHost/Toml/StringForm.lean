/-!
# How strings are written in TOML

There are four forms, and a string is written in the one that needs the fewest escapes: quoted,
literal, quoted over several lines, literal over several lines. The forms over several lines start
with a line end of their own when the string has one.
-/

namespace RpcHost
namespace Toml

structure StringForm where
  /-- Backslashes and control characters are escaped. -/
  escaped : Bool
  /-- The delimiters are three quotes instead of one. -/
  tripled : Bool
  deriving DecidableEq, Repr

namespace StringForm

def quoted : StringForm := ⟨true, false⟩
def literal : StringForm := ⟨false, false⟩
def longQuoted : StringForm := ⟨true, true⟩
def longLiteral : StringForm := ⟨false, true⟩

/-! ## The choice of a form -/

/-- A control character that only an escape can write. -/
def isControl (c : Char) : Bool :=
  (c.toNat < 32 && c ≠ '\t' && c ≠ '\n') || c.toNat = 127

/-- The length of the longest run of a character; `run` is the length of the run so far. -/
def longestRun (c : Char) (run : Nat) : List Char → Nat
  | [] => run
  | d :: rest => if d = c then longestRun c (run + 1) rest else max run (longestRun c 0 rest)

def choose (cs : List Char) : StringForm :=
  let control := cs.any isControl
  let backslash := cs.contains '\\'
  let newline := cs.contains '\n'
  let singles := longestRun '\'' 0 cs
  let doubles := longestRun '"' 0 cs
  if !control && !backslash && doubles = 0 && !newline then quoted
  else if !control && singles = 0 && !newline then literal
  else if !control && !backslash && doubles ≤ 2 then longQuoted
  else if !control && singles ≤ 2 then longLiteral
  else if newline then longQuoted
  else quoted

/-! ## Writing -/

def quote (form : StringForm) : Char :=
  if form.escaped then '"' else '\''

def delimiter (form : StringForm) : List Char :=
  if form.tripled then [form.quote, form.quote, form.quote] else [form.quote]

/-- How many quotes in a row may stand without an escape. -/
def rawQuotes (form : StringForm) : Nat :=
  if form.tripled then 2 else 0

def upperHex (n : Nat) : Char :=
  if n < 10 then Char.ofNat ('0'.toNat + n) else Char.ofNat ('A'.toNat + (n - 10))

def escapeChar (form : StringForm) (c : Char) : List Char :=
  match c with
  | '\x08' => ['\\', 'b']
  | '\t' => ['\\', 't']
  | '\n' => if form.tripled then ['\n'] else ['\\', 'n']
  | '\x0c' => ['\\', 'f']
  | '\r' => ['\\', 'r']
  | '\\' => ['\\', '\\']
  | c =>
      if isControl c then ['\\', 'u', '0', '0', upperHex (c.toNat / 16), upperHex (c.toNat % 16)]
      else [c]

/-- The characters between the delimiters; `run` counts the raw quotes just before them. -/
def escapeAll (form : StringForm) (run : Nat) : List Char → List Char
  | [] => []
  | '"' :: rest =>
      if run < form.rawQuotes then '"' :: escapeAll form (run + 1) rest
      else '\\' :: '"' :: escapeAll form 0 rest
  | c :: rest => form.escapeChar c ++ escapeAll form 0 rest

def body (form : StringForm) (cs : List Char) : List Char :=
  if form.escaped then form.escapeAll 0 cs else cs

def write (form : StringForm) (cs : List Char) : List Char :=
  let opening := if form.tripled && cs.contains '\n' then ['\n'] else []
  form.delimiter ++ opening ++ form.body cs ++ form.delimiter

end StringForm

def stringText (s : String) : String :=
  let cs := s.toList
  String.ofList ((StringForm.choose cs).write cs)

end Toml
end RpcHost
