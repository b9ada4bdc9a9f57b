import RpcHost.Json.Value

/-!
# Scanning JSON tokens

Blanks, literals, strings and numbers, each read from the front of a list of characters. A scanner
answers with what is left of the text, or says whether the text ended too early or went wrong.
-/

namespace RpcHost
namespace Json

/-- Why a text is not read. -/
inductive ReadError where
  /-- The text stops inside a value. -/
  | ended
  /-- No continuation of what was read is JSON, or a limit is passed. -/
  | malformed
  /-- A JSON value, but not of the shape asked for. -/
  | mismatched
  deriving DecidableEq, Repr

/-- What was read, and the text after it. -/
abbrev Scan (α : Type) := Except ReadError (α × List Char)

/-! ## Blanks and literals -/

def isBlank (c : Char) : Bool :=
  c = ' ' || c = '\t' || c = '\n' || c = '\r'

def skipBlanks (cs : List Char) : List Char :=
  cs.dropWhile isBlank

def scanExactly : (expected : List Char) → List Char → Except ReadError (List Char)
  | [], cs => .ok cs
  | _ :: _, [] => .error .ended
  | e :: es, c :: cs => if c = e then scanExactly es cs else .error .malformed

/-! ## Escapes -/

def hexValue? (c : Char) : Option Nat :=
  if '0' ≤ c ∧ c ≤ '9' then some (c.toNat - 48)
  else if 'a' ≤ c ∧ c ≤ 'f' then some (c.toNat - 87)
  else if 'A' ≤ c ∧ c ≤ 'F' then some (c.toNat - 55)
  else none

def byteLength (cs : List Char) : Nat :=
  cs.foldl (fun n c => n + c.utf8Size) 0

/-- Four hexadecimal digits. The text counts as ended when fewer than four bytes are left. -/
def scanHex (cs : List Char) : Scan Nat :=
  match cs with
  | a :: b :: c :: d :: rest =>
      match hexValue? a, hexValue? b, hexValue? c, hexValue? d with
      | some w, some x, some y, some z => .ok (((w * 16 + x) * 16 + y) * 16 + z, rest)
      | _, _, _, _ => .error .malformed
  | short => if byteLength short < 4 then .error .ended else .error .malformed

def isHighSurrogate (unit : Nat) : Bool :=
  0xD800 ≤ unit && unit ≤ 0xDBFF

def isLowSurrogate (unit : Nat) : Bool :=
  0xDC00 ≤ unit && unit ≤ 0xDFFF

def joinSurrogates (high low : Nat) : Char :=
  Char.ofNat (0x10000 + (high - 0xD800) * 0x400 + (low - 0xDC00))

/-- The low half that must follow a high surrogate. -/
def scanLowSurrogate (high : Nat) : List Char → Scan Char
  | [] => .error .ended
  | ['\\'] => .error .ended
  | '\\' :: 'u' :: rest =>
      match scanHex rest with
      | .error e => .error e
      | .ok (low, rest) =>
          if isLowSurrogate low then .ok (joinSurrogates high low, rest) else .error .malformed
  | _ => .error .malformed

/-- What follows a backslash. -/
def scanEscape : List Char → Scan Char
  | [] => .error .ended
  | '"' :: rest => .ok ('"', rest)
  | '\\' :: rest => .ok ('\\', rest)
  | '/' :: rest => .ok ('/', rest)
  | 'b' :: rest => .ok ('\x08', rest)
  | 'f' :: rest => .ok ('\x0c', rest)
  | 'n' :: rest => .ok ('\n', rest)
  | 'r' :: rest => .ok ('\r', rest)
  | 't' :: rest => .ok ('\t', rest)
  | 'u' :: rest =>
      match scanHex rest with
      | .error e => .error e
      | .ok (unit, rest) =>
          if isLowSurrogate unit then .error .malformed
          else if isHighSurrogate unit then scanLowSurrogate unit rest
          else .ok (Char.ofNat unit, rest)
  | _ :: _ => .error .malformed

/-- What follows a backslash, its meaning left open: surrogates need no partner here. -/
def skipEscape : List Char → Except ReadError (List Char)
  | [] => .error .ended
  | 'u' :: rest =>
      match scanHex rest with
      | .error e => .error e
      | .ok (_, rest) => .ok rest
  | c :: rest =>
      if c ∈ ['"', '\\', '/', 'b', 'f', 'n', 'r', 't'] then .ok rest else .error .malformed

theorem scanHex_length {cs rest : List Char} {n : Nat} (h : scanHex cs = .ok (n, rest)) :
    rest.length < cs.length := by
  unfold scanHex at h
  split at h
  · split at h
    · simp only [Except.ok.injEq, Prod.mk.injEq] at h
      rcases h with ⟨_, rfl⟩
      simp only [List.length_cons]
      omega
    · cases h
  · split at h <;> cases h

theorem scanLowSurrogate_length {high : Nat} {cs rest : List Char} {c : Char}
    (h : scanLowSurrogate high cs = .ok (c, rest)) : rest.length < cs.length := by
  unfold scanLowSurrogate at h
  split at h
  · cases h
  · cases h
  · split at h
    · cases h
    · next hscan =>
      have := scanHex_length hscan
      split at h
      · simp only [Except.ok.injEq, Prod.mk.injEq] at h
        rcases h with ⟨_, rfl⟩
        simp only [List.length_cons]
        omega
      · cases h
  · cases h

theorem scanEscape_length {cs rest : List Char} {c : Char} (h : scanEscape cs = .ok (c, rest)) :
    rest.length < cs.length := by
  unfold scanEscape at h
  split at h
  case h_1 => cases h
  case h_10 =>
    split at h
    · cases h
    · next hscan =>
      have := scanHex_length hscan
      split at h
      · cases h
      · split at h
        · have := scanLowSurrogate_length h
          simp only [List.length_cons]
          omega
        · simp only [Except.ok.injEq, Prod.mk.injEq] at h
          rcases h with ⟨_, rfl⟩
          simp only [List.length_cons]
          omega
  case h_11 => cases h
  all_goals
    simp only [Except.ok.injEq, Prod.mk.injEq] at h
    rcases h with ⟨_, rfl⟩
    simp

theorem skipEscape_length {cs rest : List Char} (h : skipEscape cs = .ok rest) :
    rest.length < cs.length := by
  unfold skipEscape at h
  split at h
  · cases h
  · split at h
    · cases h
    · next hscan =>
      have := scanHex_length hscan
      simp only [Except.ok.injEq] at h
      rcases h with rfl
      simp only [List.length_cons]
      omega
  · split at h
    · simp only [Except.ok.injEq] at h
      rcases h with rfl
      simp
    · cases h

/-! ## Strings -/

/-- The rest of a string after its opening quote, put behind the characters read so far. -/
def scanString (acc : List Char) (cs : List Char) : Scan String :=
  match cs with
  | [] => .error .ended
  | '"' :: rest => .ok (String.ofList acc.reverse, rest)
  | '\\' :: rest =>
      match h : scanEscape rest with
      | .error e => .error e
      | .ok (c, rest') =>
          have := scanEscape_length h
          scanString (c :: acc) rest'
  | c :: rest => if c.toNat < 32 then .error .malformed else scanString (c :: acc) rest
termination_by cs.length
decreasing_by all_goals simp only [List.length_cons] at *; omega

/-- Passes over a string after its opening quote. -/
def skipString (cs : List Char) : Except ReadError (List Char) :=
  match cs with
  | [] => .error .ended
  | '"' :: rest => .ok rest
  | '\\' :: rest =>
      match h : skipEscape rest with
      | .error e => .error e
      | .ok rest' =>
          have := skipEscape_length h
          skipString rest'
  | c :: rest => if c.toNat < 32 then .error .malformed else skipString rest
termination_by cs.length
decreasing_by all_goals simp only [List.length_cons] at *; omega

/-! ## Numbers -/

/-- The spelling of a number, taken apart. -/
structure Numeral where
  negative : Bool
  whole : List Char
  fraction : Option (List Char)
  /-- Whether the exponent is negative, and its digits. -/
  exponent : Option (Bool × List Char)
  deriving DecidableEq, Repr

/-- One or more digits; `atEnd` is the complaint when the text stops before the first. -/
def scanDigits (atEnd : ReadError) (cs : List Char) : Scan (List Char) :=
  match cs with
  | [] => .error atEnd
  | c :: _ =>
      if c.isDigit then .ok (cs.takeWhile Char.isDigit, cs.dropWhile Char.isDigit)
      else .error .malformed

/-- The whole part has no leading zero unless it is zero. -/
def scanWhole (atEnd : ReadError) (cs : List Char) : Scan (List Char) :=
  match cs with
  | '0' :: rest =>
      match rest with
      | c :: _ => if c.isDigit then .error .malformed else .ok (['0'], rest)
      | [] => .ok (['0'], rest)
  | cs => scanDigits atEnd cs

def scanFraction (atEnd : ReadError) (cs : List Char) : Scan (Option (List Char)) :=
  match cs with
  | '.' :: rest => (scanDigits atEnd rest).map fun (ds, rest) => (some ds, rest)
  | cs => .ok (none, cs)

def scanExponent (atEnd : ReadError) (cs : List Char) : Scan (Option (Bool × List Char)) :=
  match cs with
  | c :: rest =>
      if c = 'e' ∨ c = 'E' then
        let (negative, rest) := match rest with
          | '+' :: rest => (false, rest)
          | '-' :: rest => (true, rest)
          | rest => (false, rest)
        (scanDigits atEnd rest).map fun (ds, rest) => (some (negative, ds), rest)
      else .ok (none, c :: rest)
  | [] => .ok (none, [])

def scanNumeral (atEnd : ReadError) (cs : List Char) : Except ReadError (Numeral × List Char) := do
  let (negative, cs) := match cs with
    | '-' :: rest => (true, rest)
    | cs => (false, cs)
  let (whole, cs) ← scanWhole atEnd cs
  let (fraction, cs) ← scanFraction atEnd cs
  let (exponent, cs) ← scanExponent atEnd cs
  return (⟨negative, whole, fraction, exponent⟩, cs)

end Json
end RpcHost
