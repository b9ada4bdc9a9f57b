import RpcHost.Toml.Value
import RpcHost.Json.Scan

/-!
# Scanning TOML tokens

Blanks, comments, keys, strings, numbers and date-times, each read from the front of a list of
characters. A text that is not TOML is not told apart by what is wrong with it.
-/

namespace RpcHost
namespace Toml

/-! ## Blanks, comments and line ends -/

def isBlank (c : Char) : Bool :=
  c = ' ' || c = '\t'

def skipBlanks (cs : List Char) : List Char :=
  cs.dropWhile isBlank

/-- The characters of comments: no control characters but the tab. -/
def isCommentChar (c : Char) : Bool :=
  c = '\t' || (32 ≤ c.toNat && c.toNat ≠ 127)

/-- A comment up to the end of its line, if one starts here. -/
def skipComment : List Char → List Char
  | '#' :: rest => rest.dropWhile isCommentChar
  | cs => cs

/-- A line end is a line feed, which a carriage return may precede. -/
def lineEnd? : List Char → Option (List Char)
  | '\n' :: rest => some rest
  | '\r' :: '\n' :: rest => some rest
  | _ => none

/-- The end of a statement: blanks, a comment, and a line end or the end of the text. -/
def endStatement (cs : List Char) : Option (List Char) :=
  match skipComment (skipBlanks cs) with
  | [] => some []
  | cs => lineEnd? cs

/-- Blanks, comments and line ends between the items of an array. `fuel` bounds the lines. -/
def skipLines : (fuel : Nat) → List Char → List Char
  | 0, cs => cs
  | fuel + 1, cs =>
      let cs := skipBlanks cs
      match cs with
      | '#' :: _ =>
          match lineEnd? (skipComment cs) with
          | some rest => skipLines fuel rest
          | none => cs
      | cs =>
          match lineEnd? cs with
          | some rest => skipLines fuel rest
          | none => cs

/-! ## Strings -/

/-- The characters that stand for themselves in a basic string. -/
def isBasicChar (c : Char) : Bool :=
  isCommentChar c && c ≠ '"' && c ≠ '\\'

/-- The characters of a literal string. -/
def isLiteralChar (c : Char) : Bool :=
  isCommentChar c && c ≠ '\''

def hexNumber? (digits : List Char) : Option Nat :=
  digits.foldl (fun n c => do return (← n) * 16 + (← Json.hexValue? c)) (some 0)

/-- A character by its code in so many hexadecimal digits. -/
def readCode (count : Nat) (cs : List Char) : Option (Char × List Char) := do
  let digits := cs.take count
  if digits.length ≠ count then none
  let code ← hexNumber? digits
  if h : code.isValidChar then return (Char.ofNatAux code h, cs.drop count) else none

/-- What follows a backslash. -/
def readEscape : List Char → Option (Char × List Char)
  | 'b' :: rest => some ('\x08', rest)
  | 't' :: rest => some ('\t', rest)
  | 'n' :: rest => some ('\n', rest)
  | 'f' :: rest => some ('\x0c', rest)
  | 'r' :: rest => some ('\r', rest)
  | '"' :: rest => some ('"', rest)
  | '\\' :: rest => some ('\\', rest)
  | 'u' :: rest => readCode 4 rest
  | 'U' :: rest => readCode 8 rest
  | _ => none

/-- A backslash at the end of a line takes the line end with it and all blank space after it. -/
def continuation? (cs : List Char) : Option (List Char) :=
  (lineEnd? (skipBlanks cs)).map (skipSpace cs.length)
where
  skipSpace : Nat → List Char → List Char
    | 0, cs => cs
    | fuel + 1, cs =>
        match lineEnd? (skipBlanks cs) with
        | some rest => skipSpace fuel rest
        | none => skipBlanks cs

/-- A basic string after its opening quote. -/
def readBasic : (fuel : Nat) → (acc : List Char) → List Char → Option (String × List Char)
  | 0, _, _ => none
  | fuel + 1, acc, cs =>
      match cs with
      | [] => none
      | '"' :: rest => some (String.ofList acc.reverse, rest)
      | '\\' :: rest => do
          let (c, rest) ← readEscape rest
          readBasic fuel (c :: acc) rest
      | c :: rest => if isBasicChar c then readBasic fuel (c :: acc) rest else none

/-- A literal string after its opening quote. -/
def readLiteral (cs : List Char) : Option (String × List Char) :=
  match cs.dropWhile isLiteralChar with
  | '\'' :: rest => some (String.ofList (cs.takeWhile isLiteralChar), rest)
  | _ => none

/-- A run of quotes in a string over several lines: fewer than three belong to the string, three end
it, and one or two before the last three still belong to it. -/
inductive QuoteRun where
  | inside (count : Nat)
  | closing (count : Nat)
  deriving DecidableEq, Repr

def QuoteRun.ofLength (n : Nat) : QuoteRun :=
  if n < 3 then .inside n else .closing (min (n - 3) 2)

/-- A basic string over several lines, after its opening quotes. -/
def readLongBasic : (fuel : Nat) → (acc : List Char) → List Char → Option (String × List Char)
  | 0, _, _ => none
  | fuel + 1, acc, cs =>
      match cs with
      | [] => none
      | '"' :: _ =>
          let run := (cs.takeWhile (· = '"')).length
          match QuoteRun.ofLength run with
          | .inside n => readLongBasic fuel (List.replicate n '"' ++ acc) (cs.drop n)
          | .closing n =>
              some (String.ofList (List.replicate n '"' ++ acc).reverse, cs.drop (n + 3))
      | '\\' :: rest =>
          match continuation? rest with
          | some rest => readLongBasic fuel acc rest
          | none => do
              let (c, rest) ← readEscape rest
              readLongBasic fuel (c :: acc) rest
      | c :: rest =>
          match lineEnd? (c :: rest) with
          | some rest => readLongBasic fuel ('\n' :: acc) rest
          | none => if isBasicChar c then readLongBasic fuel (c :: acc) rest else none

/-- A literal string over several lines, after its opening quotes. -/
def readLongLiteral : (fuel : Nat) → (acc : List Char) → List Char → Option (String × List Char)
  | 0, _, _ => none
  | fuel + 1, acc, cs =>
      match cs with
      | [] => none
      | '\'' :: _ =>
          let run := (cs.takeWhile (· = '\'')).length
          match QuoteRun.ofLength run with
          | .inside n => readLongLiteral fuel (List.replicate n '\'' ++ acc) (cs.drop n)
          | .closing n =>
              some (String.ofList (List.replicate n '\'' ++ acc).reverse, cs.drop (n + 3))
      | c :: rest =>
          match lineEnd? (c :: rest) with
          | some rest => readLongLiteral fuel ('\n' :: acc) rest
          | none => if isLiteralChar c then readLongLiteral fuel (c :: acc) rest else none

/-- A line end right after the opening quotes is no part of the string. -/
def dropFirstLineEnd (cs : List Char) : List Char :=
  (lineEnd? cs).getD cs

/-- A string of one of the four forms. -/
def readString : List Char → Option (String × List Char)
  | '"' :: '"' :: '"' :: rest =>
      let rest := dropFirstLineEnd rest
      readLongBasic (rest.length + 1) [] rest
  | '"' :: rest => readBasic (rest.length + 1) [] rest
  | '\'' :: '\'' :: '\'' :: rest =>
      let rest := dropFirstLineEnd rest
      readLongLiteral (rest.length + 1) [] rest
  | '\'' :: rest => readLiteral rest
  | _ => none

/-! ## Keys -/

def isBareChar (c : Char) : Bool :=
  c.isAlphanum || c = '-' || c = '_'

def readName : List Char → Option (String × List Char)
  | '"' :: rest => readBasic (rest.length + 1) [] rest
  | '\'' :: rest => readLiteral rest
  | cs =>
      match cs.takeWhile isBareChar with
      | [] => none
      | name => some (String.ofList name, cs.dropWhile isBareChar)

/-- How deep arrays, inline tables and keys may go, exclusive. -/
def nestingLimit : Nat := 80

/-- Names with dots between them, and blanks around each. -/
def readNames : (fuel : Nat) → List Char → Option (Path × List Char)
  | 0, _ => none
  | fuel + 1, cs => do
      let (name, cs) ← readName (skipBlanks cs)
      match skipBlanks cs with
      | '.' :: cs => do
          let (names, cs) ← readNames fuel cs
          return (name :: names, cs)
      | cs => return ([name], cs)

def readKey (cs : List Char) : Option (Path × List Char) :=
  (readNames (cs.length + 1) cs).filter fun k => k.1.length < nestingLimit

/-! ## Numbers -/

/-- Digits of a radix, with single underscores between them, the underscores left out. -/
def readDigits (isDigit : Char → Bool) : List Char → Option (List Char × List Char)
  | [] => none
  | c :: cs => if isDigit c then some (go [c] cs) else none
where
  go (acc : List Char) : List Char → List Char × List Char
    | [] => (acc.reverse, [])
    | '_' :: c :: cs => if isDigit c then go (c :: acc) cs else (acc.reverse, '_' :: c :: cs)
    | c :: cs => if isDigit c then go (c :: acc) cs else (acc.reverse, c :: cs)

def readSign : List Char → Bool × List Char
  | '-' :: rest => (true, rest)
  | '+' :: rest => (false, rest)
  | cs => (false, cs)

/-- Decimal digits without a leading zero, unless it is the only digit. -/
def readDecimal : List Char → Option (List Char × List Char)
  | '0' :: rest => some (['0'], rest)
  | cs => readDigits Char.isDigit cs

def isHexDigit (c : Char) : Bool :=
  (Json.hexValue? c).isSome

def isOctalDigit (c : Char) : Bool :=
  '0' ≤ c && c ≤ '7'

def isBinaryDigit (c : Char) : Bool :=
  c = '0' || c = '1'

def inRadix (radix : Nat) (digits : List Char) : Nat :=
  digits.foldl (fun n c => n * radix + (Json.hexValue? c).getD 0) 0

/-- Integers are signed 64-bit words. -/
def word? (i : Int) : Option Value :=
  if -0x8000000000000000 ≤ i ∧ i < 0x8000000000000000 then some (.integer i) else none

def readInteger (cs : List Char) : Option (Value × List Char) := do
  match cs with
  | '0' :: 'x' :: rest => do
      let (ds, rest) ← readDigits isHexDigit rest
      return (← word? (inRadix 16 ds), rest)
  | '0' :: 'o' :: rest => do
      let (ds, rest) ← readDigits isOctalDigit rest
      return (← word? (inRadix 8 ds), rest)
  | '0' :: 'b' :: rest => do
      let (ds, rest) ← readDigits isBinaryDigit rest
      return (← word? (inRadix 2 ds), rest)
  | cs => do
      let (negative, rest) := readSign cs
      let (ds, rest) ← readDecimal rest
      let n : Int := inRadix 10 ds
      return (← word? (if negative then -n else n), rest)

/-- The parts of a float: sign, whole digits, fraction digits, and exponent. -/
structure FloatParts where
  negative : Bool
  whole : List Char
  fraction : List Char
  exponentNegative : Bool
  exponent : List Char
  deriving DecidableEq, Repr

/-- Positive and rounding to infinity: at least halfway from the greatest double to the next power
of two. Exponents far out of range are decided by their size alone. -/
def FloatParts.overflows (f : FloatParts) : Bool :=
  let digits := f.whole ++ f.fraction
  let significand := inRadix 10 digits
  let e : Int := (if f.exponentNegative then -1 else 1) * (inRadix 10 f.exponent : Int)
  let place : Int := e - f.fraction.length
  let top : Int := place + digits.length
  if f.negative || significand = 0 || top < 300 then false
  else if 400 + digits.length < top then true
  else
    let threshold := Nat.pow 2 1024 - Nat.pow 2 970
    threshold * Nat.pow 10 (-place).toNat ≤ significand * Nat.pow 10 place.toNat

def readExponent : List Char → Option ((Bool × List Char) × List Char)
  | c :: rest =>
      if c = 'e' ∨ c = 'E' then do
        let (negative, rest) := readSign rest
        let (ds, rest) ← readDigits Char.isDigit rest
        return ((negative, ds), rest)
      else none
  | [] => none

/-- A decimal float: it has a fraction or an exponent. -/
def readPlainFloat (cs : List Char) : Option (Value × List Char) := do
  let (negative, rest) := readSign cs
  let (whole, rest) ← readDecimal rest
  let (fraction, afterFraction) ← match rest with
    | '.' :: rest => readDigits Char.isDigit rest
    | rest => some ([], rest)
  let ((exponentNegative, exponent), afterExponent) ← match readExponent afterFraction with
    | some found => some found
    | none => if fraction = [] then none else some ((false, []), afterFraction)
  let parts : FloatParts := ⟨negative, whole, fraction, exponentNegative, exponent⟩
  if parts.overflows then none
  return (.float (String.ofList (cs.take (cs.length - afterExponent.length))), afterExponent)

def readSpecialFloat (cs : List Char) : Option (Value × List Char) :=
  match (readSign cs).2 with
  | 'i' :: 'n' :: 'f' :: rest => some (.float "inf", rest)
  | 'n' :: 'a' :: 'n' :: rest => some (.float "nan", rest)
  | _ => none

/-! ## Date-times -/

/-- A number of exactly so many digits within bounds. -/
def readField (count low high : Nat) (cs : List Char) : Option (Nat × List Char) :=
  let digits := cs.take count
  let n := inRadix 10 digits
  if digits.length = count ∧ digits.all Char.isDigit ∧ low ≤ n ∧ n ≤ high then
    some (n, cs.drop count)
  else none

def readChar (c : Char) : List Char → Option (List Char)
  | d :: rest => if c = d then some rest else none
  | [] => none

def daysIn (year month : Nat) : Nat :=
  if month = 2 then
    if year % 4 = 0 ∧ (year % 100 ≠ 0 ∨ year % 400 = 0) then 29 else 28
  else if month ∈ [4, 6, 9, 11] then 30
  else 31

def readDate (cs : List Char) : Option (List Char) := do
  let (year, cs) ← readField 4 0 9999 cs
  let cs ← readChar '-' cs
  let (month, cs) ← readField 2 1 12 cs
  let cs ← readChar '-' cs
  let (_, cs) ← readField 2 1 (daysIn year month) cs
  return cs

/-- Seconds may be sixty, for leap seconds, and have a fraction. -/
def readTime (cs : List Char) : Option (List Char) := do
  let (_, cs) ← readField 2 0 23 cs
  let cs ← readChar ':' cs
  let (_, cs) ← readField 2 0 59 cs
  let cs ← readChar ':' cs
  let (_, cs) ← readField 2 0 60 cs
  match cs with
  | '.' :: rest =>
      if (rest.head?.map Char.isDigit).getD false then some (rest.dropWhile Char.isDigit) else none
  | cs => some cs

def readOffset (cs : List Char) : Option (List Char) :=
  match cs with
  | 'Z' :: rest => some rest
  | 'z' :: rest => some rest
  | c :: rest =>
      if c = '+' ∨ c = '-' then do
        let (_, rest) ← readField 2 0 23 rest
        let rest ← readChar ':' rest
        let (_, rest) ← readField 2 0 59 rest
        return rest
      else some cs
  | [] => some []

/-- A date, a time, or a date with a time and perhaps an offset. After a date a blank may be the
delimiter of a time, or the end of the value. -/
def readDatetime (cs : List Char) : Option (Value × List Char) := do
  let rest ← match readDate cs with
    | some afterDate =>
        match afterDate with
        | c :: rest =>
            if c = 'T' ∨ c = 't' ∨ c = ' ' then
              match readTime rest with
              | some rest => readOffset rest
              | none => if c = ' ' then some afterDate else none
            else some afterDate
        | [] => some []
    | none => readTime cs
  return (.datetime (String.ofList (cs.take (cs.length - rest.length))), rest)

/-- What starts with a sign or a digit. -/
def readNumeric (cs : List Char) : Option (Value × List Char) :=
  ((readDatetime cs).or (readPlainFloat cs)).or ((readSpecialFloat cs).or (readInteger cs))

end Toml
end RpcHost
