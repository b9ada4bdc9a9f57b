import RpcHost.Json.Printer
import RpcHost.Json.Scan

/-!
# Spellings of a value

One value has many texts. Blanks may stand around every token, the members of an object may come in
any order, and a character of a string may stand for itself or be escaped in one of several ways.
`SpelledBy` relates a value to all of its texts. Whole numbers have one spelling only; other numbers
are left out.
-/

namespace RpcHost
namespace Json

def Blanks (cs : List Char) : Prop :=
  ∀ c ∈ cs, isBlank c = true

instance (cs : List Char) : Decidable (Blanks cs) :=
  decidable_of_iff (cs.all isBlank = true) List.all_eq_true

/-! ## Strings -/

/-- A hexadecimal digit, in either case. -/
def SpellsDigit (n : Nat) (c : Char) : Prop :=
  c = hexDigit n ∨ c = (hexDigit n).toUpper

/-- Four hexadecimal digits, the highest first. -/
inductive SpellsUnit (unit : Nat) : List Char → Prop where
  | digits {a b c d : Char} (ha : SpellsDigit (unit / 4096 % 16) a)
      (hb : SpellsDigit (unit / 256 % 16) b) (hc : SpellsDigit (unit / 16 % 16) c)
      (hd : SpellsDigit (unit % 16) d) : SpellsUnit unit [a, b, c, d]

/-- What may follow a backslash, with the character that it stands for. -/
def shortEscapes : List (Char × Char) :=
  [('"', '"'), ('\\', '\\'), ('/', '/'), ('b', '\x08'), ('f', '\x0c'), ('n', '\n'), ('r', '\r'),
    ('t', '\t')]

/-- The two units of a character beyond the first 65536. -/
def highSurrogate (c : Char) : Nat := 0xD800 + (c.toNat - 0x10000) / 0x400

def lowSurrogate (c : Char) : Nat := 0xDC00 + (c.toNat - 0x10000) % 0x400

inductive SpellsChar (c : Char) : List Char → Prop where
  | raw (hquote : c ≠ '"') (hback : c ≠ '\\') (hprintable : 32 ≤ c.toNat) : SpellsChar c [c]
  | short {e : Char} (he : (e, c) ∈ shortEscapes) : SpellsChar c ['\\', e]
  | unit {ds : List Char} (hsmall : c.toNat < 0x10000) (hds : SpellsUnit c.toNat ds) :
      SpellsChar c ('\\' :: 'u' :: ds)
  | pair {high low : List Char} (hlarge : 0x10000 ≤ c.toNat)
      (hhigh : SpellsUnit (highSurrogate c) high) (hlow : SpellsUnit (lowSurrogate c) low) :
      SpellsChar c ('\\' :: 'u' :: (high ++ '\\' :: 'u' :: low))

inductive SpellsChars : List Char → List Char → Prop where
  | nil : SpellsChars [] []
  | cons {c : Char} {cs front back : List Char} (hc : SpellsChar c front)
      (hcs : SpellsChars cs back) : SpellsChars (c :: cs) (front ++ back)

inductive SpellsString (s : String) : List Char → Prop where
  | quoted {body : List Char} (hbody : SpellsChars s.toList body) :
      SpellsString s ('"' :: (body ++ ['"']))

/-- A key between blanks, with the colon after it. -/
inductive SpellsKey (key : String) : List Char → Prop where
  | colon {before t after : List Char} (hbefore : Blanks before) (hkey : SpellsString key t)
      (hafter : Blanks after) : SpellsKey key (before ++ t ++ after ++ [':'])

/-! ## Values -/

mutual

/-- The text spells the value, without blanks around it. -/
inductive Spells : Value → List Char → Prop where
  | null : Spells .null ['n', 'u', 'l', 'l']
  | true : Spells (.bool true) ['t', 'r', 'u', 'e']
  | false : Spells (.bool false) ['f', 'a', 'l', 's', 'e']
  | integer (i : Int) : Spells (.number (.integer i)) (integerText i)
  | string {s : String} {t : List Char} (hs : SpellsString s t) : Spells (.string s) t
  | noItems {blanks : List Char} (hblanks : Blanks blanks) :
      Spells (.array []) ('[' :: (blanks ++ [']']))
  | items {items : List Value} {body : List Char} (hitems : SpellsItems items body) :
      Spells (.array items) ('[' :: body)
  | noMembers {blanks : List Char} (hblanks : Blanks blanks) :
      Spells (.object []) ('{' :: (blanks ++ ['}']))
  | members {members order : List (String × Value)} {body : List Char}
      (horder : order.Perm members) (hmembers : SpellsMembers order body) :
      Spells (.object members) ('{' :: body)

/-- The items of an array, with the bracket that closes it. -/
inductive SpellsItems : List Value → List Char → Prop where
  | last {v : Value} {before t after : List Char} (hbefore : Blanks before) (hv : Spells v t)
      (hafter : Blanks after) : SpellsItems [v] (before ++ t ++ after ++ [']'])
  | next {v : Value} {vs : List Value} {before t after more : List Char} (hbefore : Blanks before)
      (hv : Spells v t) (hafter : Blanks after) (hmore : SpellsItems vs more) :
      SpellsItems (v :: vs) (before ++ t ++ after ++ ',' :: more)

/-- The members of an object in the order of the text, with the brace that closes it. -/
inductive SpellsMembers : List (String × Value) → List Char → Prop where
  | last {key : String} {v : Value} {keyText before t after : List Char}
      (hkey : SpellsKey key keyText) (hbefore : Blanks before) (hv : Spells v t)
      (hafter : Blanks after) : SpellsMembers [(key, v)] (keyText ++ before ++ t ++ after ++ ['}'])
  | next {key : String} {v : Value} {ms : List (String × Value)}
      {keyText before t after more : List Char} (hkey : SpellsKey key keyText)
      (hbefore : Blanks before) (hv : Spells v t) (hafter : Blanks after)
      (hmore : SpellsMembers ms more) :
      SpellsMembers ((key, v) :: ms) (keyText ++ before ++ t ++ after ++ ',' :: more)

end

/-- A text of the value. -/
def SpelledBy (v : Value) (text : String) : Prop :=
  ∃ before t after, Blanks before ∧ Spells v t ∧ Blanks after ∧ text.toList = before ++ t ++ after

end Json
end RpcHost
