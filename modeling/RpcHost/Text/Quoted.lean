import RpcHost.Text.Printable

/-!
# Quoted text

Text between double quotes for a reader's eye. Quotes, backslashes and the common control characters
have short escapes; every other character that does not print by itself is written by its code.
-/

namespace RpcHost
namespace Text

/-- The code of a character, as `\u{…}` in lower-case hexadecimal. -/
def codeEscape (c : Char) : List Char :=
  '\\' :: 'u' :: '{' :: (Nat.toDigits 16 c.toNat ++ ['}'])

def quotedChar (c : Char) : List Char :=
  match c with
  | '\x00' => ['\\', '0']
  | '\t' => ['\\', 't']
  | '\r' => ['\\', 'r']
  | '\n' => ['\\', 'n']
  | '"' => ['\\', '"']
  | '\\' => ['\\', '\\']
  | c => if isExtending c || !isPrintable c then codeEscape c else [c]

def quoted (s : String) : String :=
  String.ofList ('"' :: (s.toList.flatMap quotedChar ++ ['"']))

end Text
end RpcHost
