import Companion.Unicode.Printable

/-!
# Quoted text

A text in double quotes, with everything that could not be read back by eye written as an escape:
quotes and backslashes, the common controls by letter, and unprintable characters by code point.
-/

namespace Companion.Text

/-- A code point in lower-case hexadecimal digits, in braces. -/
def codeEscape (c : Char) : List Char :=
  "\\u\x7b".toList ++ Nat.toDigits 16 c.toNat ++ ['\x7d']

def quotedChar (c : Char) : List Char :=
  match c with
  | '\x00' => ['\\', '0']
  | '\t' => ['\\', 't']
  | '\r' => ['\\', 'r']
  | '\n' => ['\\', 'n']
  | '\\' => ['\\', '\\']
  | '"' => ['\\', '"']
  | _ => if Unicode.isPrintable c then [c] else codeEscape c

def quoted (text : String) : String :=
  String.ofList ('"' :: text.toList.flatMap quotedChar ++ ['"'])

end Companion.Text
