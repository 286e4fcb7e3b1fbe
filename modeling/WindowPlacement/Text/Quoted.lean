import WindowPlacement.Unicode.Visible

/-!
# Quoted text

Messages quote the text they complain about.  A quoted text stands between double
quotes; a backslash and a double quote are escaped with a backslash, the common controls
have short escapes, and every other character that would not show, or that would change
the look of the one before it, is written as `\u` with its code point in braces.
-/

namespace WindowPlacement.Text

/-- The hexadecimal digits of a number, in lower case and without leading zeros. -/
def hexadecimal (n : Nat) : List Char :=
  Nat.toDigits 16 n

def codePointEscape (c : Char) : List Char :=
  '\\' :: 'u' :: '\x7b' :: hexadecimal c.toNat ++ ['\x7d']

/-- How a character is written between quotes. -/
def quotedChar (c : Char) : List Char :=
  match c with
  | '\x00' => ['\\', '0']
  | '\t' => ['\\', 't']
  | '\r' => ['\\', 'r']
  | '\n' => ['\\', 'n']
  | '"' => ['\\', '"']
  | '\\' => ['\\', '\\']
  | ' ' => [' ']
  | c =>
    if Unicode.isVisible c then [c] else codePointEscape c

def quoted (text : String) : String :=
  String.ofList ('"' :: text.toList.flatMap quotedChar ++ ['"'])

end WindowPlacement.Text
