import HostStatus.Text.Printable

/-!
# Quoted text

A quoted text shows a string on one line between quotation marks. Quotation marks and backslashes
stand behind a backslash, the usual controls have a letter, and every other unprintable character
is written by its code point, in hexadecimal between braces.
-/

namespace HostStatus.Text.Quoted

def encodeChar (c : Char) : List Char :=
  match c with
  | '"' => ['\\', '"']
  | '\\' => ['\\', '\\']
  | '\n' => ['\\', 'n']
  | '\r' => ['\\', 'r']
  | '\t' => ['\\', 't']
  | '\x00' => ['\\', '0']
  | c => if isPrintable c then [c] else '\\' :: 'u' :: '{' :: Nat.toDigits 16 c.toNat ++ ['}']

def encode (cs : List Char) : List Char :=
  '"' :: cs.flatMap encodeChar ++ ['"']

end Quoted

def quoted (s : String) : String :=
  String.ofList (Quoted.encode s.toList)

end HostStatus.Text
