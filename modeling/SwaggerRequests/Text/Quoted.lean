import SwaggerRequests.Unicode.Printable

/-!
# Quoted text in messages

`quoted s` is the text of `s` between double quotes, as messages show a name, a key or a value of
the input. Each character is written by `quoteChar`: the quote, the backslash and four control
characters get a short escape, a character that is not `Unicode.isPrintable` gets its code point in
braces, and all others stand for themselves. A quoted text is therefore always one line.
-/

namespace SwaggerRequests.Text

/-- The digits of `n` to the base sixteen, without leading zeros. -/
def hexDigits (n : Nat) : List Char := Nat.toDigits 16 n

/-- The characters that stand for `c` between the quotes of `quoted`. -/
def quoteChar (c : Char) : List Char :=
  match c with
  | '\x00' => ['\\', '0']
  | '\t' => ['\\', 't']
  | '\n' => ['\\', 'n']
  | '\r' => ['\\', 'r']
  | '"' => ['\\', '"']
  | '\\' => ['\\', '\\']
  | c =>
    if Unicode.isPrintable c then [c]
    else '\\' :: 'u' :: '{' :: hexDigits c.toNat ++ ['}']

/-- `s` between double quotes, every character written by `quoteChar`. -/
def quoted (s : String) : String := String.ofList ('"' :: s.toList.flatMap quoteChar ++ ['"'])

end SwaggerRequests.Text
