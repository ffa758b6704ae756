import Lettering.Unicode.Property

/-!
# Quoted text

The quoted form of a text, as error messages show keys: between double quotes, with short escapes
for the quote, the backslash and four controls, and `\u{…}` with the number in lower-case
hexadecimal for a character that cannot be shown by itself. A single quote stays as it is.
-/

namespace Lettering.Text

/-- The escape that names a character by its number. -/
def numberEscape (c : Char) : List Char :=
  '\\' :: 'u' :: '\x7b' :: (Nat.toDigits 16 c.toNat ++ ['\x7d'])

/-- One character inside a quoted text. -/
def quoteChar (c : Char) : List Char :=
  match c with
  | '\x00' => ['\\', '0']
  | '\t' => ['\\', 't']
  | '\r' => ['\\', 'r']
  | '\n' => ['\\', 'n']
  | '"' => ['\\', '"']
  | '\\' => ['\\', '\\']
  | c =>
    if Unicode.isGraphemeExtender c.toNat then numberEscape c
    else if Unicode.isPrintable c.toNat then [c]
    else numberEscape c

/-- A text between double quotes. -/
def quote (s : String) : String :=
  String.ofList ('"' :: (s.toList.flatMap quoteChar ++ ['"']))

/-- A list of texts in brackets, each as `render` shows it. -/
def bracketed (items : List String) : String :=
  "[" ++ ", ".intercalate items ++ "]"

end Lettering.Text
