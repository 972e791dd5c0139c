import DocLint.Text.Hex
import DocLint.Unicode.Property

/-!
# Quoted text

A text in quotes for a reader's eye: quotes, backslashes and line ends are escaped, and so is every
character that would not show or would change the look of its neighbour.
-/

namespace DocLint.Text

/-- A character by its code, without leading zeros. -/
def codeEscape (c : Char) : List Char :=
  ['\\', 'u', '{'] ++ Nat.toDigits 16 c.toNat ++ ['}']

/-- Whether a character would not show, or would change the look of its neighbour. The two halfwidth
sound marks belong to the grapheme before them, but take a place of their own. -/
def isObscure (c : Char) : Bool :=
  !Unicode.isPrintable c || Unicode.isDefaultIgnorable c ||
    (Unicode.isGraphemeExtend c && c != '\uFF9E' && c != '\uFF9F')

/-- A character within quotes. -/
def quotedChar (c : Char) : List Char :=
  match c with
  | '\x00' => ['\\', '0']
  | '\t' => ['\\', 't']
  | '\r' => ['\\', 'r']
  | '\n' => ['\\', 'n']
  | '\\' => ['\\', '\\']
  | '"' => ['\\', '"']
  | c => if isObscure c then codeEscape c else [c]

/-- A text in quotes. -/
def quoted (s : String) : String :=
  String.ofList ('"' :: s.toList.flatMap quotedChar ++ ['"'])

end DocLint.Text
