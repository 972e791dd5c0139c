/-!
# White space

White space is meant by the Unicode property of that name, so that a no-break space counts and a
zero width space does not. A text is blank if it holds nothing else, and trimming takes the white
space off both ends.
-/

namespace DocLint.Text

/-- Whether a character is white space. -/
def isSpace (c : Char) : Bool :=
  let n := c.toNat
  (0x9 ≤ n && n ≤ 0xD) || n == 0x20 || n == 0x85 || n == 0xA0 || n == 0x1680 ||
    (0x2000 ≤ n && n ≤ 0x200A) || n == 0x2028 || n == 0x2029 || n == 0x202F || n == 0x205F ||
    n == 0x3000

/-- The characters without the white space at their start. -/
def trimStart (s : List Char) : List Char := s.dropWhile isSpace

/-- The characters without the white space at their end. -/
def trimEnd (s : List Char) : List Char := (s.reverse.dropWhile isSpace).reverse

/-- The characters without the white space at both ends. -/
def trimChars (s : List Char) : List Char := trimEnd (trimStart s)

/-- The text without the white space at both ends. -/
def trim (s : String) : String := String.ofList (trimChars s.toList)

/-- Whether a text is empty or white space only. -/
def isBlank (s : String) : Bool := s.toList.all isSpace

@[simp] theorem toList_trim (s : String) : (trim s).toList = trimChars s.toList :=
  String.toList_ofList

end DocLint.Text
