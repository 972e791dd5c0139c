import DocLint.Pattern.CharSet
import DocLint.Unicode.Age
import DocLint.Unicode.Property

/-!
# The characters that patterns know

Classes of characters in patterns go by version 16.0 of the Unicode standard. The tables for the
general category are those of version 17.0, from which the characters that this version added are
left out here; they count as unassigned.
-/

namespace DocLint.Pattern.CharSet

open Unicode (GeneralCategory)

/-- The characters that version 16.0 does not have. -/
def later : CharSet := ofRuns Unicode.Age.version17.added

/-- The characters of some runs that version 16.0 has. -/
def known (rs : Unicode.Runs) : CharSet := diff (ofRuns rs) later

/-- The letter that version 17.0 moved from the lower case letters to the letters without case. -/
def glottalStop : CharSet := ⟨[(0x295, 0x295)]⟩

/-- The characters of a general category. -/
def category : GeneralCategory → CharSet
  | .lowercaseLetter => union (known Unicode.Table.lowercaseLetter) glottalStop
  | .otherLetter => diff (known Unicode.Table.otherLetter) glottalStop
  | g => known g.runs

/-- The characters of some general categories. -/
def categories (gs : List GeneralCategory) : CharSet :=
  ofRanges (gs.flatMap fun g => (category g).ranges)

/-- The assigned characters. -/
def assigned : CharSet := categories GeneralCategory.all

/-- The code points that are no characters because they are halves of surrogate pairs. -/
def surrogates : CharSet := ⟨[(0xD800, 0xDFFF)]⟩

/-- The unassigned characters. -/
def unassigned : CharSet := (union assigned surrogates).complement maxCode

/-- The lower case characters. -/
def lowercase : CharSet := union (known Unicode.lowercaseRuns) glottalStop

/-- The characters with case. -/
def cased : CharSet := union (known Unicode.casedRuns) glottalStop

/-- The characters that extend the grapheme of the one before it. -/
def graphemeExtend : CharSet :=
  known (Unicode.Table.otherGraphemeExtend ++ Unicode.Table.nonspacingMark ++
    Unicode.Table.enclosingMark)

/-- The characters that words are made of. -/
def word : CharSet := known Unicode.wordRuns

/-- The decimal digits. -/
def digit : CharSet := category .decimalNumber

/-- White space. -/
def space : CharSet :=
  ⟨[(0x9, 0xD), (0x20, 0x20), (0x85, 0x85), (0xA0, 0xA0), (0x1680, 0x1680), (0x2000, 0x200A),
    (0x2028, 0x2029), (0x202F, 0x202F), (0x205F, 0x205F), (0x3000, 0x3000)]⟩

/-- A class with a one-letter escape. -/
def letterClass : LetterClass → CharSet
  | .digit => digit
  | .space => space
  | .word => word

end DocLint.Pattern.CharSet
