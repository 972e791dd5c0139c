import DocLint.Pattern.Repertoire
import DocLint.Unicode.Script
import DocLint.Unicode.Segmentation
import DocLint.Unicode.Trait

/-!
# Classes by property

The names by which a pattern can ask for a class of characters. By one name it can ask for a trait,
a general category or a group of them, or a script; with the name of a property before the name,
also for the scripts that use a character, for the version that added it, and for the classes that
divide a text. Case, blanks, dashes, underscores and a leading `is` in a name do not matter.
-/

namespace DocLint.Pattern

open Unicode (GeneralCategory)

/-- A name in the form in which names are compared. -/
def normalName (name : String) : String :=
  let cs := name.toList
  let is? := (cs.take 2).map Char.toLower == ['i', 's']
  let kept := ((if is? then cs.drop 2 else cs).filter fun c =>
    c.toNat < 0x80 && c != ' ' && c != '_' && c != '-').map Char.toLower
  if is? && kept == ['c'] then "isc" else String.ofList kept

/-- The general categories that a name stands for, one or a group. -/
def categoriesOf? : String → Option (List GeneralCategory)
  | "lu" | "uppercaseletter" => some [.uppercaseLetter]
  | "ll" | "lowercaseletter" => some [.lowercaseLetter]
  | "lt" | "titlecaseletter" => some [.titlecaseLetter]
  | "lc" | "casedletter" => some [.uppercaseLetter, .lowercaseLetter, .titlecaseLetter]
  | "lm" | "modifierletter" => some [.modifierLetter]
  | "lo" | "otherletter" => some [.otherLetter]
  | "l" | "letter" =>
    some [.uppercaseLetter, .lowercaseLetter, .titlecaseLetter, .modifierLetter, .otherLetter]
  | "mn" | "nonspacingmark" => some [.nonspacingMark]
  | "mc" | "spacingmark" => some [.spacingMark]
  | "me" | "enclosingmark" => some [.enclosingMark]
  | "m" | "mark" | "combiningmark" => some [.nonspacingMark, .spacingMark, .enclosingMark]
  | "nd" | "decimalnumber" | "digit" => some [.decimalNumber]
  | "nl" | "letternumber" => some [.letterNumber]
  | "no" | "othernumber" => some [.otherNumber]
  | "n" | "number" => some [.decimalNumber, .letterNumber, .otherNumber]
  | "pc" | "connectorpunctuation" => some [.connectorPunctuation]
  | "pd" | "dashpunctuation" => some [.dashPunctuation]
  | "ps" | "openpunctuation" => some [.openPunctuation]
  | "pe" | "closepunctuation" => some [.closePunctuation]
  | "pi" | "initialpunctuation" => some [.initialPunctuation]
  | "pf" | "finalpunctuation" => some [.finalPunctuation]
  | "po" | "otherpunctuation" => some [.otherPunctuation]
  | "p" | "punctuation" | "punct" =>
    some [.connectorPunctuation, .dashPunctuation, .openPunctuation, .closePunctuation,
      .initialPunctuation, .finalPunctuation, .otherPunctuation]
  | "sm" | "mathsymbol" => some [.mathSymbol]
  | "sc" | "currencysymbol" => some [.currencySymbol]
  | "sk" | "modifiersymbol" => some [.modifierSymbol]
  | "so" | "othersymbol" => some [.otherSymbol]
  | "s" | "symbol" => some [.mathSymbol, .currencySymbol, .modifierSymbol, .otherSymbol]
  | "zs" | "spaceseparator" => some [.spaceSeparator]
  | "zl" | "lineseparator" => some [.lineSeparator]
  | "zp" | "paragraphseparator" => some [.paragraphSeparator]
  | "z" | "separator" => some [.spaceSeparator, .lineSeparator, .paragraphSeparator]
  | "cc" | "control" | "cntrl" => some [.control]
  | "cf" | "format" => some [.format]
  | "co" | "privateuse" => some [.privateUse]
  | _ => none

/-! ## General categories -/

/-- The class of a general category; `any`, `assigned` and `ascii` count among them. -/
def categoryClass? : String → Option CharSet
  | "any" => some ⟨[(0, CharSet.maxCode)]⟩
  | "ascii" => some ⟨[(0, 0x7F)]⟩
  | "assigned" => some (CharSet.union CharSet.assigned CharSet.surrogates)
  | "cn" | "unassigned" => some CharSet.unassigned
  | "c" | "other" =>
    some (CharSet.union CharSet.unassigned (CharSet.categories [.control, .format, .privateUse]))
  | name => (categoriesOf? name).map CharSet.categories

/-- The category of surrogates, which are no characters: its names, but no class. -/
def surrogateNames : List String := ["cs", "surrogate"]

/-! ## Traits -/

/-- The characters that start identifiers. -/
def idStart : CharSet :=
  let letters := CharSet.categories
    [.uppercaseLetter, .lowercaseLetter, .titlecaseLetter, .modifierLetter, .otherLetter,
      .letterNumber]
  CharSet.diff (CharSet.union letters (.ofRuns Unicode.Trait.otherIdStart.runs))
    (.ofRuns (Unicode.Trait.patternSyntax.runs ++ Unicode.Trait.patternSpace.runs))

/-- The characters that continue identifiers. -/
def idContinue : CharSet :=
  let added := CharSet.categories
    [.nonspacingMark, .spacingMark, .decimalNumber, .connectorPunctuation]
  CharSet.diff
    (CharSet.union idStart (CharSet.union added (.ofRuns Unicode.Trait.otherIdContinue.runs)))
    (.ofRuns (Unicode.Trait.patternSyntax.runs ++ Unicode.Trait.patternSpace.runs))

/-- Characters whose compatibility decomposition does not continue an identifier. -/
def unstableContinue : Unicode.Runs :=
  [(0x37A, 0x37A, 1), (0x309B, 0x309C, 1), (0xFC5E, 0xFC63, 1), (0xFDFA, 0xFDFB, 1),
   (0xFE70, 0xFE7E, 2)]

/-- Characters whose compatibility decomposition does not start an identifier. -/
def unstableStart : Unicode.Runs :=
  unstableContinue ++ [(0xE33, 0xE33, 1), (0xEB3, 0xEB3, 1), (0xFF9E, 0xFF9F, 1)]

/-- The characters that start a grapheme and show. -/
def graphemeBase : CharSet :=
  CharSet.diff CharSet.assigned
    (CharSet.union CharSet.graphemeExtend (CharSet.categories
      [.control, .format, .privateUse, .lineSeparator, .paragraphSeparator]))

/-- The class of a trait that is derived from others. -/
def derivedClass? : String → Option CharSet
  | "alpha" | "alphabetic" => some (.known Unicode.alphabeticRuns)
  | "oalpha" | "otheralphabetic" => some (.known Unicode.Table.otherAlphabetic)
  | "lower" | "lowercase" => some .lowercase
  | "olower" | "otherlowercase" => some (.known Unicode.Table.otherLowercase)
  | "upper" | "uppercase" => some (.known Unicode.uppercaseRuns)
  | "oupper" | "otheruppercase" => some (.known Unicode.Table.otherUppercase)
  | "cased" => some .cased
  | "ci" | "caseignorable" => some (.known Unicode.caseIgnorableRuns)
  | "grext" | "graphemeextend" => some .graphemeExtend
  | "ogrext" | "othergraphemeextend" => some (.known Unicode.Table.otherGraphemeExtend)
  | "grbase" | "graphemebase" => some graphemeBase
  | "space" | "wspace" | "whitespace" => some .space
  | "di" | "defaultignorablecodepoint" => some (.ofRuns Unicode.Table.defaultIgnorable)
  | "math" =>
    some (CharSet.union (CharSet.category .mathSymbol) (.ofRuns Unicode.Trait.otherMath.runs))
  | "cwcm" | "changeswhencasemapped" =>
    some (.ofRuns (Unicode.Trait.changesWhenLowercased.runs ++
      Unicode.Trait.changesWhenTitlecased.runs ++ Unicode.Trait.changesWhenUppercased.runs))
  | "ids" | "idstart" => some idStart
  | "idc" | "idcontinue" => some idContinue
  | "xids" | "xidstart" => some (CharSet.diff idStart (.ofRuns unstableStart))
  | "xidc" | "xidcontinue" => some (CharSet.diff idContinue (.ofRuns unstableContinue))
  | _ => none

/-- The class of a trait. -/
def traitClass? (name : String) : Option CharSet :=
  derivedClass? name <|> (Unicode.Trait.ofName? name).map fun t => .ofRuns t.runs

/-! ## Other classes -/

/-- The class of the characters that belong to a script. -/
def scriptClass? (name : String) : Option CharSet :=
  (Unicode.Script.ofName? name).map fun s => .ofRuns s.own

/-- The class of the characters that a script uses. A character that several scripts share counts
as shared only if these scripts are not listed. -/
def extensionClass? (name : String) : Option CharSet :=
  (Unicode.Script.ofName? name).map fun s =>
    if s.isShared then
      CharSet.diff (.ofRuns s.own) (.ofRuns (Unicode.Script.all.flatMap Unicode.Script.shared))
    else .ofRuns (s.own ++ s.shared)

/-- The class of the characters of a version, which are those that it or an earlier one added. -/
def ageClass? (name : String) : Option CharSet :=
  let ages := Unicode.Age.upTo16
  (ages.findIdx? fun a => a.names.contains name).map fun i =>
    .ofRuns ((ages.take (i + 1)).flatMap Unicode.Age.added)

/-- The class of the characters that count as alike for the division of a text. -/
def breakClass? (classes : List Unicode.BreakClass) (name : String) : Option CharSet :=
  (Unicode.BreakClass.ofName? classes name).map fun c =>
    CharSet.diff (.ofRuns c.runs) (.ofRuns c.leftOut)

/-! ## Properties with values -/

/-- The properties whose values have classes. -/
inductive ValuedProperty
  | generalCategory
  | script
  | scriptExtensions
  | age
  | graphemeBreak
  | wordBreak
  | sentenceBreak
  deriving DecidableEq, Repr

namespace ValuedProperty

def ofName? : String → Option ValuedProperty
  | "gc" | "generalcategory" => some generalCategory
  | "sc" | "script" => some script
  | "scx" | "scriptextensions" => some scriptExtensions
  | "age" => some age
  | "gcb" | "graphemeclusterbreak" => some graphemeBreak
  | "wb" | "wordbreak" => some wordBreak
  | "sb" | "sentencebreak" => some sentenceBreak
  | _ => none

/-- The class of the characters that have a value. -/
def class? : ValuedProperty → String → Option CharSet
  | generalCategory, v => categoryClass? v
  | script, v => scriptClass? v
  | scriptExtensions, v => extensionClass? v
  | age, v => ageClass? v
  | graphemeBreak, v => breakClass? Unicode.BreakClass.ofGraphemes v
  | wordBreak, v => breakClass? Unicode.BreakClass.ofWords v
  | sentenceBreak, v => breakClass? Unicode.BreakClass.ofSentences v

end ValuedProperty

/-- Names of traits that are known but have no class. -/
def classlessTraitNames : List String :=
  ["bidim", "bidimirrored", "ce", "compositionexclusion", "compex", "fullcompositionexclusion",
   "cwkcf", "changeswhennfkccasefolded", "xonfc", "expandsonnfc", "xonfd", "expandsonnfd", "xonfkc",
   "expandsonnfkc", "xonfkd", "expandsonnfkd", "kehnomirror", "kehnorotate"]

/-- Names of properties whose values have no classes. -/
def classlessPropertyNames : List String :=
  ["nv", "numericvalue", "bmg", "bidimirroringglyph", "bpb", "bidipairedbracket", "cf",
   "casefolding", "dm", "decompositionmapping", "equideo", "equivalentunifiedideograph", "fcnfkc",
   "fcnfkcclosure", "lc", "lowercasemapping", "nfkccf", "nfkccasefold", "nfkcscf",
   "nfkcsimplecasefold", "scf", "simplecasefolding", "sfc", "slc", "simplelowercasemapping", "stc",
   "simpletitlecasemapping", "suc", "simpleuppercasemapping", "tc", "titlecasemapping", "uc",
   "uppercasemapping", "isc", "ocomment", "jsn", "jamoshortname", "na", "name", "na1",
   "unicode1name", "namealias", "blk", "block", "bc", "bidiclass", "bpt", "bidipairedbrackettype",
   "ccc", "canonicalcombiningclass", "dt", "decompositiontype", "ea", "eastasianwidth", "hst",
   "hangulsyllabletype", "incb", "indicconjunctbreak", "inpc", "indicpositionalcategory", "insc",
   "indicsyllabiccategory", "jg", "joininggroup", "jt", "joiningtype", "lb", "linebreak", "nfcqc",
   "nfcquickcheck", "nfdqc", "nfdquickcheck", "nfkcqc", "nfkcquickcheck", "nfkdqc",
   "nfkdquickcheck", "nt", "numerictype", "vo", "verticalorientation", "unicoderadicalstroke",
   "urs", "kehcat", "kehcore", "kehdesc", "kehfunc", "kehfval", "kehhg", "kehifao", "kehjsesh",
   "kehunik", "cjkaccountingnumeric", "kaccountingnumeric", "cjkothernumeric", "kothernumeric",
   "cjkprimarynumeric", "kprimarynumeric", "cjkcompatibilityvariant", "kcompatibilityvariant",
   "cjkiicore", "kiicore", "cjkirggsource", "kirggsource", "cjkirghsource", "kirghsource",
   "cjkirgjsource", "kirgjsource", "cjkirgkpsource", "kirgkpsource", "cjkirgksource", "kirgksource",
   "cjkirgmsource", "kirgmsource", "cjkirgssource", "kirgssource", "cjkirgtsource", "kirgtsource",
   "cjkirguksource", "kirguksource", "cjkirgusource", "kirgusource", "cjkirgvsource", "kirgvsource",
   "cjkrsunicode", "krsunicode", "cjkmandarin", "kmandarin", "cjktotalstrokes", "ktotalstrokes",
   "cjkunihancore2020", "kunihancore2020"]

/-- Whether a property is known, whether or not its values have classes. -/
def isPropertyName (name : String) : Bool :=
  (ValuedProperty.ofName? name).isSome || (traitClass? name).isSome ||
    classlessTraitNames.contains name || classlessPropertyNames.contains name

/-! ## Queries -/

/-- The class that a query asks for, or what was not found. -/
def PropertyQuery.resolve : PropertyQuery → Except FaultKind CharSet
  | .name n =>
    let n := normalName n
    match traitClass? n <|> categoryClass? n <|> scriptClass? n with
    | some s => .ok s
    | none =>
      if surrogateNames.contains n || Unicode.Script.vacantNames.contains n then
        .error .propertyValueNotFound
      else .error .propertyNotFound
  | .value property v =>
    let p := normalName property
    match (ValuedProperty.ofName? p).bind fun k => k.class? (normalName v) with
    | some s => .ok s
    | none =>
      if isPropertyName p then .error .propertyValueNotFound else .error .propertyNotFound

end DocLint.Pattern
