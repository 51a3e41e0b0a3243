/-
# Named character sets

The sets of characters that patterns call by a name: classes between brackets and colons, and the
properties of the character standard, with the names that each of them goes by.

A property is either one that a character has or has not, or one that has a value for every
character. What follows from general categories is put together here as the standard does it.
-/
import GuidedXml.Pattern.CharSet
import GuidedXml.Text.Age
import GuidedXml.Text.Blank
import GuidedXml.Text.Category
import GuidedXml.Text.Property
import GuidedXml.Text.Script

namespace GuidedXml.Pattern.CharSet

open Text (Category Script Age)
open Text.Property

variable {c : Char}

/-! ## Classes of the basic Latin block -/

/-- The characters of the basic Latin block. -/
def basic : CharSet := between 0 0x7F

/-- The blanks of the basic Latin block. -/
def basicBlanks : CharSet := (single ' ').union (range '\t' '\r')

/-- The digits of the basic Latin block. -/
def basicDigits : CharSet := range '0' '9'

/-- The letters and digits of the basic Latin block. -/
def basicAlphanumeric : CharSet := unions [basicDigits, range 'A' 'Z', range 'a' 'z']

/-- The word characters of the basic Latin block. -/
def basicWord : CharSet := basicAlphanumeric.union (single '_')

/-- The class between brackets and colons that goes by a name. -/
def bracketClass? : String → Option CharSet
  | "alnum" => some basicAlphanumeric
  | "alpha" => some ((range 'A' 'Z').union (range 'a' 'z'))
  | "ascii" => some basic
  | "blank" => some ((single '\t').union (single ' '))
  | "cntrl" => some ((between 0 0x1F).union (single '\x7F'))
  | "digit" => some basicDigits
  | "graph" => some (range '!' '~')
  | "lower" => some (range 'a' 'z')
  | "print" => some (range ' ' '~')
  | "punct" => some ((range '!' '~').diff basicAlphanumeric)
  | "space" => some basicBlanks
  | "upper" => some (range 'A' 'Z')
  | "word" => some basicWord
  | "xdigit" => some (unions [basicDigits, range 'A' 'F', range 'a' 'f'])
  | _ => none

/-! ## Categories and what follows from them -/

/-- The characters of one of the categories. -/
def ofCategories (gs : List Category) : CharSet :=
  unions (gs.map fun g =>
    if g = .unassigned then (unions (Category.assigned.map (ofRanges ·.ranges))).complement
    else ofRanges g.ranges)

/-- The set of categories has the characters in them. -/
@[simp] theorem contains_ofCategories {gs : List Category} :
    (ofCategories gs).contains c = Text.inCategories gs c := by
  have hone : ∀ g : Category, (if g = .unassigned then
      (unions (Category.assigned.map (ofRanges ·.ranges))).complement
      else ofRanges g.ranges).contains c = g.holds c := by
    intro g
    rw [Category.holds]
    split
    · simp [List.any_map, Function.comp_def, List.not_any_eq_all_not]
    · simp
  simp [ofCategories, Text.inCategories, List.any_map, Function.comp_def, hone]

/-- The blanks of all scripts. -/
def blanks : CharSet := ofCodes Text.blanks

/-- The alphabetic characters. -/
def alphabetic : CharSet :=
  (ofCategories (Category.letters ++ [.letterNumber])).union
    (ofRanges Category.Ranges.otherAlphabetic)

/-- The uppercase characters. -/
def uppercase : CharSet :=
  (ofCategories [.uppercaseLetter]).union (ofRanges Category.Ranges.otherUppercase)

/-- The lowercase characters. -/
def lowercase : CharSet :=
  (ofCategories [.lowercaseLetter]).union (ofRanges Category.Ranges.otherLowercase)

/-- The decimal digits of all scripts. -/
def decimal : CharSet := ofCategories [.decimalNumber]

/-- The two characters that join their neighbours or keep them apart. -/
def joiners : CharSet := between 0x200C 0x200D

/-- The characters of words. -/
def word : CharSet :=
  unions [alphabetic, ofCategories Category.marks, decimal, ofCategories [.connectorPunctuation],
    joiners]

/-- The set of blanks has the characters that are blank. -/
theorem contains_blanks : blanks.contains c = Text.isBlank c := by
  simp [blanks, Text.isBlank]

/-- The alphabetic set has the characters that are alphabetic. -/
theorem contains_alphabetic : alphabetic.contains c = Text.isAlphabetic c := by
  simp [alphabetic, Text.isAlphabetic, Text.inCategories]

/-- The words of patterns are made of the characters that are word characters elsewhere. -/
theorem contains_word : word.contains c = Text.isWord c := by
  have hjoiners : (decide (0x200C ≤ c.toNat) && decide (c.toNat ≤ 0x200D)) =
      (c.toNat == 0x200C || c.toNat == 0x200D) := by
    rw [Bool.eq_iff_iff]
    simp
    omega
  simp only [word, contains_unions, List.any_cons, List.any_nil, contains_alphabetic, decimal,
    joiners, contains_ofCategories, contains_between, hjoiners, Text.isWord, Text.isMark,
    Text.isDecimal, Text.inCategories, Bool.or_false, Bool.or_assoc]

/-! ## Marks and identifiers -/

/-- The characters that extend a grapheme. -/
def graphemeExtend : CharSet :=
  (ofCategories [.nonspacingMark, .enclosingMark]).union (ofRanges otherGraphemeExtend)

/-- The characters that a grapheme can be built on. -/
def graphemeBase : CharSet :=
  ((ofCategories [.control, .format, .privateUse, .unassigned, .lineSeparator,
    .paragraphSeparator]).union graphemeExtend).complement

/-- The signs and blanks of the syntax of patterns. -/
def patternSigns : CharSet :=
  (ofRanges patternSyntax).union (ofRanges patternBlank)

/-- The characters that can begin an identifier. -/
def idStart : CharSet :=
  ((ofCategories (Category.letters ++ [.letterNumber])).union (ofRanges otherIdStart)).diff
    patternSigns

/-- The characters that can go on in an identifier. -/
def idContinue : CharSet :=
  (unions [idStart, ofCategories [.nonspacingMark, .spacingMark, .decimalNumber,
    .connectorPunctuation], ofRanges otherIdContinue]).diff patternSigns

/-- The code points that are not shown where they are not known. -/
def ignorable : CharSet :=
  (unions [ofRanges otherIgnorable, ofCategories [.format], ofRanges variationSelector]).diff
    (unions [blanks, between 0xFFF9 0xFFFB, between 0x13430 0x13440, ofRanges prependedMark])

/-- The modifiers of emoji characters. -/
def emojiModifier : CharSet := between 0x1F3FB 0x1F3FF

/-- The letters that spell the flag of a region in pairs. -/
def regionalIndicator : CharSet := between 0x1F1E6 0x1F1FF

/-- The code points that are never characters. -/
def noncharacter : CharSet :=
  (between 0xFDD0 0xFDEF).union
    (ofRanges ((List.range 0x11).map fun plane => (0x10000 * plane + 0xFFFE, 0x10000 * plane + 0xFFFF)))

/-- The dashes. -/
def dashes : CharSet :=
  (ofCategories [.dashPunctuation]).union (ofRanges otherDash)

/-- The ideographs. -/
def ideographic : CharSet :=
  (ofRanges unifiedIdeograph).union (ofRanges otherIdeograph)

/-! ## Case -/

/-- The characters that have a case. -/
def cased : CharSet :=
  unions [lowercase, uppercase, ofCategories [.titlecaseLetter]]

/-- The signs that stand between letters of one word. -/
def midLetter : CharSet :=
  ofCodes [0x3A, 0xB7, 0x387, 0x55F, 0x5F4, 0x2027, 0xFE13, 0xFE55, 0xFF1A]

/-- The signs that stand between letters or between digits of one word. -/
def midNumLet : CharSet :=
  ofCodes [0x2E, 0x2018, 0x2019, 0x2024, 0xFE52, 0xFF07, 0xFF0E]

/-- The characters that do not part a cased word. -/
def caseIgnorable : CharSet :=
  unions [ofCategories [.nonspacingMark, .enclosingMark, .format, .modifierLetter, .modifierSymbol],
    midLetter, midNumLet, single '\'']

/-- The characters that another one differs from in case only. -/
def caseVaried : CharSet :=
  (ofCodes (Text.Fold.pairs.map (·.1))).union (ofCodes (Text.Fold.pairs.map (·.2)))

/-- The characters that lower case changes: the capital letter with a dot of its own too. -/
def lowered : CharSet :=
  (caseVaried.inter (uppercase.union (ofCategories [.titlecaseLetter]))).union (between 0x130 0x130)

/-- The characters that upper case changes. -/
def raised : CharSet :=
  (caseVaried.inter (lowercase.union (ofCategories [.titlecaseLetter]))).union
    ((ofRanges specialCased).diff (between 0x130 0x130))

/-- The characters that title case changes: the capital letters of two signs, but none of the small
letters of Georgian, which are their own title case. -/
def titled : CharSet :=
  (raised.union (ofCodes [0x1C4, 0x1C7, 0x1CA, 0x1F1])).diff
    (unions [ofCategories [.titlecaseLetter], between 0x10D0 0x10FA, between 0x10FD 0x10FF])

/-- The characters that case folding changes. -/
def folded : CharSet :=
  ((ofCodes (Text.Fold.pairs.map (·.1))).union (ofRanges specialFolded)).diff
    (ofRanges doublyFolded)

/-! ## Properties that a character has or has not -/

/-- The characters that have the property of a name in loose form. -/
def property? : String → Option CharSet
  | "ahex" | "asciihexdigit" => bracketClass? "xdigit"
  | "alpha" | "alphabetic" => some alphabetic
  | "bidic" | "bidicontrol" => some (ofRanges bidiControl)
  | "bidim" | "bidimirrored" => some (ofRanges bidiMirrored)
  | "caseignorable" | "ci" => some caseIgnorable
  | "cased" => some cased
  | "changeswhencasefolded" | "cwcf" => some folded
  | "changeswhencasemapped" | "cwcm" => some (caseVaried.union (ofRanges specialCased))
  | "changeswhenlowercased" | "cwl" => some lowered
  | "changeswhentitlecased" | "cwt" => some titled
  | "changeswhenuppercased" | "cwu" => some raised
  | "dash" => some dashes
  | "defaultignorablecodepoint" | "di" => some ignorable
  | "dep" | "deprecated" => some (ofRanges deprecated)
  | "dia" | "diacritic" => some (ofRanges diacritic)
  | "emoji" => some (ofRanges emoji)
  | "ecomp" | "emojicomponent" => some (ofRanges emojiComponent)
  | "emod" | "emojimodifier" => some emojiModifier
  | "ebase" | "emojimodifierbase" => some (ofRanges emojiModifierBase)
  | "emojipresentation" | "epres" => some (ofRanges emojiPresentation)
  | "extendedpictographic" | "extpict" => some (ofRanges pictographic)
  | "ext" | "extender" => some (ofRanges extender)
  | "graphemebase" | "grbase" => some graphemeBase
  | "graphemeextend" | "grext" => some graphemeExtend
  | "graphemelink" | "grlink" => some (ofRanges graphemeLink)
  | "hex" | "hexdigit" => some (ofRanges hexDigit)
  | "hyphen" => some (ofRanges hyphen)
  | "idsb" | "idsbinaryoperator" => some (ofRanges describesTwo)
  | "idst" | "idstrinaryoperator" => some (ofRanges describesThree)
  | "idsu" | "idsunaryoperator" => some (ofRanges describesOne)
  | "idcompatmathcontinue" => some ((ofRanges mathIdStart).union (ofRanges mathIdIndex))
  | "idcompatmathstart" => some (ofRanges mathIdStart)
  | "idc" | "idcontinue" => some idContinue
  | "ids" | "idstart" => some idStart
  | "ideo" | "ideographic" => some ideographic
  | "joinc" | "joincontrol" => some joiners
  | "loe" | "logicalorderexception" => some (ofRanges writtenBefore)
  | "lower" | "lowercase" => some lowercase
  | "math" => some ((ofCategories [.mathSymbol]).union (ofRanges otherMath))
  | "mcm" | "modifiercombiningmark" => some (ofRanges combiningModifier)
  | "nchar" | "noncharactercodepoint" => some noncharacter
  | "oalpha" | "otheralphabetic" => some (ofRanges Category.Ranges.otherAlphabetic)
  | "odi" | "otherdefaultignorablecodepoint" => some (ofRanges otherIgnorable)
  | "ogrext" | "othergraphemeextend" => some (ofRanges otherGraphemeExtend)
  | "oidc" | "otheridcontinue" => some (ofRanges otherIdContinue)
  | "oids" | "otheridstart" => some (ofRanges otherIdStart)
  | "olower" | "otherlowercase" => some (ofRanges Category.Ranges.otherLowercase)
  | "omath" | "othermath" => some (ofRanges otherMath)
  | "oupper" | "otheruppercase" => some (ofRanges Category.Ranges.otherUppercase)
  | "patsyn" | "patternsyntax" => some (ofRanges patternSyntax)
  | "patws" | "patternwhitespace" => some (ofRanges patternBlank)
  | "pcm" | "prependedconcatenationmark" => some (ofRanges prependedMark)
  | "qmark" | "quotationmark" => some (ofRanges quotationMark)
  | "radical" => some (ofRanges radical)
  | "ri" | "regionalindicator" => some regionalIndicator
  | "sterm" | "sentenceterminal" => some (ofRanges sentenceTerminal)
  | "sd" | "softdotted" => some (ofRanges softDotted)
  | "term" | "terminalpunctuation" =>
    some ((ofRanges sentenceTerminal).union (ofRanges otherTerminal))
  | "uideo" | "unifiedideograph" => some (ofRanges unifiedIdeograph)
  | "upper" | "uppercase" => some uppercase
  | "vs" | "variationselector" => some (ofRanges variationSelector)
  | "space" | "whitespace" | "wspace" => some blanks
  | "xidc" | "xidcontinue" => some (idContinue.diff (ofRanges unstableIdContinue))
  | "xids" | "xidstart" => some (idStart.diff (ofRanges unstableIdStart))
  | _ => none

/-! ## Properties with a value -/

/-- The characters of a general category of that loose name. -/
def category? (name : String) : Option CharSet :=
  match name with
  | "any" => some all
  | "assigned" => some (ofCategories [.unassigned]).complement
  | "ascii" => some basic
  | _ => (Category.named? name).map ofCategories

/-- The characters of a script. -/
def ofScript (s : Script) : CharSet := ofRanges s.ranges

/-- The characters of a script of that loose name. -/
def script? (name : String) : Option CharSet :=
  (Script.named? name).map ofScript

/-- The characters that are written in a script of that loose name: its own, except those that have
a list of scripts, and those that list it. -/
def extended? (name : String) : Option CharSet :=
  (Script.named? name).map fun s =>
    let listing := Script.shared.filter fun g => g.names.any s.names.contains
    ((ofScript s).diff (unions (Script.shared.map ofScript))).union
      (unions (listing.map ofScript))

/-- The characters that the standard had in a version of that loose name. -/
def age? (name : String) : Option CharSet :=
  (Age.upTo? name).map ofRanges

/-- The syllables of Hangul that end with a vowel. -/
def openSyllables : CharSet :=
  ofCodes ((List.range 399).map fun n => 0xAC00 + 28 * n)

/-- The characters that stand before the base of their grapheme. -/
def prepended : CharSet :=
  ((ofRanges prependedMark).union (between 0x70F 0x70F)).union
    (ofRanges [(0xD4E, 0xD4E), (0x111C2, 0x111C3), (0x113D1, 0x113D1), (0x1193F, 0x1193F),
      (0x11941, 0x11941), (0x11A3A, 0x11A3A), (0x11A84, 0x11A89), (0x11D46, 0x11D46),
      (0x11F02, 0x11F02)])

/-- The characters of a value, in loose form, of what breaks graphemes. -/
def graphemeBreak? : String → Option CharSet
  | "cr" => some (single '\r')
  | "lf" => some (single '\n')
  | "control" | "cn" => some
    ((unions [ofCategories [.lineSeparator, .paragraphSeparator, .control, .format],
      (ofCategories [.unassigned]).inter ignorable]).diff
        (unions [single '\r', single '\n', joiners, prepended, between 0xE0020 0xE007F]))
  | "extend" | "ex" => some (graphemeExtend.union emojiModifier)
  | "l" => some ((between 0x1100 0x115F).union (between 0xA960 0xA97C))
  | "v" => some (ofRanges [(0x1160, 0x11A7), (0xD7B0, 0xD7C6), (0x16D63, 0x16D63),
      (0x16D67, 0x16D6A)])
  | "t" => some ((between 0x11A8 0x11FF).union (between 0xD7CB 0xD7FB))
  | "lv" => some openSyllables
  | "lvt" => some ((between 0xAC00 0xD7A3).diff openSyllables)
  | "prepend" | "pp" => some prepended
  | "regionalindicator" | "ri" => some regionalIndicator
  | "spacingmark" | "sm" => some
    ((((ofCategories [.spacingMark]).union (ofCodes [0xE33, 0xEB3])).diff graphemeExtend).diff
      (ofRanges [(0x102B, 0x102C), (0x1038, 0x1038), (0x1062, 0x1064), (0x1067, 0x106D),
        (0x1083, 0x1083), (0x1087, 0x108C), (0x108F, 0x108F), (0x109A, 0x109C), (0x1A61, 0x1A61),
        (0x1A63, 0x1A64), (0xAA7B, 0xAA7B), (0xAA7D, 0xAA7D), (0x11720, 0x11721)]))
  | "zwj" => some (between 0x200D 0x200D)
  | _ => none

/-- The format characters of words: no part of a number, no joiner and no tag. -/
def wordFormat : CharSet :=
  (ofCategories [.format]).diff
    (unions [ofRanges prependedMark, joiners, between 0x200B 0x200B, between 0xE0020 0xE007F])

/-- The characters of numbers in words. -/
def wordNumeric : CharSet :=
  unions [decimal, (ofRanges prependedMark).diff (between 0x70F 0x70F), ofCodes [0x66B, 0x19DA]]

/-- The marks that go with the character before them in words. -/
def wordExtend : CharSet :=
  unions [graphemeExtend, ofCategories [.spacingMark], emojiModifier]

/-- The characters of Katakana in words. -/
def wordKatakana : CharSet :=
  ((script? "katakana").getD empty).union
    (ofRanges [(0x3031, 0x3035), (0x309B, 0x309C), (0x30A0, 0x30A0), (0x30FC, 0x30FC),
      (0xFF70, 0xFF70)])

/-- The letters of Hebrew in words. -/
def wordHebrew : CharSet :=
  ((script? "hebrew").getD empty).inter (ofCategories [.otherLetter])

/-- The letters of words that are written with blanks between them. -/
def wordLetter : CharSet :=
  let unspaced := ["hiragana", "thai", "lao", "myanmar", "khmer", "taile", "newtailue", "taitham",
    "taiviet", "ahom"]
  (alphabetic.diff (unions [ideographic, wordKatakana, wordExtend, wordHebrew,
    unions (unspaced.filterMap script?)])).union
      (ofRanges [(0x2C2, 0x2C5), (0x2D2, 0x2D7), (0x2DE, 0x2DF), (0x2E5, 0x2EB), (0x2ED, 0x2ED),
        (0x2EF, 0x2FF), (0x55A, 0x55C), (0x55E, 0x55E), (0x58A, 0x58A), (0x5F3, 0x5F3),
        (0x70F, 0x70F), (0xA708, 0xA716), (0xA720, 0xA721), (0xA789, 0xA78A), (0xAB5B, 0xAB5B)])

/-- The characters of a value, in loose form, of what breaks words. -/
def wordBreak? : String → Option CharSet
  | "aletter" | "le" => some wordLetter
  | "cr" => some (single '\r')
  | "doublequote" | "dq" => some (single '"')
  | "extend" => some wordExtend
  | "extendnumlet" | "ex" => some
    ((ofCategories [.connectorPunctuation]).union (between 0x202F 0x202F))
  | "format" | "fo" => some wordFormat
  | "hebrewletter" | "hl" => some wordHebrew
  | "katakana" | "ka" => some wordKatakana
  | "lf" => some (single '\n')
  | "midletter" | "ml" => some midLetter
  | "midnum" | "mn" => some (ofCodes [0x2C, 0x3B, 0x37E, 0x589, 0x60C, 0x60D, 0x66C, 0x7F8, 0x2044,
      0xFE50, 0xFE54, 0xFF0C, 0xFF1B])
  | "midnumlet" | "mb" => some midNumLet
  | "newline" | "nl" => some (ofCodes [0x0B, 0x0C, 0x85, 0x2028, 0x2029])
  | "numeric" | "nu" => some wordNumeric
  | "regionalindicator" | "ri" => some regionalIndicator
  | "singlequote" | "sq" => some (single '\'')
  | "wsegspace" => some ((ofCategories [.spaceSeparator]).diff (ofCodes [0xA0, 0x2007, 0x202F]))
  | "zwj" => some (between 0x200D 0x200D)
  | _ => none

/-- The small letters of sentences: Georgian ones only where they have a large form. -/
def sentenceLower : CharSet :=
  (lowercase.diff graphemeExtend).diff ((between 0x10D0 0x10FA).union (between 0x10FD 0x10FF))

/-- The large letters of sentences. -/
def sentenceUpper : CharSet :=
  (uppercase.union (ofCategories [.titlecaseLetter])).diff
    ((between 0x1C90 0x1CBA).union (between 0x1CBD 0x1CBF))

/-- The marks that go with the character before them in sentences. -/
def sentenceExtend : CharSet :=
  unions [graphemeExtend, ofCategories [.spacingMark], between 0x200D 0x200D]

/-- The points that can end a sentence or an abbreviation. -/
def sentencePoint : CharSet := ofCodes [0x2E, 0x2024, 0xFE52, 0xFF0E]

/-- The characters of a value, in loose form, of what breaks sentences. -/
def sentenceBreak? : String → Option CharSet
  | "aterm" | "at" => some sentencePoint
  | "close" | "cl" => some
    ((ofCategories [.openPunctuation, .closePunctuation, .initialPunctuation,
      .finalPunctuation]).union (ofRanges [(0x22, 0x22), (0x27, 0x27), (0x275B, 0x2760),
        (0x2E00, 0x2E01), (0x2E06, 0x2E08), (0x2E0B, 0x2E0B), (0x1F676, 0x1F678)]))
  | "cr" => some (single '\r')
  | "extend" | "ex" => some sentenceExtend
  | "format" | "fo" => some (wordFormat.union (ofCodes [0x70F, 0x200B]))
  | "lf" => some (single '\n')
  | "lower" | "lo" => some sentenceLower
  | "numeric" | "nu" => some (wordNumeric.union (between 0x66C 0x66C))
  | "oletter" | "le" => some
    ((alphabetic.union (between 0x5F3 0x5F3)).diff
      (unions [sentenceLower, sentenceUpper, sentenceExtend]))
  | "scontinue" | "sc" => some (ofCodes [0x2C, 0x2D, 0x3A, 0x3B, 0x37E, 0x55D, 0x60C, 0x60D, 0x7F8,
      0x1802, 0x1808, 0x2013, 0x2014, 0x3001, 0xFE10, 0xFE11, 0xFE13, 0xFE14, 0xFE31, 0xFE32, 0xFE50,
      0xFE51, 0xFE54, 0xFE55, 0xFE58, 0xFE63, 0xFF0C, 0xFF0D, 0xFF1A, 0xFF1B, 0xFF64])
  | "sep" | "se" => some (ofCodes [0x85, 0x2028, 0x2029])
  | "sp" => some (blanks.diff (ofCodes [0x0A, 0x0D, 0x85, 0x2028, 0x2029]))
  | "sterm" | "st" => some ((ofRanges sentenceTerminal).diff sentencePoint)
  | "upper" | "up" => some sentenceUpper
  | _ => none

/-! ## Names -/

/-- The loose form of a name: small letters and digits alone, and without a leading `is`. -/
def looseName (name : List Char) : String :=
  let plain := (name.filter fun c => c.toNat < 0x80 && c ≠ ' ' && c ≠ '_' && c ≠ '-').map Char.toLower
  let startsWithIs := match name with
    | i :: s :: _ => (i = 'i' || i = 'I') && (s = 's' || s = 'S')
    | _ => false
  if startsWithIs && plain ≠ ['i', 's', 'c'] then String.ofList (plain.drop 2)
  else String.ofList plain

/-- The characters that a name alone stands for: those of a property, a category or a script. -/
def named? (name : List Char) : Option CharSet :=
  let loose := looseName name
  (property? loose).or ((category? loose).or (script? loose))

/-- The characters with a value of a property. -/
def valued? (name value : List Char) : Option CharSet :=
  match looseName name with
  | "generalcategory" | "gc" => category? (looseName value)
  | "script" | "sc" => script? (looseName value)
  | "scriptextensions" | "scx" => extended? (looseName value)
  | "age" => age? (looseName value)
  | "graphemeclusterbreak" | "gcb" => graphemeBreak? (looseName value)
  | "wordbreak" | "wb" => wordBreak? (looseName value)
  | "sentencebreak" | "sb" => sentenceBreak? (looseName value)
  | _ => none

end GuidedXml.Pattern.CharSet
