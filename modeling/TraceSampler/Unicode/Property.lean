import TraceSampler.Unicode.Age
import TraceSampler.Unicode.LetterCase
import TraceSampler.Unicode.PropertyTable

/-!
# Properties of characters

The properties that a character has or lacks, under their names, and the sets of characters that
have them in edition 16.0. Most sets are read off a table; the others are put together from general
categories, letter case and short lists as the standard derives them.
-/

namespace TraceSampler.Unicode

inductive Property
  | asciiHexDigit
  | alphabetic
  | bidiControl
  | caseIgnorable
  | cased
  | changesWhenCasefolded
  | changesWhenCasemapped
  | changesWhenLowercased
  | changesWhenTitlecased
  | changesWhenUppercased
  | dash
  | deprecated
  | defaultIgnorable
  | diacritic
  | emoji
  | emojiComponent
  | emojiModifier
  | emojiModifierBase
  | emojiPresentation
  | extendedPictographic
  | extender
  | graphemeBase
  | graphemeExtend
  | graphemeLink
  | hexDigit
  | hyphen
  | binaryDescription
  | trinaryDescription
  | unaryDescription
  | mathStart
  | mathContinue
  | idContinue
  | idStart
  | ideographic
  | joinControl
  | logicalOrderException
  | lowercase
  | math
  | modifierCombiningMark
  | noncharacter
  | otherAlphabetic
  | otherDefaultIgnorable
  | otherGraphemeExtend
  | otherIdContinue
  | otherIdStart
  | otherLowercase
  | otherMath
  | otherUppercase
  | patternSyntax
  | patternWhiteSpace
  | prependedConcatenationMark
  | quotationMark
  | radical
  | regionalIndicator
  | sentenceTerminal
  | softDotted
  | terminalPunctuation
  | unifiedIdeograph
  | uppercase
  | variationSelector
  | whiteSpace
  | xidContinue
  | xidStart
  deriving DecidableEq, Repr

namespace Property

/-- The property with a name in small letters, without spaces, hyphens and underscores. -/
def named? (name : String) : Option Property :=
  match name with
  | "asciihexdigit" | "ahex" => some asciiHexDigit
  | "alphabetic" | "alpha" => some alphabetic
  | "bidicontrol" | "bidic" => some bidiControl
  | "caseignorable" | "ci" => some caseIgnorable
  | "cased" => some cased
  | "changeswhencasefolded" | "cwcf" => some changesWhenCasefolded
  | "changeswhencasemapped" | "cwcm" => some changesWhenCasemapped
  | "changeswhenlowercased" | "cwl" => some changesWhenLowercased
  | "changeswhentitlecased" | "cwt" => some changesWhenTitlecased
  | "changeswhenuppercased" | "cwu" => some changesWhenUppercased
  | "dash" => some dash
  | "deprecated" | "dep" => some deprecated
  | "defaultignorablecodepoint" | "di" => some defaultIgnorable
  | "diacritic" | "dia" => some diacritic
  | "emoji" => some emoji
  | "emojicomponent" | "ecomp" => some emojiComponent
  | "emojimodifier" | "emod" => some emojiModifier
  | "emojimodifierbase" | "ebase" => some emojiModifierBase
  | "emojipresentation" | "epres" => some emojiPresentation
  | "extendedpictographic" | "extpict" => some extendedPictographic
  | "extender" | "ext" => some extender
  | "graphemebase" | "grbase" => some graphemeBase
  | "graphemeextend" | "grext" => some graphemeExtend
  | "graphemelink" | "grlink" => some graphemeLink
  | "hexdigit" | "hex" => some hexDigit
  | "hyphen" => some hyphen
  | "idsbinaryoperator" | "idsb" => some binaryDescription
  | "idstrinaryoperator" | "idst" => some trinaryDescription
  | "idsunaryoperator" | "idsu" => some unaryDescription
  | "idcompatmathstart" => some mathStart
  | "idcompatmathcontinue" => some mathContinue
  | "idcontinue" | "idc" => some idContinue
  | "idstart" | "ids" => some idStart
  | "ideographic" | "ideo" => some ideographic
  | "joincontrol" | "joinc" => some joinControl
  | "logicalorderexception" | "loe" => some logicalOrderException
  | "lowercase" | "lower" => some lowercase
  | "math" => some math
  | "modifiercombiningmark" | "mcm" => some modifierCombiningMark
  | "noncharactercodepoint" | "nchar" => some noncharacter
  | "otheralphabetic" | "oalpha" => some otherAlphabetic
  | "otherdefaultignorablecodepoint" | "odi" => some otherDefaultIgnorable
  | "othergraphemeextend" | "ogrext" => some otherGraphemeExtend
  | "otheridcontinue" | "oidc" => some otherIdContinue
  | "otheridstart" | "oids" => some otherIdStart
  | "otherlowercase" | "olower" => some otherLowercase
  | "othermath" | "omath" => some otherMath
  | "otheruppercase" | "oupper" => some otherUppercase
  | "patternsyntax" | "patsyn" => some patternSyntax
  | "patternwhitespace" | "patws" => some patternWhiteSpace
  | "prependedconcatenationmark" | "pcm" => some prependedConcatenationMark
  | "quotationmark" | "qmark" => some quotationMark
  | "radical" => some radical
  | "regionalindicator" | "ri" => some regionalIndicator
  | "sentenceterminal" | "sterm" => some sentenceTerminal
  | "softdotted" | "sd" => some softDotted
  | "terminalpunctuation" | "term" => some terminalPunctuation
  | "unifiedideograph" | "uideo" => some unifiedIdeograph
  | "uppercase" | "upper" => some uppercase
  | "variationselector" | "vs" => some variationSelector
  | "whitespace" | "wspace" | "space" => some whiteSpace
  | "xidcontinue" | "xidc" => some xidContinue
  | "xidstart" | "xids" => some xidStart
  | _ => none

/-! ## Sets that others are derived from -/

/-- Blank characters. -/
def blanks : RangeSet := .ofRows ["9-d 20 85 a0 1680 2000-200a 2028-2029 202f 205f 3000"]

def asciiDigitsHex : RangeSet := .ofRows ["30-39 41-46 61-66"]

def patternBlanks : RangeSet := .ofRows ["9-d 20 85 200e-200f 2028-2029"]

/-- Characters that start a name although they are no letters. -/
def otherNameStarts : RangeSet := .ofRows ["1885-1886 2118 212e 309b-309c"]

/-- Characters that continue a name although they are no letters, marks or digits. -/
def otherNameParts : RangeSet := .ofRows ["b7 387 1369-1371 19da 200c-200d 30fb ff65"]

/-- The characters that a name may start with. -/
def nameStarts : RangeSet :=
  (((Category.set (.nl :: Category.letters)).diff (.ofRows PropertyTable.patternSyntaxRows)).diff
    patternBlanks).union otherNameStarts

/-- The characters that may stand in a name. -/
def nameParts : RangeSet :=
  .unions [nameStarts, Category.set [.mn, .mc, .nd, .pc], otherNameParts]

/-- Characters of names that become something else when a text is normalised. -/
def unstableNameParts : RangeSet :=
  .ofRows ["37a 309b-309c fc5e-fc63 fdfa-fdfb fe70 fe72 fe74 fe76 fe78 fe7a fe7c fe7e"]

/-- Characters that start a name but no longer do so when a text is normalised. -/
def unstableNameStarts : RangeSet := .ofRows ["e33 eb3 ff9e-ff9f"]

/-- Symbols that may start a mathematical name. -/
def mathStarts : RangeSet := .ofRows
  ["2202 2207 221e 1d6c1 1d6db 1d6fb 1d715 1d735 1d74f 1d76f 1d789 1d7a9 1d7c3"]

/-- The code points of pairs that lie on one side, by edition 16.0. -/
def sideOf (side : Nat × Nat → Nat) : RangeSet := .ofPoints ((knownPairs casePairs).map side)

/-- Characters that change in lower case. -/
def capitals : RangeSet := (sideOf (·.1)).union (.singleton (Char.ofNat 0x130))

/-- Characters that change in upper case. -/
def capitalizable : RangeSet := (sideOf (·.2)).union (.ofRows PropertyTable.capitalizableRows)

/-- Characters that change at the start of a title. -/
def titleable : RangeSet :=
  (capitalizable.diff (.ofRows PropertyTable.titleFormRows)).union (.ofRows ["1c4 1c7 1ca 1f1"])

/-! ## The sets -/

/-- The characters with a property. -/
def set : Property → RangeSet
  | asciiHexDigit => asciiDigitsHex
  | alphabetic => CharacterClass.alphabetic.set
  | bidiControl => .ofRows ["61c 200e-200f 202a-202e 2066-2069"]
  | caseIgnorable => CharacterClass.caseIgnorable.set
  | cased => CharacterClass.cased.set
  | changesWhenCasefolded =>
    (capitals.diff (.range 0x13A0 0x13F5)).union (.ofRows PropertyTable.foldableRows)
  | changesWhenCasemapped => .unions [capitals, capitalizable, titleable]
  | changesWhenLowercased => capitals
  | changesWhenTitlecased => titleable
  | changesWhenUppercased => capitalizable
  | dash => .ofRows PropertyTable.dashRows
  | deprecated => .ofRows PropertyTable.deprecatedRows
  | defaultIgnorable => .ofRows
    ["ad 34f 61c 115f-1160 17b4-17b5 180b-180f 200b-200f 202a-202e 2060-206f 3164 fe00-fe0f feff",
     "ffa0 fff0-fff8 1bca0-1bca3 1d173-1d17a e0000-e0fff"]
  | diacritic => .ofRows PropertyTable.diacriticRows
  | emoji => .ofRows PropertyTable.emojiRows
  | emojiComponent => .ofRows
    ["23 2a 30-39 200d 20e3 fe0f 1f1e6-1f1ff 1f3fb-1f3ff 1f9b0-1f9b3 e0020-e007f"]
  | emojiModifier => .range 0x1F3FB 0x1F3FF
  | emojiModifierBase => .ofRows PropertyTable.emojiModifierBaseRows
  | emojiPresentation => .ofRows PropertyTable.emojiPresentationRows
  | extendedPictographic => .ofRows PropertyTable.pictographicRows
  | extender => .ofRows PropertyTable.extenderRows
  | graphemeBase =>
    ((Category.set [.cc, .cf, .cs, .co, .cn, .zl, .zp]).union
      CharacterClass.graphemeExtend.set).complement
  | graphemeExtend => CharacterClass.graphemeExtend.set
  | graphemeLink => .ofRows PropertyTable.graphemeLinkRows
  | hexDigit => asciiDigitsHex.union (.ofRows ["ff10-ff19 ff21-ff26 ff41-ff46"])
  | hyphen => .ofRows PropertyTable.hyphenRows
  | binaryDescription => .ofRows ["2ff0-2ff1 2ff4-2ffd 31ef"]
  | trinaryDescription => .range 0x2FF2 0x2FF3
  | unaryDescription => .range 0x2FFE 0x2FFF
  | mathStart => mathStarts
  | mathContinue => mathStarts.union (.ofRows ["b2-b3 b9 2070 2074-207e 2080-208e"])
  | idContinue => nameParts
  | idStart => nameStarts
  | ideographic => .ofRows PropertyTable.ideographicRows
  | joinControl => .range 0x200C 0x200D
  | logicalOrderException => .ofRows PropertyTable.logicalOrderExceptionRows
  | lowercase => CharacterClass.lowercase.set
  | math => (Category.set [.sm]).union (.ofRows PropertyTable.otherMathRows)
  | modifierCombiningMark => .ofRows
    ["654-655 658 6dc 6e3 6e7-6e8 8ca-8cb 8cd-8cf 8d3 8f3"]
  | noncharacter => Age.noncharacters
  | otherAlphabetic => CharacterClass.alphabetic.others.inter Category.assigned
  | otherDefaultIgnorable => .ofRows
    ["34f 115f-1160 17b4-17b5 2065 3164 ffa0 fff0-fff8 e0000 e0002-e001f e0080-e00ff e01f0-e0fff"]
  | otherGraphemeExtend => CharacterClass.graphemeExtend.others.inter Category.assigned
  | otherIdContinue => otherNameParts
  | otherIdStart => otherNameStarts
  | otherLowercase => CharacterClass.smallSigns.inter Category.assigned
  | otherMath => .ofRows PropertyTable.otherMathRows
  | otherUppercase => CharacterClass.capitalSigns
  | patternSyntax => .ofRows PropertyTable.patternSyntaxRows
  | patternWhiteSpace => patternBlanks
  | prependedConcatenationMark => .ofRows PropertyTable.prependedMarkRows
  | quotationMark => .ofRows PropertyTable.quotationMarkRows
  | radical => .ofRows ["2e80-2e99 2e9b-2ef3 2f00-2fd5"]
  | regionalIndicator => .range 0x1F1E6 0x1F1FF
  | sentenceTerminal => .ofRows PropertyTable.sentenceTerminalRows
  | softDotted => .ofRows PropertyTable.softDottedRows
  | terminalPunctuation => .ofRows PropertyTable.terminalPunctuationRows
  | unifiedIdeograph => .ofRows PropertyTable.unifiedIdeographRows
  | uppercase => CharacterClass.uppercase.set
  | variationSelector => .ofRows ["180b-180d 180f fe00-fe0f e0100-e01ef"]
  | whiteSpace => blanks
  | xidContinue => nameParts.diff unstableNameParts
  | xidStart => nameStarts.diff (unstableNameParts.union unstableNameStarts)

end Property

end TraceSampler.Unicode
