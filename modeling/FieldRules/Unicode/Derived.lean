import FieldRules.Unicode.Category
import FieldRules.Unicode.Folding

/-!
# `FieldRules.Unicode.Derived` — sets that rules derive

Where the standard derives a property from the general categories and a list of further members, so
does this module.

## Contents
- **Letters and case**: `lowercaseChars`, `uppercaseChars`, `casedChars`, `alphabeticChars`, and the
  characters that a change of case changes.
- **Words and graphemes**: `wordChars`, `graphemeExtendChars`, `graphemeBaseChars`.
- **Identifiers**: `idStartChars`, `idContinueChars` and their closed forms.
- **`isWord`**.
-/

namespace FieldRules.Unicode

/-! ## Letters and case -/

/-- Lowercase characters that are not lowercase letters. -/
def otherLowercase : Spans :=
  .decode
    "AA BA 2B0-2B8 2C0-2C1 2E0-2E4 345 37A 10FC 1D2C-1D6A 1D78 1D9B-1DBF 2071 207F 2090-209C
    2170-217F 24D0-24E9 2C7C-2C7D A69C-A69D A770 A7F2-A7F4 A7F8-A7F9 AB5C-AB5F AB69 10780
    10783-10785 10787-107B0 107B2-107BA 1E030-1E06D"

/-- Uppercase characters that are not uppercase letters. -/
def otherUppercase : Spans :=
  .decode
    "2160-216F 24B6-24CF 1F130-1F149 1F150-1F169 1F170-1F189"

/-- Alphabetic characters that are neither letters nor letter numbers nor cased. -/
def otherAlphabetic : Spans :=
  .decode
    "345 363-36F 5B0-5BD 5BF 5C1-5C2 5C4-5C5 5C7 610-61A 64B-657 659-65F 670 6D6-6DC 6E1-6E4
    6E7-6E8 6ED 711 730-73F 7A6-7B0 816-817 81B-823 825-827 829-82C 897 8D4-8DF 8E3-8E9 8F0-903
    93A-93B 93E-94C 94E-94F 955-957 962-963 981-983 9BE-9C4 9C7-9C8 9CB-9CC 9D7 9E2-9E3 A01-A03
    A3E-A42 A47-A48 A4B-A4C A51 A70-A71 A75 A81-A83 ABE-AC5 AC7-AC9 ACB-ACC AE2-AE3 AFA-AFC
    B01-B03 B3E-B44 B47-B48 B4B-B4C B56-B57 B62-B63 B82 BBE-BC2 BC6-BC8 BCA-BCC BD7 C00-C04
    C3E-C44 C46-C48 C4A-C4C C55-C56 C62-C63 C81-C83 CBE-CC4 CC6-CC8 CCA-CCC CD5-CD6 CE2-CE3 CF3
    D00-D03 D3E-D44 D46-D48 D4A-D4C D57 D62-D63 D81-D83 DCF-DD4 DD6 DD8-DDF DF2-DF3 E31 E34-E3A
    E4D EB1 EB4-EB9 EBB-EBC ECD F71-F83 F8D-F97 F99-FBC 102B-1036 1038 103B-103E 1056-1059
    105E-1060 1062-1064 1067-106D 1071-1074 1082-108D 108F 109A-109D 1712-1713 1732-1733 1752-1753
    1772-1773 17B6-17C8 1885-1886 18A9 1920-192B 1930-1938 1A17-1A1B 1A55-1A5E 1A61-1A74 1ABF-1AC0
    1ACC-1ACE 1B00-1B04 1B35-1B43 1B80-1B82 1BA1-1BA9 1BAC-1BAD 1BE7-1BF1 1C24-1C36 1DD3-1DF4
    24B6-24E9 2DE0-2DFF A674-A67B A69E-A69F A802 A80B A823-A827 A880-A881 A8B4-A8C3 A8C5 A8FF
    A926-A92A A947-A952 A980-A983 A9B4-A9BF A9E5 AA29-AA36 AA43 AA4C-AA4D AA7B-AA7D AAB0 AAB2-AAB4
    AAB7-AAB8 AABE AAEB-AAEF AAF5 ABE3-ABEA FB1E 10376-1037A 10A01-10A03 10A05-10A06 10A0C-10A0F
    10D24-10D27 10D69 10EAB-10EAC 10EFC 11000-11002 11038-11045 11073-11074 11080-11082
    110B0-110B8 110C2 11100-11102 11127-11132 11145-11146 11180-11182 111B3-111BF 111CE-111CF
    1122C-11234 11237 1123E 11241 112DF-112E8 11300-11303 1133E-11344 11347-11348 1134B-1134C
    11357 11362-11363 113B8-113C0 113C2 113C5 113C7-113CA 113CC-113CD 11435-11441 11443-11445
    114B0-114C1 115AF-115B5 115B8-115BE 115DC-115DD 11630-1163E 11640 116AB-116B5 1171D-1172A
    1182C-11838 11930-11935 11937-11938 1193B-1193C 11940 11942 119D1-119D7 119DA-119DF 119E4
    11A01-11A0A 11A35-11A39 11A3B-11A3E 11A51-11A5B 11A8A-11A97 11C2F-11C36 11C38-11C3E
    11C92-11CA7 11CA9-11CB6 11D31-11D36 11D3A 11D3C-11D3D 11D3F-11D41 11D43 11D47 11D8A-11D8E
    11D90-11D91 11D93-11D96 11EF3-11EF6 11F00-11F01 11F03 11F34-11F3A 11F3E-11F40 1611E-1612E
    16F4F 16F51-16F87 16F8F-16F92 16FF0-16FF1 1BC9E 1E000-1E006 1E008-1E018 1E01B-1E021
    1E023-1E024 1E026-1E02A 1E08F 1E947 1F130-1F149 1F150-1F169 1F170-1F189"

/-- Lowercase characters. -/
def lowercaseChars : Spans :=
  (Category.chars [.lowercaseLetter]).union otherLowercase

/-- Uppercase characters. -/
def uppercaseChars : Spans :=
  (Category.chars [.uppercaseLetter]).union otherUppercase

/-- Characters with a case. -/
def casedChars : Spans :=
  .unions [lowercaseChars, uppercaseChars, Category.chars [.titlecaseLetter]]

/-- Alphabetic characters. -/
def alphabeticChars : Spans :=
  .unions [Category.chars (.letterNumber :: Category.letters), otherLowercase, otherUppercase,
    otherAlphabetic]

/-- Capitals without a small form. -/
def unpairedCapitals : Spans :=
  .decode
    "3D2-3D4 2102 2107 210B-210D 2110-2112 2115 2119-211D 2124 2128 212C-212D 2130-2131 2133
    213E-213F 2145 1D400-1D419 1D434-1D44D 1D468-1D481 1D49C 1D49E-1D49F 1D4A2 1D4A5-1D4A6
    1D4A9-1D4AC 1D4AE-1D4B5 1D4D0-1D4E9 1D504-1D505 1D507-1D50A 1D50D-1D514 1D516-1D51C
    1D538-1D539 1D53B-1D53E 1D540-1D544 1D546 1D54A-1D550 1D56C-1D585 1D5A0-1D5B9 1D5D4-1D5ED
    1D608-1D621 1D63C-1D655 1D670-1D689 1D6A8-1D6C0 1D6E2-1D6FA 1D71C-1D734 1D756-1D76E
    1D790-1D7A8 1D7CA 1F130-1F149 1F150-1F169 1F170-1F189"

/-- Characters that turning to lower case changes. -/
def lowercasableChars : Spans :=
  (uppercaseChars.union (Category.chars [.titlecaseLetter])).diff unpairedCapitals

/-- Small letters whose decomposition case folding changes. -/
def foldedSmallLetters : Spans :=
  .decode
    "B5 DF 149 17F 345 3C2 3D0-3D1 3D5-3D6 3F0-3F1 3F5 587 13F8-13FD 1C80-1C88 1E9A-1E9B 1F80-1F87
    1F90-1F97 1FA0-1FA7 1FB2-1FB4 1FB7 1FC2-1FC4 1FC7 1FF2-1FF4 1FF7 AB70-ABBF FB00-FB06 FB13-FB17"

/-- Characters that case folding changes. The capitals of Cherokee are what their small letters fold
to. -/
def casefoldableChars : Spans :=
  (lowercasableChars.diff (.range 0x13A0 0x13F5)).union foldedSmallLetters

/-- Characters without a variant of one character that turning to upper case changes. -/
def expandingSmallLetters : Spans :=
  .decode
    "131 149 1C5 1C8 1CB 1F0 1F2 587 1E96-1E9A 1F50 1F52 1F54 1F56 1F88-1F8F 1F98-1F9F 1FA8-1FAF
    1FB2 1FB4 1FB6-1FB7 1FBC 1FC2 1FC4 1FC6-1FC7 1FCC 1FD2 1FD6-1FD7 1FE2 1FE4 1FE6-1FE7 1FF2 1FF4
    1FF6-1FF7 1FFC FB00-FB04 FB13-FB17"

/-- Characters that turning to upper case changes. -/
def uppercasableChars : Spans :=
  ((Spans.ofList (variantPairs.map fun (n, _) => (n, n))).diff lowercasableChars).union
    expandingSmallLetters

/-- Characters in upper case or in no case that title case changes. -/
def onlyTitlecasable : Spans :=
  .decode
    "1C4 1C7 1CA 1F1"

/-- Characters that upper case changes and title case leaves alone. -/
def notTitlecasable : Spans :=
  .decode
    "1C5 1C8 1CB 1F2 10D0-10FA 10FD-10FF 1F88-1F8F 1F98-1F9F 1FA8-1FAF 1FBC 1FCC 1FFC"

/-- Characters that turning to title case changes. -/
def titlecasableChars : Spans :=
  (uppercasableChars.diff notTitlecasable).union onlyTitlecasable

/-- Characters that some change of case changes. -/
def casemappableChars : Spans :=
  .unions [lowercasableChars, uppercasableChars, titlecasableChars]

/-- Punctuation that case rules pass over. -/
def otherCaseIgnorable : Spans :=
  .decode
    "27 2E 3A B7 387 55F 5F4 2018-2019 2024 2027 FE13 FE52 FE55 FF07 FF0E FF1A"

/-- Characters that case rules pass over. -/
def caseIgnorableChars : Spans :=
  (Category.chars [.nonspacingMark, .enclosingMark, .format, .modifierLetter,
    .modifierSymbol]).union otherCaseIgnorable

/-! ## Words and graphemes -/

/-- The joiners. -/
def joinControlChars : Spans := .range 0x200C 0x200D

/-- The characters of a word: alphabetic characters, marks, decimal digits, connectors such as the
underscore, and joiners. -/
def wordChars : Spans :=
  .unions [alphabeticChars, joinControlChars,
    Category.chars (.decimalNumber :: .connectorPunctuation :: Category.marks)]

/-- Whether a character belongs to a word. -/
def isWord (c : Char) : Bool :=
  wordChars.contains c.toNat

/-- Characters that extend a grapheme and are not marks of the kinds that always do. -/
def otherGraphemeExtend : Spans :=
  .decode
    "9BE 9D7 B3E B57 BBE BD7 CC0 CC2 CC7-CC8 CCA-CCB CD5-CD6 D3E D57 DCF DDF 1715 1734 1B35 1B3B
    1B3D 1B43-1B44 1BAA 1BF2-1BF3 200C 302E-302F A953 A9C0 FF9E-FF9F 111C0 11235 1133E 1134D 11357
    113B8 113C2 113C5 113C7-113C9 113CF 114B0 114BD 115AF 116B6 11930 1193D 11F41 16FF0-16FF1
    1D165-1D166 1D16D-1D172 E0020-E007F"

/-- Characters that extend a grapheme. -/
def graphemeExtendChars : Spans :=
  (Category.chars [.nonspacingMark, .enclosingMark]).union otherGraphemeExtend

/-- Characters that can stand at the base of a grapheme. -/
def graphemeBaseChars : Spans :=
  (Spans.range 0 lastCode).diff
    (.union graphemeExtendChars (Category.chars (.lineSeparator :: .paragraphSeparator ::
      Category.others)))

/-! ## Mathematics -/

/-- Mathematical characters that are not mathematical symbols. -/
def otherMath : Spans :=
  .decode
    "5E 3D0-3D2 3D5 3F0-3F1 3F4-3F5 2016 2032-2034 2040 2061-2064 207D-207E 208D-208E 20D0-20DC
    20E1 20E5-20E6 20EB-20EF 2102 2107 210A-2113 2115 2119-211D 2124 2128-2129 212C-212D 212F-2131
    2133-2138 213C-213F 2145-2149 2195-2199 219C-219F 21A1-21A2 21A4-21A5 21A7 21A9-21AD 21B0-21B1
    21B6-21B7 21BC-21CD 21D0-21D1 21D3 21D5-21DB 21DD 21E4-21E5 2308-230B 23B4-23B5 23B7 23D0 23E2
    25A0-25A1 25AE-25B6 25BC-25C0 25C6-25C7 25CA-25CB 25CF-25D3 25E2 25E4 25E7-25EC 2605-2606 2640
    2642 2660-2663 266D-266E 27C5-27C6 27E6-27EF 2983-2998 29D8-29DB 29FC-29FD FE61 FE63 FE68 FF3C
    FF3E 1D400-1D454 1D456-1D49C 1D49E-1D49F 1D4A2 1D4A5-1D4A6 1D4A9-1D4AC 1D4AE-1D4B9 1D4BB
    1D4BD-1D4C3 1D4C5-1D505 1D507-1D50A 1D50D-1D514 1D516-1D51C 1D51E-1D539 1D53B-1D53E
    1D540-1D544 1D546 1D54A-1D550 1D552-1D6A5 1D6A8-1D6C0 1D6C2-1D6DA 1D6DC-1D6FA 1D6FC-1D714
    1D716-1D734 1D736-1D74E 1D750-1D76E 1D770-1D788 1D78A-1D7A8 1D7AA-1D7C2 1D7C4-1D7CB
    1D7CE-1D7FF 1EE00-1EE03 1EE05-1EE1F 1EE21-1EE22 1EE24 1EE27 1EE29-1EE32 1EE34-1EE37 1EE39
    1EE3B 1EE42 1EE47 1EE49 1EE4B 1EE4D-1EE4F 1EE51-1EE52 1EE54 1EE57 1EE59 1EE5B 1EE5D 1EE5F
    1EE61-1EE62 1EE64 1EE67-1EE6A 1EE6C-1EE72 1EE74-1EE77 1EE79-1EE7C 1EE7E 1EE80-1EE89
    1EE8B-1EE9B 1EEA1-1EEA3 1EEA5-1EEA9 1EEAB-1EEBB"

/-- Mathematical characters. -/
def mathChars : Spans :=
  (Category.chars [.mathSymbol]).union otherMath

/-! ## Identifiers -/

/-- Characters that start an identifier and are neither letters nor letter numbers. -/
def otherIdStart : Spans :=
  .decode
    "1885-1886 2118 212E 309B-309C"

/-- Characters that continue an identifier beyond the general rule. -/
def otherIdContinue : Spans :=
  .decode
    "B7 387 1369-1371 19DA 200C-200D 30FB FF65"

/-- Characters with a meaning in the grammars of patterns. -/
def patternSyntaxChars : Spans :=
  .decode
    "21-2F 3A-40 5B-5E 60 7B-7E A1-A7 A9 AB-AC AE B0-B1 B6 BB BF D7 F7 2010-2027 2030-203E
    2041-2053 2055-205E 2190-245F 2500-2775 2794-2BFF 2E00-2E7F 3001-3003 3008-3020 3030 FD3E-FD3F
    FE45-FE46"

/-- Characters that may start an identifier. -/
def idStartChars : Spans :=
  ((Category.chars (.letterNumber :: Category.letters)).union otherIdStart).diff
    patternSyntaxChars

/-- Characters that may continue an identifier. -/
def idContinueChars : Spans :=
  (Spans.unions [idStartChars, otherIdContinue, Category.chars [.nonspacingMark, .spacingMark,
    .decimalNumber, .connectorPunctuation]]).diff patternSyntaxChars

/-- Characters whose compatibility forms keep them from starting an identifier. -/
def noXidStart : Spans :=
  .decode
    "37A E33 EB3 309B-309C FC5E-FC63 FDFA-FDFB FE70 FE72 FE74 FE76 FE78 FE7A FE7C FE7E FF9E-FF9F"

/-- Characters whose compatibility forms keep them out of identifiers. -/
def noXidContinue : Spans :=
  .decode
    "37A 309B-309C FC5E-FC63 FDFA-FDFB FE70 FE72 FE74 FE76 FE78 FE7A FE7C FE7E"

/-- Characters that may start an identifier in compatibility form. -/
def xidStartChars : Spans := idStartChars.diff noXidStart

/-- Characters that may continue an identifier in compatibility form. -/
def xidContinueChars : Spans := idContinueChars.diff noXidContinue

end FieldRules.Unicode
