import FieldRules.Unicode.Binary
import FieldRules.Unicode.Script

/-!
# `FieldRules.Unicode.Segment` — what a character does at a break

A text is cut into graphemes, words and sentences by rules on neighbouring characters. Each set of
rules puts every character into a class of its own, or into none.

## Contents
- **`GraphemeClass`**, **`WordClass`** and **`SentenceClass`**, each with `chars`, the characters of
  a class, and `named?`, the look-up by a loose name.
-/

namespace FieldRules.Unicode

/-! ## Graphemes -/

/-- The classes of characters at the breaks between graphemes. -/
inductive GraphemeClass where
  | cr
  | lf
  | control
  | extend
  | zwj
  | regionalIndicator
  | prepend
  | spacingMark
  | l
  | v
  | t
  | lv
  | lvt
  deriving DecidableEq, Repr

namespace GraphemeClass

/-- Marks that stand for themselves, since they do not combine with what precedes them. -/
def standaloneMarks : Spans :=
  .decode
    "102B-102C 1038 1062-1064 1067-106D 1083 1087-108C 108F 109A-109C 1A61 1A63-1A64 AA7B AA7D
    11720-11721"

/-- Characters that form a unit with what follows them. -/
def prependChars : Spans :=
  .decode
    "600-605 6DD 70F 890-891 8E2 D4E 110BD 110CD 111C2-111C3 113D1 1193F 11941 11A3A 11A84-11A89
    11D46 11F02"

/-- The characters that extend what precedes them. -/
def extendChars : Spans :=
  graphemeExtendChars.union (Binary.chars .emojiModifier)

/-- The Hangul syllables without a final consonant: every twenty-eighth one. -/
def openSyllables : Spans :=
  ((List.range 399).map fun k => (0xAC00 + 28 * k, 0xAC00 + 28 * k)).toArray

/-- The characters of a class. -/
def chars : GraphemeClass → Spans
  | .cr => .single '\r'
  | .lf => .single '\n'
  | .control =>
    (Spans.unions [Category.chars [.control, .format, .lineSeparator, .paragraphSeparator],
      (Category.chars [.unassigned]).inter (Binary.chars .defaultIgnorableCodePoint)]).diff
        (.unions [extendChars, prependChars, .decode "A D 200D"])
  | .extend => extendChars
  | .zwj => .range 0x200D 0x200D
  | .regionalIndicator => Binary.chars .regionalIndicator
  | .prepend => prependChars
  | .spacingMark =>
    ((Category.chars [.spacingMark]).diff (extendChars.union standaloneMarks)).union
      (.decode "E33 EB3")
  | .l => .decode "1100-115F A960-A97C"
  | .v => .decode "1160-11A7 D7B0-D7C6 16D63 16D67-16D6A"
  | .t => .decode "11A8-11FF D7CB-D7FB"
  | .lv => openSyllables
  | .lvt => (Spans.range 0xAC00 0xD7A3).diff openSyllables

/-- The loose names of the classes. -/
def names : List (String × GraphemeClass) :=
  [("cr", .cr), ("lf", .lf), ("cn", .control), ("control", .control), ("ex", .extend),
   ("extend", .extend), ("zwj", .zwj), ("ri", .regionalIndicator),
   ("regionalindicator", .regionalIndicator), ("pp", .prepend), ("prepend", .prepend),
   ("sm", .spacingMark), ("spacingmark", .spacingMark), ("l", .l), ("v", .v), ("t", .t),
   ("lv", .lv), ("lvt", .lvt)]

/-- The class with a loose name. -/
def named? (name : List Char) : Option GraphemeClass :=
  names.lookup (String.ofList name)

end GraphemeClass

/-! ## Words -/

/-- The classes of characters at the breaks between words. -/
inductive WordClass where
  | cr
  | lf
  | newline
  | extend
  | zwj
  | format
  | regionalIndicator
  | katakana
  | hebrewLetter
  | letter
  | singleQuote
  | doubleQuote
  | midNumberLetter
  | midLetter
  | midNumber
  | numeric
  | extendNumberLetter
  | blank
  deriving DecidableEq, Repr

namespace WordClass

/-- The characters that extend what precedes them. -/
def extendChars : Spans :=
  .unions [graphemeExtendChars, Category.chars [.spacingMark], Binary.chars .emojiModifier]

/-- The letters of Katakana, its length marks included. -/
def katakanaChars : Spans :=
  (scriptChars "Kana").union (.decode "3031-3035 309B-309C 30A0 30FC FF70")

/-- The letters of Hebrew. -/
def hebrewChars : Spans :=
  (scriptChars "Hebr").inter (Category.chars [.otherLetter])

/-- Letters of scripts that write words without spaces. -/
def unspacedLetters : Spans :=
  .decode
    "E01-E30 E32-E33 E40-E46 E81-E82 E84 E86-E8A E8C-EA3 EA5 EA7-EB0 EB2-EB3 EBD EC0-EC4 EC6
    EDC-EDF 1000-102A 103F 1050-1055 105A-105D 1061 1065-1066 106E-1070 1075-1081 108E 1780-17B3
    17D7 17DC 1950-196D 1970-1974 1980-19AB 19B0-19C9 1A20-1A54 1AA7 A9E0-A9E4 A9E6-A9EF A9FA-A9FE
    AA60-AA76 AA7A AA7E-AAAF AAB1 AAB5-AAB6 AAB9-AABD AAC0 AAC2 AADB-AADD 11700-1171A 11740-11746"

/-- Signs that count as letters. -/
def letterLikeSigns : Spans :=
  .decode
    "2C2-2C5 2D2-2D7 2DE-2DF 2E5-2EB 2ED 2EF-2FF 55A-55C 55E 58A 5F3 70F A708-A716 A720-A721
    A789-A78A AB5B"

/-- The characters of numbers. -/
def numericChars : Spans :=
  (Category.chars [.decimalNumber]).union
    (.decode "600-605 66B 6DD 890-891 8E2 19DA 110BD 110CD")

/-- The characters of a class. -/
def chars : WordClass → Spans
  | .cr => .single '\r'
  | .lf => .single '\n'
  | .newline => .decode "B-C 85 2028-2029"
  | .extend => extendChars
  | .zwj => .range 0x200D 0x200D
  | .format =>
    .decode
      "AD 61C 180E 200E-200F 202A-202E 2060-2064 2066-206F FEFF FFF9-FFFB 13430-1343F 1BCA0-1BCA3
      1D173-1D17A E0001"
  | .regionalIndicator => Binary.chars .regionalIndicator
  | .katakana => katakanaChars
  | .hebrewLetter => hebrewChars
  | .letter =>
    (alphabeticChars.diff (.unions [Binary.chars .ideographic, katakanaChars, hebrewChars,
      scriptChars "Hira", extendChars, unspacedLetters])).union letterLikeSigns
  | .singleQuote => .single '\''
  | .doubleQuote => .single '"'
  | .midNumberLetter => .decode "2E 2018-2019 2024 FE52 FF07 FF0E"
  | .midLetter => .decode "3A B7 387 55F 5F4 2027 FE13 FE55 FF1A"
  | .midNumber => .decode "2C 3B 37E 589 60C-60D 66C 7F8 2044 FE50 FE54 FF0C FF1B"
  | .numeric => numericChars
  | .extendNumberLetter => .decode "5F 202F 203F-2040 2054 FE33-FE34 FE4D-FE4F FF3F"
  | .blank => .decode "20 1680 2000-2006 2008-200A 205F 3000"

/-- The loose names of the classes. -/
def names : List (String × WordClass) :=
  [("cr", .cr), ("lf", .lf), ("nl", .newline), ("newline", .newline), ("extend", .extend),
   ("zwj", .zwj), ("fo", .format), ("format", .format), ("ri", .regionalIndicator),
   ("regionalindicator", .regionalIndicator), ("ka", .katakana), ("katakana", .katakana),
   ("hl", .hebrewLetter), ("hebrewletter", .hebrewLetter), ("le", .letter), ("aletter", .letter),
   ("sq", .singleQuote), ("singlequote", .singleQuote), ("dq", .doubleQuote),
   ("doublequote", .doubleQuote), ("mb", .midNumberLetter), ("midnumlet", .midNumberLetter),
   ("ml", .midLetter), ("midletter", .midLetter), ("mn", .midNumber), ("midnum", .midNumber),
   ("nu", .numeric), ("numeric", .numeric), ("ex", .extendNumberLetter),
   ("extendnumlet", .extendNumberLetter), ("wsegspace", .blank)]

/-- The class with a loose name. -/
def named? (name : List Char) : Option WordClass :=
  names.lookup (String.ofList name)

end WordClass

/-! ## Sentences -/

/-- The classes of characters at the breaks between sentences. -/
inductive SentenceClass where
  | cr
  | lf
  | extend
  | separator
  | format
  | blank
  | lower
  | upper
  | otherLetter
  | numeric
  | ambiguousTerminator
  | continuer
  | terminator
  | close
  deriving DecidableEq, Repr

namespace SentenceClass

/-- The characters that extend what precedes them. -/
def extendChars : Spans :=
  .unions [graphemeExtendChars, Category.chars [.spacingMark], .range 0x200D 0x200D]

/-- Georgian letters, whose two cases do not mark the start of a sentence. -/
def uncasedLetters : Spans :=
  .decode "10D0-10FA 10FD-10FF 1C90-1CBA 1CBD-1CBF"

/-- Small letters. -/
def lowerChars : Spans :=
  lowercaseChars.diff (graphemeExtendChars.union uncasedLetters)

/-- Capital letters. -/
def upperChars : Spans :=
  (uppercaseChars.union (Category.chars [.titlecaseLetter])).diff uncasedLetters

/-- Marks that end a sentence or an abbreviation. -/
def fullStops : Spans :=
  .decode "2E 2024 FE52 FF0E"

/-- The characters of a class. -/
def chars : SentenceClass → Spans
  | .cr => .single '\r'
  | .lf => .single '\n'
  | .extend => extendChars
  | .separator => .decode "85 2028-2029"
  | .format =>
    .decode
      "AD 61C 70F 180E 200B 200E-200F 202A-202E 2060-2064 2066-206F FEFF FFF9-FFFB 13430-1343F
      1BCA0-1BCA3 1D173-1D17A E0001"
  | .blank =>
    (Binary.chars .whiteSpace).diff (.decode "A D 85 2028-2029")
  | .lower => lowerChars
  | .upper => upperChars
  | .otherLetter =>
    (alphabeticChars.diff (.unions [lowerChars, upperChars, extendChars])).union
      (.decode "5F3")
  | .numeric => WordClass.numericChars.union (.range 0x66C 0x66C)
  | .ambiguousTerminator => fullStops
  | .continuer =>
    .decode
      "2C-2D 3A-3B 37E 55D 60C-60D 7F8 1802 1808 2013-2014 3001 FE10-FE11 FE13-FE14 FE31-FE32
      FE50-FE51 FE54-FE55 FE58 FE63 FF0C-FF0D FF1A-FF1B FF64"
  | .terminator => (Binary.chars .sentenceTerminal).diff fullStops
  | .close =>
    .decode
      "22 27-29 5B 5D 7B 7D AB BB F3A-F3D 169B-169C 2018-201F 2039-203A 2045-2046 207D-207E
      208D-208E 2308-230B 2329-232A 275B-2760 2768-2775 27C5-27C6 27E6-27EF 2983-2998 29D8-29DB
      29FC-29FD 2E00-2E0D 2E1C-2E1D 2E20-2E29 2E42 2E55-2E5C 3008-3011 3014-301B 301D-301F
      FD3E-FD3F FE17-FE18 FE35-FE44 FE47-FE48 FE59-FE5E FF08-FF09 FF3B FF3D FF5B FF5D FF5F-FF60
      FF62-FF63 1F676-1F678"

/-- The loose names of the classes. -/
def names : List (String × SentenceClass) :=
  [("cr", .cr), ("lf", .lf), ("ex", .extend), ("extend", .extend), ("se", .separator),
   ("sep", .separator), ("fo", .format), ("format", .format), ("sp", .blank), ("lo", .lower),
   ("lower", .lower), ("up", .upper), ("upper", .upper), ("le", .otherLetter),
   ("oletter", .otherLetter), ("nu", .numeric), ("numeric", .numeric), ("at", .ambiguousTerminator),
   ("aterm", .ambiguousTerminator), ("sc", .continuer), ("scontinue", .continuer),
   ("st", .terminator), ("sterm", .terminator), ("cl", .close), ("close", .close)]

/-- The class with a loose name. -/
def named? (name : List Char) : Option SentenceClass :=
  names.lookup (String.ofList name)

end SentenceClass

end FieldRules.Unicode
