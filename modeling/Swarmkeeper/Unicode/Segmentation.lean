import Swarmkeeper.Unicode.Property

/-!
The classes of characters by which a text is divided into visible characters, words and sentences, of
Unicode 15. Most classes are made of categories and other properties; the first of several classes that
a character fits is its class. Characters of no class have no name here.
-/

namespace Swarmkeeper.Unicode

/-- The carriage return. -/
def carriageReturn : RangeSet := .singleton 0xD

/-- The line feed. -/
def lineFeed : RangeSet := .singleton 0xA

/-- The joiner that asks for one visible character. -/
def zeroWidthJoiner : RangeSet := .singleton 0x200D

/-! ## Visible characters -/

namespace GraphemeBreak

/-- Characters that continue the one before them. -/
def extend : RangeSet := Property.graphemeExtend.union Property.emojiModifier

/-- Characters that stand alone. -/
def control : RangeSet :=
  (RangeSet.unions [Category.control, Category.format, Category.lineSeparator,
      Category.paragraphSeparator,
      Category.unassigned.inter Property.defaultIgnorableCodePoint]).difference
    (.unions [carriageReturn, lineFeed, zeroWidthJoiner, Property.prependedConcatenationMark, extend])

/-- Characters that the one after them continues. -/
def prepend : RangeSet :=
  Property.prependedConcatenationMark.union (.decode
    ["D4E 111C2-111C3 1193F 11941 11A3A 11A84-11A89 11D46 11F02"])

/-- Marks with a width of their own that continue the character before them. -/
def spacingMark : RangeSet :=
  (Category.spacingMark.union (.decode ["E33 EB3"])).difference (extend.union (.decode
    ["102B-102C 1038 1062-1064 1067-106D 1083 1087-108C 108F 109A-109C 1A61 1A63-1A64 AA7B AA7D",
     "11720-11721"]))

/-- The number of Korean syllables that begin and continue alike and differ in their ends. -/
def endings : Nat := 28

/-- The first of the Korean syllables. -/
def firstSyllable : Nat := 0xAC00

/-- The number of Korean syllables without an end. -/
def openSyllables : Nat := 399

/-- Korean syllables without an end. -/
def openSyllable : RangeSet :=
  ⟨(List.range openSyllables).map fun i =>
    (firstSyllable + endings * i, firstSyllable + endings * i)⟩

/-- Korean syllables with an end. -/
def closedSyllable : RangeSet :=
  ⟨(List.range openSyllables).map fun i =>
    (firstSyllable + endings * i + 1, firstSyllable + endings * i + (endings - 1))⟩

/-- Names of the classes, in lower case without separators, with their sets. -/
def table : List (List String × RangeSet) :=
  [(["cn", "control"], control),
   (["cr"], carriageReturn),
   (["ex", "extend"], extend),
   (["l"], .decode ["1100-115F A960-A97C"]),
   (["lf"], lineFeed),
   (["lv"], openSyllable),
   (["lvt"], closedSyllable),
   (["pp", "prepend"], prepend),
   (["ri", "regionalindicator"], Property.regionalIndicator),
   (["sm", "spacingmark"], spacingMark),
   (["t"], .decode ["11A8-11FF D7CB-D7FB"]),
   (["v"], .decode ["1160-11A7 D7B0-D7C6"]),
   (["zwj"], zeroWidthJoiner)]

end GraphemeBreak

/-! ## Words -/

namespace WordBreak

/-- Characters that continue the one before them. -/
def extend : RangeSet :=
  (RangeSet.unions [Property.graphemeExtend, Category.spacingMark, Property.emojiModifier]).difference
    zeroWidthJoiner

/-- Characters that are not seen. -/
def format : RangeSet :=
  Category.format.difference ((RangeSet.interval 0x200B 0x200D).union extend)

/-- Katakana and what is used like it. -/
def katakana : RangeSet := .decode
    ["3031-3035 309B-309C 30A0-30FA 30FC-30FF 31F0-31FF 32D0-32FE 3300-3357 FF66-FF9D 1AFF0-1AFF3",
     "1AFF5-1AFFB 1AFFD-1AFFE 1B000 1B120-1B122 1B155 1B164-1B167"]

/-- The letters of Hebrew. -/
def hebrewLetter : RangeSet := .decode
    ["5D0-5EA 5EF-5F2 FB1D FB1F-FB28 FB2A-FB36 FB38-FB3C FB3E FB40-FB41 FB43-FB44 FB46-FB4F"]

/-- Letters of writing without blanks, and of Hiragana. -/
def unspaced : RangeSet := .decode
    ["E01-E30 E32-E33 E40-E46 E81-E82 E84 E86-E8A E8C-EA3 EA5 EA7-EB0 EB2-EB3 EBD EC0-EC4 EC6",
     "EDC-EDF 1000-102A 103F 1050-1055 105A-105D 1061 1065-1066 106E-1070 1075-1081 108E 1780-17B3",
     "17D7 17DC 1950-196D 1970-1974 1980-19AB 19B0-19C9 1A20-1A54 1AA7 3041-3096 309D-309F",
     "A9E0-A9E4 A9E6-A9EF A9FA-A9FE AA60-AA76 AA7A AA7E-AAAF AAB1 AAB5-AAB6 AAB9-AABD AAC0 AAC2",
     "AADB-AADD 11700-1171A 11740-11746 1B001-1B11F 1B132 1B150-1B152 1F200"]

/-- The letters of words. -/
def letter : RangeSet :=
  (Property.alphabetic.union (.decode
    ["2C2-2C5 2D2-2D7 2DE-2DF 2E5-2EB 2ED 2EF-2FF 55A-55C 55E 58A 5F3 A708-A716 A720-A721 A789-A78A",
     "AB5B"])).difference
    (.unions [Property.ideographic, katakana, unspaced, extend, hebrewLetter])

/-- Names of the classes, in lower case without separators, with their sets. -/
def table : List (List String × RangeSet) :=
  [(["le", "aletter"], letter),
   (["cr"], carriageReturn),
   (["dq", "doublequote"], .singleton 0x22),
   (["extend"], extend),
   (["ex", "extendnumlet"], Category.connectorPunctuation.union (.singleton 0x202F)),
   (["fo", "format"], format),
   (["hl", "hebrewletter"], hebrewLetter),
   (["ka", "katakana"], katakana),
   (["lf"], lineFeed),
   (["ml", "midletter"], .decode ["3A B7 387 55F 5F4 2027 FE13 FE55 FF1A"]),
   (["mn", "midnum"], .decode
      ["2C 3B 37E 589 60C-60D 66C 7F8 2044 FE10 FE14 FE50 FE54 FF0C FF1B"]),
   (["mb", "midnumlet"], .decode ["2E 2018-2019 2024 FE52 FF07 FF0E"]),
   (["nl", "newline"], .decode ["B-C 85 2028-2029"]),
   (["nu", "numeric"], Category.decimalNumber.union (.singleton 0x66B)),
   (["ri", "regionalindicator"], Property.regionalIndicator),
   (["sq", "singlequote"], .singleton 0x27),
   (["wsegspace"], .decode ["20 1680 2000-2006 2008-200A 205F 3000"]),
   (["zwj"], zeroWidthJoiner)]

end WordBreak

/-! ## Sentences -/

namespace SentenceBreak

/-- Characters that continue the one before them. -/
def extend : RangeSet :=
  .unions [Property.graphemeExtend, Category.spacingMark, zeroWidthJoiner]

/-- Characters that are not seen. -/
def format : RangeSet :=
  Category.format.difference ((RangeSet.interval 0x200C 0x200D).union extend)

/-- Ends of lines and paragraphs. -/
def separator : RangeSet := .decode ["85 2028-2029"]

/-- Blanks within a line. -/
def blank : RangeSet :=
  Property.whiteSpace.difference (.unions [separator, carriageReturn, lineFeed])

/-- Small letters; those of Georgian have no capitals in running text. -/
def lower : RangeSet :=
  Property.lowercase.difference
    (Property.graphemeExtend.union (.decode ["10D0-10FA 10FD-10FF"]))

/-- Capital letters, but for those of Georgian. -/
def upper : RangeSet :=
  (Category.titlecaseLetter.union Property.uppercase).difference (.decode ["1C90-1CBA 1CBD-1CBF"])

/-- Letters without case. -/
def otherLetter : RangeSet :=
  (Property.alphabetic.union (.singleton 0x5F3)).difference (.unions [lower, upper, extend])

/-- Points that may end a sentence or stand inside it. -/
def ambiguousEnd : RangeSet := .decode ["2E 2024 FE52 FF0E"]

/-- Brackets and quotation marks. -/
def close : RangeSet :=
  .unions [Category.openPunctuation, Category.closePunctuation, Category.initialPunctuation,
    Category.finalPunctuation, .decode ["22 27 275B-2760 2E00-2E01 2E06-2E08 2E0B 1F676-1F678"]]

/-- Names of the classes, in lower case without separators, with their sets. -/
def table : List (List String × RangeSet) :=
  [(["at", "aterm"], ambiguousEnd),
   (["cl", "close"], close),
   (["cr"], carriageReturn),
   (["ex", "extend"], extend),
   (["fo", "format"], format),
   (["lf"], lineFeed),
   (["lo", "lower"], lower),
   (["nu", "numeric"], Category.decimalNumber.union (.decode ["66B-66C"])),
   (["le", "oletter"], otherLetter),
   (["sc", "scontinue"], .decode
      ["2C-2D 3A 55D 60C-60D 7F8 1802 1808 2013-2014 3001 FE10-FE11 FE13 FE31-FE32 FE50-FE51 FE55",
       "FE58 FE63 FF0C-FF0D FF1A FF64"]),
   (["st", "sterm"], Property.sentenceTerminal.difference ambiguousEnd),
   (["se", "sep"], separator),
   (["sp"], blank),
   (["up", "upper"], upper)]

end SentenceBreak

end Swarmkeeper.Unicode
