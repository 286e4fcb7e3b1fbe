import WindowPlacement.Unicode.Property
import WindowPlacement.Unicode.Script

/-!
# Properties for taking text apart

Unicode finds the boundaries of characters as readers see them, of words and of sentences by
three properties, each with a value for every character.  Here are the values of each, with
their names, and the characters that have them in Unicode 16.
-/

namespace WindowPlacement.Unicode

open GeneralCategory

/-- The character that joins those around it to one. -/
def joiner : RangeSet :=
  .single '\u200d'

/-! ## Characters as readers see them -/

def prependedLetter : RangeSet :=
  .ofLines ["D4E 111C2-111C3 113D1 1193F 11941 11A3A 11A84-11A89 11D46 11F02"]

/-- The spacing marks that do not belong to what is before them. -/
def freeSpacingMark : RangeSet :=
  .ofLines [
    "102B-102C 1038 1062-1064 1067-106D 1083 1087-108C 108F 109A-109C 1A61 1A63-1A64 AA7B AA7D",
    "11720-11721"]

def dependentVowel : RangeSet :=
  .ofLines ["E33 EB3"]

/-- The Hangul syllables that end with their vowel: of the 28 syllables with the same
beginning, the first one. -/
def openSyllables : RangeSet :=
  .ofCodes ((List.range 399).map fun index => 0xAC00 + 28 * index)

def graphemeClusterBreaks : NamedSets := [
  (["cr"], .single '\r'),
  (["lf"], .single '\n'),
  (["control", "cn"],
    (control ∪ format ∪ lineSeparator ∪ paragraphSeparator ∪ (unassigned ∩ defaultIgnorable)) \
      (.ofLines ["A D"] ∪ graphemeExtend ∪ joiner ∪ prependedConcatenationMark)),
  (["extend", "ex"], (graphemeExtend ∪ emojiModifier) \ joiner),
  (["zwj"], joiner),
  (["regionalindicator", "ri"], regionalIndicator),
  (["prepend", "pp"], prependedConcatenationMark ∪ prependedLetter),
  (["spacingmark", "sm"], ((spacingMark \ graphemeExtend) \ freeSpacingMark) ∪ dependentVowel),
  (["l"], .ofLines ["1100-115F A960-A97C"]),
  (["v"], .ofLines ["1160-11A7 D7B0-D7C6 16D63 16D67-16D6A"]),
  (["t"], .ofLines ["11A8-11FF D7CB-D7FB"]),
  (["lv"], openSyllables),
  (["lvt"], .ofLines ["AC00-D7A3"] \ openSyllables)]

/-! ## Words -/

def wordLetterSign : RangeSet :=
  .ofLines [
    "2C2-2C5 2D2-2D7 2DE-2DF 2E5-2EB 2ED 2EF-2FF 55A-55C 55E 58A 5F3 70F A708-A716 A720-A721",
    "A789-A78A AB5B"]

/-- The scripts whose words are written without spaces between them. -/
def unspacedScripts : RangeSet :=
  scriptThai.members ∪ scriptLao.members ∪ scriptKhmer.members ∪ scriptMyanmar.members ∪
    scriptTaiLe.members ∪ scriptNewTaiLue.members ∪ scriptTaiTham.members ∪
    scriptTaiViet.members ∪ scriptAhom.members ∪ scriptHiragana.members

def hebrewLetter : RangeSet :=
  scriptHebrew.members ∩ otherLetter

/-- The characters of Katakana and the signs that are used with them. -/
def katakana : RangeSet :=
  scriptKatakana.members ∪ .ofLines ["3031-3035 309B-309C 30A0 30FC FF70"]

/-- The characters that a word goes on with whatever was before them. -/
def wordExtend : RangeSet :=
  (graphemeExtend ∪ spacingMark ∪ emojiModifier) \ joiner

def wordLetter : RangeSet :=
  (alphabetic \ (ideographic ∪ katakana ∪ unspacedScripts ∪ wordExtend ∪ hebrewLetter)) ∪
    wordLetterSign

def numberSign : RangeSet :=
  .ofLines ["600-605 66B 6DD 890-891 8E2 19DA 110BD 110CD"]

def wordBreaks : NamedSets := [
  (["cr"], .single '\r'),
  (["lf"], .single '\n'),
  (["newline", "nl"], .ofLines ["B-C 85 2028-2029"]),
  (["extend"], wordExtend),
  (["zwj"], joiner),
  (["format", "fo"],
    format \ (graphemeExtend ∪ joiner ∪ .single '\u200b' ∪ numberSign ∪ wordLetterSign)),
  (["regionalindicator", "ri"], regionalIndicator),
  (["katakana", "ka"], katakana),
  (["hebrewletter", "hl"], hebrewLetter),
  (["aletter", "le"], wordLetter),
  (["singlequote", "sq"], .single '\x27'),
  (["doublequote", "dq"], .single '\x22'),
  (["midnumlet", "mb"], .ofLines ["2E 2018-2019 2024 FE52 FF07 FF0E"]),
  (["midletter", "ml"], .ofLines ["3A B7 387 55F 5F4 2027 FE13 FE55 FF1A"]),
  (["midnum", "mn"], .ofLines ["2C 3B 37E 589 60C-60D 66C 7F8 2044 FE50 FE54 FF0C FF1B"]),
  (["numeric", "nu"], decimalNumber ∪ numberSign),
  (["extendnumlet", "ex"], connectorPunctuation ∪ .single '\u202f'),
  (["wsegspace"], spaceSeparator \ .ofLines ["A0 2007 202F"])]

/-! ## Sentences -/

/-- The signs that can stand behind the end of a sentence beside brackets and quotation marks. -/
def closingSign : RangeSet :=
  .ofLines ["275B-2760 2E00-2E01 2E06-2E08 2E0B 1F676-1F678"]

/-- The Georgian letters with case, which do not tell where a sentence starts. -/
def georgianCased : RangeSet :=
  .ofLines ["10D0-10FA 10FD-10FF 1C90-1CBA 1CBD-1CBF"]

/-- The marks that end a sentence or stand within one. -/
def ambiguousTerminal : RangeSet :=
  .ofLines ["2E 2024 FE52 FF0E"]

/-- The characters that a sentence goes on with whatever was before them. -/
def sentenceExtend : RangeSet :=
  graphemeExtend ∪ spacingMark ∪ joiner

def sentenceLower : RangeSet :=
  (lowercase \ graphemeExtend) \ georgianCased

def sentenceUpper : RangeSet :=
  (uppercase ∪ titlecaseLetter) \ georgianCased

def sentenceBreaks : NamedSets := [
  (["cr"], .single '\r'),
  (["lf"], .single '\n'),
  (["sep", "se"], .ofLines ["85 2028-2029"]),
  (["extend", "ex"], sentenceExtend),
  (["format", "fo"], format \ (graphemeExtend ∪ joiner ∪ numberSign)),
  (["sp"], whiteSpace \ .ofLines ["A D 85 2028-2029"]),
  (["lower", "lo"], sentenceLower),
  (["upper", "up"], sentenceUpper),
  (["oletter", "le"],
    (alphabetic ∪ .single '\u05f3') \ (sentenceLower ∪ sentenceUpper ∪ sentenceExtend)),
  (["numeric", "nu"], decimalNumber ∪ numberSign ∪ .single '\u066c'),
  (["aterm", "at"], ambiguousTerminal),
  (["scontinue", "sc"], .ofLines [
    "2C-2D 3A-3B 37E 55D 60C-60D 7F8 1802 1808 2013-2014 3001 FE10-FE11 FE13-FE14 FE31-FE32",
    "FE50-FE51 FE54-FE55 FE58 FE63 FF0C-FF0D FF1A-FF1B FF64"]),
  (["sterm", "st"], sentenceTerminal \ ambiguousTerminal),
  (["close", "cl"],
    (openPunctuation ∪ closePunctuation ∪ initialPunctuation ∪ finalPunctuation ∪ quotationMark ∪
      closingSign) \ .ofLines ["FF02 FF07"])]

end WindowPlacement.Unicode
