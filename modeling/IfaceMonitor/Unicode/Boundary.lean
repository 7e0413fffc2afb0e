import IfaceMonitor.Unicode.Emoji
import IfaceMonitor.Unicode.Property
import IfaceMonitor.Unicode.Script

namespace IfaceMonitor.Unicode

open Category Property

namespace Cluster

def carriageReturn : CharSet :=
  .ofCodes [0xD]

def lineFeed : CharSet :=
  .ofCodes [0xA]

def joiner : CharSet :=
  .ofCodes [0x200D]

def control : CharSet :=
  (Category.control ∪ format ∪ lineSeparator ∪ paragraphSeparator ∪
    (unassigned ∩ defaultIgnorable)) \
    (.ofRanges [(0xA, 0xA), (0xD, 0xD), (0x200C, 0x200D), (0xE0020, 0xE007F)] ∪
      prependedConcatenationMark)

def extending : CharSet :=
  graphemeExtend ∪ Emoji.modifier

def spacing : CharSet :=
  ((spacingMark ∪ .ofCodes [0xE33, 0xEB3]) \ graphemeExtend) \
    .ofRanges [(0x102B, 0x102C), (0x1038, 0x1038), (0x1062, 0x1064), (0x1067, 0x106D),
      (0x1083, 0x1083), (0x1087, 0x108C), (0x108F, 0x108F), (0x109A, 0x109C), (0x1A61, 0x1A61),
      (0x1A63, 0x1A64), (0xAA7B, 0xAA7B), (0xAA7D, 0xAA7D), (0x11720, 0x11721)]

def prepended : CharSet :=
  prependedConcatenationMark ∪
    .ofRanges [(0xD4E, 0xD4E), (0x111C2, 0x111C3), (0x113D1, 0x113D1), (0x1193F, 0x1193F),
      (0x11941, 0x11941), (0x11A3A, 0x11A3A), (0x11A84, 0x11A89), (0x11D46, 0x11D46),
      (0x11F02, 0x11F02)]

def leading : CharSet :=
  .ofRanges [(0x1100, 0x115F), (0xA960, 0xA97C)]

def vowel : CharSet :=
  .ofRanges [(0x1160, 0x11A7), (0xD7B0, 0xD7C6), (0x16D63, 0x16D63), (0x16D67, 0x16D6A)]

def trailing : CharSet :=
  .ofRanges [(0x11A8, 0x11FF), (0xD7CB, 0xD7FB)]

def openSyllable : CharSet :=
  .ofCodes ((List.range 399).map fun n => 0xAC00 + 28 * n)

def closedSyllable : CharSet :=
  .ofRanges [(0xAC00, 0xD7A3)] \ openSyllable

def byName : List (String × CharSet) :=
  [("cn", control), ("control", control), ("cr", carriageReturn), ("ex", extending),
   ("extend", extending), ("l", leading), ("lf", lineFeed), ("lv", openSyllable),
   ("lvt", closedSyllable), ("pp", prepended), ("prepend", prepended),
   ("regionalindicator", Emoji.regionalIndicator), ("ri", Emoji.regionalIndicator), ("sm", spacing),
   ("spacingmark", spacing), ("t", trailing), ("v", vowel), ("zwj", joiner)]

end Cluster

namespace Word

def newline : CharSet :=
  .ofRanges [(0xB, 0xC), (0x85, 0x85), (0x2028, 0x2029)]

def extending : CharSet :=
  graphemeExtend ∪ spacingMark ∪ Emoji.modifier

def numeralMark : CharSet :=
  .ofRanges [(0x600, 0x605), (0x6DD, 0x6DD), (0x890, 0x891), (0x8E2, 0x8E2), (0x110BD, 0x110BD),
    (0x110CD, 0x110CD)]

def formatting : CharSet :=
  format \ (.ofRanges [(0x70F, 0x70F), (0x200B, 0x200D)] ∪ extending ∪ numeralMark)

def numeric : CharSet :=
  decimalNumber ∪ numeralMark ∪ .ofCodes [0x66B, 0x19DA]

def connector : CharSet :=
  connectorPunctuation ∪ .ofCodes [0x202F]

def katakana : CharSet :=
  .ofRanges [(0x3031, 0x3035), (0x309B, 0x309C), (0x30A0, 0x30FA), (0x30FC, 0x30FF),
    (0x31F0, 0x31FF), (0x32D0, 0x32FE), (0x3300, 0x3357), (0xFF66, 0xFF9D), (0x1AFF0, 0x1AFF3),
    (0x1AFF5, 0x1AFFB), (0x1AFFD, 0x1AFFE), (0x1B000, 0x1B000), (0x1B120, 0x1B122),
    (0x1B155, 0x1B155), (0x1B164, 0x1B167)]

def hebrewLetter : CharSet :=
  Script.hebrew ∩ otherLetter

def complexContext : CharSet :=
  .ofRanges [(0xE01, 0xE30), (0xE32, 0xE33), (0xE40, 0xE46), (0xE81, 0xE82), (0xE84, 0xE84),
    (0xE86, 0xE8A), (0xE8C, 0xEA3), (0xEA5, 0xEA5), (0xEA7, 0xEB0), (0xEB2, 0xEB3), (0xEBD, 0xEBD),
    (0xEC0, 0xEC4), (0xEC6, 0xEC6), (0xEDC, 0xEDF), (0x1000, 0x102A), (0x103F, 0x103F),
    (0x1050, 0x1055), (0x105A, 0x105D), (0x1061, 0x1061), (0x1065, 0x1066), (0x106E, 0x1070),
    (0x1075, 0x1081), (0x108E, 0x108E), (0x1780, 0x17B3), (0x17D7, 0x17D7), (0x17DC, 0x17DC),
    (0x1950, 0x196D), (0x1970, 0x1974), (0x1980, 0x19AB), (0x19B0, 0x19C9), (0x1A20, 0x1A54),
    (0x1AA7, 0x1AA7), (0xA9E0, 0xA9E4), (0xA9E6, 0xA9EF), (0xA9FA, 0xA9FE), (0xAA60, 0xAA76),
    (0xAA7A, 0xAA7A), (0xAA7E, 0xAAAF), (0xAAB1, 0xAAB1), (0xAAB5, 0xAAB6), (0xAAB9, 0xAABD),
    (0xAAC0, 0xAAC0), (0xAAC2, 0xAAC2), (0xAADB, 0xAADD), (0x11700, 0x1171A), (0x11740, 0x11746)]

def letter : CharSet :=
  ((alphabetic \ (ideographic ∪ katakana ∪ Script.hiragana ∪ extending ∪ hebrewLetter)) \
    complexContext) ∪
    .ofRanges [(0x2C2, 0x2C5), (0x2D2, 0x2D7), (0x2DE, 0x2DF), (0x2E5, 0x2EB), (0x2ED, 0x2ED),
      (0x2EF, 0x2FF), (0x55A, 0x55C), (0x55E, 0x55E), (0x58A, 0x58A), (0x5F3, 0x5F3),
      (0x70F, 0x70F), (0xA708, 0xA716), (0xA720, 0xA721), (0xA789, 0xA78A), (0xAB5B, 0xAB5B)]

def insideLetters : CharSet :=
  .ofCodes [0x3A, 0xB7, 0x387, 0x55F, 0x5F4, 0x2027, 0xFE13, 0xFE55, 0xFF1A]

def insideNumbers : CharSet :=
  .ofRanges [(0x2C, 0x2C), (0x3B, 0x3B), (0x37E, 0x37E), (0x589, 0x589), (0x60C, 0x60D),
    (0x66C, 0x66C), (0x7F8, 0x7F8), (0x2044, 0x2044), (0xFE50, 0xFE50), (0xFE54, 0xFE54),
    (0xFF0C, 0xFF0C), (0xFF1B, 0xFF1B)]

def insideBoth : CharSet :=
  .ofRanges [(0x2E, 0x2E), (0x2018, 0x2019), (0x2024, 0x2024), (0xFE52, 0xFE52), (0xFF07, 0xFF07),
    (0xFF0E, 0xFF0E)]

def doubleQuote : CharSet :=
  .ofCodes [0x22]

def singleQuote : CharSet :=
  .ofCodes [0x27]

def space : CharSet :=
  spaceSeparator \ .ofCodes [0xA0, 0x2007, 0x202F]

def byName : List (String × CharSet) :=
  [("aletter", letter), ("cr", Cluster.carriageReturn), ("doublequote", doubleQuote),
   ("dq", doubleQuote), ("ex", connector), ("extend", extending), ("extendnumlet", connector),
   ("fo", formatting), ("format", formatting), ("hebrewletter", hebrewLetter), ("hl", hebrewLetter),
   ("ka", katakana), ("katakana", katakana), ("le", letter), ("lf", Cluster.lineFeed),
   ("mb", insideBoth), ("midletter", insideLetters), ("midnum", insideNumbers),
   ("midnumlet", insideBoth), ("ml", insideLetters), ("mn", insideNumbers), ("newline", newline),
   ("nl", newline), ("nu", numeric), ("numeric", numeric),
   ("regionalindicator", Emoji.regionalIndicator), ("ri", Emoji.regionalIndicator),
   ("singlequote", singleQuote), ("sq", singleQuote), ("wsegspace", space), ("zwj", Cluster.joiner)]

end Word

namespace Sentence

def separator : CharSet :=
  .ofCodes [0x85, 0x2028, 0x2029]

def extending : CharSet :=
  graphemeExtend ∪ spacingMark ∪ Cluster.joiner

def formatting : CharSet :=
  format \ (.ofCodes [0x200C, 0x200D] ∪ extending ∪ Word.numeralMark)

def space : CharSet :=
  whiteSpace \ (separator ∪ .ofCodes [0xA, 0xD])

def lower : CharSet :=
  Casing.lowercase \ (graphemeExtend ∪ .ofRanges [(0x10D0, 0x10FA), (0x10FD, 0x10FF)])

def upper : CharSet :=
  (titleLetter ∪ Casing.uppercase) \ .ofRanges [(0x1C90, 0x1CBA), (0x1CBD, 0x1CBF)]

def otherLetter : CharSet :=
  (alphabetic ∪ .ofCodes [0x5F3]) \ (lower ∪ upper ∪ extending)

def numeric : CharSet :=
  Word.numeric ∪ .ofCodes [0x66C]

def fullStop : CharSet :=
  .ofCodes [0x2E, 0x2024, 0xFE52, 0xFF0E]

def terminal : CharSet :=
  sentenceTerminal \ fullStop

def closing : CharSet :=
  openPunctuation ∪ closePunctuation ∪ initialPunctuation ∪ finalPunctuation ∪
    (quotationMark \ .ofCodes [0xFF02, 0xFF07]) ∪
    .ofRanges [(0x275B, 0x2760), (0x2E00, 0x2E01), (0x2E06, 0x2E08), (0x2E0B, 0x2E0B),
      (0x1F676, 0x1F678)]

def continuing : CharSet :=
  .ofRanges [(0x2C, 0x2D), (0x3A, 0x3B), (0x37E, 0x37E), (0x55D, 0x55D), (0x60C, 0x60D),
    (0x7F8, 0x7F8), (0x1802, 0x1802), (0x1808, 0x1808), (0x2013, 0x2014), (0x3001, 0x3001),
    (0xFE10, 0xFE11), (0xFE13, 0xFE14), (0xFE31, 0xFE32), (0xFE50, 0xFE51), (0xFE54, 0xFE55),
    (0xFE58, 0xFE58), (0xFE63, 0xFE63), (0xFF0C, 0xFF0D), (0xFF1A, 0xFF1B), (0xFF64, 0xFF64)]

def byName : List (String × CharSet) :=
  [("at", fullStop), ("aterm", fullStop), ("cl", closing), ("close", closing),
   ("cr", Cluster.carriageReturn), ("ex", extending), ("extend", extending), ("fo", formatting),
   ("format", formatting), ("le", otherLetter), ("lf", Cluster.lineFeed), ("lo", lower),
   ("lower", lower), ("nu", numeric), ("numeric", numeric), ("oletter", otherLetter),
   ("sc", continuing), ("scontinue", continuing), ("se", separator), ("sep", separator),
   ("sp", space), ("st", terminal), ("sterm", terminal), ("up", upper), ("upper", upper)]

end Sentence

end IfaceMonitor.Unicode
