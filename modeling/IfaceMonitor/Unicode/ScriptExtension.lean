import IfaceMonitor.Unicode.Script

namespace IfaceMonitor.Unicode.ScriptExtension

def additions : List (CharSet × CharSet) :=
  [(Script.adlam, .ofCodes [0x61F, 0x640, 0x204F, 0x2E41]),
    (Script.arabic,
      .ofRanges [(0x60C, 0x60C), (0x61B, 0x61B), (0x61F, 0x61F), (0x640, 0x640), (0x64B, 0x655),
        (0x670, 0x670), (0x204F, 0x204F), (0x2E41, 0x2E41), (0xFD3E, 0xFD3F), (0x102E0, 0x102FB)]),
    (Script.armenian, .ofCodes [0x308]),
    (Script.avestan, .ofRanges [(0xB7, 0xB7), (0x2E30, 0x2E31)]),
    (Script.bengali,
      .ofRanges [(0x2BC, 0x2BC), (0x951, 0x952), (0x964, 0x965), (0x1CD0, 0x1CD0), (0x1CD2, 0x1CD2),
        (0x1CD5, 0x1CD6), (0x1CD8, 0x1CD8), (0x1CE1, 0x1CE1), (0x1CEA, 0x1CEA), (0x1CED, 0x1CED),
        (0x1CF2, 0x1CF2), (0x1CF5, 0x1CF7), (0xA8F1, 0xA8F1)]),
    (Script.bopomofo,
      .ofRanges [(0x2C7, 0x2C7), (0x2C9, 0x2CB), (0x2D9, 0x2D9), (0x3001, 0x3003), (0x3008, 0x3011),
        (0x3013, 0x301F), (0x302A, 0x302D), (0x3030, 0x3030), (0x3037, 0x3037), (0x30FB, 0x30FB),
        (0xFE45, 0xFE46), (0xFF61, 0xFF65)]),
    (Script.buginese, .ofCodes [0xA9CF]),
    (Script.buhid, .ofRanges [(0x1735, 0x1736)]),
    (Script.carian, .ofCodes [0xB7, 0x205A, 0x205D, 0x2E31]),
    (Script.caucasianAlbanian, .ofCodes [0x304, 0x331, 0x35E]),
    (Script.chakma, .ofRanges [(0x9E6, 0x9EF), (0x1040, 0x1049)]),
    (Script.cherokee,
      .ofRanges [(0x300, 0x302), (0x304, 0x304), (0x30B, 0x30C), (0x323, 0x324), (0x330, 0x331)]),
    (Script.coptic,
      .ofRanges [(0xB7, 0xB7), (0x300, 0x300), (0x304, 0x305), (0x307, 0x307), (0x374, 0x375),
        (0x2E17, 0x2E17), (0x102E0, 0x102FB)]),
    (Script.cypriot, .ofRanges [(0x10100, 0x10102), (0x10107, 0x10133), (0x10137, 0x1013F)]),
    (Script.cyproMinoan, .ofRanges [(0x10100, 0x10101)]),
    (Script.cyrillic,
      .ofRanges [(0x2BC, 0x2BC), (0x300, 0x302), (0x304, 0x304), (0x306, 0x306), (0x308, 0x308),
        (0x30B, 0x30B), (0x311, 0x311), (0x485, 0x486), (0x1DF8, 0x1DF8), (0x2E43, 0x2E43)]),
    (Script.devanagari,
      .ofRanges [(0x2BC, 0x2BC), (0x951, 0x952), (0x964, 0x965), (0x1CD0, 0x1CF6), (0x1CF8, 0x1CF9),
        (0x20F0, 0x20F0), (0xA830, 0xA839)]),
    (Script.dogra, .ofRanges [(0x964, 0x96F), (0xA830, 0xA839)]),
    (Script.duployan,
      .ofRanges [(0xB7, 0xB7), (0x307, 0x308), (0x30A, 0x30A), (0x323, 0x324), (0x2E3C, 0x2E3C),
        (0x1BCA0, 0x1BCA3)]),
    (Script.elbasan, .ofCodes [0xB7, 0x305]),
    (Script.ethiopic, .ofCodes [0x30E]),
    (Script.garay, .ofCodes [0x60C, 0x61B, 0x61F]),
    (Script.georgian, .ofCodes [0xB7, 0x589, 0x10FB, 0x205A, 0x2E31]),
    (Script.glagolitic,
      .ofCodes [0xB7, 0x303, 0x305, 0x484, 0x487, 0x589, 0x10FB, 0x205A, 0x2E43, 0xA66F]),
    (Script.gothic, .ofRanges [(0xB7, 0xB7), (0x304, 0x305), (0x308, 0x308), (0x331, 0x331)]),
    (Script.grantha,
      .ofRanges [(0x951, 0x952), (0x964, 0x965), (0xBE6, 0xBF3), (0x1CD0, 0x1CD0), (0x1CD2, 0x1CD3),
        (0x1CF2, 0x1CF4), (0x1CF8, 0x1CF9), (0x20F0, 0x20F0), (0x1133B, 0x1133B),
        (0x11FD0, 0x11FD1), (0x11FD3, 0x11FD3)]),
    (Script.greek,
      .ofRanges [(0xB7, 0xB7), (0x300, 0x301), (0x304, 0x304), (0x306, 0x306), (0x308, 0x308),
        (0x313, 0x313), (0x342, 0x342), (0x345, 0x345), (0x374, 0x374), (0x1DC0, 0x1DC1),
        (0x205D, 0x205D)]),
    (Script.gujarati, .ofRanges [(0x951, 0x952), (0x964, 0x965), (0xA830, 0xA839)]),
    (Script.gunjalaGondi, .ofRanges [(0xB7, 0xB7), (0x964, 0x965)]),
    (Script.gurmukhi, .ofRanges [(0x951, 0x952), (0x964, 0x965), (0xA830, 0xA839)]),
    (Script.gurungKhema, .ofCodes [0x965]),
    (Script.han,
      .ofRanges [(0xB7, 0xB7), (0x2FF0, 0x2FFF), (0x3001, 0x3003), (0x3006, 0x3006),
        (0x3008, 0x3011), (0x3013, 0x301F), (0x302A, 0x302D), (0x3030, 0x3030), (0x3037, 0x3037),
        (0x303C, 0x303F), (0x30FB, 0x30FB), (0x3190, 0x319F), (0x31C0, 0x31E5), (0x31EF, 0x31EF),
        (0x3220, 0x3247), (0x3280, 0x32B0), (0x32C0, 0x32CB), (0x32FF, 0x32FF), (0x3358, 0x3370),
        (0x337B, 0x337F), (0x33E0, 0x33FE), (0xA700, 0xA707), (0xFE45, 0xFE46), (0xFF61, 0xFF65),
        (0x1D360, 0x1D371), (0x1F250, 0x1F251)]),
    (Script.hangul,
      .ofRanges [(0x3001, 0x3003), (0x3008, 0x3011), (0x3013, 0x301F), (0x3030, 0x3030),
        (0x3037, 0x3037), (0x30FB, 0x30FB), (0xFE45, 0xFE46), (0xFF61, 0xFF65)]),
    (Script.hanifiRohingya, .ofCodes [0x60C, 0x61B, 0x61F, 0x640, 0x6D4]),
    (Script.hanunoo, .ofRanges [(0x1735, 0x1736)]),
    (Script.hebrew, .ofRanges [(0x307, 0x308)]),
    (Script.hiragana,
      .ofRanges [(0x3001, 0x3003), (0x3008, 0x3011), (0x3013, 0x301F), (0x3030, 0x3035),
        (0x3037, 0x3037), (0x303C, 0x303D), (0x3099, 0x309C), (0x30A0, 0x30A0), (0x30FB, 0x30FC),
        (0xFE45, 0xFE46), (0xFF61, 0xFF65), (0xFF70, 0xFF70), (0xFF9E, 0xFF9F)]),
    (Script.javanese, .ofCodes [0xA9CF]),
    (Script.kaithi, .ofRanges [(0x966, 0x96F), (0x2E31, 0x2E31), (0xA830, 0xA839)]),
    (Script.kannada,
      .ofRanges [(0x951, 0x952), (0x964, 0x965), (0x1CD0, 0x1CD0), (0x1CD2, 0x1CD3),
        (0x1CDA, 0x1CDA), (0x1CF2, 0x1CF2), (0x1CF4, 0x1CF4), (0xA830, 0xA835)]),
    (Script.katakana,
      .ofRanges [(0x305, 0x305), (0x323, 0x323), (0x3001, 0x3003), (0x3008, 0x3011),
        (0x3013, 0x301F), (0x3030, 0x3035), (0x3037, 0x3037), (0x303C, 0x303D), (0x3099, 0x309C),
        (0x30A0, 0x30A0), (0x30FB, 0x30FC), (0xFE45, 0xFE46), (0xFF61, 0xFF65), (0xFF70, 0xFF70),
        (0xFF9E, 0xFF9F)]),
    (Script.kayahLi, .ofCodes [0xA92E]),
    (Script.khojki, .ofRanges [(0xAE6, 0xAEF), (0xA830, 0xA839)]),
    (Script.khudawadi, .ofRanges [(0x964, 0x965), (0xA830, 0xA839)]),
    (Script.latin,
      .ofRanges [(0xB7, 0xB7), (0x2BC, 0x2BC), (0x2C7, 0x2C7), (0x2C9, 0x2CB), (0x2CD, 0x2CD),
        (0x2D7, 0x2D7), (0x2D9, 0x2D9), (0x300, 0x30E), (0x310, 0x311), (0x313, 0x313),
        (0x320, 0x320), (0x323, 0x325), (0x32D, 0x32E), (0x330, 0x331), (0x358, 0x358),
        (0x35E, 0x35E), (0x363, 0x36F), (0x485, 0x486), (0x951, 0x952), (0x10FB, 0x10FB),
        (0x1DF8, 0x1DF8), (0x202F, 0x202F), (0x20F0, 0x20F0), (0x2E17, 0x2E17), (0xA700, 0xA707),
        (0xA92E, 0xA92E)]),
    (Script.limbu, .ofCodes [0x965]),
    (Script.linearA, .ofRanges [(0x10107, 0x10133)]),
    (Script.linearB, .ofRanges [(0x10100, 0x10102), (0x10107, 0x10133), (0x10137, 0x1013F)]),
    (Script.lisu, .ofRanges [(0x2BC, 0x2BC), (0x2CD, 0x2CD), (0x300A, 0x300B)]),
    (Script.lycian, .ofCodes [0x205A]),
    (Script.lydian, .ofCodes [0xB7, 0x2E31]),
    (Script.mahajani, .ofRanges [(0xB7, 0xB7), (0x964, 0x96F), (0xA830, 0xA839)]),
    (Script.malayalam,
      .ofRanges [(0x951, 0x952), (0x964, 0x965), (0x1CDA, 0x1CDA), (0x1CF2, 0x1CF2),
        (0xA830, 0xA832)]),
    (Script.mandaic, .ofCodes [0x640]),
    (Script.manichaean, .ofCodes [0x640]),
    (Script.masaramGondi, .ofRanges [(0x964, 0x965)]),
    (Script.meroiticHieroglyphs, .ofCodes [0x205D]),
    (Script.modi, .ofRanges [(0xA830, 0xA839)]),
    (Script.mongolian,
      .ofRanges [(0x1802, 0x1803), (0x1805, 0x1805), (0x202F, 0x202F), (0x3001, 0x3002),
        (0x3008, 0x300B)]),
    (Script.multani, .ofRanges [(0xA66, 0xA6F)]),
    (Script.myanmar, .ofCodes [0xA92E]),
    (Script.nandinagari,
      .ofRanges [(0x964, 0x965), (0xCE6, 0xCEF), (0x1CE9, 0x1CE9), (0x1CF2, 0x1CF2),
        (0x1CFA, 0x1CFA), (0xA830, 0xA835)]),
    (Script.nko, .ofRanges [(0x60C, 0x60C), (0x61B, 0x61B), (0x61F, 0x61F), (0xFD3E, 0xFD3F)]),
    (Script.olOnal, .ofRanges [(0x964, 0x965)]),
    (Script.oldHungarian, .ofCodes [0x205A, 0x205D, 0x2E31, 0x2E41]),
    (Script.oldPermic,
      .ofRanges [(0xB7, 0xB7), (0x300, 0x300), (0x306, 0x308), (0x313, 0x313), (0x483, 0x483)]),
    (Script.oldTurkic, .ofCodes [0x205A, 0x2E30]),
    (Script.oldUyghur, .ofCodes [0x640, 0x10AF2]),
    (Script.oriya, .ofRanges [(0x951, 0x952), (0x964, 0x965), (0x1CDA, 0x1CDA), (0x1CF2, 0x1CF2)]),
    (Script.osage, .ofCodes [0x301, 0x304, 0x30B, 0x358]),
    (Script.phagsPa, .ofRanges
      [(0x1802, 0x1803), (0x1805, 0x1805), (0x202F, 0x202F), (0x3002, 0x3002)]),
    (Script.psalterPahlavi, .ofCodes [0x640]),
    (Script.runic, .ofRanges [(0x16EB, 0x16ED)]),
    (Script.samaritan, .ofCodes [0x2E31]),
    (Script.sharada,
      .ofRanges [(0x951, 0x951), (0x1CD7, 0x1CD7), (0x1CD9, 0x1CD9), (0x1CDC, 0x1CDD),
        (0x1CE0, 0x1CE0), (0xA830, 0xA835), (0xA838, 0xA838)]),
    (Script.shavian, .ofCodes [0xB7]),
    (Script.sinhala, .ofRanges [(0x964, 0x965), (0x1CF2, 0x1CF2)]),
    (Script.sogdian, .ofCodes [0x640]),
    (Script.sunuwar,
      .ofRanges [(0x300, 0x301), (0x303, 0x303), (0x30D, 0x30D), (0x310, 0x310), (0x32D, 0x32D),
        (0x331, 0x331)]),
    (Script.sylotiNagri, .ofRanges [(0x964, 0x965), (0x9E6, 0x9EF)]),
    (Script.syriac,
      .ofRanges [(0x303, 0x304), (0x307, 0x308), (0x30A, 0x30A), (0x320, 0x320), (0x323, 0x325),
        (0x32D, 0x32E), (0x330, 0x330), (0x60C, 0x60C), (0x61B, 0x61C), (0x61F, 0x61F),
        (0x640, 0x640), (0x64B, 0x655), (0x670, 0x670), (0x1DF8, 0x1DF8), (0x1DFA, 0x1DFA)]),
    (Script.tagalog, .ofRanges [(0x1735, 0x1736)]),
    (Script.tagbanwa, .ofRanges [(0x1735, 0x1736)]),
    (Script.taiLe, .ofRanges [(0x300, 0x301), (0x307, 0x308), (0x30C, 0x30C), (0x1040, 0x1049)]),
    (Script.takri, .ofRanges [(0x964, 0x965), (0xA830, 0xA839)]),
    (Script.tamil,
      .ofRanges [(0x951, 0x952), (0x964, 0x965), (0x1CDA, 0x1CDA), (0xA8F3, 0xA8F3),
        (0x11301, 0x11301), (0x11303, 0x11303), (0x1133B, 0x1133C)]),
    (Script.tangut, .ofRanges [(0x2FF0, 0x2FFF), (0x31EF, 0x31EF)]),
    (Script.telugu, .ofRanges [(0x951, 0x952), (0x964, 0x965), (0x1CDA, 0x1CDA), (0x1CF2, 0x1CF2)]),
    (Script.thaana,
      .ofRanges [(0x60C, 0x60C), (0x61B, 0x61C), (0x61F, 0x61F), (0x660, 0x669), (0xFDF2, 0xFDF2),
        (0xFDFD, 0xFDFD)]),
    (Script.thai, .ofCodes [0x2BC, 0x2D7, 0x303, 0x331]),
    (Script.tibetan, .ofRanges [(0x3008, 0x300B)]),
    (Script.tifinagh, .ofCodes [0x302, 0x304, 0x307, 0x309]),
    (Script.tirhuta, .ofRanges
      [(0x951, 0x952), (0x964, 0x965), (0x1CF2, 0x1CF2), (0xA830, 0xA839)]),
    (Script.todhri, .ofCodes [0x301, 0x304, 0x307, 0x311, 0x313, 0x35E]),
    (Script.toto, .ofCodes [0x2BC]),
    (Script.tuluTigalari,
      .ofRanges [(0xCE6, 0xCEF), (0x1CF2, 0x1CF2), (0x1CF4, 0x1CF4), (0xA830, 0xA835),
        (0xA8F1, 0xA8F1)]),
    (Script.yezidi, .ofRanges [(0x60C, 0x60C), (0x61B, 0x61B), (0x61F, 0x61F), (0x660, 0x669)]),
    (Script.yi,
      .ofRanges [(0x3001, 0x3002), (0x3008, 0x3011), (0x3014, 0x301B), (0x30FB, 0x30FB),
        (0xFF61, 0xFF65)])]

def shared : CharSet :=
  .unionOf (additions.map (·.2))

def ofScript (own : CharSet) : CharSet :=
  if own = Script.common || own = Script.inherited then own \ shared
  else own ∪ ((additions.lookup own).getD .empty)

end IfaceMonitor.Unicode.ScriptExtension
