import IfaceMonitor.Unicode.Category

namespace IfaceMonitor.Unicode.Identifier

def reserved : CharSet :=
  .ofRanges [(0x21, 0x2F), (0x3A, 0x40), (0x5B, 0x5E), (0x60, 0x60), (0x7B, 0x7E), (0xA1, 0xA7),
    (0xA9, 0xA9), (0xAB, 0xAC), (0xAE, 0xAE), (0xB0, 0xB1), (0xB6, 0xB6), (0xBB, 0xBB),
    (0xBF, 0xBF), (0xD7, 0xD7), (0xF7, 0xF7), (0x2010, 0x2027), (0x2030, 0x203E), (0x2041, 0x2053),
    (0x2055, 0x205E), (0x2190, 0x245F), (0x2500, 0x2775), (0x2794, 0x2BFF), (0x2E00, 0x2E7F),
    (0x3001, 0x3003), (0x3008, 0x3020), (0x3030, 0x3030), (0xFD3E, 0xFD3F), (0xFE45, 0xFE46)]

def reservedBlank : CharSet :=
  .ofRanges [(0x9, 0xD), (0x20, 0x20), (0x85, 0x85), (0x200E, 0x200F), (0x2028, 0x2029)]

def otherStart : CharSet :=
  .ofRanges [(0x1885, 0x1886), (0x2118, 0x2118), (0x212E, 0x212E), (0x309B, 0x309C)]

def start : CharSet :=
  (Category.letter ∪ Category.letterNumber ∪ otherStart) \ (reserved ∪ reservedBlank)

def otherContinue : CharSet :=
  .ofRanges [(0xB7, 0xB7), (0x387, 0x387), (0x1369, 0x1371), (0x19DA, 0x19DA), (0x200C, 0x200D),
    (0x30FB, 0x30FB), (0xFF65, 0xFF65)]

def continuing : CharSet :=
  (start ∪ Category.nonspacingMark ∪ Category.spacingMark ∪ Category.decimalNumber ∪
    Category.connectorPunctuation ∪ otherContinue) \ (reserved ∪ reservedBlank)

def unstable : CharSet :=
  .ofRanges [(0x37A, 0x37A), (0x309B, 0x309C), (0xFC5E, 0xFC63), (0xFDFA, 0xFDFB), (0xFE70, 0xFE70),
    (0xFE72, 0xFE72), (0xFE74, 0xFE74), (0xFE76, 0xFE76), (0xFE78, 0xFE78), (0xFE7A, 0xFE7A),
    (0xFE7C, 0xFE7C), (0xFE7E, 0xFE7E)]

def unstableStart : CharSet :=
  .ofRanges [(0xE33, 0xE33), (0xEB3, 0xEB3), (0xFF9E, 0xFF9F)]

def stableStart : CharSet :=
  start \ (unstable ∪ unstableStart)

def stableContinuing : CharSet :=
  continuing \ unstable

def compatibleMathStart : CharSet :=
  .ofCodes [0x2202, 0x2207, 0x221E, 0x1D6C1, 0x1D6DB, 0x1D6FB, 0x1D715, 0x1D735, 0x1D74F, 0x1D76F,
    0x1D789, 0x1D7A9, 0x1D7C3]

def compatibleMathContinuing : CharSet :=
  compatibleMathStart ∪
    .ofRanges [(0xB2, 0xB3), (0xB9, 0xB9), (0x2070, 0x2070), (0x2074, 0x207E), (0x2080, 0x208E)]

end IfaceMonitor.Unicode.Identifier
