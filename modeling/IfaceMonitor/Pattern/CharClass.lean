import IfaceMonitor.Unicode.Property

namespace IfaceMonitor.Pattern.CharClass

open Unicode

def asciiDigit : CharSet :=
  .ofRanges [(48, 57)]

def asciiSpace : CharSet :=
  .ofRanges [(9, 13), (32, 32)]

def asciiWord : CharSet :=
  .ofRanges [(48, 57), (65, 90), (95, 95), (97, 122)]

def digit (unicode : Bool) : CharSet :=
  if unicode then Category.decimalNumber else asciiDigit

def space (unicode : Bool) : CharSet :=
  if unicode then Property.whiteSpace else asciiSpace

def word (unicode : Bool) : CharSet :=
  if unicode then Property.word else asciiWord

def posix : List (String × CharSet) :=
  [("alnum", .ofRanges [(48, 57), (65, 90), (97, 122)]),
    ("alpha", .ofRanges [(65, 90), (97, 122)]),
    ("ascii", .ascii),
    ("blank", .ofCodes [9, 32]),
    ("cntrl", .ofRanges [(0, 31), (127, 127)]),
    ("digit", asciiDigit),
    ("graph", .ofRanges [(33, 126)]),
    ("lower", .ofRanges [(97, 122)]),
    ("print", .ofRanges [(32, 126)]),
    ("punct", .ofRanges [(33, 47), (58, 64), (91, 96), (123, 126)]),
    ("space", asciiSpace),
    ("upper", .ofRanges [(65, 90)]),
    ("word", asciiWord),
    ("xdigit", .ofRanges [(48, 57), (65, 70), (97, 102)])]

end IfaceMonitor.Pattern.CharClass
