import IfaceMonitor.Unicode.Age
import IfaceMonitor.Unicode.Boundary
import IfaceMonitor.Unicode.Identifier
import IfaceMonitor.Unicode.ScriptExtension

namespace IfaceMonitor.Unicode.PropertyName

def yesNo : List (String × CharSet) :=
  [("ahex", Property.asciiHexDigit), ("alpha", Property.alphabetic),
   ("alphabetic", Property.alphabetic), ("asciihexdigit", Property.asciiHexDigit),
   ("bidic", Property.bidiControl), ("bidicontrol", Property.bidiControl),
   ("bidim", Property.bidiMirrored), ("bidimirrored", Property.bidiMirrored),
   ("cased", Casing.cased), ("caseignorable", Casing.ignorable),
   ("changeswhencasefolded", Casing.changesWhenCasefolded),
   ("changeswhencasemapped", Casing.changesWhenCasemapped),
   ("changeswhenlowercased", Casing.changesWhenLowercased),
   ("changeswhentitlecased", Casing.changesWhenTitlecased),
   ("changeswhenuppercased", Casing.changesWhenUppercased), ("ci", Casing.ignorable),
   ("cwcf", Casing.changesWhenCasefolded), ("cwcm", Casing.changesWhenCasemapped),
   ("cwl", Casing.changesWhenLowercased), ("cwt", Casing.changesWhenTitlecased),
   ("cwu", Casing.changesWhenUppercased), ("dash", Property.dash),
   ("defaultignorablecodepoint", Property.defaultIgnorable), ("dep", Property.deprecated),
   ("deprecated", Property.deprecated), ("di", Property.defaultIgnorable),
   ("dia", Property.diacritic), ("diacritic", Property.diacritic), ("ebase", Emoji.modifierBase),
   ("ecomp", Emoji.component), ("emod", Emoji.modifier), ("emoji", Emoji.all),
   ("emojicomponent", Emoji.component), ("emojimodifier", Emoji.modifier),
   ("emojimodifierbase", Emoji.modifierBase), ("emojipresentation", Emoji.presentation),
   ("epres", Emoji.presentation), ("ext", Property.extender),
   ("extendedpictographic", Emoji.pictographic), ("extender", Property.extender),
   ("extpict", Emoji.pictographic), ("graphemebase", Property.graphemeBase),
   ("graphemeextend", Property.graphemeExtend), ("graphemelink", Property.graphemeLink),
   ("grbase", Property.graphemeBase), ("grext", Property.graphemeExtend),
   ("grlink", Property.graphemeLink), ("hex", Property.hexDigit), ("hexdigit", Property.hexDigit),
   ("hyphen", Property.hyphen), ("idc", Identifier.continuing),
   ("idcompatmathcontinue", Identifier.compatibleMathContinuing),
   ("idcompatmathstart", Identifier.compatibleMathStart), ("idcontinue", Identifier.continuing),
   ("ideo", Property.ideographic), ("ideographic", Property.ideographic), ("ids", Identifier.start),
   ("idsb", Property.binaryDescription), ("idsbinaryoperator", Property.binaryDescription),
   ("idst", Property.ternaryDescription), ("idstart", Identifier.start),
   ("idstrinaryoperator", Property.ternaryDescription), ("idsu", Property.unaryDescription),
   ("idsunaryoperator", Property.unaryDescription), ("joinc", Property.joinControl),
   ("joincontrol", Property.joinControl), ("loe", Property.logicalOrderException),
   ("logicalorderexception", Property.logicalOrderException), ("lower", Casing.lowercase),
   ("lowercase", Casing.lowercase), ("math", Property.math),
   ("mcm", Property.modifierCombiningMark),
   ("modifiercombiningmark", Property.modifierCombiningMark), ("nchar", Property.noncharacter),
   ("noncharactercodepoint", Property.noncharacter), ("oalpha", Property.otherAlphabetic),
   ("odi", Property.otherDefaultIgnorable), ("ogrext", Property.otherGraphemeExtend),
   ("oidc", Identifier.otherContinue), ("oids", Identifier.otherStart),
   ("olower", Casing.otherLowercase), ("omath", Property.otherMath),
   ("otheralphabetic", Property.otherAlphabetic),
   ("otherdefaultignorablecodepoint", Property.otherDefaultIgnorable),
   ("othergraphemeextend", Property.otherGraphemeExtend),
   ("otheridcontinue", Identifier.otherContinue), ("otheridstart", Identifier.otherStart),
   ("otherlowercase", Casing.otherLowercase), ("othermath", Property.otherMath),
   ("otheruppercase", Casing.otherUppercase), ("oupper", Casing.otherUppercase),
   ("patsyn", Identifier.reserved), ("patternsyntax", Identifier.reserved),
   ("patternwhitespace", Identifier.reservedBlank), ("patws", Identifier.reservedBlank),
   ("pcm", Property.prependedConcatenationMark),
   ("prependedconcatenationmark", Property.prependedConcatenationMark),
   ("qmark", Property.quotationMark), ("quotationmark", Property.quotationMark),
   ("radical", Property.radical), ("regionalindicator", Emoji.regionalIndicator),
   ("ri", Emoji.regionalIndicator), ("sd", Casing.softDotted),
   ("sentenceterminal", Property.sentenceTerminal), ("softdotted", Casing.softDotted),
   ("space", Property.whiteSpace), ("sterm", Property.sentenceTerminal),
   ("term", Property.terminalPunctuation), ("terminalpunctuation", Property.terminalPunctuation),
   ("uideo", Property.unifiedIdeograph), ("unifiedideograph", Property.unifiedIdeograph),
   ("upper", Casing.uppercase), ("uppercase", Casing.uppercase),
   ("variationselector", Property.variationSelector), ("vs", Property.variationSelector),
   ("whitespace", Property.whiteSpace), ("wspace", Property.whiteSpace),
   ("xidc", Identifier.stableContinuing), ("xidcontinue", Identifier.stableContinuing),
   ("xids", Identifier.stableStart), ("xidstart", Identifier.stableStart)]

/-- The name without what does not count; `isc` stays, since it would become the name of a
category. -/
def normalize (name : List Char) : String :=
  let clean := fun (cs : List Char) =>
    (cs.filter fun c => c != ' ' && c != '_' && c != '-' && c.toNat < 128).map Char.toLower
  let stripped :=
    match name with
    | a :: b :: rest =>
      if (a == 'i' || a == 'I') && (b == 's' || b == 'S') then some (clean rest) else none
    | _ => none
  match stripped with
  | none => String.ofList (clean name)
  | some ['c'] => "isc"
  | some rest => String.ofList rest

/-- Abbreviations of categories that are also abbreviations of properties. -/
def isCategoryFirst (name : String) : Bool :=
  name == "cf" || name == "sc" || name == "lc"

def set? (name : List Char) : Option CharSet :=
  let name := normalize name
  (if isCategoryFirst name then none else yesNo.lookup name)
    <|> Category.byName.lookup name
    <|> Script.byName.lookup name

def values? (property : String) : Option (String → Option CharSet) :=
  if property == "gc" || property == "generalcategory" then some (Category.byName.lookup ·)
  else if property == "sc" || property == "script" then some (Script.byName.lookup ·)
  else if property == "scx" || property == "scriptextensions" then
    some fun value => (Script.byName.lookup value).map ScriptExtension.ofScript
  else if property == "age" then some Age.ofName?
  else if property == "gcb" || property ==
    "graphemeclusterbreak" then some (Cluster.byName.lookup ·)
  else if property == "wb" || property == "wordbreak" then some (Word.byName.lookup ·)
  else if property == "sb" || property == "sentencebreak" then some (Sentence.byName.lookup ·)
  else none

def setOfValue? (property value : List Char) : Option CharSet := do
  (← values? (normalize property)) (normalize value)

end IfaceMonitor.Unicode.PropertyName
