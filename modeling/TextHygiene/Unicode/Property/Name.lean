import TextHygiene.Text.Blank
import TextHygiene.Unicode.Property.Age
import TextHygiene.Unicode.Property.Emoji
import TextHygiene.Unicode.Property.Identifier
import TextHygiene.Unicode.Property.SentencePart
import TextHygiene.Unicode.Script

/-!
# Properties by name

Properties of characters are asked for by name.  In a name, letter case, spaces, hyphens and
underscores do not count, nor does a leading `is`.  A property that a character has or lacks is asked
for by its name alone; general categories and scripts may be asked for by the name of the value
alone; all other properties need the name of the property and of the value.
-/

namespace TextHygiene
namespace Unicode
namespace Property

/-! ## Names -/

/-- A name without what does not count. -/
def looseName (name : Text) : Text :=
  let letters := (name.filter fun c => c.toNat < 0x80 && !(c == ' ' || c == '_' || c == '-')).map
    Char.toLower
  match Text.after? "is".toList (name.map Char.toLower), Text.after? "is".toList letters with
  | some _, some rest => if rest == ['c'] then letters else rest
  | _, _ => letters

/-- A set of characters with its names, which are loose. -/
structure NamedSet where
  names : List String
  set : Intervals
deriving Repr

def lookUp? (table : List NamedSet) (loose : Text) : Option Intervals :=
  (table.find? fun entry => entry.names.any (·.toList == loose)).map (·.set)

/-! ## Properties that a character has or lacks -/

def categories (list : List Category) : Intervals :=
  .ofSpans (list.flatMap Category.spans)

def alphabetic : Intervals :=
  .ofSpans ((.letterNumber :: Category.letters).flatMap Category.spans ++ enclosedLetters ++
    alphabeticMarks)

def whiteSpace : Intervals :=
  .ofList (blankCharacters.map fun c => ⟨c.toNat, c.toNat⟩)

def letterSets : List NamedSet := [
  ⟨["alpha", "alphabetic"], alphabetic⟩,
  ⟨["oalpha", "otheralphabetic"], .ofSpans (enclosedLetters ++ alphabeticMarks)⟩,
  ⟨["lower", "lowercase"], lowercase⟩,
  ⟨["olower", "otherlowercase"], .ofSpans extraLowercase⟩,
  ⟨["upper", "uppercase"], uppercase⟩,
  ⟨["oupper", "otheruppercase"], .ofSpans extraUppercase⟩,
  ⟨["cased"], cased⟩,
  ⟨["ci", "caseignorable"], caseIgnorable⟩,
  ⟨["cwl", "changeswhenlowercased"], changesWhenLowercased⟩,
  ⟨["cwu", "changeswhenuppercased"], .ofSpans changesWhenUppercased⟩,
  ⟨["cwt", "changeswhentitlecased"], changesWhenTitlecased⟩,
  ⟨["cwcm", "changeswhencasemapped"], changesWhenCasemapped⟩,
  ⟨["cwcf", "changeswhencasefolded"], changesWhenCasefolded⟩,
  ⟨["sd", "softdotted"], .ofSpans softDotted⟩]

def identifierSets : List NamedSet := [
  ⟨["ids", "idstart"], idStart⟩,
  ⟨["idc", "idcontinue"], idContinue⟩,
  ⟨["xids", "xidstart"], xidStart⟩,
  ⟨["xidc", "xidcontinue"], xidContinue⟩,
  ⟨["oids", "otheridstart"], .ofSpans otherIdStart⟩,
  ⟨["oidc", "otheridcontinue"], .ofSpans otherIdContinue⟩,
  ⟨["idcompatmathstart"], .ofSpans idCompatMathStart⟩,
  ⟨["idcompatmathcontinue"], .ofSpans idCompatMathContinue⟩,
  ⟨["patsyn", "patternsyntax"], .ofSpans patternSyntax⟩,
  ⟨["patws", "patternwhitespace"], .ofSpans patternWhiteSpace⟩]

def markSets : List NamedSet := [
  ⟨["dia", "diacritic"], .ofSpans diacritic⟩,
  ⟨["ext", "extender"], .ofSpans extender⟩,
  ⟨["grbase", "graphemebase"], graphemeBase⟩,
  ⟨["grext", "graphemeextend"], graphemeExtend⟩,
  ⟨["ogrext", "othergraphemeextend"], .ofSpans otherGraphemeExtend⟩,
  ⟨["grlink", "graphemelink"], .ofSpans graphemeLink⟩,
  ⟨["loe", "logicalorderexception"], .ofSpans logicalOrderException⟩,
  ⟨["mcm", "modifiercombiningmark"], .ofSpans modifierCombiningMark⟩,
  ⟨["pcm", "prependedconcatenationmark"], .ofSpans prependedConcatenationMark⟩,
  ⟨["vs", "variationselector"], .ofSpans variationSelector⟩]

def signSets : List NamedSet := [
  ⟨["wspace", "whitespace", "space"], whiteSpace⟩,
  ⟨["dash"], .ofSpans dash⟩,
  ⟨["hyphen"], .ofSpans hyphen⟩,
  ⟨["qmark", "quotationmark"], .ofSpans quotationMark⟩,
  ⟨["term", "terminalpunctuation"], .ofSpans terminalPunctuation⟩,
  ⟨["sterm", "sentenceterminal"], .ofSpans sentenceTerminal⟩,
  ⟨["math"], math⟩,
  ⟨["omath", "othermath"], .ofSpans otherMath⟩,
  ⟨["ahex", "asciihexdigit"], .ofSpans asciiHexDigit⟩,
  ⟨["hex", "hexdigit"], .ofSpans hexDigit⟩,
  ⟨["bidic", "bidicontrol"], .ofSpans bidiControl⟩,
  ⟨["bidim", "bidimirrored"], .ofSpans bidiMirrored⟩,
  ⟨["joinc", "joincontrol"], .ofSpans joinControls⟩,
  ⟨["dep", "deprecated"], .ofSpans deprecated⟩,
  ⟨["nchar", "noncharactercodepoint"], .ofSpans noncharacter⟩,
  ⟨["di", "defaultignorablecodepoint"], defaultIgnorable⟩,
  ⟨["odi", "otherdefaultignorablecodepoint"], .ofSpans otherDefaultIgnorable⟩]

def pictureSets : List NamedSet := [
  ⟨["ideo", "ideographic"], .ofSpans ideographic⟩,
  ⟨["uideo", "unifiedideograph"], .ofSpans unifiedIdeograph⟩,
  ⟨["radical"], .ofSpans radical⟩,
  ⟨["idsu", "idsunaryoperator"], .ofSpans unaryDescription⟩,
  ⟨["idsb", "idsbinaryoperator"], .ofSpans binaryDescription⟩,
  ⟨["idst", "idstrinaryoperator"], .ofSpans trinaryDescription⟩,
  ⟨["emoji"], .ofSpans emoji⟩,
  ⟨["epres", "emojipresentation"], .ofSpans emojiPresentation⟩,
  ⟨["emod", "emojimodifier"], .ofSpans emojiModifier⟩,
  ⟨["ebase", "emojimodifierbase"], .ofSpans emojiModifierBase⟩,
  ⟨["ecomp", "emojicomponent"], .ofSpans emojiComponent⟩,
  ⟨["extpict", "extendedpictographic"], .ofSpans extendedPictographic⟩,
  ⟨["ri", "regionalindicator"], .ofSpans regionalIndicator⟩]

def binarySets : List NamedSet :=
  letterSets ++ identifierSets ++ markSets ++ signSets ++ pictureSets

/-! ## Values -/

def categorySets : List NamedSet := [
  ⟨["any"], .full⟩,
  ⟨["ascii"], [⟨0, 0x7F⟩]⟩,
  ⟨["assigned"], unassigned.compl⟩,
  ⟨["c", "other"], other⟩,
  ⟨["cc", "control", "cntrl"], categories [.control]⟩,
  ⟨["cf", "format"], categories [.format]⟩,
  ⟨["cn", "unassigned"], unassigned⟩,
  ⟨["co", "privateuse"], categories [.privateUse]⟩,
  ⟨["l", "letter"], categories Category.letters⟩,
  ⟨["lc", "casedletter"], categories [.uppercaseLetter, .lowercaseLetter, .titlecaseLetter]⟩,
  ⟨["ll", "lowercaseletter"], categories [.lowercaseLetter]⟩,
  ⟨["lm", "modifierletter"], categories [.modifierLetter]⟩,
  ⟨["lo", "otherletter"], categories [.otherLetter]⟩,
  ⟨["lt", "titlecaseletter"], categories [.titlecaseLetter]⟩,
  ⟨["lu", "uppercaseletter"], categories [.uppercaseLetter]⟩,
  ⟨["m", "mark", "combiningmark"], categories Category.marks⟩,
  ⟨["mc", "spacingmark"], categories [.spacingMark]⟩,
  ⟨["me", "enclosingmark"], categories [.enclosingMark]⟩,
  ⟨["mn", "nonspacingmark"], categories [.nonspacingMark]⟩,
  ⟨["n", "number"], categories Category.numbers⟩,
  ⟨["nd", "decimalnumber", "digit"], categories [.decimalNumber]⟩,
  ⟨["nl", "letternumber"], categories [.letterNumber]⟩,
  ⟨["no", "othernumber"], categories [.otherNumber]⟩,
  ⟨["p", "punctuation", "punct"], categories Category.punctuation⟩,
  ⟨["pc", "connectorpunctuation"], categories [.connectorPunctuation]⟩,
  ⟨["pd", "dashpunctuation"], categories [.dashPunctuation]⟩,
  ⟨["pe", "closepunctuation"], categories [.closePunctuation]⟩,
  ⟨["pf", "finalpunctuation"], categories [.finalPunctuation]⟩,
  ⟨["pi", "initialpunctuation"], categories [.initialPunctuation]⟩,
  ⟨["po", "otherpunctuation"], categories [.otherPunctuation]⟩,
  ⟨["ps", "openpunctuation"], categories [.openPunctuation]⟩,
  ⟨["s", "symbol"], categories Category.symbols⟩,
  ⟨["sc", "currencysymbol"], categories [.currencySymbol]⟩,
  ⟨["sk", "modifiersymbol"], categories [.modifierSymbol]⟩,
  ⟨["sm", "mathsymbol"], categories [.mathSymbol]⟩,
  ⟨["so", "othersymbol"], categories [.otherSymbol]⟩,
  ⟨["z", "separator"], categories Category.separators⟩,
  ⟨["zl", "lineseparator"], categories [.lineSeparator]⟩,
  ⟨["zp", "paragraphseparator"], categories [.paragraphSeparator]⟩,
  ⟨["zs", "spaceseparator"], categories [.spaceSeparator]⟩]

def clusterSets : List NamedSet := [
  ⟨["cn", "control"], clusterControl⟩,
  ⟨["cr"], .single '\r'⟩,
  ⟨["lf"], .single '\n'⟩,
  ⟨["ex", "extend"], clusterExtend⟩,
  ⟨["pp", "prepend"], .ofSpans clusterPrepend⟩,
  ⟨["sm", "spacingmark"], clusterSpacingMark⟩,
  ⟨["l"], .ofSpans leadingConsonant⟩,
  ⟨["v"], .ofSpans syllableVowel⟩,
  ⟨["t"], .ofSpans trailingConsonant⟩,
  ⟨["lv"], .ofSpans openSyllable⟩,
  ⟨["lvt"], closedSyllable⟩,
  ⟨["ri", "regionalindicator"], .ofSpans regionalIndicator⟩,
  ⟨["zwj"], .single '\u200d'⟩]

def wordSets : List NamedSet := [
  ⟨["le", "aletter"], wordLetter⟩,
  ⟨["cr"], .single '\r'⟩,
  ⟨["lf"], .single '\n'⟩,
  ⟨["dq", "doublequote"], .single '"'⟩,
  ⟨["sq", "singlequote"], .single '\''⟩,
  ⟨["extend"], wordExtend⟩,
  ⟨["ex", "extendnumlet"], .ofSpans wordConnector⟩,
  ⟨["fo", "format"], wordFormat⟩,
  ⟨["hl", "hebrewletter"], .ofSpans wordHebrew⟩,
  ⟨["ka", "katakana"], .ofSpans wordKatakana⟩,
  ⟨["ml", "midletter"], .ofSpans wordMidLetter⟩,
  ⟨["mn", "midnum"], .ofSpans wordMidNumber⟩,
  ⟨["mb", "midnumlet"], .ofSpans wordMidBoth⟩,
  ⟨["nl", "newline"], .ofSpans wordNewline⟩,
  ⟨["nu", "numeric"], wordNumeric⟩,
  ⟨["ri", "regionalindicator"], .ofSpans regionalIndicator⟩,
  ⟨["wsegspace"], .ofSpans wordBlank⟩,
  ⟨["zwj"], .single '\u200d'⟩]

def sentenceSets : List NamedSet := [
  ⟨["at", "aterm"], .ofSpans fullStop⟩,
  ⟨["cl", "close"], sentenceClose⟩,
  ⟨["cr"], .single '\r'⟩,
  ⟨["lf"], .single '\n'⟩,
  ⟨["ex", "extend"], sentenceExtend⟩,
  ⟨["fo", "format"], sentenceFormat⟩,
  ⟨["lo", "lower"], sentenceLower⟩,
  ⟨["up", "upper"], sentenceUpper⟩,
  ⟨["le", "oletter"], sentenceLetter⟩,
  ⟨["nu", "numeric"], sentenceNumeric⟩,
  ⟨["sc", "scontinue"], .ofSpans sentenceContinue⟩,
  ⟨["st", "sterm"], sentenceEnd⟩,
  ⟨["se", "sep"], .ofSpans paragraphEnd⟩,
  ⟨["sp"], .ofSpans sentenceBlank⟩]

/-! ## Look-up -/

def ofName? (name : Text) : Option Intervals :=
  let loose := looseName name
  ((lookUp? binarySets loose).or (lookUp? categorySets loose)).or
    ((Script.ofName? loose).map fun script => .ofSpans script.spans)

def ofValue? (name value : Text) : Option Intervals :=
  let value := looseName value
  match String.ofList (looseName name) with
  | "gc" | "generalcategory" => lookUp? categorySets value
  | "sc" | "script" => (Script.ofName? value).map fun script => .ofSpans script.spans
  | "scx" | "scriptextensions" => (Script.ofName? value).map Script.extended
  | "age" => presentIn? value
  | "gcb" | "graphemeclusterbreak" => lookUp? clusterSets value
  | "wb" | "wordbreak" => lookUp? wordSets value
  | "sb" | "sentencebreak" => lookUp? sentenceSets value
  | _ => none

end Property
end Unicode
end TextHygiene
