import LayoutTrail.Unicode.Age
import LayoutTrail.Unicode.Category
import LayoutTrail.Unicode.CharSet
import LayoutTrail.Unicode.Property
import LayoutTrail.Unicode.Script

/-!
# Names of character properties

Properties that follow from others, and the look-up of a property by name.  Names are compared
without regard to case, spaces, hyphens and underscores, and a leading `is` is dropped.
-/

namespace LayoutTrail.Unicode

namespace CharSet

open Category Property

/-- Letters of any kind. -/
def letter : CharSet :=
  tables [lowercaseLetter, uppercaseLetter, otherLetter, modifierLetter, titlecaseLetter]

/-- Letters in upper, lower or title case. -/
def casedLetter : CharSet := tables [lowercaseLetter, uppercaseLetter, titlecaseLetter]

/-- Combining marks. -/
def mark : CharSet := tables [nonspacingMark, spacingMark, enclosingMark]

/-- Numbers. -/
def number : CharSet := tables [decimalNumber, letterNumber, otherNumber]

/-- Punctuation. -/
def punctuation : CharSet :=
  tables [otherPunctuation, openPunctuation, closePunctuation, dashPunctuation,
    connectorPunctuation, initialPunctuation, finalPunctuation]

/-- Symbols. -/
def symbol : CharSet := tables [otherSymbol, mathSymbol, currencySymbol, modifierSymbol]

/-- Separators. -/
def separator : CharSet := tables [spaceSeparator, lineSeparator, paragraphSeparator]

/-- Code points that are neither assigned nor surrogates. -/
def unassigned : CharSet :=
  compl (unionOf [letter, mark, number, punctuation, symbol, separator,
    tables [control, format, privateUse], range 0xD800 0xDFFF])

/-- Controls, format characters, private use and unassigned code points. -/
def other : CharSet := union (tables [control, format, privateUse]) unassigned

/-- Alphabetic characters. -/
def alphabetic : CharSet := union letter (tables [letterNumber, otherAlphabetic])

/-- Characters in lower case. -/
def lowercase : CharSet := tables [lowercaseLetter, otherLowercase]

/-- Characters in upper case. -/
def uppercase : CharSet := tables [uppercaseLetter, otherUppercase]

/-- Characters that extend the one before them. -/
def graphemeExtend : CharSet := tables [nonspacingMark, enclosingMark, otherGraphemeExtend]

/-- White space. -/
def blank : CharSet := table whiteSpace

/-- Decimal digits. -/
def digit : CharSet := table decimalNumber

/-- Characters of words: alphabetic ones, marks, digits, connectors and joiners. -/
def word : CharSet :=
  unionOf [alphabetic, tables [decimalNumber, connectorPunctuation, joinControl], mark]

/-- Characters that start an identifier. -/
def identifierStart : CharSet :=
  diff (union letter (tables [letterNumber, otherIdStart]))
    (tables [patternPunctuation, patternWhiteSpace])

/-- Characters that continue an identifier. -/
def identifierContinue : CharSet :=
  union identifierStart
    (tables [nonspacingMark, spacingMark, decimalNumber, connectorPunctuation, otherIdContinue])

/-- Assigned code points that neither control nor extend. -/
def graphemeBase : CharSet :=
  compl (unionOf [other, range 0xD800 0xDFFF, tables [lineSeparator, paragraphSeparator],
    graphemeExtend])

/-- Characters that some change of case alters. -/
def changesWhenCasemapped : CharSet :=
  tables [changesWhenLowercased, changesWhenUppercased, changesWhenTitlecased]

end CharSet

open CharSet Category Property

/-- The categories by name; a category of its own has its two letters, a group one letter. -/
def categoryNames : List (List String × CharSet) := [
  (["any"], all),
  (["assigned"], compl (union unassigned (range 0xD800 0xDFFF))),
  (["ascii"], range 0 0x7F),
  (["lu", "uppercaseletter"], table uppercaseLetter),
  (["ll", "lowercaseletter"], table lowercaseLetter),
  (["lt", "titlecaseletter"], table titlecaseLetter),
  (["lc", "casedletter"], casedLetter),
  (["lm", "modifierletter"], table modifierLetter),
  (["lo", "otherletter"], table otherLetter),
  (["l", "letter"], letter),
  (["mn", "nonspacingmark"], table nonspacingMark),
  (["mc", "spacingmark"], table spacingMark),
  (["me", "enclosingmark"], table enclosingMark),
  (["m", "mark", "combiningmark"], mark),
  (["nd", "decimalnumber", "digit"], table decimalNumber),
  (["nl", "letternumber"], table letterNumber),
  (["no", "othernumber"], table otherNumber),
  (["n", "number"], number),
  (["pc", "connectorpunctuation"], table connectorPunctuation),
  (["pd", "dashpunctuation"], table dashPunctuation),
  (["ps", "openpunctuation"], table openPunctuation),
  (["pe", "closepunctuation"], table closePunctuation),
  (["pi", "initialpunctuation"], table initialPunctuation),
  (["pf", "finalpunctuation"], table finalPunctuation),
  (["po", "otherpunctuation"], table otherPunctuation),
  (["p", "punctuation", "punct"], punctuation),
  (["sm", "mathsymbol"], table mathSymbol),
  (["sc", "currencysymbol"], table currencySymbol),
  (["sk", "modifiersymbol"], table modifierSymbol),
  (["so", "othersymbol"], table otherSymbol),
  (["s", "symbol"], symbol),
  (["zs", "spaceseparator"], table spaceSeparator),
  (["zl", "lineseparator"], table lineSeparator),
  (["zp", "paragraphseparator"], table paragraphSeparator),
  (["z", "separator"], separator),
  (["cc", "control", "cntrl"], table control),
  (["cf", "format"], table format),
  (["cn", "unassigned"], unassigned),
  (["co", "privateuse"], table privateUse),
  (["c", "other"], other)]

/-- The properties that a character has or lacks, by name. -/
def propertyNames : List (List String × CharSet) := [
  (["ahex", "asciihexdigit"], table asciiHexDigit),
  (["alpha", "alphabetic"], alphabetic),
  (["bidic", "bidicontrol"], table bidiControl),
  (["bidim", "bidimirrored"], table bidiMirrored),
  (["ci", "caseignorable"],
    tables [nonspacingMark, enclosingMark, format, modifierLetter, modifierSymbol, midWord]),
  (["cased"], unionOf [lowercase, uppercase, table titlecaseLetter]),
  (["cwcf", "changeswhencasefolded"], table changesWhenCasefolded),
  (["cwcm", "changeswhencasemapped"], changesWhenCasemapped),
  (["cwl", "changeswhenlowercased"], table changesWhenLowercased),
  (["cwt", "changeswhentitlecased"], table changesWhenTitlecased),
  (["cwu", "changeswhenuppercased"], table changesWhenUppercased),
  (["dash"], table dash),
  (["di", "defaultignorablecodepoint"], table defaultIgnorable),
  (["dep", "deprecated"], table deprecated),
  (["dia", "diacritic"], table diacritic),
  (["emoji"], table emoji),
  (["ecomp", "emojicomponent"], table emojiComponent),
  (["emod", "emojimodifier"], table emojiModifier),
  (["ebase", "emojimodifierbase"], table emojiModifierBase),
  (["epres", "emojipresentation"], table emojiPresentation),
  (["extpict", "extendedpictographic"], table extendedPictographic),
  (["ext", "extender"], table extender),
  (["grbase", "graphemebase"], graphemeBase),
  (["grext", "graphemeextend"], graphemeExtend),
  (["grlink", "graphemelink"], table graphemeLink),
  (["hex", "hexdigit"], table hexDigit),
  (["hyphen"], table hyphen),
  (["idsb", "idsbinaryoperator"], table idsBinaryOperator),
  (["idst", "idstrinaryoperator"], table idsTrinaryOperator),
  (["idsu", "idsunaryoperator"], table idsUnaryOperator),
  (["idcompatmathcontinue"], table compatMathContinue),
  (["idcompatmathstart"], table compatMathStart),
  (["idc", "idcontinue"], identifierContinue),
  (["ids", "idstart"], identifierStart),
  (["ideo", "ideographic"], table ideographic),
  (["joinc", "joincontrol"], table joinControl),
  (["loe", "logicalorderexception"], table logicalOrderException),
  (["lower", "lowercase"], lowercase),
  (["math"], tables [mathSymbol, otherMath]),
  (["mcm", "modifiercombiningmark"], table modifierCombiningMark),
  (["nchar", "noncharactercodepoint"], table noncharacter),
  (["oalpha", "otheralphabetic"], table otherAlphabetic),
  (["odi", "otherdefaultignorablecodepoint"],
    diff (table defaultIgnorable) (tables [format, variationSelector])),
  (["ogrext", "othergraphemeextend"], table otherGraphemeExtend),
  (["oidc", "otheridcontinue"], table otherIdContinue),
  (["oids", "otheridstart"], table otherIdStart),
  (["olower", "otherlowercase"], table otherLowercase),
  (["omath", "othermath"], table otherMath),
  (["oupper", "otheruppercase"], table otherUppercase),
  (["patsyn", "patternsyntax"], table patternPunctuation),
  (["patws", "patternwhitespace"], table patternWhiteSpace),
  (["pcm", "prependedconcatenationmark"], table prependedMark),
  (["qmark", "quotationmark"], table quotationMark),
  (["radical"], table radical),
  (["ri", "regionalindicator"], table regionalIndicator),
  (["sterm", "sentenceterminal"], table sentenceTerminal),
  (["sd", "softdotted"], table softDotted),
  (["term", "terminalpunctuation"], table terminalPunctuation),
  (["uideo", "unifiedideograph"], table unifiedIdeograph),
  (["upper", "uppercase"], uppercase),
  (["vs", "variationselector"], table variationSelector),
  (["wspace", "whitespace", "space"], blank),
  (["xidc", "xidcontinue"], diff identifierContinue (table closureContinue)),
  (["xids", "xidstart"], diff identifierStart (table closureStart))]

/-- The form in which names are compared: `isc` stands for the name of a property that has no set
of characters, so that it is not taken for the category `c`. -/
def normalName (name : List Char) : String :=
  let plain := fun (cs : List Char) =>
    (cs.filter fun c => c != ' ' && c != '_' && c != '-' && c.toNat ≤ 0x7F).map Char.toLower
  match name with
  | i :: s :: rest =>
    if i.toLower == 'i' && s.toLower == 's' then
      if plain rest == ['c'] then "isc" else String.ofList (plain rest)
    else String.ofList (plain name)
  | _ => String.ofList (plain name)

/-- The set under a name in a list of names. -/
def namedSet? (entries : List (List String × CharSet)) (name : String) : Option CharSet :=
  (entries.find? fun entry => entry.1.contains name).map (·.2)

/-- The characters of a script. -/
def scriptSet? (name : String) : Option CharSet :=
  (scripts.find? fun s => s.names.contains name).map fun s => table s.own

/-- The characters used in a script. -/
def scriptUseSet? (name : String) : Option CharSet :=
  (scripts.find? fun s => s.names.contains name).map fun s =>
    diff (tables [s.own, s.shared]) (table s.lent)

/-- The code points assigned up to an edition. -/
def ageSet? (name : String) : Option CharSet :=
  let isNamed := fun (e : Edition) =>
    name == s!"{e.major}.{e.minor}" || name == s!"v{e.major}{e.minor}"
  if editions.any isNamed then
    let newer := (editions.reverse.takeWhile (!isNamed ·)).length
    some (tables ((editions.take (editions.length - newer)).map (·.added)))
  else none

/-- The set that a single name stands for: a property, else a category, else a script. -/
def setOfName? (name : List Char) : Option CharSet :=
  let name := normalName name
  namedSet? propertyNames name <|> namedSet? categoryNames name <|> scriptSet? name

/-- The set of characters whose property `name` has the value `value`. -/
def setOfValue? (name value : List Char) : Option CharSet :=
  let name := normalName name
  let value := normalName value
  if name == "gc" || name == "generalcategory" then namedSet? categoryNames value
  else if name == "sc" || name == "script" then scriptSet? value
  else if name == "scx" || name == "scriptextensions" then scriptUseSet? value
  else if name == "age" then ageSet? value
  else none

end LayoutTrail.Unicode
