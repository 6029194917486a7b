import Runbook.Pattern.Basic
import Runbook.Text.Property
import Runbook.Text.Script

/-!
# Sets of characters with names

The classes that are named inside brackets and colons, which are about ASCII alone, and the
properties, general categories and scripts of all characters.
-/

namespace Runbook.Pattern

/-- The digits of ASCII. -/
def asciiDigits : CharSet := .range 48 57

/-- The letters of ASCII. -/
def asciiLetters : CharSet := .union (.range 65 90) (.range 97 122)

/-- The word characters of ASCII. -/
def asciiWord : CharSet := CharSet.unions [asciiLetters, asciiDigits, .single '_']

/-- The classes named inside brackets and colons. -/
def namedSets : List (String × CharSet) :=
  let control : CharSet := .union (.range 0 31) (.range 127 127)
  [("alnum", .union asciiLetters asciiDigits), ("alpha", asciiLetters),
   ("ascii", .range 0 127), ("blank", .union (.single '\t') (.single ' ')),
   ("cntrl", control), ("digit", asciiDigits), ("graph", .range 33 126),
   ("lower", .range 97 122), ("print", .range 32 126),
   ("punct", CharSet.unions [.range 33 47, .range 58 64, .range 91 96, .range 123 126]),
   ("space", CharSet.unions [.range 9 13, .single ' ']), ("upper", .range 65 90),
   ("word", asciiWord),
   ("xdigit", CharSet.unions [asciiDigits, .range 65 70, .range 97 102])]

/-- One of the characters of some categories. -/
def ofCategories (letters : List String) : CharSet :=
  CharSet.unions ((Text.categories.filter fun entry => letters.contains entry.1).map fun entry =>
    .table entry.2)

/-- The categories whose two letters begin with a letter. -/
def categoryGroup (letter : String) : CharSet :=
  CharSet.unions ((Text.categories.filter fun entry => entry.1.startsWith letter).map fun entry =>
    .table entry.2)

/-- Every assigned character. -/
def assigned : CharSet := CharSet.unions (Text.categories.map fun entry => .table entry.2)

/-- The long names of categories and groups of them, without blanks and marks. -/
def categoryNames : List (String × String) :=
  [("letter", "L"), ("mark", "M"), ("combiningmark", "M"), ("number", "N"), ("punctuation", "P"),
   ("punct", "P"), ("symbol", "S"), ("separator", "Z"), ("uppercaseletter", "Lu"),
   ("lowercaseletter", "Ll"), ("titlecaseletter", "Lt"), ("modifierletter", "Lm"),
   ("otherletter", "Lo"), ("nonspacingmark", "Mn"), ("spacingmark", "Mc"),
   ("enclosingmark", "Me"), ("decimalnumber", "Nd"), ("digit", "Nd"), ("letternumber", "Nl"),
   ("othernumber", "No"), ("connectorpunctuation", "Pc"), ("dashpunctuation", "Pd"),
   ("openpunctuation", "Ps"), ("closepunctuation", "Pe"), ("initialpunctuation", "Pi"),
   ("finalpunctuation", "Pf"), ("otherpunctuation", "Po"), ("mathsymbol", "Sm"),
   ("currencysymbol", "Sc"), ("modifiersymbol", "Sk"), ("othersymbol", "So"),
   ("spaceseparator", "Zs"), ("lineseparator", "Zl"), ("paragraphseparator", "Zp"),
   ("control", "Cc"), ("cntrl", "Cc"), ("format", "Cf"), ("privateuse", "Co")]

/-- The set of a general category, by its letters or its name in lower case. -/
def category? (name : String) : Option CharSet :=
  let byLetters (letters : String) : Option CharSet :=
    if letters.length = 1 ∧ "LMNPSZ".toList.contains (letters.toList.headD ' ') then
      some (categoryGroup letters)
    else (Text.categories.lookup letters).map .table
  let letters := String.ofList ((name.toList.take 1).map Char.toUpper ++ name.toList.drop 1)
  match name with
  | "c" | "other" =>
      some (.complement (CharSet.unions (["L", "M", "N", "P", "S", "Z"].map categoryGroup)))
  | "cn" | "unassigned" => some (.complement assigned)
  | "lc" | "casedletter" =>
      some (CharSet.unions [.table Text.runsLu, .table Text.runsLl, .table Text.runsLt])
  | "any" => some CharSet.all
  | "ascii" => some (.range 0 127)
  | "assigned" => some assigned
  | _ => ((categoryNames.lookup name).bind byLetters).or (byLetters letters)

/-! ### Properties that follow from others -/

/-- The characters of both cases, and the letters of title case. -/
def cased : CharSet :=
  CharSet.unions [.table Text.lowercaseRuns, .table Text.upperRuns, .table Text.runsLt]

/-- The characters that title case changes: mostly those that upper case does. -/
def titled : CharSet :=
  .union (.table [(452, 1, 1), (455, 1, 1), (458, 1, 1), (497, 1, 1)])
    (.diff (.table Text.raisedRuns)
      (.table [(453, 1, 1), (456, 1, 1), (459, 1, 1), (498, 1, 1), (4304, 43, 1), (4349, 3, 1),
        (8072, 8, 1), (8088, 8, 1), (8104, 8, 1), (8124, 1, 1), (8140, 1, 1), (8188, 1, 1)]))

/-- The characters that case folding changes: those that lower case does, but for the upper-case
letters of Cherokee, and some more. -/
def folded : CharSet :=
  .union (.diff (.table Text.loweredRuns) (.range 5024 5109)) (.table Text.foldedRuns)

/-- The characters that begin an identifier. -/
def identifierStart : CharSet :=
  .diff (CharSet.unions [categoryGroup "L", .table Text.runsNl,
      .table [(6277, 2, 1), (8472, 1, 1), (8494, 1, 1), (12443, 2, 1)]])
    (.table Text.patternSyntaxRuns)

/-- The characters of an identifier. -/
def identifierPart : CharSet :=
  CharSet.unions [identifierStart, ofCategories ["Mn", "Mc", "Nd", "Pc"],
    .table [(183, 1, 1), (903, 1, 1), (4969, 9, 1), (6618, 1, 1), (8204, 2, 1), (12539, 1, 1),
      (65381, 1, 1)]]

/-- What a normalised identifier may not begin with. -/
def denormalStart : CharSet :=
  .table [(890, 1, 1), (3635, 1, 1), (3763, 1, 1), (12443, 2, 1), (64606, 6, 1), (65018, 2, 1),
    (65136, 8, 2), (65438, 2, 1)]

/-- What a normalised identifier may not hold. -/
def denormalPart : CharSet :=
  .table [(890, 1, 1), (12443, 2, 1), (64606, 6, 1), (65018, 2, 1), (65136, 8, 2)]

/-- The characters that join a cluster of characters. -/
def clusterPart : CharSet :=
  .union (ofCategories ["Mn", "Me"]) (.table Text.otherExtendRuns)

/-- The characters that may begin a cluster. -/
def clusterBase : CharSet :=
  .diff assigned (.union (ofCategories ["Cc", "Cf", "Co", "Zl", "Zp"]) clusterPart)

/-- The digits to base sixteen, those of full width among them. -/
def hexDigits : CharSet :=
  .table [(48, 10, 1), (65, 6, 1), (97, 6, 1), (65296, 10, 1), (65313, 6, 1), (65345, 6, 1)]

/-- The properties that a character has or has not, by their names in lower case. Those that the
standard only derives others from have no name here. -/
def properties : List (List String × CharSet) :=
  [(["asciihexdigit", "ahex"], .table [(48, 10, 1), (65, 6, 1), (97, 6, 1)]),
   (["alphabetic", "alpha"], .table Text.alphabeticRuns),
   (["bidicontrol", "bidic"], .table [(1564, 1, 1), (8206, 2, 1), (8234, 5, 1), (8294, 4, 1)]),
   (["bidimirrored", "bidim"], .table Text.bidiMirroredRuns),
   (["caseignorable", "ci"],
     .union (ofCategories ["Mn", "Me", "Cf", "Lm", "Sk"]) (.table Text.midWordRuns)),
   (["cased"], cased),
   (["changeswhencasefolded", "cwcf"], folded),
   (["changeswhencasemapped", "cwcm"],
     CharSet.unions [.table Text.loweredRuns, .table Text.raisedRuns, titled]),
   (["changeswhenlowercased", "cwl"], .table Text.loweredRuns),
   (["changeswhentitlecased", "cwt"], titled),
   (["changeswhenuppercased", "cwu"], .table Text.raisedRuns),
   (["dash"],
     .union (.table Text.runsPd) (.table [(8275, 1, 1), (8315, 1, 1), (8331, 1, 1), (8722, 1, 1)])),
   (["defaultignorablecodepoint", "di"], .table Text.ignorableRuns),
   (["deprecated", "dep"], .table Text.deprecatedRuns),
   (["diacritic", "dia"], .table Text.diacriticRuns),
   (["emoji"], .table Text.emojiRuns),
   (["emojicomponent", "ecomp"],
     .table [(35, 1, 1), (42, 1, 1), (48, 10, 1), (8205, 1, 1), (8419, 1, 1), (65039, 1, 1),
       (127462, 26, 1), (127995, 5, 1), (129456, 4, 1), (917536, 96, 1)]),
   (["emojimodifier", "emod"], .range 127995 127999),
   (["emojimodifierbase", "ebase"], .table Text.emojiBaseRuns),
   (["emojipresentation", "epres"], .table Text.emojiPresentationRuns),
   (["extendedpictographic", "extpict"], .table Text.pictographicRuns),
   (["extender", "ext"], .table Text.extenderRuns),
   (["graphemebase", "grbase"], clusterBase),
   (["graphemeextend", "grext"], clusterPart),
   (["hexdigit", "hex"], hexDigits),
   (["idsbinaryoperator", "idsb"], .table [(12272, 2, 1), (12276, 10, 1), (12783, 1, 1)]),
   (["idstrinaryoperator", "idst"], .range 12274 12275),
   (["idcontinue", "idc"], identifierPart),
   (["idstart", "ids"], identifierStart),
   (["ideographic", "ideo"], .table Text.ideographicRuns),
   (["joincontrol", "joinc"], .range 8204 8205),
   (["logicalorderexception", "loe"], .table Text.logicalOrderRuns),
   (["lowercase", "lower"], .table Text.lowercaseRuns),
   (["math"], .union (.table Text.runsSm) (.table Text.otherMathRuns)),
   (["noncharactercodepoint", "nchar"], .table Text.nonCharacterRuns),
   (["patternsyntax", "patsyn"], .table Text.patternSyntaxRuns),
   (["patternwhitespace", "patws"],
     .table [(9, 5, 1), (32, 1, 1), (133, 1, 1), (8206, 2, 1), (8232, 2, 1)]),
   (["prependedconcatenationmark", "pcm"],
     .table [(1536, 6, 1), (1757, 1, 1), (1807, 1, 1), (2192, 2, 1), (2274, 1, 1), (69821, 1, 1),
       (69837, 1, 1)]),
   (["quotationmark", "qmark"], .table Text.quotationRuns),
   (["radical"], .table [(11904, 26, 1), (11931, 89, 1), (12032, 214, 1)]),
   (["regionalindicator", "ri"], .range 127462 127487),
   (["sentenceterminal", "sterm"], .table Text.sentenceEndRuns),
   (["softdotted", "sd"], .table Text.softDottedRuns),
   (["terminalpunctuation", "term"], .table Text.terminalRuns),
   (["unifiedideograph", "uideo"], .table Text.unifiedIdeographRuns),
   (["uppercase", "upper"], .table Text.upperRuns),
   (["variationselector", "vs"],
     .table [(6155, 3, 1), (6159, 1, 1), (65024, 16, 1), (917760, 240, 1)]),
   (["whitespace", "wspace", "space"], .blankChars),
   (["xidcontinue", "xidc"], .diff identifierPart denormalPart),
   (["xidstart", "xids"], .diff identifierStart denormalStart)]

/-- The characters with a property, by its name in lower case. -/
def property? (name : String) : Option CharSet :=
  (properties.find? fun entry => entry.1.contains name).map Prod.snd

/-! ### Scripts -/

/-- The script with a name in lower case. -/
def script? (name : String) : Option Text.Script :=
  Text.scripts.find? fun script => script.names.contains name

/-- The characters that are used in a script: its own and those it shares. What is common to all
scripts, or takes on the script of the character before it, leaves out what some scripts share. -/
def usedIn (script : Text.Script) : CharSet :=
  if script.names.contains "zyyy" || script.names.contains "zinh" then
    .diff (.table script.runs) (CharSet.unions (Text.scripts.map fun other => .table other.shared))
  else .union (.table script.runs) (.table script.shared)

/-! ### Names -/

/-- A name as it is looked up: in lower case, without blanks, hyphens and underscores, and what is
not ASCII, and without `is` in front of it. The one name that is short for another with these
letters keeps them. -/
def plainName (text : List Char) : String :=
  let plain (text : List Char) : List Char :=
    (text.filter fun c => c ≠ ' ' && c ≠ '_' && c ≠ '-' && c.toNat < 128).map Text.toLowerAscii
  let lead := (text.take 2).map Text.toLowerAscii = ['i', 's']
  if lead then
    let rest := plain (text.drop 2)
    String.ofList (if rest = ['c'] then ['i', 's', 'c'] else rest)
  else String.ofList (plain text)

/-- The set of a name that stands alone: a property, a category or a script. -/
def alone? (name : String) : Option CharSet :=
  ((property? name).or (category? name)).or ((script? name).map fun script => .table script.runs)

/-- The set of a value of a property with values. The age of a character and the places where lines
of text, words and sentences may break are left out. -/
def valued? (key value : String) : Option CharSet :=
  match key with
  | "generalcategory" | "gc" => category? value
  | "script" | "sc" => (script? value).map fun script => .table script.runs
  | "scriptextensions" | "scx" => (script? value).map usedIn
  | _ => none

/-- The set named between the braces of a property escape, and whether its complement is meant. -/
def namedProperty? (text : List Char) : Option (Bool × CharSet) :=
  let valued (negated : Bool) (parts : List Char × List Char) : Option (Bool × CharSet) :=
    (valued? (plainName parts.1) (plainName parts.2)).map fun chars => (negated, chars)
  match Text.cutAt ['!', '='] text with
  | some parts => valued true parts
  | none =>
      match (Text.cutAt [':'] text).or (Text.cutAt ['='] text) with
      | some parts => valued false parts
      | none => (alone? (plainName text)).map fun chars => (false, chars)

end Runbook.Pattern
