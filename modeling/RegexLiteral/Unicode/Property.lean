import RegexLiteral.Unicode.Age
import RegexLiteral.Unicode.BinaryProperty
import RegexLiteral.Unicode.Boundary
import RegexLiteral.Unicode.GeneralCategory
import RegexLiteral.Unicode.Script
import RegexLiteral.Unicode.ScriptExtension

/-!
# Classes of the character database

A class is named by a property, by a value of the general category or of the script, or by both a
property and a value. A name alone is taken for a property first, then for a category, then for a
script. Names are compared loosely. The classes are those of version 16.0 of the standard.
-/
namespace RegexLiteral.Unicode

/-- Why a class has no members to tell. -/
inductive PropertyError where
  | unknownProperty
  | unknownValue
  deriving DecidableEq, Repr

/-- The members of the rows of a table that go by one of the short names. -/
def RangeTable.unionOf (table : RangeTable) (short : List String) : CharSet :=
  .ofRanges ((table.filter fun row => short.contains row.short).flatMap fun row =>
    row.charSet.ranges)

/-- The wider categories: their names and the categories that they unite. -/
def widerCategories : List (List String × List String) := [
  (["l", "letter"], ["Lu", "Ll", "Lt", "Lm", "Lo"]),
  (["lc", "casedletter"], ["Lu", "Ll", "Lt"]),
  (["m", "mark", "combiningmark"], ["Mn", "Mc", "Me"]),
  (["n", "number"], ["Nd", "Nl", "No"]),
  (["p", "punctuation", "punct"], ["Pc", "Pd", "Ps", "Pe", "Pi", "Pf", "Po"]),
  (["s", "symbol"], ["Sm", "Sc", "Sk", "So"]),
  (["z", "separator"], ["Zs", "Zl", "Zp"]),
  (["c", "other"], ["Cc", "Cf", "Cn", "Co"]),
  (["cntrl"], ["Cc"]),
  (["digit"], ["Nd"])]

/-- The category that goes by a name in its compared form, if there is one. The surrogates are a
category without characters. -/
def category? (name : Text) : Option (Except PropertyError CharSet) :=
  if name = "any".toList then some (.ok .full)
  else if name = "assigned".toList then
    some (.ok (GeneralCategory.table.unionOf ["Cn"]).complement)
  else if name = "ascii".toList then some (.ok ⟨[⟨0, 0x7F⟩]⟩)
  else if name = "cs".toList || name = "surrogate".toList then some (.error .unknownValue)
  else
    match widerCategories.find? fun p => p.1.any fun n => n.toList = name with
    | some (_, short) => some (.ok (GeneralCategory.table.unionOf short))
    | none => (GeneralCategory.table.row? name).map fun row => .ok row.charSet

/-- The names of scripts that no character has. -/
def emptyScripts : List String := ["zzzz", "unknown", "hrkt", "katakanaorhiragana"]

/-- The name of a script in place of a further one that it has. -/
def scriptAlias (name : Text) : Text :=
  if name = "qaac".toList then "copt".toList
  else if name = "qaai".toList then "zinh".toList
  else name

/-- The script that goes by a name in its compared form, if there is one. -/
def script? (name : Text) : Option (Except PropertyError CharSet) :=
  if emptyScripts.any fun n => n.toList = name then some (.error .unknownValue)
  else (Script.table.row? (scriptAlias name)).map fun row => .ok row.charSet

/-- The characters that are used with a script. -/
def scriptExtension? (name : Text) : Option (Except PropertyError CharSet) :=
  match ScriptExtension.table.row? (scriptAlias name) with
  | some row => some (.ok row.charSet)
  | none => script? name

/-- The characters that a version of the standard knows. -/
def age? (name : Text) : Option CharSet :=
  let older := Age.table.takeWhile fun row => !row.hasName name
  match Age.table.drop older.length with
  | [] => none
  | row :: _ => some (.ofRanges ((row :: older).flatMap fun r => r.charSet.ranges))

/-- The properties that have values and no row in a table here, by their compared names. -/
def otherProperties : List String := [
  "kaccountingnumeric", "cjkaccountingnumeric", "kothernumeric", "cjkothernumeric",
  "kprimarynumeric", "cjkprimarynumeric",
  "nv", "numericvalue", "cf", "casefolding", "cjkcompatibilityvariant", "kcompatibilityvariant",
  "dm", "decompositionmapping", "fcnfkc", "fcnfkcclosure", "lc", "lowercasemapping", "nfkccf",
  "nfkccasefold", "nfkcscf", "nfkcsimplecasefold", "scf", "simplecasefolding", "sfc", "slc",
  "simplelowercasemapping", "stc", "simpletitlecasemapping", "suc", "simpleuppercasemapping",
  "tc", "titlecasemapping", "uc", "uppercasemapping", "bmg", "bidimirroringglyph", "bpb",
  "bidipairedbracket", "cjkiicore", "kiicore", "cjkirggsource", "kirggsource", "cjkirghsource",
  "kirghsource", "cjkirgjsource", "kirgjsource", "cjkirgkpsource", "kirgkpsource",
  "cjkirgksource", "kirgksource", "cjkirgmsource", "kirgmsource", "cjkirgssource", "kirgssource",
  "cjkirgtsource", "kirgtsource", "cjkirguksource", "kirguksource", "cjkirgusource",
  "kirgusource", "cjkirgvsource", "kirgvsource", "cjkrsunicode", "krsunicode",
  "unicoderadicalstroke", "urs", "equideo", "equivalentunifiedideograph", "isc", "ocomment",
  "jsn", "jamoshortname", "kehcat", "kehdesc", "kehhg", "kehifao", "kehjsesh", "na", "name",
  "na1", "unicode1name", "namealias", "blk", "block", "bc", "bidiclass", "bpt",
  "bidipairedbrackettype", "ccc", "canonicalcombiningclass", "dt", "decompositiontype", "ea",
  "eastasianwidth", "hst", "hangulsyllabletype", "incb", "indicconjunctbreak", "inpc",
  "indicpositionalcategory", "insc", "indicsyllabiccategory", "jg", "joininggroup", "jt",
  "joiningtype", "lb", "linebreak", "nfcqc", "nfcquickcheck", "nfdqc", "nfdquickcheck",
  "nfkcqc", "nfkcquickcheck", "nfkdqc", "nfkdquickcheck", "nt", "numerictype", "vo",
  "verticalorientation", "ce", "compositionexclusion", "compex",
  "fullcompositionexclusion", "cwkcf", "changeswhennfkccasefolded", "kehnomirror",
  "kehnorotate", "xonfc", "expandsonnfc", "xonfd", "expandsonnfd", "xonfkc", "expandsonnfkc",
  "xonfkd", "expandsonnfkd", "wspace"]

/-- The properties whose values are told here. -/
inductive ValuedProperty where
  | generalCategory
  | script
  | scriptExtensions
  | age
  | graphemeClusterBreak
  | wordBreak
  | sentenceBreak
  deriving DecidableEq, Repr

def ValuedProperty.ofName? (name : Text) : Option ValuedProperty :=
  [(["gc", "generalcategory"], generalCategory), (["sc", "script"], script),
    (["scx", "scriptextensions"], scriptExtensions), (["age"], age),
    (["gcb", "graphemeclusterbreak"], graphemeClusterBreak), (["wb", "wordbreak"], wordBreak),
    (["sb", "sentencebreak"], sentenceBreak)].findSome?
    fun (names, p) => if names.any fun n => n.toList = name then some p else none

/-- Whether a name in its compared form is that of a property without values told here. -/
def isOtherProperty (name : Text) : Bool :=
  (BinaryProperty.table.row? name).isSome || otherProperties.any fun n => n.toList = name

/-- The names that a category has though a property has them too. -/
def categoryFirst : List String := ["cf", "sc", "lc"]

/-- The class that goes by one name. -/
def classNamed (name : Text) : Except PropertyError CharSet :=
  let name := looseName name
  let rest :=
    match category? name with
    | some r => r
    | none =>
      match script? name with
      | some r => r
      | none => .error .unknownProperty
  if categoryFirst.any fun n => n.toList = name then rest
  else if name = "wspace".toList then .ok (BinaryProperty.table.unionOf ["space"])
  else
    match BinaryProperty.table.row? name with
    | some row => .ok row.charSet
    | none =>
      if (ValuedProperty.ofName? name).isSome || isOtherProperty name then
        .error .unknownProperty
      else rest

/-- The members of a row of a table of values. -/
def valueIn (table : RangeTable) (value : Text) : Except PropertyError CharSet :=
  match table.row? value with
  | some row => .ok row.charSet
  | none => .error .unknownValue

/-- The class of the characters for which a property has a value. -/
def classValued (property value : Text) : Except PropertyError CharSet :=
  let property := looseName property
  let value := looseName value
  match ValuedProperty.ofName? property with
  | some .generalCategory => (category? value).getD (.error .unknownValue)
  | some .script => (script? value).getD (.error .unknownValue)
  | some .scriptExtensions => (scriptExtension? value).getD (.error .unknownValue)
  | some .age =>
    match age? value with
    | some s => .ok s
    | none => .error .unknownValue
  | some .graphemeClusterBreak => valueIn Boundary.grapheme value
  | some .wordBreak => valueIn Boundary.word value
  | some .sentenceBreak => valueIn Boundary.sentence value
  | none => .error (if isOtherProperty property then .unknownValue else .unknownProperty)

/-- The decimal digits. -/
def digits : CharSet := GeneralCategory.table.unionOf ["Nd"]

/-- White space. -/
def spaces : CharSet := BinaryProperty.table.unionOf ["space"]

/-- The characters of words: letters, marks, decimal digits, connectors and joiners. -/
def wordChars : CharSet :=
  .union (BinaryProperty.table.unionOf ["Alpha", "Join_C"])
    (GeneralCategory.table.unionOf ["Mn", "Mc", "Me", "Nd", "Pc"])

end RegexLiteral.Unicode
