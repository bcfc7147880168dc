import GivenNames.Text.Blank
import GivenNames.Unicode.AgeTable
import GivenNames.Unicode.Category
import GivenNames.Unicode.Folding
import GivenNames.Unicode.PropertyTable
import GivenNames.Unicode.ScriptTable

/-!
Properties of code points by name.

A property is named alone, such as a category, a script or a truth of its own, or with a value. In
names only letters and digits count, and small and capital letters are the same. Properties are
those of one version of the standard: what was assigned later counts as unassigned.
-/

namespace GivenNames.Unicode

/-- A set of code points. -/
abbrev CodePoints := Nat → Bool

/-! ### Versions -/

/-- The ages of all code points, as places in the list of versions; `none` where not assigned. -/
def ageRuns : Runs (Option Nat) :=
  Runs.ofText
    (fun word =>
      if word = "-" then some none
      else (versionLetters.findIdx? fun (letter, _) => letter == word).map some)
    ageRunText

/-- Whether a code point was assigned by the version at a place in the list. -/
def isAssignedBy (version n : Nat) : Bool :=
  ((ageRuns.find? n).getD none).any fun age => age ≤ version

/-- The place of the version that properties are taken from, 16.0. -/
def propertyVersion : Nat := 26

/-- The general category of a code point in the version of the properties. -/
def propertyCategory (n : Nat) : Category :=
  if isAssignedBy propertyVersion n then Category.ofCodePoint n else .cn

/-- The code points of the given categories. -/
def ofCategories (categories : List Category) : CodePoints :=
  fun n => categories.contains (propertyCategory n)

/-- The code points that have a truth, of those that are assigned. -/
def assigned (truth : CodePoints) : CodePoints :=
  fun n => isAssignedBy propertyVersion n && truth n

/-! ### Categories -/

open Category in
/-- The categories and their groups, by the names that they go by. -/
def categoryNames : List (List String × List Category) :=
  [(["l", "letter"], [lu, ll, lt, lm, lo]),
    (["lc", "casedletter"], [lu, ll, lt]),
    (["lu", "uppercaseletter"], [lu]),
    (["ll", "lowercaseletter"], [ll]),
    (["lt", "titlecaseletter"], [lt]),
    (["lm", "modifierletter"], [lm]),
    (["lo", "otherletter"], [lo]),
    (["m", "mark", "combiningmark"], [mn, mc, me]),
    (["mn", "nonspacingmark"], [mn]),
    (["mc", "spacingmark"], [mc]),
    (["me", "enclosingmark"], [me]),
    (["n", "number"], [nd, nl, no]),
    (["nd", "decimalnumber", "digit"], [nd]),
    (["nl", "letternumber"], [nl]),
    (["no", "othernumber"], [no]),
    (["p", "punctuation", "punct"], [pc, pd, ps, pe, pi, pf, po]),
    (["pc", "connectorpunctuation"], [pc]),
    (["pd", "dashpunctuation"], [pd]),
    (["ps", "openpunctuation"], [ps]),
    (["pe", "closepunctuation"], [pe]),
    (["pi", "initialpunctuation"], [pi]),
    (["pf", "finalpunctuation"], [pf]),
    (["po", "otherpunctuation"], [po]),
    (["s", "symbol"], [sm, sc, sk, so]),
    (["sm", "mathsymbol"], [sm]),
    (["sc", "currencysymbol"], [sc]),
    (["sk", "modifiersymbol"], [sk]),
    (["so", "othersymbol"], [so]),
    (["z", "separator"], [zs, zl, zp]),
    (["zs", "spaceseparator"], [zs]),
    (["zl", "lineseparator"], [zl]),
    (["zp", "paragraphseparator"], [zp]),
    (["isc", "other"], [cc, cf, co, cn]),
    (["cc", "control", "cntrl"], [cc]),
    (["cf", "format"], [cf]),
    (["cn", "unassigned"], [cn]),
    (["co", "privateuse"], [co])]

/-- The code points of a category or a group of them, or of all, the assigned or the first ones. -/
def categoryNamed? (name : String) : Option CodePoints :=
  if name = "any" then some fun _ => true
  else if name = "assigned" then some fun n => propertyCategory n != .cn
  else if name = "ascii" then some fun n => n < 0x80
  else
    (categoryNames.find? fun (names, _) => names.contains name).map fun (_, categories) =>
      ofCategories categories

/-! ### Scripts -/

/-- The scripts of all code points by their codes. -/
def scriptRuns : Runs String :=
  Runs.ofText some scriptRunText

/-- The script of a code point. -/
def scriptOf (n : Nat) : String :=
  (scriptRuns.find? n).getD "Zzzz"

/-- The code of the script that goes by a name. -/
def scriptNamed? (name : String) : Option String :=
  (scriptNames.find? fun (code, names) =>
    code.toList.map Char.toLower == name.toList || names.contains name).map Prod.fst

/-- The scripts that no code point is said to have by name. -/
def isUnusedScript (code : String) : Bool :=
  code == "Zzzz" || code == "Hrkt"

/-- The code points of a script. -/
def ofScript (code : String) : CodePoints :=
  fun n => scriptOf n == code

/-- The code points that are written in a script, among others or alone. -/
def writtenIn (code : String) : CodePoints :=
  fun n =>
    match scriptExtensionRanges.find? fun (lo, hi, _) => lo ≤ n && n ≤ hi with
    | some (_, _, codes) => codes.contains code
    | none => scriptOf n == code

/-! ### Truths -/

/-- The members of closed ranges. -/
def ofRanges (ranges : List (Nat × Nat)) : CodePoints :=
  fun n => inRanges ranges n

def alphabeticMarks : Runs Bool := setOfText alphabeticMarkText

/-- The property Alphabetic. -/
def isAlphabetic : CodePoints :=
  fun n => ofCategories [.lu, .ll, .lt, .lm, .lo, .nl] n || alphabeticMarks.holds n

/-- The code points that join or part the letters around them. -/
def isJoinControl : CodePoints :=
  ofRanges [(0x200C, 0x200D)]

/-- The code points of words: what is alphabetic, marks, decimal digits, connectors. -/
def isWord : CodePoints :=
  fun n => isAlphabetic n || ofCategories [.mn, .mc, .me, .nd, .pc] n || isJoinControl n

/-- The property ID_Start. -/
def isIdStart : CodePoints :=
  fun n =>
    (ofCategories [.lu, .ll, .lt, .lm, .lo, .nl] n && n != 0x2E2F)
      || inRanges [(0x1885, 0x1886), (0x2118, 0x2118), (0x212E, 0x212E), (0x309B, 0x309C)] n

/-- The property ID_Continue. -/
def isIdContinue : CodePoints :=
  fun n =>
    isIdStart n || ofCategories [.mn, .mc, .nd, .pc] n
      || inRanges [(0xB7, 0xB7), (0x387, 0x387), (0x1369, 0x1371), (0x19DA, 0x19DA),
        (0x200C, 0x200D), (0x30FB, 0x30FB), (0xFF65, 0xFF65)] n

/-- Letters that fall apart into others that no name begins with, or goes on with. -/
def isSplitLetter : CodePoints :=
  ofRanges [(0x37A, 0x37A), (0x309B, 0x309C), (0xFC5E, 0xFC63), (0xFDFA, 0xFDFB), (0xFE70, 0xFE70),
    (0xFE72, 0xFE72), (0xFE74, 0xFE74), (0xFE76, 0xFE76), (0xFE78, 0xFE78), (0xFE7A, 0xFE7A),
    (0xFE7C, 0xFE7C), (0xFE7E, 0xFE7E)]

/-- Letters that fall apart into others that no name begins with. -/
def isSplitFirstLetter : CodePoints :=
  fun n => isSplitLetter n
    || inRanges [(0xE33, 0xE33), (0xEB3, 0xEB3), (0xFF9E, 0xFF9F)] n

/-- The property Grapheme_Base. -/
def isGraphemeBase : CodePoints :=
  fun n => !ofCategories [.cc, .cf, .cs, .co, .cn, .zl, .zp] n && !isGraphemeExtend n

/-- Small letters whose capital form is written with more than one letter. -/
def wideCapitalRanges : List (Nat × Nat) :=
  [(0xDF, 0xDF), (0x149, 0x149), (0x1F0, 0x1F0), (0x390, 0x390), (0x3B0, 0x3B0), (0x587, 0x587),
    (0x1E96, 0x1E9A), (0x1F50, 0x1F50), (0x1F52, 0x1F52), (0x1F54, 0x1F54), (0x1F56, 0x1F56),
    (0x1FB2, 0x1FB2), (0x1FB4, 0x1FB4), (0x1FB6, 0x1FB7), (0x1FC2, 0x1FC2), (0x1FC4, 0x1FC4),
    (0x1FC6, 0x1FC7), (0x1FD2, 0x1FD3), (0x1FD6, 0x1FD7), (0x1FE2, 0x1FE4), (0x1FE6, 0x1FE7),
    (0x1FF2, 0x1FF2), (0x1FF4, 0x1FF4), (0x1FF6, 0x1FF7), (0xFB00, 0xFB06), (0xFB13, 0xFB17)]

/-- Small letters that a capital letter does not lead to, but that lead to one. -/
def sharedCapitalRanges : List (Nat × Nat) :=
  [(0xB5, 0xB5), (0x131, 0x131), (0x17F, 0x17F), (0x345, 0x345), (0x3C2, 0x3C2), (0x3D0, 0x3D1),
    (0x3D5, 0x3D6), (0x3F0, 0x3F1), (0x3F5, 0x3F5), (0x1C80, 0x1C88), (0x1E9B, 0x1E9B),
    (0x1FBE, 0x1FBE)]

/-- Letters that begin a word as they are and still have a capital form. -/
def titleRanges : List (Nat × Nat) :=
  [(0x1C5, 0x1C5), (0x1C8, 0x1C8), (0x1CB, 0x1CB), (0x1F2, 0x1F2), (0x1F88, 0x1F8F),
    (0x1F98, 0x1F9F), (0x1FA8, 0x1FAF), (0x1FBC, 0x1FBC), (0x1FCC, 0x1FCC), (0x1FFC, 0x1FFC)]

/-- Georgian letters, which do not become capitals at the front of a word. -/
def georgianRanges : List (Nat × Nat) :=
  [(0x10D0, 0x10FA), (0x10FD, 0x10FF)]

/-- The property Changes_When_Lowercased. -/
def changesWhenLowercased : CodePoints :=
  assigned fun n => n == 0x130 || (capitalRun? n).isSome

/-- The property Changes_When_Uppercased. -/
def changesWhenUppercased : CodePoints :=
  assigned fun n =>
    inRanges wideCapitalRanges n || inRanges sharedCapitalRanges n || inRanges titleRanges n
      || capitalRuns.any fun r => (r.source? n).isSome

/-- The property Changes_When_Titlecased. -/
def changesWhenTitlecased : CodePoints :=
  fun n =>
    (changesWhenUppercased n && !inRanges titleRanges n && !inRanges georgianRanges n)
      || [0x1C4, 0x1C7, 0x1CA, 0x1F1].contains n

/-- The property Changes_When_Casefolded. -/
def changesWhenCasefolded : CodePoints :=
  assigned fun n =>
    (fold n != n && n != 0x1FBE)
      || inRanges [(0xDF, 0xDF), (0x130, 0x130), (0x149, 0x149), (0x587, 0x587), (0x1E9A, 0x1E9A),
        (0x1F80, 0x1FAF), (0x1FB2, 0x1FB4), (0x1FB7, 0x1FB7), (0x1FC2, 0x1FC4), (0x1FC7, 0x1FC7),
        (0x1FF2, 0x1FF4), (0x1FF7, 0x1FF7), (0xFB00, 0xFB06), (0xFB13, 0xFB17)] n

def otherMath : Runs Bool := setOfText mathText

/-- The property Math. -/
def isMath : CodePoints :=
  fun n => ofCategories [.sm] n || otherMath.holds n

/-- The property Dash. -/
def isDash : CodePoints :=
  fun n => (ofCategories [.pd] n && n != 0x10D6E)
    || [0x2053, 0x207B, 0x208B, 0x2212].contains n

/-- The truths by the names that they go by. -/
def truthNames : List (List String × CodePoints) :=
  [(["ahex", "asciihexdigit"], ofRanges [(0x30, 0x39), (0x41, 0x46), (0x61, 0x66)]),
    (["alpha", "alphabetic"], isAlphabetic),
    (["bidic", "bidicontrol"],
      ofRanges [(0x61C, 0x61C), (0x200E, 0x200F), (0x202A, 0x202E), (0x2066, 0x2069)]),
    (["bidim", "bidimirrored"], (setOfText bidiMirroredText).holds),
    (["ci", "caseignorable"], assigned isCaseIgnorable),
    (["cased"], assigned isCased),
    (["cwcf", "changeswhencasefolded"], changesWhenCasefolded),
    (["cwcm", "changeswhencasemapped"],
      fun n => changesWhenLowercased n || changesWhenUppercased n || changesWhenTitlecased n),
    (["cwl", "changeswhenlowercased"], changesWhenLowercased),
    (["cwt", "changeswhentitlecased"], changesWhenTitlecased),
    (["cwu", "changeswhenuppercased"], changesWhenUppercased),
    (["dash"], isDash),
    (["di", "defaultignorablecodepoint"], (setOfText defaultIgnorableText).holds),
    (["dep", "deprecated"], (setOfText deprecatedText).holds),
    (["dia", "diacritic"], (setOfText diacriticText).holds),
    (["emoji"], (setOfText emojiText).holds),
    (["ecomp", "emojicomponent"], (setOfText emojiComponentText).holds),
    (["emod", "emojimodifier"], ofRanges [(0x1F3FB, 0x1F3FF)]),
    (["ebase", "emojimodifierbase"], (setOfText emojiModifierBaseText).holds),
    (["epres", "emojipresentation"], (setOfText emojiPresentationText).holds),
    (["extpict", "extendedpictographic"], (setOfText extendedPictographicText).holds),
    (["ext", "extender"], (setOfText extenderText).holds),
    (["grbase", "graphemebase"], isGraphemeBase),
    (["grext", "graphemeextend"], assigned isGraphemeExtend),
    (["hex", "hexdigit"],
      ofRanges [(0x30, 0x39), (0x41, 0x46), (0x61, 0x66), (0xFF10, 0xFF19), (0xFF21, 0xFF26),
        (0xFF41, 0xFF46)]),
    (["idsb", "idsbinaryoperator"],
      ofRanges [(0x2FF0, 0x2FF1), (0x2FF4, 0x2FFD), (0x31EF, 0x31EF)]),
    (["idst", "idstrinaryoperator"], ofRanges [(0x2FF2, 0x2FF3)]),
    (["idsu", "idsunaryoperator"], ofRanges [(0x2FFE, 0x2FFF)]),
    (["idc", "idcontinue"], isIdContinue),
    (["ids", "idstart"], isIdStart),
    (["ideo", "ideographic"], (setOfText ideographicText).holds),
    (["joinc", "joincontrol"], isJoinControl),
    (["loe", "logicalorderexception"], (setOfText logicalOrderExceptionText).holds),
    (["lower", "lowercase"], assigned isLowercase),
    (["math"], isMath),
    (["nchar", "noncharactercodepoint"],
      fun n => inRanges [(0xFDD0, 0xFDEF)] n || 0xFFFE ≤ n % 0x10000),
    (["patsyn", "patternsyntax"], (setOfText patternSyntaxText).holds),
    (["patws", "patternwhitespace"],
      ofRanges [(0x9, 0xD), (0x20, 0x20), (0x85, 0x85), (0x200E, 0x200F), (0x2028, 0x2029)]),
    (["pcm", "prependedconcatenationmark"], (setOfText prependedConcatenationMarkText).holds),
    (["qmark", "quotationmark"], (setOfText quotationMarkText).holds),
    (["radical"], (setOfText radicalText).holds),
    (["ri", "regionalindicator"], ofRanges [(0x1F1E6, 0x1F1FF)]),
    (["sterm", "sentenceterminal"], (setOfText sentenceTerminalText).holds),
    (["sd", "softdotted"], (setOfText softDottedText).holds),
    (["term", "terminalpunctuation"], (setOfText terminalPunctuationText).holds),
    (["uideo", "unifiedideograph"], (setOfText unifiedIdeographText).holds),
    (["upper", "uppercase"], assigned isUppercase),
    (["vs", "variationselector"],
      ofRanges [(0x180B, 0x180D), (0x180F, 0x180F), (0xFE00, 0xFE0F), (0xE0100, 0xE01EF)]),
    (["wspace", "whitespace", "space"], fun n => Text.isBlank (Char.ofNat n)),
    (["xidc", "xidcontinue"], fun n => isIdContinue n && !isSplitLetter n),
    (["xids", "xidstart"], fun n => isIdStart n && !isSplitFirstLetter n)]

/-- The code points that have a truth. -/
def truthNamed? (name : String) : Option CodePoints :=
  (truthNames.find? fun (names, _) => names.contains name).map Prod.snd

/-! ### Names -/

/-- Why a name stands for no property. -/
inductive PropertyFault where
  | noProperty
  | noValue
  deriving DecidableEq, Repr

/-- The letters of a name that count, without "is" in front. The name "isc" is a category's own. -/
def plainName (name : String) : String :=
  let starts := match name.toList with
    | a :: b :: _ => a.toLower == 'i' && b.toLower == 's'
    | _ => false
  let counted := ((if starts then name.toList.drop 2 else name.toList).filter fun c =>
    c != ' ' && c != '_' && c != '-' && c.toNat < 0x80).map Char.toLower
  if starts && counted == ['c'] then "isc" else String.ofList counted

/-- The property that a plain name stands for alone. -/
def propertyOfPlain (name : String) : Except PropertyFault CodePoints :=
  match truthNamed? name with
  | some set => .ok set
  | none =>
    if name = "cs" ∨ name = "surrogate" then .error .noValue
    else
      match categoryNamed? name with
      | some set => .ok set
      | none =>
        match scriptNamed? name with
        | none => .error .noProperty
        | some code => if isUnusedScript code then .error .noValue else .ok (ofScript code)

/-- The property that a name stands for alone. -/
def propertyNamed (name : String) : Except PropertyFault CodePoints :=
  propertyOfPlain (plainName name)

/-- The set of scripts' code points, by how those are told from a code. -/
def scriptValue (set : String → CodePoints) (value : String) : Except PropertyFault CodePoints :=
  match scriptNamed? value with
  | none => .error .noValue
  | some code => if isUnusedScript code then .error .noValue else .ok (set code)

/-- The code points that were assigned by a version, which goes by its number or by a v and its
digits. -/
def ageValue (value : String) : Except PropertyFault CodePoints :=
  match versionLetters.findIdx? fun (_, version) =>
      version == value || String.ofList ('v' :: version.toList.filter (· != '.')) == value with
  | some version =>
    if version ≤ propertyVersion then .ok (isAssignedBy version) else .error .noValue
  | none => .error .noValue

/-- The property that a name stands for with a value. -/
def propertyWithValue (name value : String) : Except PropertyFault CodePoints :=
  let name := plainName name
  let value := plainName value
  if name = "gc" ∨ name = "generalcategory" then
    match categoryNamed? value with
    | some set => .ok set
    | none => .error .noValue
  else if name = "sc" ∨ name = "script" then scriptValue ofScript value
  else if name = "scx" ∨ name = "scriptextensions" then scriptValue writtenIn value
  else if name = "age" then ageValue value
  else if (truthNamed? name).isSome then .error .noValue
  else .error .noProperty

end GivenNames.Unicode
