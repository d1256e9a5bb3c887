import Reroute.Regex.CharSet

/-!
# Sets by name

A set is named by a general category, by a property, by a script, or by a property and one of its values.  Names are
compared in a loose spelling.
-/

namespace Reroute.Regex

open Reroute.Text

/-- The spelling under which names are compared: small ASCII letters without blanks, underscores and dashes, and
without an `is` at the very front.  A lone `c` behind it keeps it, because that is a property of its own. -/
def propertySpelling (name : String) : String :=
  let (marked, body) := match name.toList with
    | a :: b :: rest => if a.toLower = 'i' ∧ b.toLower = 's' then (true, rest) else (false, a :: b :: rest)
    | cs => (false, cs)
  let kept := (body.filter fun c => c.toNat < 128 && c != ' ' && c != '_' && c != '-').map Char.toLower
  if marked && kept == ['c'] then "isc" else String.ofList kept

/-! ### General categories -/

/-- The general categories that a name stands for. -/
def categories? (spelling : String) : Option (List Category) :=
  match spelling with
  | "l" | "letter" => some [.lu, .ll, .lt, .lm, .lo]
  | "lc" | "casedletter" => some [.lu, .ll, .lt]
  | "lu" | "uppercaseletter" => some [.lu]
  | "ll" | "lowercaseletter" => some [.ll]
  | "lt" | "titlecaseletter" => some [.lt]
  | "lm" | "modifierletter" => some [.lm]
  | "lo" | "otherletter" => some [.lo]
  | "m" | "mark" | "combiningmark" => some [.mn, .mc, .me]
  | "mn" | "nonspacingmark" => some [.mn]
  | "mc" | "spacingmark" => some [.mc]
  | "me" | "enclosingmark" => some [.me]
  | "n" | "number" => some [.nd, .nl, .no]
  | "nd" | "decimalnumber" | "digit" => some [.nd]
  | "nl" | "letternumber" => some [.nl]
  | "no" | "othernumber" => some [.no]
  | "p" | "punctuation" | "punct" => some [.pc, .pd, .ps, .pe, .pi, .pf, .po]
  | "pc" | "connectorpunctuation" => some [.pc]
  | "pd" | "dashpunctuation" => some [.pd]
  | "ps" | "openpunctuation" => some [.ps]
  | "pe" | "closepunctuation" => some [.pe]
  | "pi" | "initialpunctuation" => some [.pi]
  | "pf" | "finalpunctuation" => some [.pf]
  | "po" | "otherpunctuation" => some [.po]
  | "s" | "symbol" => some [.sm, .sc, .sk, .so]
  | "sm" | "mathsymbol" => some [.sm]
  | "sc" | "currencysymbol" => some [.sc]
  | "sk" | "modifiersymbol" => some [.sk]
  | "so" | "othersymbol" => some [.so]
  | "z" | "separator" => some [.zs, .zl, .zp]
  | "zs" | "spaceseparator" => some [.zs]
  | "zl" | "lineseparator" => some [.zl]
  | "zp" | "paragraphseparator" => some [.zp]
  | "c" | "other" => some [.cc, .cf, .cs, .co, .cn]
  | "cc" | "control" | "cntrl" => some [.cc]
  | "cf" | "format" => some [.cf]
  | "co" | "privateuse" => some [.co]
  | "cn" | "unassigned" => some [.cn]
  | _ => none

/-- The set that a general category's name stands for, where three names are no categories but stand among them. -/
def categorySet? (spelling : String) : Option CharSet :=
  match spelling with
  | "any" => some .any
  | "ascii" => some (.ofRanges [(0, 127)])
  | "assigned" => some (.complement (.ofCategories [.cn]))
  | _ => (categories? spelling).map .ofCategories

/-! ### Properties that characters have or have not -/

/-- The letters that change in title case: those that have a capital form of more or another kind, up to the listed
ones. -/
def changesWhenTitled : CharSet :=
  .union [.ofRanges [(0x1C4, 0x1C4), (0x1C7, 0x1C7), (0x1CA, 0x1CA), (0x1F1, 0x1F1)],
    .without (.property .changesWhenUpper) (.ofRanges [(0x1C5, 0x1C5), (0x1C8, 0x1C8), (0x1CB, 0x1CB), (0x1F2, 0x1F2),
      (0x10D0, 0x10FA), (0x10FD, 0x10FF), (0x1F88, 0x1F8F), (0x1F98, 0x1F9F), (0x1FA8, 0x1FAF), (0x1FBC, 0x1FBC),
      (0x1FCC, 0x1FCC), (0x1FFC, 0x1FFC)])]

/-- The letters that change when case does not count, also those that then become several. -/
def changesWhenCaseFolded : CharSet :=
  .union [.ofRanges [(0xDF, 0xDF), (0x130, 0x130), (0x149, 0x149), (0x587, 0x587), (0x1E9A, 0x1E9A), (0x1F80, 0x1F87),
      (0x1F90, 0x1F97), (0x1FA0, 0x1FA7), (0x1FB2, 0x1FB4), (0x1FB7, 0x1FB7), (0x1FC2, 0x1FC4), (0x1FC7, 0x1FC7),
      (0x1FF2, 0x1FF4), (0x1FF7, 0x1FF7), (0xFB00, 0xFB04), (0xFB06, 0xFB06), (0xFB13, 0xFB17)],
    .without (.property .changesWhenFolded) (.ofRanges [(0x1FBE, 0x1FBE), (0x1FD3, 0x1FD3), (0x1FE3, 0x1FE3)])]

/-- The set of a property that characters have or have not. -/
def binarySet? (spelling : String) : Option CharSet :=
  match spelling with
  | "alphabetic" | "alpha" => some (.property .alphabetic)
  | "otheralphabetic" | "oalpha" => some (.ofRanges otherAlphabetic)
  | "lowercase" | "lower" => some (.property .lowercase)
  | "otherlowercase" | "olower" => some (.ofRanges otherLowercase)
  | "uppercase" | "upper" => some (.property .uppercase)
  | "otheruppercase" | "oupper" => some (.ofRanges otherUppercase)
  | "whitespace" | "space" | "wspace" => some (.property .blank)
  | "cased" => some (.property .cased)
  | "caseignorable" | "ci" => some (.property .caseIgnorable)
  | "othermath" | "omath" => some (.without (.ofRanges rangesMath) (.ofCategories [.sm]))
  | "graphemeextend" | "grext" => some (.property .graphemeExtend)
  | "othergraphemeextend" | "ogrext" => some (.ofRanges otherGraphemeExtend)
  | "graphemebase" | "grbase" =>
    some (.complement (.union [.ofCategories [.cc, .cf, .cs, .co, .cn, .zl, .zp], .property .graphemeExtend]))
  | "idstart" | "ids" => some (.property .idStart)
  | "otheridstart" | "oids" => some (.ofRanges otherIdStart)
  | "idcontinue" | "idc" => some (.property .idContinue)
  | "otheridcontinue" | "oidc" => some (.ofRanges otherIdContinue)
  | "xidstart" | "xids" => some (.property .xidStart)
  | "xidcontinue" | "xidc" => some (.property .xidContinue)
  | "changeswhenlowercased" | "cwl" => some (.property .changesWhenLower)
  | "changeswhenuppercased" | "cwu" => some (.property .changesWhenUpper)
  | "changeswhentitlecased" | "cwt" => some changesWhenTitled
  | "changeswhencasefolded" | "cwcf" => some changesWhenCaseFolded
  | "changeswhencasemapped" | "cwcm" => some (.union [.property .changesWhenLower, .property .changesWhenUpper])
  | _ => (binaryProperties.find? (·.1.contains spelling)).map fun entry => .ofRanges entry.2

/-! ### Names and values -/

/-- The set that a name stands for: a category, a property or a script, in this order. -/
def namedSet? (name : String) : Option CharSet :=
  let spelling := propertySpelling name
  (categorySet? spelling).orElse fun _ => (binarySet? spelling).orElse fun _ =>
    (script? spelling).map fun number => .property (.script number)

/-- The set that a property and its value stand for. -/
def valueSet? (name value : String) : Option CharSet :=
  let value := propertySpelling value
  match propertySpelling name with
  | "gc" | "generalcategory" => categorySet? value
  | "sc" | "script" => (script? value).map fun number => .property (.script number)
  | "scx" | "scriptextensions" => (script? value).map fun number => .property (.usedWith number)
  | "age" => (version? value).map fun version => .property (.assignedBy version)
  | "gcb" | "graphemeclusterbreak" => (GraphemeBreak.ofSpelling? value).map fun kind => .property (.graphemeBreak kind)
  | "wb" | "wordbreak" => (WordBreak.ofSpelling? value).map fun kind => .property (.wordBreak kind)
  | "sb" | "sentencebreak" => (SentenceBreak.ofSpelling? value).map fun kind => .property (.sentenceBreak kind)
  | _ => none

end Reroute.Regex
