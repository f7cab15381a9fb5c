import InputDocs.Pattern
import InputDocs.Unicode.Alphanumeric

/-!
# Pattern.Property -- the names of character properties

A property is asked for by a name alone (`Greek`, `Lu`, `Alphabetic`) or by a name and a value
(`Script=Greek`). Names are compared loosely: case, blanks, hyphens, underscores and a leading
`is` do not matter (`looseName`). A name alone is that of a property that holds or fails of each
character, of a general category or of a script, in this order; with a value it is that of a
property of the second table.

`PropertyName.members?` is the set, or nothing for a name that is not known. The sets of general
categories and a few others are tabulated; every other property counts as one interval, which is
enough to tell a pattern of ordinary size from one that is too large.
-/

namespace InputDocs.Pattern

set_option autoImplicit false

open Unicode (Ranges)

/-! ## Loose names -/

/-- What is compared of a name: its ASCII characters, in lower case, less the marks that part
words and a leading `is`. The name `isc` is one of its own. -/
def looseName (name : List Char) : String :=
  let fold := fun (text : List Char) =>
    (text.filter fun c => c.toNat < 128 && c != ' ' && c != '_' && c != '-').map Char.toLower
  match name with
  | first :: second :: rest =>
    if first.toLower = 'i' ∧ second.toLower = 's' then
      let short := fold rest
      String.ofList (if short = ['c'] then ['i', 's', 'c'] else short)
    else String.ofList (fold name)
  | _ => String.ofList (fold name)

/-- Whether a table of loose names, parted by blanks, lists the name. -/
def lists (table : List String) (name : String) : Bool :=
  table.any fun line => (line.toList.splitOn ' ').contains name.toList

/-! ## The tables -/

/-- Properties that hold or fail of each character. -/
def properties : List String :=
  [ "ahex asciihexdigit alpha alphabetic bidic bidicontrol bidim bidimirrored ci caseignorable",
    "cased cwcf changeswhencasefolded cwcm changeswhencasemapped cwl changeswhenlowercased cwt",
    "changeswhentitlecased cwu changeswhenuppercased dash di defaultignorablecodepoint dep",
    "deprecated dia diacritic emoji ecomp emojicomponent emod emojimodifier ebase",
    "emojimodifierbase epres emojipresentation extpict extendedpictographic ext extender grbase",
    "graphemebase grext graphemeextend grlink graphemelink hex hexdigit hyphen idsb",
    "idsbinaryoperator idst idstrinaryoperator idsu idsunaryoperator idcompatmathstart",
    "idcompatmathcontinue idc idcontinue ids idstart ideo ideographic joinc joincontrol loe",
    "logicalorderexception lower lowercase math mcm modifiercombiningmark nchar",
    "noncharactercodepoint oalpha otheralphabetic odi otherdefaultignorablecodepoint ogrext",
    "othergraphemeextend oidc otheridcontinue oids otheridstart olower otherlowercase omath",
    "othermath oupper otheruppercase patsyn patternsyntax patws patternwhitespace pcm",
    "prependedconcatenationmark qmark quotationmark radical ri regionalindicator sterm",
    "sentenceterminal sd softdotted term terminalpunctuation uideo unifiedideograph upper",
    "uppercase vs variationselector wspace whitespace space xidc xidcontinue xids xidstart" ]

/-- The general categories: their names, and the listed categories that make them up. -/
def categories : List (String × List String) :=
  [ ("cc control cntrl", ["Cc"]), ("cf format", ["Cf"]), ("co privateuse", ["Co"]),
    ("l letter", ["Lu", "Ll", "Lt", "Lm", "Lo"]), ("lc casedletter", ["Lu", "Ll", "Lt"]),
    ("ll lowercaseletter", ["Ll"]), ("lm modifierletter", ["Lm"]), ("lo otherletter", ["Lo"]),
    ("lt titlecaseletter", ["Lt"]), ("lu uppercaseletter", ["Lu"]),
    ("m mark combiningmark", ["Mn", "Mc", "Me"]), ("mc spacingmark", ["Mc"]),
    ("me enclosingmark", ["Me"]), ("mn nonspacingmark", ["Mn"]),
    ("n number", ["Nd", "Nl", "No"]), ("nd decimalnumber digit", ["Nd"]),
    ("nl letternumber", ["Nl"]), ("no othernumber", ["No"]),
    ("p punctuation punct", ["Pc", "Pd", "Pe", "Pf", "Pi", "Po", "Ps"]),
    ("pc connectorpunctuation", ["Pc"]), ("pd dashpunctuation", ["Pd"]),
    ("pe closepunctuation", ["Pe"]), ("pf finalpunctuation", ["Pf"]),
    ("pi initialpunctuation", ["Pi"]), ("po otherpunctuation", ["Po"]),
    ("ps openpunctuation", ["Ps"]), ("s symbol", ["Sc", "Sk", "Sm", "So"]),
    ("sc currencysymbol", ["Sc"]), ("sk modifiersymbol", ["Sk"]), ("sm mathsymbol", ["Sm"]),
    ("so othersymbol", ["So"]), ("z separator", ["Zs", "Zl", "Zp"]),
    ("zl lineseparator", ["Zl"]), ("zp paragraphseparator", ["Zp"]),
    ("zs spaceseparator", ["Zs"]) ]

/-- Scripts, by their long names and by their codes. -/
def scripts : List String :=
  [ "adlm adlam aghb caucasianalbanian ahom arab arabic armi imperialaramaic armn armenian",
    "avst avestan bali balinese bamu bamum bass bassavah batk batak beng bengali bhks",
    "bhaiksuki bopo bopomofo brah brahmi brai braille bugi buginese buhd buhid cakm chakma",
    "cans canadianaboriginal cari carian cham cher cherokee chrs chorasmian copt coptic qaac",
    "cpmn cyprominoan cprt cypriot cyrl cyrillic deva devanagari diak divesakuru dogr dogra",
    "dsrt deseret dupl duployan egyp egyptianhieroglyphs elba elbasan elym elymaic ethi",
    "ethiopic geor georgian glag glagolitic gong gunjalagondi gonm masaramgondi goth gothic",
    "gran grantha grek greek gujr gujarati guru gurmukhi hang hangul hani han hano hanunoo",
    "hatr hatran hebr hebrew hira hiragana hluw anatolianhieroglyphs hmng pahawhhmong hmnp",
    "nyiakengpuachuehmong hung oldhungarian ital olditalic java javanese kali kayahli kana",
    "katakana kawi khar kharoshthi khmr khmer khoj khojki kits khitansmallscript knda kannada",
    "kthi kaithi lana taitham laoo lao latn latin lepc lepcha limb limbu lina lineara linb",
    "linearb lisu lyci lycian lydi lydian mahj mahajani maka makasar mand mandaic mani",
    "manichaean marc marchen medf medefaidrin mend mendekikakui merc meroiticcursive mero",
    "meroitichieroglyphs mlym malayalam modi mong mongolian mroo mro mtei meeteimayek mult",
    "multani mymr myanmar nagm nagmundari nand nandinagari narb oldnortharabian nbat",
    "nabataean newa nkoo nko nshu nushu ogam ogham olck olchiki orkh oldturkic orya oriya",
    "osge osage osma osmanya ougr olduyghur palm palmyrene pauc paucinhau perm oldpermic phag",
    "phagspa phli inscriptionalpahlavi phlp psalterpahlavi phnx phoenician plrd miao prti",
    "inscriptionalparthian rjng rejang rohg hanifirohingya runr runic samr samaritan sarb",
    "oldsoutharabian saur saurashtra sgnw signwriting shaw shavian shrd sharada sidd siddham",
    "sind khudawadi sinh sinhala sogd sogdian sogo oldsogdian sora sorasompeng soyo soyombo",
    "sund sundanese sylo sylotinagri syrc syriac tagb tagbanwa takr takri tale taile talu",
    "newtailue taml tamil tang tangut tavt taiviet telu telugu tfng tifinagh tglg tagalog",
    "thaa thaana thai tibt tibetan tirh tirhuta tnsa tangsa toto ugar ugaritic vaii vai vith",
    "vithkuqi wara warangciti wcho wancho xpeo oldpersian xsux cuneiform yezi yezidi yiii yi",
    "zanb zanabazarsquare zinh inherited qaai zyyy common gara garay gukh gurungkhema krai",
    "kiratrai onao olonal sunu sunuwar todr todhri tutg tulutigalari" ]

/-- The versions of the standard in which characters came to be. -/
def ages : List String :=
  [ "1.1 2.0 2.1 3.0 3.1 3.2 4.0 4.1 5.0 5.1 5.2 6.0 6.1 6.2 6.3 7.0 8.0 9.0 10.0 11.0 12.0",
    "12.1 13.0 14.0 15.0 15.1 16.0 v11 v20 v21 v30 v31 v32 v40 v41 v50 v51 v52 v60 v61 v62 v63",
    "v70 v80 v90 v100 v110 v120 v121 v130 v140 v150 v151 v160" ]

/-- Where texts break: properties with their values. -/
def breaks : List (String × List String) :=
  [ ("gcb graphemeclusterbreak",
      [ "cn control cr ex extend l lf lv lvt pp prepend ri regionalindicator sm spacingmark t v",
        "zwj" ]),
    ("sb sentencebreak",
      [ "at aterm cl close cr ex extend fo format le oletter lf lo lower nu numeric sc scontinue",
        "se sep sp st sterm up upper" ]),
    ("wb wordbreak",
      [ "cr dq doublequote ex extendnumlet extend fo format hl hebrewletter ka katakana le aletter",
        "lf mb midnumlet ml midletter mn midnum nl newline nu numeric ri regionalindicator sq",
        "singlequote wsegspace zwj" ]) ]

/-! ## The sets -/

/-- The set of a property that is not tabulated. -/
def untabulated : Ranges := [(0x80, 0x7FF)]

/-- The union of listed categories. -/
def ofCategories (names : List String) : Ranges :=
  Ranges.ofList (names.flatMap Unicode.Category.members)

/-- The code points that are assigned, private ones included. -/
def assigned : Ranges := ofCategories (Unicode.Category.table.map (·.1))

/-- The property White_Space. -/
def blanks : Ranges :=
  Ranges.ofText ["9-D 20 85 A0 1680 2000-200A 2028-2029 202F 205F 3000"]

/-- The property Alphabetic. -/
def alphabetic : Ranges :=
  (ofCategories ["Lu", "Ll", "Lt", "Lm", "Lo", "Nl"]).union Unicode.otherAlphabetic

/-- The characters of words: letters, marks, digits, the connectors and the joiners. -/
def wordCharacters : Ranges :=
  (alphabetic.union (ofCategories ["Mn", "Mc", "Me", "Nd", "Pc"])).union [(0x200C, 0x200D)]

/-- The set of a general category. -/
def category? (name : String) : Option Ranges :=
  if name = "any" then some [(0, Ranges.lastCode)]
  else if name = "ascii" then some [(0, 127)]
  else if name = "assigned" then some assigned
  else if lists ["cn unassigned"] name then some assigned.complement
  else if lists ["c other"] name then
    some ((ofCategories ["Cc", "Cf", "Co"]).union assigned.complement)
  else
    (categories.find? fun entry => lists [entry.1] name).map fun entry => ofCategories entry.2

/-- The set of a property that holds or fails of each character. -/
def property? (name : String) : Option Ranges :=
  if !lists properties name then none
  else if lists ["alpha alphabetic"] name then some alphabetic
  else if lists ["wspace whitespace space"] name then some blanks
  else if lists ["upper uppercase"] name then some (ofCategories ["Lu"])
  else if lists ["lower lowercase"] name then some (ofCategories ["Ll"])
  else some untabulated

/-- The set of a script. -/
def script? (name : String) : Option Ranges :=
  if lists scripts name then some untabulated else none

/-- The set of characters with a value of a property. -/
def value? (name value : String) : Option Ranges :=
  if lists ["gc generalcategory"] name then category? value
  else if lists ["sc script scx scriptextensions"] name then script? value
  else if name = "age" then if lists ages value then some untabulated else none
  else
    (breaks.find? fun entry => lists [entry.1] name).bind fun entry =>
      if lists entry.2 value then some untabulated else none

/-- The set that a name asks for. -/
def PropertyName.members? : PropertyName → Option Ranges
  | .plain name =>
    let name := looseName name
    property? name <|> category? name <|> script? name
  | .valued name value => value? (looseName name) (looseName value)

end InputDocs.Pattern
