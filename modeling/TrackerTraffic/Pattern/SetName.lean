import TrackerTraffic.Pattern.CharSet

/-!
# Names of character sets

The names by which a pattern refers to Unicode categories, scripts and
properties.  Case, spaces, hyphens, underscores and a leading `is` do not count.
-/

namespace TrackerTraffic.CharSet

/-- The name without what does not count in it. -/
def normalizeName (name : List Char) : String :=
  let plain := (name.filter fun c => !Text.isBlank c && c != '_' && c != '-').map Char.toLower
  match plain with
  | 'i' :: 's' :: rest => if rest = ['c'] then "isc" else String.ofList rest
  | plain => String.ofList plain

/-- Categories and groups of them by their names. -/
def categoryNames : List (List String × CharSet) :=
  let group (categories : List Text.Category) := unionAll (categories.map category)
  [(["lu", "uppercaseletter"], category .lu),
    (["ll", "lowercaseletter"], category .ll),
    (["lt", "titlecaseletter"], category .lt),
    (["lm", "modifierletter"], category .lm),
    (["lo", "otherletter"], category .lo),
    (["lc", "casedletter"], group [.lu, .ll, .lt]),
    (["l", "letter"], group [.lu, .ll, .lt, .lm, .lo]),
    (["mn", "nonspacingmark"], category .mn),
    (["mc", "spacingmark"], category .mc),
    (["me", "enclosingmark"], category .me),
    (["m", "mark", "combiningmark"], group [.mn, .mc, .me]),
    (["nd", "decimalnumber", "digit"], category .nd),
    (["nl", "letternumber"], category .nl),
    (["no", "othernumber"], category .no),
    (["n", "number"], group [.nd, .nl, .no]),
    (["pc", "connectorpunctuation"], category .pc),
    (["pd", "dashpunctuation"], category .pd),
    (["ps", "openpunctuation"], category .ps),
    (["pe", "closepunctuation"], category .pe),
    (["pi", "initialpunctuation"], category .pi),
    (["pf", "finalpunctuation"], category .pf),
    (["po", "otherpunctuation"], category .po),
    (["p", "punctuation", "punct"], group [.pc, .pd, .ps, .pe, .pi, .pf, .po]),
    (["sm", "mathsymbol"], category .sm),
    (["sc", "currencysymbol"], category .sc),
    (["sk", "modifiersymbol"], category .sk),
    (["so", "othersymbol"], category .so),
    (["s", "symbol"], group [.sm, .sc, .sk, .so]),
    (["zs", "spaceseparator"], category .zs),
    (["zl", "lineseparator"], category .zl),
    (["zp", "paragraphseparator"], category .zp),
    (["z", "separator"], group [.zs, .zl, .zp]),
    (["cc", "control", "cntrl"], category .cc),
    (["cf", "format"], category .cf),
    (["co", "privateuse"], category .co),
    (["cn", "unassigned"], category .cn),
    (["cs", "surrogate"], none),
    (["c", "other"], group [.cc, .cf, .co, .cn]),
    (["any"], all),
    (["assigned"], compl (category .cn)),
    (["ascii"], range 0 127)]

/-- A category or group of categories by its normalized name. -/
def ofCategoryName? (name : String) : Option CharSet :=
  (categoryNames.find? fun entry => entry.1.contains name).map Prod.snd

def ofScriptName? (name : String) : Option CharSet :=
  (Text.scripts.findIdx? fun s => s.names.contains name).map script

def ofPropertyName? (name : String) : Option CharSet :=
  (Text.binaryProperties.find? fun entry => entry.2.contains name).map fun entry =>
    property entry.1

/-- The set of a name that stands alone. -/
def ofName? (name : List Char) : Option CharSet :=
  let name := normalizeName name
  ((ofPropertyName? name).or (ofCategoryName? name)).or (ofScriptName? name)

/-- The set of a value of a named property. -/
def ofNameAndValue? (name value : List Char) : Option CharSet :=
  let name := normalizeName name
  let value := normalizeName value
  if ["gc", "generalcategory"].contains name then ofCategoryName? value
  else if ["sc", "script", "scx", "scriptextensions"].contains name then ofScriptName? value
  else Option.none

/-- The ASCII sets that have a name between colons. -/
def ofAsciiName? (name : List Char) : Option CharSet :=
  let digits := range 48 57
  let upper := range 65 90
  let lower := range 97 122
  let letters := union upper lower
  match String.ofList name with
  | "alnum" => some (union digits letters)
  | "alpha" => some letters
  | "ascii" => some (range 0 127)
  | "blank" => some (union (range 9 9) (range 32 32))
  | "cntrl" => some (union (range 0 31) (range 127 127))
  | "digit" => some digits
  | "graph" => some (range 33 126)
  | "lower" => some lower
  | "print" => some (range 32 126)
  | "punct" => some (diff (range 33 126) (union digits letters))
  | "space" => some (union (range 9 13) (range 32 32))
  | "upper" => some upper
  | "word" => some (union (union digits letters) (range 95 95))
  | "xdigit" => some (union digits (union (range 65 70) (range 97 102)))
  | _ => Option.none

end TrackerTraffic.CharSet
