/-!
# Flags

The flag of a region is written with the two letters of its code, each as a regional indicator. A
flag is named by its region, alone or after `flag_for_`. Some flags have only one of these names, or
two that do not agree. The flag of a part of a region is a black flag, with the code of the part in
tag characters behind it.
-/

namespace PrefixDelegation.Console.Emoji

/-- The codes of regions, with the names that are the same for both ways of naming a flag. -/
def regions : List (String × String) :=
  [
   ("ac", "ascension_island"), ("ad", "andorra"), ("ae", "united_arab_emirates"),
   ("af", "afghanistan"), ("ag", "antigua_&_barbuda"), ("ai", "anguilla"), ("al", "albania"),
   ("am", "armenia"), ("ao", "angola"), ("aq", "antarctica"), ("ar", "argentina"),
   ("as", "american_samoa"), ("at", "austria"), ("au", "australia"), ("aw", "aruba"),
   ("ax", "åland_islands"), ("az", "azerbaijan"), ("ba", "bosnia_&_herzegovina"),
   ("bb", "barbados"), ("bd", "bangladesh"), ("be", "belgium"), ("bf", "burkina_faso"),
   ("bg", "bulgaria"), ("bh", "bahrain"), ("bi", "burundi"), ("bj", "benin"),
   ("bl", "st._barthélemy"), ("bm", "bermuda"), ("bn", "brunei"), ("bo", "bolivia"),
   ("bq", "caribbean_netherlands"), ("br", "brazil"), ("bs", "bahamas"), ("bt", "bhutan"),
   ("bv", "bouvet_island"), ("bw", "botswana"), ("by", "belarus"), ("bz", "belize"),
   ("ca", "canada"), ("cf", "central_african_republic"), ("ch", "switzerland"),
   ("ci", "côte_d’ivoire"), ("ck", "cook_islands"), ("cl", "chile"), ("cm", "cameroon"),
   ("cn", "china"), ("co", "colombia"), ("cp", "clipperton_island"), ("cr", "costa_rica"),
   ("cu", "cuba"), ("cv", "cape_verde"), ("cw", "curaçao"), ("cx", "christmas_island"),
   ("cy", "cyprus"), ("de", "germany"), ("dg", "diego_garcia"), ("dj", "djibouti"),
   ("dk", "denmark"), ("dm", "dominica"), ("do", "dominican_republic"), ("dz", "algeria"),
   ("ea", "ceuta_&_melilla"), ("ec", "ecuador"), ("ee", "estonia"), ("eg", "egypt"),
   ("eh", "western_sahara"), ("er", "eritrea"), ("es", "spain"), ("et", "ethiopia"),
   ("eu", "european_union"), ("fi", "finland"), ("fj", "fiji"), ("fk", "falkland_islands"),
   ("fm", "micronesia"), ("fo", "faroe_islands"), ("fr", "france"), ("ga", "gabon"),
   ("gb", "united_kingdom"), ("gd", "grenada"), ("ge", "georgia"), ("gf", "french_guiana"),
   ("gg", "guernsey"), ("gh", "ghana"), ("gi", "gibraltar"), ("gl", "greenland"),
   ("gm", "gambia"), ("gn", "guinea"), ("gp", "guadeloupe"), ("gq", "equatorial_guinea"),
   ("gr", "greece"), ("gs", "south_georgia_&_south_sandwich_islands"), ("gt", "guatemala"),
   ("gu", "guam"), ("gy", "guyana"), ("hm", "heard_&_mcdonald_islands"), ("hn", "honduras"),
   ("hr", "croatia"), ("ht", "haiti"), ("hu", "hungary"), ("ic", "canary_islands"),
   ("id", "indonesia"), ("ie", "ireland"), ("il", "israel"), ("im", "isle_of_man"),
   ("in", "india"), ("io", "british_indian_ocean_territory"), ("iq", "iraq"), ("ir", "iran"),
   ("is", "iceland"), ("it", "italy"), ("je", "jersey"), ("jm", "jamaica"), ("jo", "jordan"),
   ("ke", "kenya"), ("kg", "kyrgyzstan"), ("kh", "cambodia"), ("ki", "kiribati"),
   ("km", "comoros"), ("kn", "st._kitts_&_nevis"), ("kp", "north_korea"), ("kr", "south_korea"),
   ("kw", "kuwait"), ("ky", "cayman_islands"), ("kz", "kazakhstan"), ("la", "laos"),
   ("lb", "lebanon"), ("lc", "st._lucia"), ("li", "liechtenstein"), ("lk", "sri_lanka"),
   ("lr", "liberia"), ("ls", "lesotho"), ("lt", "lithuania"), ("lu", "luxembourg"),
   ("lv", "latvia"), ("ly", "libya"), ("ma", "morocco"), ("mc", "monaco"), ("md", "moldova"),
   ("me", "montenegro"), ("mf", "st._martin"), ("mg", "madagascar"), ("mh", "marshall_islands"),
   ("mk", "macedonia"), ("ml", "mali"), ("mn", "mongolia"), ("mp", "northern_mariana_islands"),
   ("mq", "martinique"), ("mr", "mauritania"), ("ms", "montserrat"), ("mt", "malta"),
   ("mu", "mauritius"), ("mv", "maldives"), ("mw", "malawi"), ("mx", "mexico"),
   ("my", "malaysia"), ("mz", "mozambique"), ("na", "namibia"), ("nc", "new_caledonia"),
   ("ne", "niger"), ("nf", "norfolk_island"), ("ng", "nigeria"), ("ni", "nicaragua"),
   ("nl", "netherlands"), ("no", "norway"), ("np", "nepal"), ("nr", "nauru"), ("nu", "niue"),
   ("nz", "new_zealand"), ("om", "oman"), ("pa", "panama"), ("pe", "peru"),
   ("pf", "french_polynesia"), ("pg", "papua_new_guinea"), ("ph", "philippines"),
   ("pk", "pakistan"), ("pl", "poland"), ("pm", "st._pierre_&_miquelon"),
   ("pn", "pitcairn_islands"), ("pr", "puerto_rico"), ("ps", "palestinian_territories"),
   ("pt", "portugal"), ("pw", "palau"), ("py", "paraguay"), ("qa", "qatar"), ("re", "réunion"),
   ("ro", "romania"), ("rs", "serbia"), ("ru", "russia"), ("rw", "rwanda"),
   ("sa", "saudi_arabia"), ("sb", "solomon_islands"), ("sc", "seychelles"), ("sd", "sudan"),
   ("se", "sweden"), ("sg", "singapore"), ("sh", "st._helena"), ("si", "slovenia"),
   ("sj", "svalbard_&_jan_mayen"), ("sk", "slovakia"), ("sl", "sierra_leone"),
   ("sm", "san_marino"), ("sn", "senegal"), ("so", "somalia"), ("sr", "suriname"),
   ("ss", "south_sudan"), ("st", "são_tomé_&_príncipe"), ("sv", "el_salvador"),
   ("sx", "sint_maarten"), ("sy", "syria"), ("sz", "swaziland"), ("ta", "tristan_da_cunha"),
   ("tc", "turks_&_caicos_islands"), ("td", "chad"), ("tf", "french_southern_territories"),
   ("tg", "togo"), ("th", "thailand"), ("tj", "tajikistan"), ("tk", "tokelau"),
   ("tm", "turkmenistan"), ("tn", "tunisia"), ("to", "tonga"), ("tt", "trinidad_&_tobago"),
   ("tv", "tuvalu"), ("tw", "taiwan"), ("tz", "tanzania"), ("ua", "ukraine"), ("ug", "uganda"),
   ("um", "u.s._outlying_islands"), ("us", "united_states"), ("uy", "uruguay"),
   ("uz", "uzbekistan"), ("va", "vatican_city"), ("vc", "st._vincent_&_grenadines"),
   ("ve", "venezuela"), ("vg", "british_virgin_islands"), ("vi", "u.s._virgin_islands"),
   ("vn", "vietnam"), ("vu", "vanuatu"), ("wf", "wallis_&_futuna"), ("ws", "samoa"),
   ("xk", "kosovo"), ("ye", "yemen"), ("yt", "mayotte"), ("za", "south_africa"),
   ("zm", "zambia"), ("zw", "zimbabwe")
  ]

/-- The codes of other regions, with whole names of their flags. -/
def otherFlags : List (String × String) :=
  [
   ("cc", "cocos_(keeling)_islands"), ("cc", "flag_for_cocos__islands"),
   ("cd", "congo_-_kinshasa"), ("cd", "flag_for_congo____kinshasa"),
   ("cg", "congo_-_brazzaville"), ("cg", "flag_for_congo____brazzaville"), ("cz", "czechia"),
   ("cz", "flag_for_czech_republic"), ("gw", "guinea-bissau"),
   ("gw", "flag_for_guinea__bissau"), ("hk", "hong_kong_sar_china"),
   ("hk", "flag_for_hong_kong"), ("jp", "flag_for_japan"), ("mm", "myanmar_(burma)"),
   ("mm", "flag_for_myanmar"), ("mo", "macau_sar_china"), ("mo", "flag_for_macau"),
   ("tl", "timor-leste"), ("tl", "flag_for_timor__leste"), ("tr", "flag_for_turkey"),
   ("un", "united_nations")
  ]

/-- The letter of a region's code as a regional indicator. -/
def regionalIndicator (letter : Char) : Char := .ofNat (0x1f1e6 + (letter.toNat - 'a'.toNat))

/-- The flag of the region with a code. -/
def flagOf (code : String) : String := String.ofList (code.toList.map regionalIndicator)

/-- The codes of parts of regions, with the names of their flags. -/
def regionParts : List (String × String) :=
  [("gbeng", "england"), ("gbsct", "scotland"), ("gbwls", "wales")]

/-- The flag of the part of a region with a code. -/
def partFlagOf (code : String) : String :=
  String.ofList ('🏴' :: code.toList.map (fun c => .ofNat (0xe0000 + c.toNat)) ++ [.ofNat 0xe007f])

/-- How the name of a flag can start. -/
def flagMark : String := "flag_for_"

/-- The flag with a name. -/
def flagNamed? (name : String) : Option String :=
  let region := if name.startsWith flagMark then (name.drop flagMark.length).toString else name
  (((otherFlags.find? (·.2 = name)).or (regions.find? (·.2 = region))).map fun (code, _) =>
    flagOf code).or ((regionParts.find? (·.2 = name)).map fun (code, _) => partFlagOf code)

end PrefixDelegation.Console.Emoji
