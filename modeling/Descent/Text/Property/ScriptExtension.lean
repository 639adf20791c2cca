import Descent.Text.Property.Script

/-!
# Script extensions

Some characters are used with several scripts, though not with all. They are listed here with the
codes of these scripts; every other character is used with the script that it belongs to.
-/

namespace Descent.Text

namespace Script

/-- The characters that are used with other scripts than just the one they belong to. -/
def shared : List (List String × Ranges) :=
  [(["avst", "cari", "copt", "dupl", "elba", "geor", "glag", "gong", "goth", "grek",
      "hani", "latn", "lydi", "mahj", "perm", "shaw"],
      .ofText "B7"),
    (["beng", "cyrl", "deva", "latn", "lisu", "thai", "toto"], .ofText "2BC"),
    (["bopo", "latn"], .ofText "2C7 2C9-2CB 2D9"),
    (["latn", "lisu"], .ofText "2CD"),
    (["latn", "thai"], .ofText "2D7"),
    (["cher", "copt", "cyrl", "grek", "latn", "perm", "sunu", "tale"], .ofText "300"),
    (["cher", "cyrl", "grek", "latn", "osge", "sunu", "tale", "todr"], .ofText "301"),
    (["cher", "cyrl", "latn", "tfng"], .ofText "302"),
    (["glag", "latn", "sunu", "syrc", "thai"], .ofText "303"),
    (["aghb", "cher", "copt", "cyrl", "goth", "grek", "latn", "osge", "syrc", "tfng",
      "todr"],
      .ofText "304"),
    (["copt", "elba", "glag", "goth", "kana", "latn"], .ofText "305"),
    (["cyrl", "grek", "latn", "perm", "tfng"], .ofText "306"),
    (["copt", "dupl", "hebr", "latn", "perm", "syrc", "tale", "tfng", "todr"], .ofText "307"),
    (["armn", "cyrl", "dupl", "goth", "grek", "hebr", "latn", "perm", "syrc", "tale",
      "tfng"],
      .ofText "308"),
    (["latn", "tfng"], .ofText "309"),
    (["dupl", "latn", "syrc"], .ofText "30A"),
    (["cher", "cyrl", "latn", "osge"], .ofText "30B"),
    (["cher", "latn", "tale"], .ofText "30C"),
    (["latn", "sunu"], .ofText "30D 310"),
    (["ethi", "latn"], .ofText "30E"),
    (["cyrl", "latn", "todr"], .ofText "311"),
    (["grek", "latn", "perm", "todr"], .ofText "313"),
    (["cher", "dupl", "kana", "latn", "syrc", "tfng"], .ofText "323"),
    (["cher", "dupl", "latn", "syrc"], .ofText "324"),
    (["latn", "syrc"], .ofText "325 32E"),
    (["latn", "sunu", "syrc"], .ofText "32D"),
    (["cher", "latn", "syrc"], .ofText "330"),
    (["aghb", "cher", "goth", "latn", "sunu", "syrc", "thai"], .ofText "331"),
    (["grek"], .ofText "342 345 1DC0-1DC1"),
    (["latn", "osge"], .ofText "358"),
    (["aghb", "latn", "todr"], .ofText "35E"),
    (["latn"], .ofText "363-36F"),
    (["copt", "grek"], .ofText "374-375"),
    (["cyrl", "perm"], .ofText "483"),
    (["cyrl", "glag"], .ofText "484 487 2E43 A66F"),
    (["cyrl", "latn"], .ofText "485-486"),
    (["armn", "geor", "glag"], .ofText "589"),
    (["arab", "gara", "nkoo", "rohg", "syrc", "thaa", "yezi"], .ofText "60C 61B"),
    (["arab", "syrc", "thaa"], .ofText "61C"),
    (["adlm", "arab", "gara", "nkoo", "rohg", "syrc", "thaa", "yezi"], .ofText "61F"),
    (["adlm", "arab", "mand", "mani", "ougr", "phlp", "rohg", "sogd", "syrc"], .ofText "640"),
    (["arab", "syrc"], .ofText "64B-655 670"),
    (["arab", "thaa", "yezi"], .ofText "660-669"),
    (["arab", "rohg"], .ofText "6D4"),
    (["beng", "deva", "gran", "gujr", "guru", "knda", "latn", "mlym", "nand", "newa",
      "orya", "shrd", "taml", "telu", "tirh"],
      .ofText "951"),
    (["beng", "deva", "gran", "gujr", "guru", "knda", "latn", "mlym", "newa", "orya",
      "taml", "telu", "tirh"],
      .ofText "952"),
    (["beng", "deva", "dogr", "gong", "gonm", "gran", "gujr", "guru", "knda", "mahj",
      "mlym", "nand", "onao", "orya", "sind", "sinh", "sylo", "takr", "taml", "telu",
      "tirh"],
      .ofText "964"),
    (["beng", "deva", "dogr", "gong", "gonm", "gran", "gujr", "gukh", "guru", "knda",
      "limb", "mahj", "mlym", "nand", "onao", "orya", "sind", "sinh", "sylo", "takr",
      "taml", "telu", "tirh"],
      .ofText "965"),
    (["deva", "dogr", "kthi", "mahj"], .ofText "966-96F"),
    (["beng", "cakm", "sylo"], .ofText "9E6-9EF"),
    (["guru", "mult"], .ofText "A66-A6F"),
    (["gujr", "khoj"], .ofText "AE6-AEF"),
    (["gran", "taml"], .ofText "BE6-BF3 11301 11303 1133B-1133C 11FD0-11FD1 11FD3"),
    (["knda", "nand", "tutg"], .ofText "CE6-CEF"),
    (["cakm", "mymr", "tale"], .ofText "1040-1049"),
    (["geor", "glag", "latn"], .ofText "10FB"),
    (["runr"], .ofText "16EB-16ED"),
    (["buhd", "hano", "tagb", "tglg"], .ofText "1735-1736"),
    (["mong", "phag"], .ofText "1802-1803 1805"),
    (["beng", "deva", "gran", "knda"], .ofText "1CD0 1CD2"),
    (["deva"], .ofText "1CD1 1CD4 1CDB 1CDE-1CDF 1CE3-1CE8 1CEC 1CEE-1CF1"),
    (["deva", "gran", "knda"], .ofText "1CD3"),
    (["beng", "deva", "newa", "telu", "tirh"], .ofText "1CD5"),
    (["beng", "deva", "telu"], .ofText "1CD6"),
    (["deva", "newa", "shrd"], .ofText "1CD7"),
    (["beng", "deva", "newa", "telu"], .ofText "1CD8"),
    (["deva", "shrd"], .ofText "1CD9 1CDC-1CDD 1CE0"),
    (["deva", "knda", "mlym", "orya", "taml", "telu"], .ofText "1CDA"),
    (["beng", "deva"], .ofText "1CE1 1CF5-1CF6"),
    (["deva", "newa", "tirh"], .ofText "1CE2"),
    (["deva", "nand", "newa"], .ofText "1CE9"),
    (["beng", "deva", "shrd"], .ofText "1CEA"),
    (["deva", "newa"], .ofText "1CEB"),
    (["beng", "deva", "newa", "shrd"], .ofText "1CED"),
    (["beng", "deva", "gran", "knda", "mlym", "nand", "orya", "sinh", "telu", "tirh",
      "tutg"],
      .ofText "1CF2"),
    (["deva", "gran"], .ofText "1CF3 1CF8-1CF9"),
    (["deva", "gran", "knda", "tutg"], .ofText "1CF4"),
    (["beng"], .ofText "1CF7"),
    (["nand"], .ofText "1CFA"),
    (["cyrl", "latn", "syrc"], .ofText "1DF8"),
    (["syrc"], .ofText "1DFA"),
    (["latn", "mong", "phag"], .ofText "202F"),
    (["adlm", "arab"], .ofText "204F"),
    (["cari", "geor", "glag", "hung", "lyci", "orkh"], .ofText "205A"),
    (["cari", "grek", "hung", "mero"], .ofText "205D"),
    (["deva", "gran", "latn"], .ofText "20F0"),
    (["copt", "latn"], .ofText "2E17"),
    (["avst", "orkh"], .ofText "2E30"),
    (["avst", "cari", "geor", "hung", "kthi", "lydi", "samr"], .ofText "2E31"),
    (["dupl"], .ofText "2E3C 1BCA0-1BCA3"),
    (["adlm", "arab", "hung"], .ofText "2E41"),
    (["hani", "tang"], .ofText "2FF0-2FFF 31EF"),
    (["bopo", "hang", "hani", "hira", "kana", "mong", "yiii"], .ofText "3001"),
    (["bopo", "hang", "hani", "hira", "kana", "mong", "phag", "yiii"], .ofText "3002"),
    (["bopo", "hang", "hani", "hira", "kana"],
      .ofText "3003 3013 301C-301F 3030 3037 FE45-FE46"),
    (["hani"], .ofText "
    3006 303E-303F 3190-319F 31C0-31E5 3220-3247 3280-32B0 32C0-32CB 32FF 3358-3370 337B-337F
    33E0-33FE 1D360-1D371 1F250-1F251"),
    (["bopo", "hang", "hani", "hira", "kana", "mong", "tibt", "yiii"], .ofText "3008-3009"),
    (["bopo", "hang", "hani", "hira", "kana", "lisu", "mong", "tibt", "yiii"],
      .ofText "300A-300B"),
    (["bopo", "hang", "hani", "hira", "kana", "yiii"],
      .ofText "300C-3011 3014-301B 30FB FF61-FF65"),
    (["bopo", "hani"], .ofText "302A-302D"),
    (["hira", "kana"], .ofText "3031-3035 3099-309C 30A0 30FC FF70 FF9E-FF9F"),
    (["hani", "hira", "kana"], .ofText "303C-303D"),
    (["hani", "latn"], .ofText "A700-A707"),
    (["deva", "dogr", "gujr", "guru", "khoj", "knda", "kthi", "mahj", "mlym", "modi",
      "nand", "shrd", "sind", "takr", "tirh", "tutg"],
      .ofText "A830-A832"),
    (["deva", "dogr", "gujr", "guru", "khoj", "knda", "kthi", "mahj", "modi", "nand",
      "shrd", "sind", "takr", "tirh", "tutg"],
      .ofText "A833-A835"),
    (["deva", "dogr", "gujr", "guru", "khoj", "kthi", "mahj", "modi", "sind", "takr",
      "tirh"],
      .ofText "A836-A837 A839"),
    (["deva", "dogr", "gujr", "guru", "khoj", "kthi", "mahj", "modi", "shrd", "sind",
      "takr", "tirh"],
      .ofText "A838"),
    (["beng", "deva", "tutg"], .ofText "A8F1"),
    (["deva", "taml"], .ofText "A8F3"),
    (["kali", "latn", "mymr"], .ofText "A92E"),
    (["bugi", "java"], .ofText "A9CF"),
    (["arab", "nkoo"], .ofText "FD3E-FD3F"),
    (["arab", "thaa"], .ofText "FDF2 FDFD"),
    (["cpmn", "cprt", "linb"], .ofText "10100-10101"),
    (["cprt", "linb"], .ofText "10102 10137-1013F"),
    (["cprt", "lina", "linb"], .ofText "10107-10133"),
    (["arab", "copt"], .ofText "102E0-102FB"),
    (["mani", "ougr"], .ofText "10AF2")]

def extension (script : Script) : Ranges :=
  let own := script.ranges.diff (.unions (shared.map (·.2)))
  own.union (.unions (shared.filterMap fun (codes, ranges) =>
    if codes.contains script.code then some ranges else none))

end Script

end Descent.Text
