import TreeQuery.Unicode.Property

namespace TreeQuery.Unicode.Boundary
open GeneralCategory Property

def openSyllables : CodeSet :=
  ⟨(List.range 399).map fun i => (0xAC00 + 28 * i, 0xAC00 + 28 * i)⟩

/-- The classes for clusters of characters, by their names. -/
def clusters : List NamedSet :=
  [⟨["cr"], [],
     ["D"]⟩,
   ⟨["control", "cn"], [],
     ["0-9 B-C E-1F 7F-9F AD 61C 180E 200B 200E-200F 2028-202E 2060-206F FEFF FFF0-FFFB",
      "13430-1343F 1BCA0-1BCA3 1D173-1D17A E0000-E001F E0080-E00FF E01F0-E0FFF"]⟩,
   ⟨["extend", "ex"], [graphemeExtend],
     ["1F3FB-1F3FF"]⟩,
   ⟨["l"], [],
     ["1100-115F A960-A97C"]⟩,
   ⟨["lf"], [],
     ["A"]⟩,
   ⟨["lv"], [openSyllables], []⟩,
   ⟨["lvt"], [openSyllables], ["AC00-D7A3"]⟩,
   ⟨["prepend", "pp"], [],
     ["600-605 6DD 70F 890-891 8E2 D4E 110BD 110CD 111C2-111C3 113D1 1193F 11941 11A3A",
      "11A84-11A89 11D46 11F02"]⟩,
   ⟨["regionalindicator", "ri"], [],
     ["1F1E6-1F1FF"]⟩,
   ⟨["spacingmark", "sm"], [mc, otherGraphemeExtend],
     ["E33 EB3 102B-102C 1038 1062-1064 1067-106D 1083 1087-108C 108F 109A-109C 1A61 1A63-1A64",
      "200C AA7B AA7D FF9E-FF9F 11720-11721 E0020-E007F"]⟩,
   ⟨["t"], [],
     ["11A8-11FF D7CB-D7FB"]⟩,
   ⟨["v"], [],
     ["1160-11A7 D7B0-D7C6 16D63 16D67-16D6A"]⟩,
   ⟨["zwj"], [],
     ["200D"]⟩]

def words : List NamedSet :=
  [⟨["aletter", "le"], [idStart, ideographic, otherIdStart],
     ["2C2-2C5 2D2-2D7 2DE-2DF 2E5-2EB 2ED 2EF-2FF 55A-55C 55E 58A 5D0-5EA 5EF-5F3 70F E01-E30",
      "E32-E33 E40-E46 E81-E82 E84 E86-E8A E8C-EA3 EA5 EA7-EB0 EB2-EB3 EBD EC0-EC4 EC6 EDC-EDF",
      "1000-102A 103F 1050-1055 105A-105D 1061 1065-1066 106E-1070 1075-1081 108E 1780-17B3",
      "17D7 17DC 1950-196D 1970-1974 1980-19AB 19B0-19C9 1A20-1A54 1AA7 24B6-24E9 2E2F",
      "3031-3035 3041-3096 309D-309F 30A1-30FA 30FC-30FF 31F0-31FF A708-A716 A720-A721",
      "A789-A78A A9E0-A9E4 A9E6-A9EF A9FA-A9FE AA60-AA76 AA7A AA7E-AAAF AAB1 AAB5-AAB6",
      "AAB9-AABD AAC0 AAC2 AADB-AADD AB5B FB1D FB1F-FB28 FB2A-FB36 FB38-FB3C FB3E FB40-FB41",
      "FB43-FB44 FB46-FB4F FF66-FF9F 11700-1171A 11740-11746 16FE4 1AFF0-1AFF3 1AFF5-1AFFB",
      "1AFFD-1AFFE 1B000-1B122 1B132 1B150-1B152 1B155 1B164-1B167 1F130-1F149 1F150-1F169",
      "1F170-1F189"]⟩,
   ⟨["cr"], [],
     ["D"]⟩,
   ⟨["doublequote", "dq"], [],
     ["22"]⟩,
   ⟨["extend"], [graphemeExtend, mc, otherGraphemeExtend],
     ["200C FF9E-FF9F 1F3FB-1F3FF E0020-E007F"]⟩,
   ⟨["extendnumlet", "ex"], [pc],
     ["202F"]⟩,
   ⟨["format", "fo"], [cf],
     ["600-605 6DD 70F 890-891 8E2 200B-200D 110BD 110CD E0020-E007F"]⟩,
   ⟨["hebrewletter", "hl"], [],
     ["5D0-5EA 5EF-5F2 FB1D FB1F-FB28 FB2A-FB36 FB38-FB3C FB3E FB40-FB41 FB43-FB44 FB46-FB4F"]⟩,
   ⟨["katakana", "ka"], [],
     ["3031-3035 309B-309C 30A0-30FA 30FC-30FF 31F0-31FF 32D0-32FE 3300-3357 FF66-FF9D",
      "1AFF0-1AFF3 1AFF5-1AFFB 1AFFD-1AFFE 1B000 1B120-1B122 1B155 1B164-1B167"]⟩,
   ⟨["lf"], [],
     ["A"]⟩,
   ⟨["midletter", "ml"], [],
     ["3A B7 387 55F 5F4 2027 FE13 FE55 FF1A"]⟩,
   ⟨["midnum", "mn"], [],
     ["2C 3B 37E 589 60C-60D 66C 7F8 2044 FE50 FE54 FF0C FF1B"]⟩,
   ⟨["midnumlet", "mb"], [],
     ["2E 2018-2019 2024 FE52 FF07 FF0E"]⟩,
   ⟨["newline", "nl"], [],
     ["B-C 85 2028-2029"]⟩,
   ⟨["numeric", "nu"], [nd],
     ["600-605 66B 6DD 890-891 8E2 19DA 110BD 110CD"]⟩,
   ⟨["regionalindicator", "ri"], [],
     ["1F1E6-1F1FF"]⟩,
   ⟨["singlequote", "sq"], [],
     ["27"]⟩,
   ⟨["wsegspace"], [zs],
     ["A0 2007 202F"]⟩,
   ⟨["zwj"], [],
     ["200D"]⟩]

def sentences : List NamedSet :=
  [⟨["aterm", "at"], [],
     ["2E 2024 FE52 FF0E"]⟩,
   ⟨["cr"], [],
     ["D"]⟩,
   ⟨["close", "cl"], [],
     ["22 27-29 5B 5D 7B 7D AB BB F3A-F3D 169B-169C 2018-201F 2039-203A 2045-2046 207D-207E",
      "208D-208E 2308-230B 2329-232A 275B-2760 2768-2775 27C5-27C6 27E6-27EF 2983-2998",
      "29D8-29DB 29FC-29FD 2E00-2E0D 2E1C-2E1D 2E20-2E29 2E42 2E55-2E5C 3008-3011 3014-301B",
      "301D-301F FD3E-FD3F FE17-FE18 FE35-FE44 FE47-FE48 FE59-FE5E FF08-FF09 FF3B FF3D FF5B",
      "FF5D FF5F-FF60 FF62-FF63 1F676-1F678"]⟩,
   ⟨["extend", "ex"], [graphemeExtend, mc, otherGraphemeExtend],
     ["200C-200D FF9E-FF9F E0020-E007F"]⟩,
   ⟨["format", "fo"], [cf],
     ["600-605 6DD 890-891 8E2 200C-200D 110BD 110CD E0020-E007F"]⟩,
   ⟨["lf"], [],
     ["A"]⟩,
   ⟨["lower", "lo"], [lowercase],
     ["345 10D0-10FA 10FD-10FF"]⟩,
   ⟨["numeric", "nu"], [nd],
     ["600-605 66B-66C 6DD 890-891 8E2 19DA 110BD 110CD"]⟩,
   ⟨["oletter", "le"], [lo, lm, otherLowercase, nl],
     ["345 5F3 10D0-10FA 10FD-10FF 1C90-1CBA 1CBD-1CBF 2160-216F 24D0-24E9 FF9E-FF9F"]⟩,
   ⟨["scontinue", "sc"], [],
     ["2C-2D 3A-3B 37E 55D 60C-60D 7F8 1802 1808 2013-2014 3001 FE10-FE11 FE13-FE14 FE31-FE32",
      "FE50-FE51 FE54-FE55 FE58 FE63 FF0C-FF0D FF1A-FF1B FF64"]⟩,
   ⟨["sterm", "st"], [sentenceTerminal],
     ["2E 2024 FE52 FF0E"]⟩,
   ⟨["sep", "se"], [],
     ["85 2028-2029"]⟩,
   ⟨["sp"], [zs],
     ["9 B-C"]⟩,
   ⟨["upper", "up"], [uppercase, lt],
     ["1C90-1CBA 1CBD-1CBF"]⟩]

end TreeQuery.Unicode.Boundary
