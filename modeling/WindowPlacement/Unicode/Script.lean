import WindowPlacement.Unicode.RangeSet

/-!
# Scripts

The script of every character of Unicode 16, and the further scripts in which a character
is used.  `scripts` has one entry for each script, with the names by which it is asked for.
-/

namespace WindowPlacement.Unicode

/-- A script: its names, in small letters and without separators, the characters that belong
to it, and those that are used in it but belong to another one or to none. -/
structure Script where
  names : List String
  members : RangeSet
  borrowed : RangeSet

def scriptAdlam : Script where
  names := ["adlam", "adlm"]
  members := .ofLines ["1E900-1E94B 1E950-1E959 1E95E-1E95F"]
  borrowed := .ofLines ["61F 640 204F 2E41"]

def scriptAhom : Script where
  names := ["ahom"]
  members := .ofLines ["11700-1171A 1171D-1172B 11730-11746"]
  borrowed := .empty

def scriptAnatolianHieroglyphs : Script where
  names := ["anatolianhieroglyphs", "hluw"]
  members := .ofLines ["14400-14646"]
  borrowed := .empty

def scriptArabic : Script where
  names := ["arabic", "arab"]
  members := .ofLines [
    "600-604 606-60B 60D-61A 61C-61E 620-63F 641-64A 656-66F 671-6DC 6DE-6FF 750-77F 870-88E",
    "890-891 897-8E1 8E3-8FF FB50-FBC2 FBD3-FD3D FD40-FD8F FD92-FDC7 FDCF FDF0-FDFF FE70-FE74",
    "FE76-FEFC 10E60-10E7E 10EC2-10EC4 10EFC-10EFF 1EE00-1EE03 1EE05-1EE1F 1EE21-1EE22 1EE24",
    "1EE27 1EE29-1EE32 1EE34-1EE37 1EE39 1EE3B 1EE42 1EE47 1EE49 1EE4B 1EE4D-1EE4F 1EE51-1EE52",
    "1EE54 1EE57 1EE59 1EE5B 1EE5D 1EE5F 1EE61-1EE62 1EE64 1EE67-1EE6A 1EE6C-1EE72 1EE74-1EE77",
    "1EE79-1EE7C 1EE7E 1EE80-1EE89 1EE8B-1EE9B 1EEA1-1EEA3 1EEA5-1EEA9 1EEAB-1EEBB 1EEF0-1EEF1"]
  borrowed := .ofLines ["60C 61B 61F 640 64B-655 670 204F 2E41 FD3E-FD3F 102E0-102FB"]

def scriptArmenian : Script where
  names := ["armenian", "armn"]
  members := .ofLines ["531-556 559-58A 58D-58F FB13-FB17"]
  borrowed := .ofLines ["308"]

def scriptAvestan : Script where
  names := ["avestan", "avst"]
  members := .ofLines ["10B00-10B35 10B39-10B3F"]
  borrowed := .ofLines ["B7 2E30-2E31"]

def scriptBalinese : Script where
  names := ["balinese", "bali"]
  members := .ofLines ["1B00-1B4C 1B4E-1B7F"]
  borrowed := .empty

def scriptBamum : Script where
  names := ["bamum", "bamu"]
  members := .ofLines ["A6A0-A6F7 16800-16A38"]
  borrowed := .empty

def scriptBassaVah : Script where
  names := ["bassavah", "bass"]
  members := .ofLines ["16AD0-16AED 16AF0-16AF5"]
  borrowed := .empty

def scriptBatak : Script where
  names := ["batak", "batk"]
  members := .ofLines ["1BC0-1BF3 1BFC-1BFF"]
  borrowed := .empty

def scriptBengali : Script where
  names := ["bengali", "beng"]
  members := .ofLines [
    "980-983 985-98C 98F-990 993-9A8 9AA-9B0 9B2 9B6-9B9 9BC-9C4 9C7-9C8 9CB-9CE 9D7 9DC-9DD",
    "9DF-9E3 9E6-9FE"]
  borrowed := .ofLines [
    "2BC 951-952 964-965 1CD0 1CD2 1CD5-1CD6 1CD8 1CE1 1CEA 1CED 1CF2 1CF5-1CF7 A8F1"]

def scriptBhaiksuki : Script where
  names := ["bhaiksuki", "bhks"]
  members := .ofLines ["11C00-11C08 11C0A-11C36 11C38-11C45 11C50-11C6C"]
  borrowed := .empty

def scriptBopomofo : Script where
  names := ["bopomofo", "bopo"]
  members := .ofLines ["2EA-2EB 3105-312F 31A0-31BF"]
  borrowed := .ofLines [
    "2C7 2C9-2CB 2D9 3001-3003 3008-3011 3013-301F 302A-302D 3030 3037 30FB FE45-FE46 FF61-FF65"]

def scriptBrahmi : Script where
  names := ["brahmi", "brah"]
  members := .ofLines ["11000-1104D 11052-11075 1107F"]
  borrowed := .empty

def scriptBraille : Script where
  names := ["braille", "brai"]
  members := .ofLines ["2800-28FF"]
  borrowed := .empty

def scriptBuginese : Script where
  names := ["buginese", "bugi"]
  members := .ofLines ["1A00-1A1B 1A1E-1A1F"]
  borrowed := .ofLines ["A9CF"]

def scriptBuhid : Script where
  names := ["buhid", "buhd"]
  members := .ofLines ["1740-1753"]
  borrowed := .ofLines ["1735-1736"]

def scriptCanadianAboriginal : Script where
  names := ["canadianaboriginal", "cans"]
  members := .ofLines ["1400-167F 18B0-18F5 11AB0-11ABF"]
  borrowed := .empty

def scriptCarian : Script where
  names := ["carian", "cari"]
  members := .ofLines ["102A0-102D0"]
  borrowed := .ofLines ["B7 205A 205D 2E31"]

def scriptCaucasianAlbanian : Script where
  names := ["caucasianalbanian", "aghb"]
  members := .ofLines ["10530-10563 1056F"]
  borrowed := .ofLines ["304 331 35E"]

def scriptChakma : Script where
  names := ["chakma", "cakm"]
  members := .ofLines ["11100-11134 11136-11147"]
  borrowed := .ofLines ["9E6-9EF 1040-1049"]

def scriptCham : Script where
  names := ["cham"]
  members := .ofLines ["AA00-AA36 AA40-AA4D AA50-AA59 AA5C-AA5F"]
  borrowed := .empty

def scriptCherokee : Script where
  names := ["cherokee", "cher"]
  members := .ofLines ["13A0-13F5 13F8-13FD AB70-ABBF"]
  borrowed := .ofLines ["300-302 304 30B-30C 323-324 330-331"]

def scriptChorasmian : Script where
  names := ["chorasmian", "chrs"]
  members := .ofLines ["10FB0-10FCB"]
  borrowed := .empty

def scriptCommon : Script where
  names := ["common", "zyyy"]
  members := .ofLines [
    "0-40 5B-60 7B-A9 AB-B9 BB-BF D7 F7 2B9-2DF 2E5-2E9 2EC-2FF 374 37E 385 387 605 60C 61B 61F",
    "640 6DD 8E2 964-965 E3F FD5-FD8 10FB 16EB-16ED 1735-1736 1802-1803 1805 1CD3 1CE1 1CE9-1CEC",
    "1CEE-1CF3 1CF5-1CF7 1CFA 2000-200B 200E-2064 2066-2070 2074-207E 2080-208E 20A0-20C0",
    "2100-2125 2127-2129 212C-2131 2133-214D 214F-215F 2189-218B 2190-2429 2440-244A 2460-27FF",
    "2900-2B73 2B76-2B95 2B97-2BFF 2E00-2E5D 2FF0-3004 3006 3008-3020 3030-3037 303C-303F",
    "309B-309C 30A0 30FB-30FC 3190-319F 31C0-31E5 31EF 3220-325F 327F-32CF 32FF 3358-33FF",
    "4DC0-4DFF A700-A721 A788-A78A A830-A839 A92E A9CF AB5B AB6A-AB6B FD3E-FD3F FE10-FE19",
    "FE30-FE52 FE54-FE66 FE68-FE6B FEFF FF01-FF20 FF3B-FF40 FF5B-FF65 FF70 FF9E-FF9F FFE0-FFE6",
    "FFE8-FFEE FFF9-FFFD 10100-10102 10107-10133 10137-1013F 10190-1019C 101D0-101FC 102E1-102FB",
    "1BCA0-1BCA3 1CC00-1CCF9 1CD00-1CEB3 1CF50-1CFC3 1D000-1D0F5 1D100-1D126 1D129-1D166",
    "1D16A-1D17A 1D183-1D184 1D18C-1D1A9 1D1AE-1D1EA 1D2C0-1D2D3 1D2E0-1D2F3 1D300-1D356",
    "1D360-1D378 1D400-1D454 1D456-1D49C 1D49E-1D49F 1D4A2 1D4A5-1D4A6 1D4A9-1D4AC 1D4AE-1D4B9",
    "1D4BB 1D4BD-1D4C3 1D4C5-1D505 1D507-1D50A 1D50D-1D514 1D516-1D51C 1D51E-1D539 1D53B-1D53E",
    "1D540-1D544 1D546 1D54A-1D550 1D552-1D6A5 1D6A8-1D7CB 1D7CE-1D7FF 1EC71-1ECB4 1ED01-1ED3D",
    "1F000-1F02B 1F030-1F093 1F0A0-1F0AE 1F0B1-1F0BF 1F0C1-1F0CF 1F0D1-1F0F5 1F100-1F1AD",
    "1F1E6-1F1FF 1F201-1F202 1F210-1F23B 1F240-1F248 1F250-1F251 1F260-1F265 1F300-1F6D7",
    "1F6DC-1F6EC 1F6F0-1F6FC 1F700-1F776 1F77B-1F7D9 1F7E0-1F7EB 1F7F0 1F800-1F80B 1F810-1F847",
    "1F850-1F859 1F860-1F887 1F890-1F8AD 1F8B0-1F8BB 1F8C0-1F8C1 1F900-1FA53 1FA60-1FA6D",
    "1FA70-1FA7C 1FA80-1FA89 1FA8F-1FAC6 1FACE-1FADC 1FADF-1FAE9 1FAF0-1FAF8 1FB00-1FB92",
    "1FB94-1FBF9 E0001 E0020-E007F"]
  borrowed := .empty

def scriptCoptic : Script where
  names := ["coptic", "copt", "qaac"]
  members := .ofLines ["3E2-3EF 2C80-2CF3 2CF9-2CFF"]
  borrowed := .ofLines ["B7 300 304-305 307 374-375 2E17 102E0-102FB"]

def scriptCuneiform : Script where
  names := ["cuneiform", "xsux"]
  members := .ofLines ["12000-12399 12400-1246E 12470-12474 12480-12543"]
  borrowed := .empty

def scriptCypriot : Script where
  names := ["cypriot", "cprt"]
  members := .ofLines ["10800-10805 10808 1080A-10835 10837-10838 1083C 1083F"]
  borrowed := .ofLines ["10100-10102 10107-10133 10137-1013F"]

def scriptCyproMinoan : Script where
  names := ["cyprominoan", "cpmn"]
  members := .ofLines ["12F90-12FF2"]
  borrowed := .ofLines ["10100-10101"]

def scriptCyrillic : Script where
  names := ["cyrillic", "cyrl"]
  members := .ofLines [
    "400-484 487-52F 1C80-1C8A 1D2B 1D78 2DE0-2DFF A640-A69F FE2E-FE2F 1E030-1E06D 1E08F"]
  borrowed := .ofLines ["2BC 300-302 304 306 308 30B 311 485-486 1DF8 2E43"]

def scriptDeseret : Script where
  names := ["deseret", "dsrt"]
  members := .ofLines ["10400-1044F"]
  borrowed := .empty

def scriptDevanagari : Script where
  names := ["devanagari", "deva"]
  members := .ofLines ["900-950 955-963 966-97F A8E0-A8FF 11B00-11B09"]
  borrowed := .ofLines ["2BC 951-952 964-965 1CD0-1CF6 1CF8-1CF9 20F0 A830-A839"]

def scriptDivesAkuru : Script where
  names := ["divesakuru", "diak"]
  members := .ofLines [
    "11900-11906 11909 1190C-11913 11915-11916 11918-11935 11937-11938 1193B-11946 11950-11959"]
  borrowed := .empty

def scriptDogra : Script where
  names := ["dogra", "dogr"]
  members := .ofLines ["11800-1183B"]
  borrowed := .ofLines ["964-96F A830-A839"]

def scriptDuployan : Script where
  names := ["duployan", "dupl"]
  members := .ofLines ["1BC00-1BC6A 1BC70-1BC7C 1BC80-1BC88 1BC90-1BC99 1BC9C-1BC9F"]
  borrowed := .ofLines ["B7 307-308 30A 323-324 2E3C 1BCA0-1BCA3"]

def scriptEgyptianHieroglyphs : Script where
  names := ["egyptianhieroglyphs", "egyp"]
  members := .ofLines ["13000-13455 13460-143FA"]
  borrowed := .empty

def scriptElbasan : Script where
  names := ["elbasan", "elba"]
  members := .ofLines ["10500-10527"]
  borrowed := .ofLines ["B7 305"]

def scriptElymaic : Script where
  names := ["elymaic", "elym"]
  members := .ofLines ["10FE0-10FF6"]
  borrowed := .empty

def scriptEthiopic : Script where
  names := ["ethiopic", "ethi"]
  members := .ofLines [
    "1200-1248 124A-124D 1250-1256 1258 125A-125D 1260-1288 128A-128D 1290-12B0 12B2-12B5",
    "12B8-12BE 12C0 12C2-12C5 12C8-12D6 12D8-1310 1312-1315 1318-135A 135D-137C 1380-1399",
    "2D80-2D96 2DA0-2DA6 2DA8-2DAE 2DB0-2DB6 2DB8-2DBE 2DC0-2DC6 2DC8-2DCE 2DD0-2DD6 2DD8-2DDE",
    "AB01-AB06 AB09-AB0E AB11-AB16 AB20-AB26 AB28-AB2E 1E7E0-1E7E6 1E7E8-1E7EB 1E7ED-1E7EE",
    "1E7F0-1E7FE"]
  borrowed := .ofLines ["30E"]

def scriptGaray : Script where
  names := ["garay", "gara"]
  members := .ofLines ["10D40-10D65 10D69-10D85 10D8E-10D8F"]
  borrowed := .ofLines ["60C 61B 61F"]

def scriptGeorgian : Script where
  names := ["georgian", "geor"]
  members := .ofLines [
    "10A0-10C5 10C7 10CD 10D0-10FA 10FC-10FF 1C90-1CBA 1CBD-1CBF 2D00-2D25 2D27 2D2D"]
  borrowed := .ofLines ["B7 589 10FB 205A 2E31"]

def scriptGlagolitic : Script where
  names := ["glagolitic", "glag"]
  members := .ofLines ["2C00-2C5F 1E000-1E006 1E008-1E018 1E01B-1E021 1E023-1E024 1E026-1E02A"]
  borrowed := .ofLines ["B7 303 305 484 487 589 10FB 205A 2E43 A66F"]

def scriptGothic : Script where
  names := ["gothic", "goth"]
  members := .ofLines ["10330-1034A"]
  borrowed := .ofLines ["B7 304-305 308 331"]

def scriptGrantha : Script where
  names := ["grantha", "gran"]
  members := .ofLines [
    "11300-11303 11305-1130C 1130F-11310 11313-11328 1132A-11330 11332-11333 11335-11339",
    "1133C-11344 11347-11348 1134B-1134D 11350 11357 1135D-11363 11366-1136C 11370-11374"]
  borrowed := .ofLines [
    "951-952 964-965 BE6-BF3 1CD0 1CD2-1CD3 1CF2-1CF4 1CF8-1CF9 20F0 1133B 11FD0-11FD1 11FD3"]

def scriptGreek : Script where
  names := ["greek", "grek"]
  members := .ofLines [
    "370-373 375-377 37A-37D 37F 384 386 388-38A 38C 38E-3A1 3A3-3E1 3F0-3FF 1D26-1D2A 1D5D-1D61",
    "1D66-1D6A 1DBF 1F00-1F15 1F18-1F1D 1F20-1F45 1F48-1F4D 1F50-1F57 1F59 1F5B 1F5D 1F5F-1F7D",
    "1F80-1FB4 1FB6-1FC4 1FC6-1FD3 1FD6-1FDB 1FDD-1FEF 1FF2-1FF4 1FF6-1FFE 2126 AB65 10140-1018E",
    "101A0 1D200-1D245"]
  borrowed := .ofLines ["B7 300-301 304 306 308 313 342 345 374 1DC0-1DC1 205D"]

def scriptGujarati : Script where
  names := ["gujarati", "gujr"]
  members := .ofLines [
    "A81-A83 A85-A8D A8F-A91 A93-AA8 AAA-AB0 AB2-AB3 AB5-AB9 ABC-AC5 AC7-AC9 ACB-ACD AD0 AE0-AE3",
    "AE6-AF1 AF9-AFF"]
  borrowed := .ofLines ["951-952 964-965 A830-A839"]

def scriptGunjalaGondi : Script where
  names := ["gunjalagondi", "gong"]
  members := .ofLines ["11D60-11D65 11D67-11D68 11D6A-11D8E 11D90-11D91 11D93-11D98 11DA0-11DA9"]
  borrowed := .ofLines ["B7 964-965"]

def scriptGurmukhi : Script where
  names := ["gurmukhi", "guru"]
  members := .ofLines [
    "A01-A03 A05-A0A A0F-A10 A13-A28 A2A-A30 A32-A33 A35-A36 A38-A39 A3C A3E-A42 A47-A48 A4B-A4D",
    "A51 A59-A5C A5E A66-A76"]
  borrowed := .ofLines ["951-952 964-965 A830-A839"]

def scriptGurungKhema : Script where
  names := ["gurungkhema", "gukh"]
  members := .ofLines ["16100-16139"]
  borrowed := .ofLines ["965"]

def scriptHan : Script where
  names := ["han", "hani"]
  members := .ofLines [
    "2E80-2E99 2E9B-2EF3 2F00-2FD5 3005 3007 3021-3029 3038-303B 3400-4DBF 4E00-9FFF F900-FA6D",
    "FA70-FAD9 16FE2-16FE3 16FF0-16FF1 20000-2A6DF 2A700-2B739 2B740-2B81D 2B820-2CEA1",
    "2CEB0-2EBE0 2EBF0-2EE5D 2F800-2FA1D 30000-3134A 31350-323AF"]
  borrowed := .ofLines [
    "B7 2FF0-2FFF 3001-3003 3006 3008-3011 3013-301F 302A-302D 3030 3037 303C-303F 30FB 3190-319F",
    "31C0-31E5 31EF 3220-3247 3280-32B0 32C0-32CB 32FF 3358-3370 337B-337F 33E0-33FE A700-A707",
    "FE45-FE46 FF61-FF65 1D360-1D371 1F250-1F251"]

def scriptHangul : Script where
  names := ["hangul", "hang"]
  members := .ofLines [
    "1100-11FF 302E-302F 3131-318E 3200-321E 3260-327E A960-A97C AC00-D7A3 D7B0-D7C6 D7CB-D7FB",
    "FFA0-FFBE FFC2-FFC7 FFCA-FFCF FFD2-FFD7 FFDA-FFDC"]
  borrowed := .ofLines ["3001-3003 3008-3011 3013-301F 3030 3037 30FB FE45-FE46 FF61-FF65"]

def scriptHanifiRohingya : Script where
  names := ["hanifirohingya", "rohg"]
  members := .ofLines ["10D00-10D27 10D30-10D39"]
  borrowed := .ofLines ["60C 61B 61F 640 6D4"]

def scriptHanunoo : Script where
  names := ["hanunoo", "hano"]
  members := .ofLines ["1720-1734"]
  borrowed := .ofLines ["1735-1736"]

def scriptHatran : Script where
  names := ["hatran", "hatr"]
  members := .ofLines ["108E0-108F2 108F4-108F5 108FB-108FF"]
  borrowed := .empty

def scriptHebrew : Script where
  names := ["hebrew", "hebr"]
  members := .ofLines [
    "591-5C7 5D0-5EA 5EF-5F4 FB1D-FB36 FB38-FB3C FB3E FB40-FB41 FB43-FB44 FB46-FB4F"]
  borrowed := .ofLines ["307-308"]

def scriptHiragana : Script where
  names := ["hiragana", "hira"]
  members := .ofLines ["3041-3096 309D-309F 1B001-1B11F 1B132 1B150-1B152 1F200"]
  borrowed := .ofLines [
    "3001-3003 3008-3011 3013-301F 3030-3035 3037 303C-303D 3099-309C 30A0 30FB-30FC FE45-FE46",
    "FF61-FF65 FF70 FF9E-FF9F"]

def scriptImperialAramaic : Script where
  names := ["imperialaramaic", "armi"]
  members := .ofLines ["10840-10855 10857-1085F"]
  borrowed := .empty

def scriptInherited : Script where
  names := ["inherited", "qaai", "zinh"]
  members := .ofLines [
    "300-36F 485-486 64B-655 670 951-954 1AB0-1ACE 1CD0-1CD2 1CD4-1CE0 1CE2-1CE8 1CED 1CF4",
    "1CF8-1CF9 1DC0-1DFF 200C-200D 20D0-20F0 302A-302D 3099-309A FE00-FE0F FE20-FE2D 101FD 102E0",
    "1133B 1CF00-1CF2D 1CF30-1CF46 1D167-1D169 1D17B-1D182 1D185-1D18B 1D1AA-1D1AD E0100-E01EF"]
  borrowed := .empty

def scriptInscriptionalPahlavi : Script where
  names := ["inscriptionalpahlavi", "phli"]
  members := .ofLines ["10B60-10B72 10B78-10B7F"]
  borrowed := .empty

def scriptInscriptionalParthian : Script where
  names := ["inscriptionalparthian", "prti"]
  members := .ofLines ["10B40-10B55 10B58-10B5F"]
  borrowed := .empty

def scriptJavanese : Script where
  names := ["javanese", "java"]
  members := .ofLines ["A980-A9CD A9D0-A9D9 A9DE-A9DF"]
  borrowed := .ofLines ["A9CF"]

def scriptKaithi : Script where
  names := ["kaithi", "kthi"]
  members := .ofLines ["11080-110C2 110CD"]
  borrowed := .ofLines ["966-96F 2E31 A830-A839"]

def scriptKannada : Script where
  names := ["kannada", "knda"]
  members := .ofLines [
    "C80-C8C C8E-C90 C92-CA8 CAA-CB3 CB5-CB9 CBC-CC4 CC6-CC8 CCA-CCD CD5-CD6 CDD-CDE CE0-CE3",
    "CE6-CEF CF1-CF3"]
  borrowed := .ofLines ["951-952 964-965 1CD0 1CD2-1CD3 1CDA 1CF2 1CF4 A830-A835"]

def scriptKatakana : Script where
  names := ["katakana", "kana"]
  members := .ofLines [
    "30A1-30FA 30FD-30FF 31F0-31FF 32D0-32FE 3300-3357 FF66-FF6F FF71-FF9D 1AFF0-1AFF3",
    "1AFF5-1AFFB 1AFFD-1AFFE 1B000 1B120-1B122 1B155 1B164-1B167"]
  borrowed := .ofLines [
    "305 323 3001-3003 3008-3011 3013-301F 3030-3035 3037 303C-303D 3099-309C 30A0 30FB-30FC",
    "FE45-FE46 FF61-FF65 FF70 FF9E-FF9F"]

def scriptKawi : Script where
  names := ["kawi"]
  members := .ofLines ["11F00-11F10 11F12-11F3A 11F3E-11F5A"]
  borrowed := .empty

def scriptKayahLi : Script where
  names := ["kayahli", "kali"]
  members := .ofLines ["A900-A92D A92F"]
  borrowed := .ofLines ["A92E"]

def scriptKharoshthi : Script where
  names := ["kharoshthi", "khar"]
  members := .ofLines [
    "10A00-10A03 10A05-10A06 10A0C-10A13 10A15-10A17 10A19-10A35 10A38-10A3A 10A3F-10A48",
    "10A50-10A58"]
  borrowed := .empty

def scriptKhitanSmallScript : Script where
  names := ["khitansmallscript", "kits"]
  members := .ofLines ["16FE4 18B00-18CD5 18CFF"]
  borrowed := .empty

def scriptKhmer : Script where
  names := ["khmer", "khmr"]
  members := .ofLines ["1780-17DD 17E0-17E9 17F0-17F9 19E0-19FF"]
  borrowed := .empty

def scriptKhojki : Script where
  names := ["khojki", "khoj"]
  members := .ofLines ["11200-11211 11213-11241"]
  borrowed := .ofLines ["AE6-AEF A830-A839"]

def scriptKhudawadi : Script where
  names := ["khudawadi", "sind"]
  members := .ofLines ["112B0-112EA 112F0-112F9"]
  borrowed := .ofLines ["964-965 A830-A839"]

def scriptKiratRai : Script where
  names := ["kiratrai", "krai"]
  members := .ofLines ["16D40-16D79"]
  borrowed := .empty

def scriptLao : Script where
  names := ["lao", "laoo"]
  members := .ofLines [
    "E81-E82 E84 E86-E8A E8C-EA3 EA5 EA7-EBD EC0-EC4 EC6 EC8-ECE ED0-ED9 EDC-EDF"]
  borrowed := .empty

def scriptLatin : Script where
  names := ["latin", "latn"]
  members := .ofLines [
    "41-5A 61-7A AA BA C0-D6 D8-F6 F8-2B8 2E0-2E4 1D00-1D25 1D2C-1D5C 1D62-1D65 1D6B-1D77",
    "1D79-1DBE 1E00-1EFF 2071 207F 2090-209C 212A-212B 2132 214E 2160-2188 2C60-2C7F A722-A787",
    "A78B-A7CD A7D0-A7D1 A7D3 A7D5-A7DC A7F2-A7FF AB30-AB5A AB5C-AB64 AB66-AB69 FB00-FB06",
    "FF21-FF3A FF41-FF5A 10780-10785 10787-107B0 107B2-107BA 1DF00-1DF1E 1DF25-1DF2A"]
  borrowed := .ofLines [
    "B7 2BC 2C7 2C9-2CB 2CD 2D7 2D9 300-30E 310-311 313 320 323-325 32D-32E 330-331 358 35E",
    "363-36F 485-486 951-952 10FB 1DF8 202F 20F0 2E17 A700-A707 A92E"]

def scriptLepcha : Script where
  names := ["lepcha", "lepc"]
  members := .ofLines ["1C00-1C37 1C3B-1C49 1C4D-1C4F"]
  borrowed := .empty

def scriptLimbu : Script where
  names := ["limbu", "limb"]
  members := .ofLines ["1900-191E 1920-192B 1930-193B 1940 1944-194F"]
  borrowed := .ofLines ["965"]

def scriptLinearA : Script where
  names := ["lineara", "lina"]
  members := .ofLines ["10600-10736 10740-10755 10760-10767"]
  borrowed := .ofLines ["10107-10133"]

def scriptLinearB : Script where
  names := ["linearb", "linb"]
  members := .ofLines [
    "10000-1000B 1000D-10026 10028-1003A 1003C-1003D 1003F-1004D 10050-1005D 10080-100FA"]
  borrowed := .ofLines ["10100-10102 10107-10133 10137-1013F"]

def scriptLisu : Script where
  names := ["lisu"]
  members := .ofLines ["A4D0-A4FF 11FB0"]
  borrowed := .ofLines ["2BC 2CD 300A-300B"]

def scriptLycian : Script where
  names := ["lycian", "lyci"]
  members := .ofLines ["10280-1029C"]
  borrowed := .ofLines ["205A"]

def scriptLydian : Script where
  names := ["lydian", "lydi"]
  members := .ofLines ["10920-10939 1093F"]
  borrowed := .ofLines ["B7 2E31"]

def scriptMahajani : Script where
  names := ["mahajani", "mahj"]
  members := .ofLines ["11150-11176"]
  borrowed := .ofLines ["B7 964-96F A830-A839"]

def scriptMakasar : Script where
  names := ["makasar", "maka"]
  members := .ofLines ["11EE0-11EF8"]
  borrowed := .empty

def scriptMalayalam : Script where
  names := ["malayalam", "mlym"]
  members := .ofLines ["D00-D0C D0E-D10 D12-D44 D46-D48 D4A-D4F D54-D63 D66-D7F"]
  borrowed := .ofLines ["951-952 964-965 1CDA 1CF2 A830-A832"]

def scriptMandaic : Script where
  names := ["mandaic", "mand"]
  members := .ofLines ["840-85B 85E"]
  borrowed := .ofLines ["640"]

def scriptManichaean : Script where
  names := ["manichaean", "mani"]
  members := .ofLines ["10AC0-10AE6 10AEB-10AF6"]
  borrowed := .ofLines ["640"]

def scriptMarchen : Script where
  names := ["marchen", "marc"]
  members := .ofLines ["11C70-11C8F 11C92-11CA7 11CA9-11CB6"]
  borrowed := .empty

def scriptMasaramGondi : Script where
  names := ["masaramgondi", "gonm"]
  members := .ofLines [
    "11D00-11D06 11D08-11D09 11D0B-11D36 11D3A 11D3C-11D3D 11D3F-11D47 11D50-11D59"]
  borrowed := .ofLines ["964-965"]

def scriptMedefaidrin : Script where
  names := ["medefaidrin", "medf"]
  members := .ofLines ["16E40-16E9A"]
  borrowed := .empty

def scriptMeeteiMayek : Script where
  names := ["meeteimayek", "mtei"]
  members := .ofLines ["AAE0-AAF6 ABC0-ABED ABF0-ABF9"]
  borrowed := .empty

def scriptMendeKikakui : Script where
  names := ["mendekikakui", "mend"]
  members := .ofLines ["1E800-1E8C4 1E8C7-1E8D6"]
  borrowed := .empty

def scriptMeroiticCursive : Script where
  names := ["meroiticcursive", "merc"]
  members := .ofLines ["109A0-109B7 109BC-109CF 109D2-109FF"]
  borrowed := .empty

def scriptMeroiticHieroglyphs : Script where
  names := ["meroitichieroglyphs", "mero"]
  members := .ofLines ["10980-1099F"]
  borrowed := .ofLines ["205D"]

def scriptMiao : Script where
  names := ["miao", "plrd"]
  members := .ofLines ["16F00-16F4A 16F4F-16F87 16F8F-16F9F"]
  borrowed := .empty

def scriptModi : Script where
  names := ["modi"]
  members := .ofLines ["11600-11644 11650-11659"]
  borrowed := .ofLines ["A830-A839"]

def scriptMongolian : Script where
  names := ["mongolian", "mong"]
  members := .ofLines ["1800-1801 1804 1806-1819 1820-1878 1880-18AA 11660-1166C"]
  borrowed := .ofLines ["1802-1803 1805 202F 3001-3002 3008-300B"]

def scriptMro : Script where
  names := ["mro", "mroo"]
  members := .ofLines ["16A40-16A5E 16A60-16A69 16A6E-16A6F"]
  borrowed := .empty

def scriptMultani : Script where
  names := ["multani", "mult"]
  members := .ofLines ["11280-11286 11288 1128A-1128D 1128F-1129D 1129F-112A9"]
  borrowed := .ofLines ["A66-A6F"]

def scriptMyanmar : Script where
  names := ["myanmar", "mymr"]
  members := .ofLines ["1000-109F A9E0-A9FE AA60-AA7F 116D0-116E3"]
  borrowed := .ofLines ["A92E"]

def scriptNabataean : Script where
  names := ["nabataean", "nbat"]
  members := .ofLines ["10880-1089E 108A7-108AF"]
  borrowed := .empty

def scriptNagMundari : Script where
  names := ["nagmundari", "nagm"]
  members := .ofLines ["1E4D0-1E4F9"]
  borrowed := .empty

def scriptNandinagari : Script where
  names := ["nandinagari", "nand"]
  members := .ofLines ["119A0-119A7 119AA-119D7 119DA-119E4"]
  borrowed := .ofLines ["964-965 CE6-CEF 1CE9 1CF2 1CFA A830-A835"]

def scriptNewTaiLue : Script where
  names := ["newtailue", "talu"]
  members := .ofLines ["1980-19AB 19B0-19C9 19D0-19DA 19DE-19DF"]
  borrowed := .empty

def scriptNewa : Script where
  names := ["newa"]
  members := .ofLines ["11400-1145B 1145D-11461"]
  borrowed := .empty

def scriptNko : Script where
  names := ["nko", "nkoo"]
  members := .ofLines ["7C0-7FA 7FD-7FF"]
  borrowed := .ofLines ["60C 61B 61F FD3E-FD3F"]

def scriptNushu : Script where
  names := ["nushu", "nshu"]
  members := .ofLines ["16FE1 1B170-1B2FB"]
  borrowed := .empty

def scriptNyiakengPuachueHmong : Script where
  names := ["nyiakengpuachuehmong", "hmnp"]
  members := .ofLines ["1E100-1E12C 1E130-1E13D 1E140-1E149 1E14E-1E14F"]
  borrowed := .empty

def scriptOgham : Script where
  names := ["ogham", "ogam"]
  members := .ofLines ["1680-169C"]
  borrowed := .empty

def scriptOlChiki : Script where
  names := ["olchiki", "olck"]
  members := .ofLines ["1C50-1C7F"]
  borrowed := .empty

def scriptOlOnal : Script where
  names := ["olonal", "onao"]
  members := .ofLines ["1E5D0-1E5FA 1E5FF"]
  borrowed := .ofLines ["964-965"]

def scriptOldHungarian : Script where
  names := ["oldhungarian", "hung"]
  members := .ofLines ["10C80-10CB2 10CC0-10CF2 10CFA-10CFF"]
  borrowed := .ofLines ["205A 205D 2E31 2E41"]

def scriptOldItalic : Script where
  names := ["olditalic", "ital"]
  members := .ofLines ["10300-10323 1032D-1032F"]
  borrowed := .empty

def scriptOldNorthArabian : Script where
  names := ["oldnortharabian", "narb"]
  members := .ofLines ["10A80-10A9F"]
  borrowed := .empty

def scriptOldPermic : Script where
  names := ["oldpermic", "perm"]
  members := .ofLines ["10350-1037A"]
  borrowed := .ofLines ["B7 300 306-308 313 483"]

def scriptOldPersian : Script where
  names := ["oldpersian", "xpeo"]
  members := .ofLines ["103A0-103C3 103C8-103D5"]
  borrowed := .empty

def scriptOldSogdian : Script where
  names := ["oldsogdian", "sogo"]
  members := .ofLines ["10F00-10F27"]
  borrowed := .empty

def scriptOldSouthArabian : Script where
  names := ["oldsoutharabian", "sarb"]
  members := .ofLines ["10A60-10A7F"]
  borrowed := .empty

def scriptOldTurkic : Script where
  names := ["oldturkic", "orkh"]
  members := .ofLines ["10C00-10C48"]
  borrowed := .ofLines ["205A 2E30"]

def scriptOldUyghur : Script where
  names := ["olduyghur", "ougr"]
  members := .ofLines ["10F70-10F89"]
  borrowed := .ofLines ["640 10AF2"]

def scriptOriya : Script where
  names := ["oriya", "orya"]
  members := .ofLines [
    "B01-B03 B05-B0C B0F-B10 B13-B28 B2A-B30 B32-B33 B35-B39 B3C-B44 B47-B48 B4B-B4D B55-B57",
    "B5C-B5D B5F-B63 B66-B77"]
  borrowed := .ofLines ["951-952 964-965 1CDA 1CF2"]

def scriptOsage : Script where
  names := ["osage", "osge"]
  members := .ofLines ["104B0-104D3 104D8-104FB"]
  borrowed := .ofLines ["301 304 30B 358"]

def scriptOsmanya : Script where
  names := ["osmanya", "osma"]
  members := .ofLines ["10480-1049D 104A0-104A9"]
  borrowed := .empty

def scriptPahawhHmong : Script where
  names := ["pahawhhmong", "hmng"]
  members := .ofLines ["16B00-16B45 16B50-16B59 16B5B-16B61 16B63-16B77 16B7D-16B8F"]
  borrowed := .empty

def scriptPalmyrene : Script where
  names := ["palmyrene", "palm"]
  members := .ofLines ["10860-1087F"]
  borrowed := .empty

def scriptPauCinHau : Script where
  names := ["paucinhau", "pauc"]
  members := .ofLines ["11AC0-11AF8"]
  borrowed := .empty

def scriptPhagsPa : Script where
  names := ["phagspa", "phag"]
  members := .ofLines ["A840-A877"]
  borrowed := .ofLines ["1802-1803 1805 202F 3002"]

def scriptPhoenician : Script where
  names := ["phoenician", "phnx"]
  members := .ofLines ["10900-1091B 1091F"]
  borrowed := .empty

def scriptPsalterPahlavi : Script where
  names := ["psalterpahlavi", "phlp"]
  members := .ofLines ["10B80-10B91 10B99-10B9C 10BA9-10BAF"]
  borrowed := .ofLines ["640"]

def scriptRejang : Script where
  names := ["rejang", "rjng"]
  members := .ofLines ["A930-A953 A95F"]
  borrowed := .empty

def scriptRunic : Script where
  names := ["runic", "runr"]
  members := .ofLines ["16A0-16EA 16EE-16F8"]
  borrowed := .ofLines ["16EB-16ED"]

def scriptSamaritan : Script where
  names := ["samaritan", "samr"]
  members := .ofLines ["800-82D 830-83E"]
  borrowed := .ofLines ["2E31"]

def scriptSaurashtra : Script where
  names := ["saurashtra", "saur"]
  members := .ofLines ["A880-A8C5 A8CE-A8D9"]
  borrowed := .empty

def scriptSharada : Script where
  names := ["sharada", "shrd"]
  members := .ofLines ["11180-111DF"]
  borrowed := .ofLines ["951 1CD7 1CD9 1CDC-1CDD 1CE0 A830-A835 A838"]

def scriptShavian : Script where
  names := ["shavian", "shaw"]
  members := .ofLines ["10450-1047F"]
  borrowed := .ofLines ["B7"]

def scriptSiddham : Script where
  names := ["siddham", "sidd"]
  members := .ofLines ["11580-115B5 115B8-115DD"]
  borrowed := .empty

def scriptSignWriting : Script where
  names := ["signwriting", "sgnw"]
  members := .ofLines ["1D800-1DA8B 1DA9B-1DA9F 1DAA1-1DAAF"]
  borrowed := .empty

def scriptSinhala : Script where
  names := ["sinhala", "sinh"]
  members := .ofLines [
    "D81-D83 D85-D96 D9A-DB1 DB3-DBB DBD DC0-DC6 DCA DCF-DD4 DD6 DD8-DDF DE6-DEF DF2-DF4",
    "111E1-111F4"]
  borrowed := .ofLines ["964-965 1CF2"]

def scriptSogdian : Script where
  names := ["sogdian", "sogd"]
  members := .ofLines ["10F30-10F59"]
  borrowed := .ofLines ["640"]

def scriptSoraSompeng : Script where
  names := ["sorasompeng", "sora"]
  members := .ofLines ["110D0-110E8 110F0-110F9"]
  borrowed := .empty

def scriptSoyombo : Script where
  names := ["soyombo", "soyo"]
  members := .ofLines ["11A50-11AA2"]
  borrowed := .empty

def scriptSundanese : Script where
  names := ["sundanese", "sund"]
  members := .ofLines ["1B80-1BBF 1CC0-1CC7"]
  borrowed := .empty

def scriptSunuwar : Script where
  names := ["sunuwar", "sunu"]
  members := .ofLines ["11BC0-11BE1 11BF0-11BF9"]
  borrowed := .ofLines ["300-301 303 30D 310 32D 331"]

def scriptSylotiNagri : Script where
  names := ["sylotinagri", "sylo"]
  members := .ofLines ["A800-A82C"]
  borrowed := .ofLines ["964-965 9E6-9EF"]

def scriptSyriac : Script where
  names := ["syriac", "syrc"]
  members := .ofLines ["700-70D 70F-74A 74D-74F 860-86A"]
  borrowed := .ofLines [
    "303-304 307-308 30A 320 323-325 32D-32E 330 60C 61B-61C 61F 640 64B-655 670 1DF8 1DFA"]

def scriptTagalog : Script where
  names := ["tagalog", "tglg"]
  members := .ofLines ["1700-1715 171F"]
  borrowed := .ofLines ["1735-1736"]

def scriptTagbanwa : Script where
  names := ["tagbanwa", "tagb"]
  members := .ofLines ["1760-176C 176E-1770 1772-1773"]
  borrowed := .ofLines ["1735-1736"]

def scriptTaiLe : Script where
  names := ["taile", "tale"]
  members := .ofLines ["1950-196D 1970-1974"]
  borrowed := .ofLines ["300-301 307-308 30C 1040-1049"]

def scriptTaiTham : Script where
  names := ["taitham", "lana"]
  members := .ofLines ["1A20-1A5E 1A60-1A7C 1A7F-1A89 1A90-1A99 1AA0-1AAD"]
  borrowed := .empty

def scriptTaiViet : Script where
  names := ["taiviet", "tavt"]
  members := .ofLines ["AA80-AAC2 AADB-AADF"]
  borrowed := .empty

def scriptTakri : Script where
  names := ["takri", "takr"]
  members := .ofLines ["11680-116B9 116C0-116C9"]
  borrowed := .ofLines ["964-965 A830-A839"]

def scriptTamil : Script where
  names := ["tamil", "taml"]
  members := .ofLines [
    "B82-B83 B85-B8A B8E-B90 B92-B95 B99-B9A B9C B9E-B9F BA3-BA4 BA8-BAA BAE-BB9 BBE-BC2 BC6-BC8",
    "BCA-BCD BD0 BD7 BE6-BFA 11FC0-11FF1 11FFF"]
  borrowed := .ofLines ["951-952 964-965 1CDA A8F3 11301 11303 1133B-1133C"]

def scriptTangsa : Script where
  names := ["tangsa", "tnsa"]
  members := .ofLines ["16A70-16ABE 16AC0-16AC9"]
  borrowed := .empty

def scriptTangut : Script where
  names := ["tangut", "tang"]
  members := .ofLines ["16FE0 17000-187F7 18800-18AFF 18D00-18D08"]
  borrowed := .ofLines ["2FF0-2FFF 31EF"]

def scriptTelugu : Script where
  names := ["telugu", "telu"]
  members := .ofLines [
    "C00-C0C C0E-C10 C12-C28 C2A-C39 C3C-C44 C46-C48 C4A-C4D C55-C56 C58-C5A C5D C60-C63 C66-C6F",
    "C77-C7F"]
  borrowed := .ofLines ["951-952 964-965 1CDA 1CF2"]

def scriptThaana : Script where
  names := ["thaana", "thaa"]
  members := .ofLines ["780-7B1"]
  borrowed := .ofLines ["60C 61B-61C 61F 660-669 FDF2 FDFD"]

def scriptThai : Script where
  names := ["thai"]
  members := .ofLines ["E01-E3A E40-E5B"]
  borrowed := .ofLines ["2BC 2D7 303 331"]

def scriptTibetan : Script where
  names := ["tibetan", "tibt"]
  members := .ofLines ["F00-F47 F49-F6C F71-F97 F99-FBC FBE-FCC FCE-FD4 FD9-FDA"]
  borrowed := .ofLines ["3008-300B"]

def scriptTifinagh : Script where
  names := ["tifinagh", "tfng"]
  members := .ofLines ["2D30-2D67 2D6F-2D70 2D7F"]
  borrowed := .ofLines ["302 304 307 309"]

def scriptTirhuta : Script where
  names := ["tirhuta", "tirh"]
  members := .ofLines ["11480-114C7 114D0-114D9"]
  borrowed := .ofLines ["951-952 964-965 1CF2 A830-A839"]

def scriptTodhri : Script where
  names := ["todhri", "todr"]
  members := .ofLines ["105C0-105F3"]
  borrowed := .ofLines ["301 304 307 311 313 35E"]

def scriptToto : Script where
  names := ["toto"]
  members := .ofLines ["1E290-1E2AE"]
  borrowed := .ofLines ["2BC"]

def scriptTuluTigalari : Script where
  names := ["tulutigalari", "tutg"]
  members := .ofLines [
    "11380-11389 1138B 1138E 11390-113B5 113B7-113C0 113C2 113C5 113C7-113CA 113CC-113D5",
    "113D7-113D8 113E1-113E2"]
  borrowed := .ofLines ["CE6-CEF 1CF2 1CF4 A830-A835 A8F1"]

def scriptUgaritic : Script where
  names := ["ugaritic", "ugar"]
  members := .ofLines ["10380-1039D 1039F"]
  borrowed := .empty

def scriptVai : Script where
  names := ["vai", "vaii"]
  members := .ofLines ["A500-A62B"]
  borrowed := .empty

def scriptVithkuqi : Script where
  names := ["vithkuqi", "vith"]
  members := .ofLines [
    "10570-1057A 1057C-1058A 1058C-10592 10594-10595 10597-105A1 105A3-105B1 105B3-105B9",
    "105BB-105BC"]
  borrowed := .empty

def scriptWancho : Script where
  names := ["wancho", "wcho"]
  members := .ofLines ["1E2C0-1E2F9 1E2FF"]
  borrowed := .empty

def scriptWarangCiti : Script where
  names := ["warangciti", "wara"]
  members := .ofLines ["118A0-118F2 118FF"]
  borrowed := .empty

def scriptYezidi : Script where
  names := ["yezidi", "yezi"]
  members := .ofLines ["10E80-10EA9 10EAB-10EAD 10EB0-10EB1"]
  borrowed := .ofLines ["60C 61B 61F 660-669"]

def scriptYi : Script where
  names := ["yi", "yiii"]
  members := .ofLines ["A000-A48C A490-A4C6"]
  borrowed := .ofLines ["3001-3002 3008-3011 3014-301B 30FB FF61-FF65"]

def scriptZanabazarSquare : Script where
  names := ["zanabazarsquare", "zanb"]
  members := .ofLines ["11A00-11A47"]
  borrowed := .empty

def scripts : List Script := [
  scriptAdlam, scriptAhom, scriptAnatolianHieroglyphs, scriptArabic, scriptArmenian,
  scriptAvestan, scriptBalinese, scriptBamum, scriptBassaVah, scriptBatak, scriptBengali,
  scriptBhaiksuki, scriptBopomofo, scriptBrahmi, scriptBraille, scriptBuginese, scriptBuhid,
  scriptCanadianAboriginal, scriptCarian, scriptCaucasianAlbanian, scriptChakma, scriptCham,
  scriptCherokee, scriptChorasmian, scriptCommon, scriptCoptic, scriptCuneiform, scriptCypriot,
  scriptCyproMinoan, scriptCyrillic, scriptDeseret, scriptDevanagari, scriptDivesAkuru,
  scriptDogra, scriptDuployan, scriptEgyptianHieroglyphs, scriptElbasan, scriptElymaic,
  scriptEthiopic, scriptGaray, scriptGeorgian, scriptGlagolitic, scriptGothic, scriptGrantha,
  scriptGreek, scriptGujarati, scriptGunjalaGondi, scriptGurmukhi, scriptGurungKhema, scriptHan,
  scriptHangul, scriptHanifiRohingya, scriptHanunoo, scriptHatran, scriptHebrew, scriptHiragana,
  scriptImperialAramaic, scriptInherited, scriptInscriptionalPahlavi,
  scriptInscriptionalParthian, scriptJavanese, scriptKaithi, scriptKannada, scriptKatakana,
  scriptKawi, scriptKayahLi, scriptKharoshthi, scriptKhitanSmallScript, scriptKhmer,
  scriptKhojki, scriptKhudawadi, scriptKiratRai, scriptLao, scriptLatin, scriptLepcha,
  scriptLimbu, scriptLinearA, scriptLinearB, scriptLisu, scriptLycian, scriptLydian,
  scriptMahajani, scriptMakasar, scriptMalayalam, scriptMandaic, scriptManichaean,
  scriptMarchen, scriptMasaramGondi, scriptMedefaidrin, scriptMeeteiMayek, scriptMendeKikakui,
  scriptMeroiticCursive, scriptMeroiticHieroglyphs, scriptMiao, scriptModi, scriptMongolian,
  scriptMro, scriptMultani, scriptMyanmar, scriptNabataean, scriptNagMundari, scriptNandinagari,
  scriptNewTaiLue, scriptNewa, scriptNko, scriptNushu, scriptNyiakengPuachueHmong, scriptOgham,
  scriptOlChiki, scriptOlOnal, scriptOldHungarian, scriptOldItalic, scriptOldNorthArabian,
  scriptOldPermic, scriptOldPersian, scriptOldSogdian, scriptOldSouthArabian, scriptOldTurkic,
  scriptOldUyghur, scriptOriya, scriptOsage, scriptOsmanya, scriptPahawhHmong, scriptPalmyrene,
  scriptPauCinHau, scriptPhagsPa, scriptPhoenician, scriptPsalterPahlavi, scriptRejang,
  scriptRunic, scriptSamaritan, scriptSaurashtra, scriptSharada, scriptShavian, scriptSiddham,
  scriptSignWriting, scriptSinhala, scriptSogdian, scriptSoraSompeng, scriptSoyombo,
  scriptSundanese, scriptSunuwar, scriptSylotiNagri, scriptSyriac, scriptTagalog,
  scriptTagbanwa, scriptTaiLe, scriptTaiTham, scriptTaiViet, scriptTakri, scriptTamil,
  scriptTangsa, scriptTangut, scriptTelugu, scriptThaana, scriptThai, scriptTibetan,
  scriptTifinagh, scriptTirhuta, scriptTodhri, scriptToto, scriptTuluTigalari, scriptUgaritic,
  scriptVai, scriptVithkuqi, scriptWancho, scriptWarangCiti, scriptYezidi, scriptYi,
  scriptZanabazarSquare]

/-- The characters that are used in a script they do not belong to. -/
def borrowedCharacters : RangeSet :=
  scripts.foldl (fun set script => set ∪ script.borrowed) .empty

/-- The characters that belong to a script or are used in it.  What is used in particular
scripts does not count as common or inherited. -/
def Script.users (s : Script) : RangeSet :=
  if s.names.contains "common" || s.names.contains "inherited" then
    s.members \ borrowedCharacters
  else
    s.members ∪ s.borrowed

end WindowPlacement.Unicode
