/-!
Character classes of the Unicode tables, each packed as hexadecimal bounds: two numbers
for every run of consecutive code points, in ascending order.
-/
namespace Catalog.Text.Table

/-- Code points with the derived property Alphabetic. -/
def alphabetic : List String :=
  ["41 5A 61 7A AA AA B5 B5 BA BA C0 D6 D8 F6 F8 2C1 2C6 2D1 2E0 2E4 2EC 2EC 2EE 2EE 345 345",
   "370 374 376 377 37A 37D 37F 37F 386 386 388 38A 38C 38C 38E 3A1 3A3 3F5 3F7 481 48A 52F",
   "531 556 559 559 560 588 5B0 5BD 5BF 5BF 5C1 5C2 5C4 5C5 5C7 5C7 5D0 5EA 5EF 5F2 610 61A",
   "620 657 659 65F 66E 6D3 6D5 6DC 6E1 6E8 6ED 6EF 6FA 6FC 6FF 6FF 710 73F 74D 7B1 7CA 7EA",
   "7F4 7F5 7FA 7FA 800 817 81A 82C 840 858 860 86A 870 887 889 88E 8A0 8C9 8D4 8DF 8E3 8E9",
   "8F0 93B 93D 94C 94E 950 955 963 971 983 985 98C 98F 990 993 9A8 9AA 9B0 9B2 9B2 9B6 9B9",
   "9BD 9C4 9C7 9C8 9CB 9CC 9CE 9CE 9D7 9D7 9DC 9DD 9DF 9E3 9F0 9F1 9FC 9FC A01 A03 A05 A0A",
   "A0F A10 A13 A28 A2A A30 A32 A33 A35 A36 A38 A39 A3E A42 A47 A48 A4B A4C A51 A51 A59 A5C",
   "A5E A5E A70 A75 A81 A83 A85 A8D A8F A91 A93 AA8 AAA AB0 AB2 AB3 AB5 AB9 ABD AC5 AC7 AC9",
   "ACB ACC AD0 AD0 AE0 AE3 AF9 AFC B01 B03 B05 B0C B0F B10 B13 B28 B2A B30 B32 B33 B35 B39",
   "B3D B44 B47 B48 B4B B4C B56 B57 B5C B5D B5F B63 B71 B71 B82 B83 B85 B8A B8E B90 B92 B95",
   "B99 B9A B9C B9C B9E B9F BA3 BA4 BA8 BAA BAE BB9 BBE BC2 BC6 BC8 BCA BCC BD0 BD0 BD7 BD7",
   "C00 C0C C0E C10 C12 C28 C2A C39 C3D C44 C46 C48 C4A C4C C55 C56 C58 C5A C5D C5D C60 C63",
   "C80 C83 C85 C8C C8E C90 C92 CA8 CAA CB3 CB5 CB9 CBD CC4 CC6 CC8 CCA CCC CD5 CD6 CDD CDE",
   "CE0 CE3 CF1 CF3 D00 D0C D0E D10 D12 D3A D3D D44 D46 D48 D4A D4C D4E D4E D54 D57 D5F D63",
   "D7A D7F D81 D83 D85 D96 D9A DB1 DB3 DBB DBD DBD DC0 DC6 DCF DD4 DD6 DD6 DD8 DDF DF2 DF3",
   "E01 E3A E40 E46 E4D E4D E81 E82 E84 E84 E86 E8A E8C EA3 EA5 EA5 EA7 EB9 EBB EBD EC0 EC4",
   "EC6 EC6 ECD ECD EDC EDF F00 F00 F40 F47 F49 F6C F71 F83 F88 F97 F99 FBC 1000 1036 1038 1038",
   "103B 103F 1050 108F 109A 109D 10A0 10C5 10C7 10C7 10CD 10CD 10D0 10FA 10FC 1248 124A 124D",
   "1250 1256 1258 1258 125A 125D 1260 1288 128A 128D 1290 12B0 12B2 12B5 12B8 12BE 12C0 12C0",
   "12C2 12C5 12C8 12D6 12D8 1310 1312 1315 1318 135A 1380 138F 13A0 13F5 13F8 13FD 1401 166C",
   "166F 167F 1681 169A 16A0 16EA 16EE 16F8 1700 1713 171F 1733 1740 1753 1760 176C 176E 1770",
   "1772 1773 1780 17B3 17B6 17C8 17D7 17D7 17DC 17DC 1820 1878 1880 18AA 18B0 18F5 1900 191E",
   "1920 192B 1930 1938 1950 196D 1970 1974 1980 19AB 19B0 19C9 1A00 1A1B 1A20 1A5E 1A61 1A74",
   "1AA7 1AA7 1ABF 1AC0 1ACC 1ACE 1B00 1B33 1B35 1B43 1B45 1B4C 1B80 1BA9 1BAC 1BAF 1BBA 1BE5",
   "1BE7 1BF1 1C00 1C36 1C4D 1C4F 1C5A 1C7D 1C80 1C8A 1C90 1CBA 1CBD 1CBF 1CE9 1CEC 1CEE 1CF3",
   "1CF5 1CF6 1CFA 1CFA 1D00 1DBF 1DE7 1DF4 1E00 1F15 1F18 1F1D 1F20 1F45 1F48 1F4D 1F50 1F57",
   "1F59 1F59 1F5B 1F5B 1F5D 1F5D 1F5F 1F7D 1F80 1FB4 1FB6 1FBC 1FBE 1FBE 1FC2 1FC4 1FC6 1FCC",
   "1FD0 1FD3 1FD6 1FDB 1FE0 1FEC 1FF2 1FF4 1FF6 1FFC 2071 2071 207F 207F 2090 209C 2102 2102",
   "2107 2107 210A 2113 2115 2115 2119 211D 2124 2124 2126 2126 2128 2128 212A 212D 212F 2139",
   "213C 213F 2145 2149 214E 214E 2160 2188 24B6 24E9 2C00 2CE4 2CEB 2CEE 2CF2 2CF3 2D00 2D25",
   "2D27 2D27 2D2D 2D2D 2D30 2D67 2D6F 2D6F 2D80 2D96 2DA0 2DA6 2DA8 2DAE 2DB0 2DB6 2DB8 2DBE",
   "2DC0 2DC6 2DC8 2DCE 2DD0 2DD6 2DD8 2DDE 2DE0 2DFF 2E2F 2E2F 3005 3007 3021 3029 3031 3035",
   "3038 303C 3041 3096 309D 309F 30A1 30FA 30FC 30FF 3105 312F 3131 318E 31A0 31BF 31F0 31FF",
   "3400 4DBF 4E00 A48C A4D0 A4FD A500 A60C A610 A61F A62A A62B A640 A66E A674 A67B A67F A6EF",
   "A717 A71F A722 A788 A78B A7CD A7D0 A7D1 A7D3 A7D3 A7D5 A7DC A7F2 A805 A807 A827 A840 A873",
   "A880 A8C3 A8C5 A8C5 A8F2 A8F7 A8FB A8FB A8FD A8FF A90A A92A A930 A952 A960 A97C A980 A9B2",
   "A9B4 A9BF A9CF A9CF A9E0 A9EF A9FA A9FE AA00 AA36 AA40 AA4D AA60 AA76 AA7A AABE AAC0 AAC0",
   "AAC2 AAC2 AADB AADD AAE0 AAEF AAF2 AAF5 AB01 AB06 AB09 AB0E AB11 AB16 AB20 AB26 AB28 AB2E",
   "AB30 AB5A AB5C AB69 AB70 ABEA AC00 D7A3 D7B0 D7C6 D7CB D7FB F900 FA6D FA70 FAD9 FB00 FB06",
   "FB13 FB17 FB1D FB28 FB2A FB36 FB38 FB3C FB3E FB3E FB40 FB41 FB43 FB44 FB46 FBB1 FBD3 FD3D",
   "FD50 FD8F FD92 FDC7 FDF0 FDFB FE70 FE74 FE76 FEFC FF21 FF3A FF41 FF5A FF66 FFBE FFC2 FFC7",
   "FFCA FFCF FFD2 FFD7 FFDA FFDC 10000 1000B 1000D 10026 10028 1003A 1003C 1003D 1003F 1004D",
   "10050 1005D 10080 100FA 10140 10174 10280 1029C 102A0 102D0 10300 1031F 1032D 1034A",
   "10350 1037A 10380 1039D 103A0 103C3 103C8 103CF 103D1 103D5 10400 1049D 104B0 104D3",
   "104D8 104FB 10500 10527 10530 10563 10570 1057A 1057C 1058A 1058C 10592 10594 10595",
   "10597 105A1 105A3 105B1 105B3 105B9 105BB 105BC 10600 10736 10740 10755 10760 10767",
   "10780 10785 10787 107B0 107B2 107BA 10800 10805 10808 10808 1080A 10835 10837 10838",
   "1083C 1083C 1083F 10855 10860 10876 10880 1089E 108E0 108F2 108F4 108F5 10900 10915",
   "10920 10939 10980 109B7 109BE 109BF 10A00 10A03 10A05 10A06 10A0C 10A13 10A15 10A17",
   "10A19 10A35 10A60 10A7C 10A80 10A9C 10AC0 10AC7 10AC9 10AE4 10B00 10B35 10B40 10B55",
   "10B60 10B72 10B80 10B91 10C00 10C48 10C80 10CB2 10CC0 10CF2 10D00 10D27 10D50 10D65",
   "10D70 10D85 10E80 10EA9 10EAB 10EAC 10EB0 10EB1 10F00 10F1C 10F27 10F27 10F30 10F45",
   "10F70 10F81 10FB0 10FC4 10FE0 10FF6 11000 11045 11071 11075 11080 110B8 110C2 110C2",
   "110D0 110E8 11100 11132 11144 11147 11150 11172 11176 11176 11180 111BF 111C1 111C4",
   "111CE 111CF 111DA 111DA 111DC 111DC 11200 11211 11213 11234 11237 11237 1123E 11241",
   "11280 11286 11288 11288 1128A 1128D 1128F 1129D 1129F 112A8 112B0 112E8 11300 11303",
   "11305 1130C 1130F 11310 11313 11328 1132A 11330 11332 11333 11335 11339 1133D 11344",
   "11347 11348 1134B 1134C 11350 11350 11357 11357 1135D 11363 11400 11441 11443 11445",
   "11447 1144A 1145F 11461 11480 114C1 114C4 114C5 114C7 114C7 11580 115B5 115B8 115BE",
   "115D8 115DD 11600 1163E 11640 11640 11644 11644 11680 116B5 116B8 116B8 11700 1171A",
   "1171D 1172A 11740 11746 11800 11838 118A0 118DF 118FF 11906 11909 11909 1190C 11913",
   "11915 11916 11918 11935 11937 11938 1193B 1193C 1193F 11942 119A0 119A7 119AA 119D7",
   "119DA 119DF 119E1 119E1 119E3 119E4 11A00 11A32 11A35 11A3E 11A50 11A97 11A9D 11A9D",
   "11AB0 11AF8 11C00 11C08 11C0A 11C36 11C38 11C3E 11C40 11C40 11C72 11C8F 11C92 11CA7",
   "11CA9 11CB6 11D00 11D06 11D08 11D09 11D0B 11D36 11D3A 11D3A 11D3C 11D3D 11D3F 11D41",
   "11D43 11D43 11D46 11D47 11D60 11D65 11D67 11D68 11D6A 11D8E 11D90 11D91 11D93 11D96",
   "11D98 11D98 11EE0 11EF6 11F00 11F10 11F12 11F3A 11F3E 11F40 11FB0 11FB0 12000 12399",
   "12400 1246E 12480 12543 12F90 12FF0 13000 1342F 13441 13446 14400 14646 16800 16A38",
   "16A40 16A5E 16A70 16ABE 16AD0 16AED 16B00 16B2F 16B40 16B43 16B63 16B77 16B7D 16B8F",
   "16E40 16E7F 16F00 16F4A 16F4F 16F87 16F8F 16F9F 16FE0 16FE1 16FE3 16FE3 16FF0 16FF1",
   "17000 187F7 18800 18CD5 18D00 18D08 1AFF0 1AFF3 1AFF5 1AFFB 1AFFD 1AFFE 1B000 1B122",
   "1B132 1B132 1B150 1B152 1B155 1B155 1B164 1B167 1B170 1B2FB 1BC00 1BC6A 1BC70 1BC7C",
   "1BC80 1BC88 1BC90 1BC99 1BC9E 1BC9E 1D400 1D454 1D456 1D49C 1D49E 1D49F 1D4A2 1D4A2",
   "1D4A5 1D4A6 1D4A9 1D4AC 1D4AE 1D4B9 1D4BB 1D4BB 1D4BD 1D4C3 1D4C5 1D505 1D507 1D50A",
   "1D50D 1D514 1D516 1D51C 1D51E 1D539 1D53B 1D53E 1D540 1D544 1D546 1D546 1D54A 1D550",
   "1D552 1D6A5 1D6A8 1D6C0 1D6C2 1D6DA 1D6DC 1D6FA 1D6FC 1D714 1D716 1D734 1D736 1D74E",
   "1D750 1D76E 1D770 1D788 1D78A 1D7A8 1D7AA 1D7C2 1D7C4 1D7CB 1DF00 1DF1E 1DF25 1DF2A",
   "1E000 1E006 1E008 1E018 1E01B 1E021 1E023 1E024 1E026 1E02A 1E030 1E06D 1E08F 1E08F",
   "1E100 1E12C 1E137 1E13D 1E14E 1E14E 1E290 1E2AD 1E2C0 1E2EB 1E4D0 1E4EB 1E7E0 1E7E6",
   "1E7E8 1E7EB 1E7ED 1E7EE 1E7F0 1E7FE 1E800 1E8C4 1E900 1E943 1E947 1E947 1E94B 1E94B",
   "1EE00 1EE03 1EE05 1EE1F 1EE21 1EE22 1EE24 1EE24 1EE27 1EE27 1EE29 1EE32 1EE34 1EE37",
   "1EE39 1EE39 1EE3B 1EE3B 1EE42 1EE42 1EE47 1EE47 1EE49 1EE49 1EE4B 1EE4B 1EE4D 1EE4F",
   "1EE51 1EE52 1EE54 1EE54 1EE57 1EE57 1EE59 1EE59 1EE5B 1EE5B 1EE5D 1EE5D 1EE5F 1EE5F",
   "1EE61 1EE62 1EE64 1EE64 1EE67 1EE6A 1EE6C 1EE72 1EE74 1EE77 1EE79 1EE7C 1EE7E 1EE7E",
   "1EE80 1EE89 1EE8B 1EE9B 1EEA1 1EEA3 1EEA5 1EEA9 1EEAB 1EEBB 1F130 1F149 1F150 1F169",
   "1F170 1F189 20000 2A6DF 2A700 2B739 2B740 2B81D 2B820 2CEA1 2CEB0 2EBE0 2F800 2FA1D",
   "30000 3134A 31350 323AF"]

/-- Code points of the general categories Nd, Nl and No. -/
def numeric : List String :=
  ["30 39 B2 B3 B9 B9 BC BE 660 669 6F0 6F9 7C0 7C9 966 96F 9E6 9EF 9F4 9F9 A66 A6F AE6 AEF",
   "B66 B6F B72 B77 BE6 BF2 C66 C6F C78 C7E CE6 CEF D58 D5E D66 D78 DE6 DEF E50 E59 ED0 ED9",
   "F20 F33 1040 1049 1090 1099 1369 137C 16EE 16F0 17E0 17E9 17F0 17F9 1810 1819 1946 194F",
   "19D0 19DA 1A80 1A89 1A90 1A99 1B50 1B59 1BB0 1BB9 1C40 1C49 1C50 1C59 2070 2070 2074 2079",
   "2080 2089 2150 2182 2185 2189 2460 249B 24EA 24FF 2776 2793 2CFD 2CFD 3007 3007 3021 3029",
   "3038 303A 3192 3195 3220 3229 3248 324F 3251 325F 3280 3289 32B1 32BF A620 A629 A6E6 A6EF",
   "A830 A835 A8D0 A8D9 A900 A909 A9D0 A9D9 A9F0 A9F9 AA50 AA59 ABF0 ABF9 FF10 FF19 10107 10133",
   "10140 10178 1018A 1018B 102E1 102FB 10320 10323 10341 10341 1034A 1034A 103D1 103D5",
   "104A0 104A9 10858 1085F 10879 1087F 108A7 108AF 108FB 108FF 10916 1091B 109BC 109BD",
   "109C0 109CF 109D2 109FF 10A40 10A48 10A7D 10A7E 10A9D 10A9F 10AEB 10AEF 10B58 10B5F",
   "10B78 10B7F 10BA9 10BAF 10CFA 10CFF 10D30 10D39 10E60 10E7E 10F1D 10F26 10F51 10F54",
   "10FC5 10FCB 11052 1106F 110F0 110F9 11136 1113F 111D0 111D9 111E1 111F4 112F0 112F9",
   "11450 11459 114D0 114D9 11650 11659 116C0 116C9 11730 1173B 118E0 118F2 11950 11959",
   "11C50 11C6C 11D50 11D59 11DA0 11DA9 11F50 11F59 11FC0 11FD4 12400 1246E 16A60 16A69",
   "16AC0 16AC9 16B50 16B59 16B5B 16B61 16E80 16E96 1D2C0 1D2D3 1D2E0 1D2F3 1D360 1D378",
   "1D7CE 1D7FF 1E140 1E149 1E2F0 1E2F9 1E4F0 1E4F9 1E8C7 1E8CF 1E950 1E959 1EC71 1ECAB",
   "1ECAD 1ECAF 1ECB1 1ECB4 1ED01 1ED2D 1ED2F 1ED3D 1F100 1F10C 1FBF0 1FBF9"]

/-- Code points with the derived property Cased. -/
def cased : List String :=
  ["41 5A 61 7A AA AA B5 B5 BA BA C0 D6 D8 F6 F8 1BA 1BC 1BF 1C4 293 295 2B8 2C0 2C1 2E0 2E4",
   "345 345 370 373 376 377 37A 37D 37F 37F 386 386 388 38A 38C 38C 38E 3A1 3A3 3F5 3F7 481",
   "48A 52F 531 556 560 588 10A0 10C5 10C7 10C7 10CD 10CD 10D0 10FA 10FC 10FF 13A0 13F5",
   "13F8 13FD 1C80 1C8A 1C90 1CBA 1CBD 1CBF 1D00 1DBF 1E00 1F15 1F18 1F1D 1F20 1F45 1F48 1F4D",
   "1F50 1F57 1F59 1F59 1F5B 1F5B 1F5D 1F5D 1F5F 1F7D 1F80 1FB4 1FB6 1FBC 1FBE 1FBE 1FC2 1FC4",
   "1FC6 1FCC 1FD0 1FD3 1FD6 1FDB 1FE0 1FEC 1FF2 1FF4 1FF6 1FFC 2071 2071 207F 207F 2090 209C",
   "2102 2102 2107 2107 210A 2113 2115 2115 2119 211D 2124 2124 2126 2126 2128 2128 212A 212D",
   "212F 2134 2139 2139 213C 213F 2145 2149 214E 214E 2160 217F 2183 2184 24B6 24E9 2C00 2CE4",
   "2CEB 2CEE 2CF2 2CF3 2D00 2D25 2D27 2D27 2D2D 2D2D A640 A66D A680 A69D A722 A787 A78B A78E",
   "A790 A7CD A7D0 A7D1 A7D3 A7D3 A7D5 A7DC A7F2 A7F6 A7F8 A7FA AB30 AB5A AB5C AB69 AB70 ABBF",
   "FB00 FB06 FB13 FB17 FF21 FF3A FF41 FF5A 10400 1044F 104B0 104D3 104D8 104FB 10570 1057A",
   "1057C 1058A 1058C 10592 10594 10595 10597 105A1 105A3 105B1 105B3 105B9 105BB 105BC",
   "10780 10780 10783 10785 10787 107B0 107B2 107BA 10C80 10CB2 10CC0 10CF2 10D50 10D65",
   "10D70 10D85 118A0 118DF 16E40 16E7F 1D400 1D454 1D456 1D49C 1D49E 1D49F 1D4A2 1D4A2",
   "1D4A5 1D4A6 1D4A9 1D4AC 1D4AE 1D4B9 1D4BB 1D4BB 1D4BD 1D4C3 1D4C5 1D505 1D507 1D50A",
   "1D50D 1D514 1D516 1D51C 1D51E 1D539 1D53B 1D53E 1D540 1D544 1D546 1D546 1D54A 1D550",
   "1D552 1D6A5 1D6A8 1D6C0 1D6C2 1D6DA 1D6DC 1D6FA 1D6FC 1D714 1D716 1D734 1D736 1D74E",
   "1D750 1D76E 1D770 1D788 1D78A 1D7A8 1D7AA 1D7C2 1D7C4 1D7CB 1DF00 1DF09 1DF0B 1DF1E",
   "1DF25 1DF2A 1E030 1E06D 1E900 1E943 1F130 1F149 1F150 1F169 1F170 1F189"]

/-- Code points with the derived property Case_Ignorable. -/
def caseIgnorable : List String :=
  ["27 27 2E 2E 3A 3A 5E 5E 60 60 A8 A8 AD AD AF AF B4 B4 B7 B8 2B0 36F 374 375 37A 37A 384 385",
   "387 387 483 489 559 559 55F 55F 591 5BD 5BF 5BF 5C1 5C2 5C4 5C5 5C7 5C7 5F4 5F4 600 605",
   "610 61A 61C 61C 640 640 64B 65F 670 670 6D6 6DD 6DF 6E8 6EA 6ED 70F 70F 711 711 730 74A",
   "7A6 7B0 7EB 7F5 7FA 7FA 7FD 7FD 816 82D 859 85B 888 888 890 891 898 89F 8C9 902 93A 93A",
   "93C 93C 941 948 94D 94D 951 957 962 963 971 971 981 981 9BC 9BC 9C1 9C4 9CD 9CD 9E2 9E3",
   "9FE 9FE A01 A02 A3C A3C A41 A42 A47 A48 A4B A4D A51 A51 A70 A71 A75 A75 A81 A82 ABC ABC",
   "AC1 AC5 AC7 AC8 ACD ACD AE2 AE3 AFA AFF B01 B01 B3C B3C B3F B3F B41 B44 B4D B4D B55 B56",
   "B62 B63 B82 B82 BC0 BC0 BCD BCD C00 C00 C04 C04 C3C C3C C3E C40 C46 C48 C4A C4D C55 C56",
   "C62 C63 C81 C81 CBC CBC CBF CBF CC6 CC6 CCC CCD CE2 CE3 D00 D01 D3B D3C D41 D44 D4D D4D",
   "D62 D63 D81 D81 DCA DCA DD2 DD4 DD6 DD6 E31 E31 E34 E3A E46 E4E EB1 EB1 EB4 EBC EC6 EC6",
   "EC8 ECE F18 F19 F35 F35 F37 F37 F39 F39 F71 F7E F80 F84 F86 F87 F8D F97 F99 FBC FC6 FC6",
   "102D 1030 1032 1037 1039 103A 103D 103E 1058 1059 105E 1060 1071 1074 1082 1082 1085 1086",
   "108D 108D 109D 109D 10FC 10FC 135D 135F 1712 1714 1732 1733 1752 1753 1772 1773 17B4 17B5",
   "17B7 17BD 17C6 17C6 17C9 17D3 17D7 17D7 17DD 17DD 180B 180F 1843 1843 1885 1886 18A9 18A9",
   "1920 1922 1927 1928 1932 1932 1939 193B 1A17 1A18 1A1B 1A1B 1A56 1A56 1A58 1A5E 1A60 1A60",
   "1A62 1A62 1A65 1A6C 1A73 1A7C 1A7F 1A7F 1AA7 1AA7 1AB0 1ACE 1B00 1B03 1B34 1B34 1B36 1B3A",
   "1B3C 1B3C 1B42 1B42 1B6B 1B73 1B80 1B81 1BA2 1BA5 1BA8 1BA9 1BAB 1BAD 1BE6 1BE6 1BE8 1BE9",
   "1BED 1BED 1BEF 1BF1 1C2C 1C33 1C36 1C37 1C78 1C7D 1CD0 1CD2 1CD4 1CE0 1CE2 1CE8 1CED 1CED",
   "1CF4 1CF4 1CF8 1CF9 1D2C 1D6A 1D78 1D78 1D9B 1DFF 1FBD 1FBD 1FBF 1FC1 1FCD 1FCF 1FDD 1FDF",
   "1FED 1FEF 1FFD 1FFE 200B 200F 2018 2019 2024 2024 2027 2027 202A 202E 2060 2064 2066 206F",
   "2071 2071 207F 207F 2090 209C 20D0 20F0 2C7C 2C7D 2CEF 2CF1 2D6F 2D6F 2D7F 2D7F 2DE0 2DFF",
   "2E2F 2E2F 3005 3005 302A 302D 3031 3035 303B 303B 3099 309E 30FC 30FE A015 A015 A4F8 A4FD",
   "A60C A60C A66F A672 A674 A67D A67F A67F A69C A69F A6F0 A6F1 A700 A721 A770 A770 A788 A78A",
   "A7F2 A7F4 A7F8 A7F9 A802 A802 A806 A806 A80B A80B A825 A826 A82C A82C A8C4 A8C5 A8E0 A8F1",
   "A8FF A8FF A926 A92D A947 A951 A980 A982 A9B3 A9B3 A9B6 A9B9 A9BC A9BD A9CF A9CF A9E5 A9E6",
   "AA29 AA2E AA31 AA32 AA35 AA36 AA43 AA43 AA4C AA4C AA70 AA70 AA7C AA7C AAB0 AAB0 AAB2 AAB4",
   "AAB7 AAB8 AABE AABF AAC1 AAC1 AADD AADD AAEC AAED AAF3 AAF4 AAF6 AAF6 AB5B AB5F AB69 AB6B",
   "ABE5 ABE5 ABE8 ABE8 ABED ABED FB1E FB1E FBB2 FBC2 FE00 FE0F FE13 FE13 FE20 FE2F FE52 FE52",
   "FE55 FE55 FEFF FEFF FF07 FF07 FF0E FF0E FF1A FF1A FF3E FF3E FF40 FF40 FF70 FF70 FF9E FF9F",
   "FFE3 FFE3 FFF9 FFFB 101FD 101FD 102E0 102E0 10376 1037A 10780 10785 10787 107B0 107B2 107BA",
   "10A01 10A03 10A05 10A06 10A0C 10A0F 10A38 10A3A 10A3F 10A3F 10AE5 10AE6 10D24 10D27",
   "10EAB 10EAC 10EFD 10EFF 10F46 10F50 10F82 10F85 11001 11001 11038 11046 11070 11070",
   "11073 11074 1107F 11081 110B3 110B6 110B9 110BA 110BD 110BD 110C2 110C2 110CD 110CD",
   "11100 11102 11127 1112B 1112D 11134 11173 11173 11180 11181 111B6 111BE 111C9 111CC",
   "111CF 111CF 1122F 11231 11234 11234 11236 11237 1123E 1123E 11241 11241 112DF 112DF",
   "112E3 112EA 11300 11301 1133B 1133C 11340 11340 11366 1136C 11370 11374 11438 1143F",
   "11442 11444 11446 11446 1145E 1145E 114B3 114B8 114BA 114BA 114BF 114C0 114C2 114C3",
   "115B2 115B5 115BC 115BD 115BF 115C0 115DC 115DD 11633 1163A 1163D 1163D 1163F 11640",
   "116AB 116AB 116AD 116AD 116B0 116B5 116B7 116B7 1171D 1171F 11722 11725 11727 1172B",
   "1182F 11837 11839 1183A 1193B 1193C 1193E 1193E 11943 11943 119D4 119D7 119DA 119DB",
   "119E0 119E0 11A01 11A0A 11A33 11A38 11A3B 11A3E 11A47 11A47 11A51 11A56 11A59 11A5B",
   "11A8A 11A96 11A98 11A99 11C30 11C36 11C38 11C3D 11C3F 11C3F 11C92 11CA7 11CAA 11CB0",
   "11CB2 11CB3 11CB5 11CB6 11D31 11D36 11D3A 11D3A 11D3C 11D3D 11D3F 11D45 11D47 11D47",
   "11D90 11D91 11D95 11D95 11D97 11D97 11EF3 11EF4 11F00 11F01 11F36 11F3A 11F40 11F40",
   "11F42 11F42 13430 13440 13447 13455 16AF0 16AF4 16B30 16B36 16B40 16B43 16F4F 16F4F",
   "16F8F 16F9F 16FE0 16FE1 16FE3 16FE4 1AFF0 1AFF3 1AFF5 1AFFB 1AFFD 1AFFE 1BC9D 1BC9E",
   "1BCA0 1BCA3 1CF00 1CF2D 1CF30 1CF46 1D167 1D169 1D173 1D182 1D185 1D18B 1D1AA 1D1AD",
   "1D242 1D244 1DA00 1DA36 1DA3B 1DA6C 1DA75 1DA75 1DA84 1DA84 1DA9B 1DA9F 1DAA1 1DAAF",
   "1E000 1E006 1E008 1E018 1E01B 1E021 1E023 1E024 1E026 1E02A 1E030 1E06D 1E08F 1E08F",
   "1E130 1E13D 1E2AE 1E2AE 1E2EC 1E2EF 1E4EB 1E4EF 1E8D0 1E8D6 1E944 1E94B 1F3FB 1F3FF",
   "E0001 E0001 E0020 E007F E0100 E01EF"]

/-- Code points with the property Grapheme_Extend. -/
def combining : List String :=
  ["300 36F 483 489 591 5BD 5BF 5BF 5C1 5C2 5C4 5C5 5C7 5C7 610 61A 64B 65F 670 670 6D6 6DC",
   "6DF 6E4 6E7 6E8 6EA 6ED 711 711 730 74A 7A6 7B0 7EB 7F3 7FD 7FD 816 819 81B 823 825 827",
   "829 82D 859 85B 898 89F 8CA 8E1 8E3 902 93A 93A 93C 93C 941 948 94D 94D 951 957 962 963",
   "981 981 9BC 9BC 9BE 9BE 9C1 9C4 9CD 9CD 9D7 9D7 9E2 9E3 9FE 9FE A01 A02 A3C A3C A41 A42",
   "A47 A48 A4B A4D A51 A51 A70 A71 A75 A75 A81 A82 ABC ABC AC1 AC5 AC7 AC8 ACD ACD AE2 AE3",
   "AFA AFF B01 B01 B3C B3C B3E B3F B41 B44 B4D B4D B55 B57 B62 B63 B82 B82 BBE BBE BC0 BC0",
   "BCD BCD BD7 BD7 C00 C00 C04 C04 C3C C3C C3E C40 C46 C48 C4A C4D C55 C56 C62 C63 C81 C81",
   "CBC CBC CBF CBF CC2 CC2 CC6 CC6 CCC CCD CD5 CD6 CE2 CE3 D00 D01 D3B D3C D3E D3E D41 D44",
   "D4D D4D D57 D57 D62 D63 D81 D81 DCA DCA DCF DCF DD2 DD4 DD6 DD6 DDF DDF E31 E31 E34 E3A",
   "E47 E4E EB1 EB1 EB4 EBC EC8 ECE F18 F19 F35 F35 F37 F37 F39 F39 F71 F7E F80 F84 F86 F87",
   "F8D F97 F99 FBC FC6 FC6 102D 1030 1032 1037 1039 103A 103D 103E 1058 1059 105E 1060",
   "1071 1074 1082 1082 1085 1086 108D 108D 109D 109D 135D 135F 1712 1714 1732 1733 1752 1753",
   "1772 1773 17B4 17B5 17B7 17BD 17C6 17C6 17C9 17D3 17DD 17DD 180B 180D 180F 180F 1885 1886",
   "18A9 18A9 1920 1922 1927 1928 1932 1932 1939 193B 1A17 1A18 1A1B 1A1B 1A56 1A56 1A58 1A5E",
   "1A60 1A60 1A62 1A62 1A65 1A6C 1A73 1A7C 1A7F 1A7F 1AB0 1ACE 1B00 1B03 1B34 1B3A 1B3C 1B3C",
   "1B42 1B42 1B6B 1B73 1B80 1B81 1BA2 1BA5 1BA8 1BA9 1BAB 1BAD 1BE6 1BE6 1BE8 1BE9 1BED 1BED",
   "1BEF 1BF1 1C2C 1C33 1C36 1C37 1CD0 1CD2 1CD4 1CE0 1CE2 1CE8 1CED 1CED 1CF4 1CF4 1CF8 1CF9",
   "1DC0 1DFF 200C 200C 20D0 20F0 2CEF 2CF1 2D7F 2D7F 2DE0 2DFF 302A 302F 3099 309A A66F A672",
   "A674 A67D A69E A69F A6F0 A6F1 A802 A802 A806 A806 A80B A80B A825 A826 A82C A82C A8C4 A8C5",
   "A8E0 A8F1 A8FF A8FF A926 A92D A947 A951 A980 A982 A9B3 A9B3 A9B6 A9B9 A9BC A9BD A9E5 A9E5",
   "AA29 AA2E AA31 AA32 AA35 AA36 AA43 AA43 AA4C AA4C AA7C AA7C AAB0 AAB0 AAB2 AAB4 AAB7 AAB8",
   "AABE AABF AAC1 AAC1 AAEC AAED AAF6 AAF6 ABE5 ABE5 ABE8 ABE8 ABED ABED FB1E FB1E FE00 FE0F",
   "FE20 FE2F FF9E FF9F 101FD 101FD 102E0 102E0 10376 1037A 10A01 10A03 10A05 10A06 10A0C 10A0F",
   "10A38 10A3A 10A3F 10A3F 10AE5 10AE6 10D24 10D27 10EAB 10EAC 10EFD 10EFF 10F46 10F50",
   "10F82 10F85 11001 11001 11038 11046 11070 11070 11073 11074 1107F 11081 110B3 110B6",
   "110B9 110BA 110C2 110C2 11100 11102 11127 1112B 1112D 11134 11173 11173 11180 11181",
   "111B6 111BE 111C9 111CC 111CF 111CF 1122F 11231 11234 11234 11236 11237 1123E 1123E",
   "11241 11241 112DF 112DF 112E3 112EA 11300 11301 1133B 1133C 1133E 1133E 11340 11340",
   "11357 11357 11366 1136C 11370 11374 11438 1143F 11442 11444 11446 11446 1145E 1145E",
   "114B0 114B0 114B3 114B8 114BA 114BA 114BD 114BD 114BF 114C0 114C2 114C3 115AF 115AF",
   "115B2 115B5 115BC 115BD 115BF 115C0 115DC 115DD 11633 1163A 1163D 1163D 1163F 11640",
   "116AB 116AB 116AD 116AD 116B0 116B5 116B7 116B7 1171D 1171F 11722 11725 11727 1172B",
   "1182F 11837 11839 1183A 11930 11930 1193B 1193C 1193E 1193E 11943 11943 119D4 119D7",
   "119DA 119DB 119E0 119E0 11A01 11A0A 11A33 11A38 11A3B 11A3E 11A47 11A47 11A51 11A56",
   "11A59 11A5B 11A8A 11A96 11A98 11A99 11C30 11C36 11C38 11C3D 11C3F 11C3F 11C92 11CA7",
   "11CAA 11CB0 11CB2 11CB3 11CB5 11CB6 11D31 11D36 11D3A 11D3A 11D3C 11D3D 11D3F 11D45",
   "11D47 11D47 11D90 11D91 11D95 11D95 11D97 11D97 11EF3 11EF4 11F00 11F01 11F36 11F3A",
   "11F40 11F40 11F42 11F42 13440 13440 13447 13455 16AF0 16AF4 16B30 16B36 16F4F 16F4F",
   "16F8F 16F92 16FE4 16FE4 1BC9D 1BC9E 1CF00 1CF2D 1CF30 1CF46 1D165 1D165 1D167 1D169",
   "1D16E 1D172 1D17B 1D182 1D185 1D18B 1D1AA 1D1AD 1D242 1D244 1DA00 1DA36 1DA3B 1DA6C",
   "1DA75 1DA75 1DA84 1DA84 1DA9B 1DA9F 1DAA1 1DAAF 1E000 1E006 1E008 1E018 1E01B 1E021",
   "1E023 1E024 1E026 1E02A 1E08F 1E08F 1E130 1E136 1E2AE 1E2AE 1E2EC 1E2EF 1E4EC 1E4EF",
   "1E8D0 1E8D6 1E944 1E94A E0020 E007F E0100 E01EF"]

/-- Code points that are controls, formats, separators other than the blank, or unassigned. -/
def unprintable : List String :=
  ["0 1F 7F A0 AD AD 378 379 380 383 38B 38B 38D 38D 3A2 3A2 530 530 557 558 58B 58C 590 590",
   "5C8 5CF 5EB 5EE 5F5 605 61C 61C 6DD 6DD 70E 70F 74B 74C 7B2 7BF 7FB 7FC 82E 82F 83F 83F",
   "85C 85D 85F 85F 86B 86F 88F 897 8E2 8E2 984 984 98D 98E 991 992 9A9 9A9 9B1 9B1 9B3 9B5",
   "9BA 9BB 9C5 9C6 9C9 9CA 9CF 9D6 9D8 9DB 9DE 9DE 9E4 9E5 9FF A00 A04 A04 A0B A0E A11 A12",
   "A29 A29 A31 A31 A34 A34 A37 A37 A3A A3B A3D A3D A43 A46 A49 A4A A4E A50 A52 A58 A5D A5D",
   "A5F A65 A77 A80 A84 A84 A8E A8E A92 A92 AA9 AA9 AB1 AB1 AB4 AB4 ABA ABB AC6 AC6 ACA ACA",
   "ACE ACF AD1 ADF AE4 AE5 AF2 AF8 B00 B00 B04 B04 B0D B0E B11 B12 B29 B29 B31 B31 B34 B34",
   "B3A B3B B45 B46 B49 B4A B4E B54 B58 B5B B5E B5E B64 B65 B78 B81 B84 B84 B8B B8D B91 B91",
   "B96 B98 B9B B9B B9D B9D BA0 BA2 BA5 BA7 BAB BAD BBA BBD BC3 BC5 BC9 BC9 BCE BCF BD1 BD6",
   "BD8 BE5 BFB BFF C0D C0D C11 C11 C29 C29 C3A C3B C45 C45 C49 C49 C4E C54 C57 C57 C5B C5C",
   "C5E C5F C64 C65 C70 C76 C8D C8D C91 C91 CA9 CA9 CB4 CB4 CBA CBB CC5 CC5 CC9 CC9 CCE CD4",
   "CD7 CDC CDF CDF CE4 CE5 CF0 CF0 CF4 CFF D0D D0D D11 D11 D45 D45 D49 D49 D50 D53 D64 D65",
   "D80 D80 D84 D84 D97 D99 DB2 DB2 DBC DBC DBE DBF DC7 DC9 DCB DCE DD5 DD5 DD7 DD7 DE0 DE5",
   "DF0 DF1 DF5 E00 E3B E3E E5C E80 E83 E83 E85 E85 E8B E8B EA4 EA4 EA6 EA6 EBE EBF EC5 EC5",
   "EC7 EC7 ECF ECF EDA EDB EE0 EFF F48 F48 F6D F70 F98 F98 FBD FBD FCD FCD FDB FFF 10C6 10C6",
   "10C8 10CC 10CE 10CF 1249 1249 124E 124F 1257 1257 1259 1259 125E 125F 1289 1289 128E 128F",
   "12B1 12B1 12B6 12B7 12BF 12BF 12C1 12C1 12C6 12C7 12D7 12D7 1311 1311 1316 1317 135B 135C",
   "137D 137F 139A 139F 13F6 13F7 13FE 13FF 1680 1680 169D 169F 16F9 16FF 1716 171E 1737 173F",
   "1754 175F 176D 176D 1771 1771 1774 177F 17DE 17DF 17EA 17EF 17FA 17FF 180E 180E 181A 181F",
   "1879 187F 18AB 18AF 18F6 18FF 191F 191F 192C 192F 193C 193F 1941 1943 196E 196F 1975 197F",
   "19AC 19AF 19CA 19CF 19DB 19DD 1A1C 1A1D 1A5F 1A5F 1A7D 1A7E 1A8A 1A8F 1A9A 1A9F 1AAE 1AAF",
   "1ACF 1AFF 1B4D 1B4F 1B7F 1B7F 1BF4 1BFB 1C38 1C3A 1C4A 1C4C 1C8B 1C8F 1CBB 1CBC 1CC8 1CCF",
   "1CFB 1CFF 1F16 1F17 1F1E 1F1F 1F46 1F47 1F4E 1F4F 1F58 1F58 1F5A 1F5A 1F5C 1F5C 1F5E 1F5E",
   "1F7E 1F7F 1FB5 1FB5 1FC5 1FC5 1FD4 1FD5 1FDC 1FDC 1FF0 1FF1 1FF5 1FF5 1FFF 200F 2028 202F",
   "205F 206F 2072 2073 208F 208F 209D 209F 20C1 20CF 20F1 20FF 218C 218F 2427 243F 244B 245F",
   "2B74 2B75 2B96 2B96 2CF4 2CF8 2D26 2D26 2D28 2D2C 2D2E 2D2F 2D68 2D6E 2D71 2D7E 2D97 2D9F",
   "2DA7 2DA7 2DAF 2DAF 2DB7 2DB7 2DBF 2DBF 2DC7 2DC7 2DCF 2DCF 2DD7 2DD7 2DDF 2DDF 2E5E 2E7F",
   "2E9A 2E9A 2EF4 2EFF 2FD6 2FEF 2FFC 3000 3040 3040 3097 3098 3100 3104 3130 3130 318F 318F",
   "31E4 31EF 321F 321F A48D A48F A4C7 A4CF A62C A63F A6F8 A6FF A7CE A7CF A7D2 A7D2 A7D4 A7D4",
   "A7DD A7F1 A82D A82F A83A A83F A878 A87F A8C6 A8CD A8DA A8DF A954 A95E A97D A97F A9CE A9CE",
   "A9DA A9DD A9FF A9FF AA37 AA3F AA4E AA4F AA5A AA5B AAC3 AADA AAF7 AB00 AB07 AB08 AB0F AB10",
   "AB17 AB1F AB27 AB27 AB2F AB2F AB6C AB6F ABEE ABEF ABFA ABFF D7A4 D7AF D7C7 D7CA D7FC D7FF",
   "E000 F8FF FA6E FA6F FADA FAFF FB07 FB12 FB18 FB1C FB37 FB37 FB3D FB3D FB3F FB3F FB42 FB42",
   "FB45 FB45 FBC3 FBD2 FD90 FD91 FDC8 FDCE FDD0 FDEF FE1A FE1F FE53 FE53 FE67 FE67 FE6C FE6F",
   "FE75 FE75 FEFD FF00 FFBF FFC1 FFC8 FFC9 FFD0 FFD1 FFD8 FFD9 FFDD FFDF FFE7 FFE7 FFEF FFFB",
   "FFFE FFFF 1000C 1000C 10027 10027 1003B 1003B 1003E 1003E 1004E 1004F 1005E 1007F",
   "100FB 100FF 10103 10106 10134 10136 1018F 1018F 1019D 1019F 101A1 101CF 101FE 1027F",
   "1029D 1029F 102D1 102DF 102FC 102FF 10324 1032C 1034B 1034F 1037B 1037F 1039E 1039E",
   "103C4 103C7 103D6 103FF 1049E 1049F 104AA 104AF 104D4 104D7 104FC 104FF 10528 1052F",
   "10564 1056E 1057B 1057B 1058B 1058B 10593 10593 10596 10596 105A2 105A2 105B2 105B2",
   "105BA 105BA 105BD 105FF 10737 1073F 10756 1075F 10768 1077F 10786 10786 107B1 107B1",
   "107BB 107FF 10806 10807 10809 10809 10836 10836 10839 1083B 1083D 1083E 10856 10856",
   "1089F 108A6 108B0 108DF 108F3 108F3 108F6 108FA 1091C 1091E 1093A 1093E 10940 1097F",
   "109B8 109BB 109D0 109D1 10A04 10A04 10A07 10A0B 10A14 10A14 10A18 10A18 10A36 10A37",
   "10A3B 10A3E 10A49 10A4F 10A59 10A5F 10AA0 10ABF 10AE7 10AEA 10AF7 10AFF 10B36 10B38",
   "10B56 10B57 10B73 10B77 10B92 10B98 10B9D 10BA8 10BB0 10BFF 10C49 10C7F 10CB3 10CBF",
   "10CF3 10CF9 10D28 10D2F 10D3A 10D4F 10D66 10D6F 10D86 10E5F 10E7F 10E7F 10EAA 10EAA",
   "10EAE 10EAF 10EB2 10EFC 10F28 10F2F 10F5A 10F6F 10F8A 10FAF 10FCC 10FDF 10FF7 10FFF",
   "1104E 11051 11076 1107E 110BD 110BD 110C3 110CF 110E9 110EF 110FA 110FF 11135 11135",
   "11148 1114F 11177 1117F 111E0 111E0 111F5 111FF 11212 11212 11242 1127F 11287 11287",
   "11289 11289 1128E 1128E 1129E 1129E 112AA 112AF 112EB 112EF 112FA 112FF 11304 11304",
   "1130D 1130E 11311 11312 11329 11329 11331 11331 11334 11334 1133A 1133A 11345 11346",
   "11349 1134A 1134E 1134F 11351 11356 11358 1135C 11364 11365 1136D 1136F 11375 113FF",
   "1145C 1145C 11462 1147F 114C8 114CF 114DA 1157F 115B6 115B7 115DE 115FF 11645 1164F",
   "1165A 1165F 1166D 1167F 116BA 116BF 116CA 116FF 1171B 1171C 1172C 1172F 11747 117FF",
   "1183C 1189F 118F3 118FE 11907 11908 1190A 1190B 11914 11914 11917 11917 11936 11936",
   "11939 1193A 11947 1194F 1195A 1199F 119A8 119A9 119D8 119D9 119E5 119FF 11A48 11A4F",
   "11AA3 11AAF 11AF9 11AFF 11B0A 11BFF 11C09 11C09 11C37 11C37 11C46 11C4F 11C6D 11C6F",
   "11C90 11C91 11CA8 11CA8 11CB7 11CFF 11D07 11D07 11D0A 11D0A 11D37 11D39 11D3B 11D3B",
   "11D3E 11D3E 11D48 11D4F 11D5A 11D5F 11D66 11D66 11D69 11D69 11D8F 11D8F 11D92 11D92",
   "11D99 11D9F 11DAA 11EDF 11EF9 11EFF 11F11 11F11 11F3B 11F3D 11F5A 11FAF 11FB1 11FBF",
   "11FF2 11FFE 1239A 123FF 1246F 1246F 12475 1247F 12544 12F8F 12FF3 12FFF 13430 1343F",
   "13456 143FF 14647 167FF 16A39 16A3F 16A5F 16A5F 16A6A 16A6D 16ABF 16ABF 16ACA 16ACF",
   "16AEE 16AEF 16AF6 16AFF 16B46 16B4F 16B5A 16B5A 16B62 16B62 16B78 16B7C 16B90 16E3F",
   "16E9B 16EFF 16F4B 16F4E 16F88 16F8E 16FA0 16FDF 16FE5 16FEF 16FF2 16FFF 187F8 187FF",
   "18CD6 18CFF 18D09 1AFEF 1AFF4 1AFF4 1AFFC 1AFFC 1AFFF 1AFFF 1B123 1B131 1B133 1B14F",
   "1B153 1B154 1B156 1B163 1B168 1B16F 1B2FC 1BBFF 1BC6B 1BC6F 1BC7D 1BC7F 1BC89 1BC8F",
   "1BC9A 1BC9B 1BCA0 1CEFF 1CF2E 1CF2F 1CF47 1CF4F 1CFC4 1CFFF 1D0F6 1D0FF 1D127 1D128",
   "1D173 1D17A 1D1EB 1D1FF 1D246 1D2BF 1D2D4 1D2DF 1D2F4 1D2FF 1D357 1D35F 1D379 1D3FF",
   "1D455 1D455 1D49D 1D49D 1D4A0 1D4A1 1D4A3 1D4A4 1D4A7 1D4A8 1D4AD 1D4AD 1D4BA 1D4BA",
   "1D4BC 1D4BC 1D4C4 1D4C4 1D506 1D506 1D50B 1D50C 1D515 1D515 1D51D 1D51D 1D53A 1D53A",
   "1D53F 1D53F 1D545 1D545 1D547 1D549 1D551 1D551 1D6A6 1D6A7 1D7CC 1D7CD 1DA8C 1DA9A",
   "1DAA0 1DAA0 1DAB0 1DEFF 1DF1F 1DF24 1DF2B 1DFFF 1E007 1E007 1E019 1E01A 1E022 1E022",
   "1E025 1E025 1E02B 1E02F 1E06E 1E08E 1E090 1E0FF 1E12D 1E12F 1E13E 1E13F 1E14A 1E14D",
   "1E150 1E28F 1E2AF 1E2BF 1E2FA 1E2FE 1E300 1E4CF 1E4FA 1E7DF 1E7E7 1E7E7 1E7EC 1E7EC",
   "1E7EF 1E7EF 1E7FF 1E7FF 1E8C5 1E8C6 1E8D7 1E8FF 1E94C 1E94F 1E95A 1E95D 1E960 1EC70",
   "1ECB5 1ED00 1ED3E 1EDFF 1EE04 1EE04 1EE20 1EE20 1EE23 1EE23 1EE25 1EE26 1EE28 1EE28",
   "1EE33 1EE33 1EE38 1EE38 1EE3A 1EE3A 1EE3C 1EE41 1EE43 1EE46 1EE48 1EE48 1EE4A 1EE4A",
   "1EE4C 1EE4C 1EE50 1EE50 1EE53 1EE53 1EE55 1EE56 1EE58 1EE58 1EE5A 1EE5A 1EE5C 1EE5C",
   "1EE5E 1EE5E 1EE60 1EE60 1EE63 1EE63 1EE65 1EE66 1EE6B 1EE6B 1EE73 1EE73 1EE78 1EE78",
   "1EE7D 1EE7D 1EE7F 1EE7F 1EE8A 1EE8A 1EE9C 1EEA0 1EEA4 1EEA4 1EEAA 1EEAA 1EEBC 1EEEF",
   "1EEF2 1EFFF 1F02C 1F02F 1F094 1F09F 1F0AF 1F0B0 1F0C0 1F0C0 1F0D0 1F0D0 1F0F6 1F0FF",
   "1F1AE 1F1E5 1F203 1F20F 1F23C 1F23F 1F249 1F24F 1F252 1F25F 1F266 1F2FF 1F6D8 1F6DB",
   "1F6ED 1F6EF 1F6FD 1F6FF 1F777 1F77A 1F7DA 1F7DF 1F7EC 1F7EF 1F7F1 1F7FF 1F80C 1F80F",
   "1F848 1F84F 1F85A 1F85F 1F888 1F88F 1F8AE 1F8AF 1F8B2 1F8FF 1FA54 1FA5F 1FA6E 1FA6F",
   "1FA7D 1FA7F 1FA89 1FA8F 1FABE 1FABE 1FAC6 1FACD 1FADC 1FADF 1FAE9 1FAEF 1FAF9 1FAFF",
   "1FB93 1FB93 1FBCB 1FBEF 1FBFA 1FFFF 2A6E0 2A6FF 2B73A 2B73F 2B81E 2B81F 2CEA2 2CEAF",
   "2EBE1 2F7FF 2FA1E 2FFFF 3134B 3134F 323B0 E00FF E01F0 10FFFF"]

/-- Code points of the general category Nd. -/
def decimalDigit : List String :=
  ["30 39 660 669 6F0 6F9 7C0 7C9 966 96F 9E6 9EF A66 A6F AE6 AEF B66 B6F BE6 BEF C66 C6F",
   "CE6 CEF D66 D6F DE6 DEF E50 E59 ED0 ED9 F20 F29 1040 1049 1090 1099 17E0 17E9 1810 1819",
   "1946 194F 19D0 19D9 1A80 1A89 1A90 1A99 1B50 1B59 1BB0 1BB9 1C40 1C49 1C50 1C59 A620 A629",
   "A8D0 A8D9 A900 A909 A9D0 A9D9 A9F0 A9F9 AA50 AA59 ABF0 ABF9 FF10 FF19 104A0 104A9",
   "10D30 10D39 11066 1106F 110F0 110F9 11136 1113F 111D0 111D9 112F0 112F9 11450 11459",
   "114D0 114D9 11650 11659 116C0 116C9 11730 11739 118E0 118E9 11950 11959 11C50 11C59",
   "11D50 11D59 11DA0 11DA9 11F50 11F59 16A60 16A69 16AC0 16AC9 16B50 16B59 1D7CE 1D7FF",
   "1E140 1E149 1E2F0 1E2F9 1E4F0 1E4F9 1E950 1E959 1FBF0 1FBF9"]

/-- Alphabetic code points, marks, decimal digits, connectors and joiners. -/
def word : List String :=
  ["30 39 41 5A 5F 5F 61 7A AA AA B5 B5 BA BA C0 D6 D8 F6 F8 2C1 2C6 2D1 2E0 2E4 2EC 2EC 2EE 2EE",
   "300 374 376 377 37A 37D 37F 37F 386 386 388 38A 38C 38C 38E 3A1 3A3 3F5 3F7 481 483 52F",
   "531 556 559 559 560 588 591 5BD 5BF 5BF 5C1 5C2 5C4 5C5 5C7 5C7 5D0 5EA 5EF 5F2 610 61A",
   "620 669 66E 6D3 6D5 6DC 6DF 6E8 6EA 6FC 6FF 6FF 710 74A 74D 7B1 7C0 7F5 7FA 7FA 7FD 7FD",
   "800 82D 840 85B 860 86A 870 887 889 88E 898 8E1 8E3 963 966 96F 971 983 985 98C 98F 990",
   "993 9A8 9AA 9B0 9B2 9B2 9B6 9B9 9BC 9C4 9C7 9C8 9CB 9CE 9D7 9D7 9DC 9DD 9DF 9E3 9E6 9F1",
   "9FC 9FC 9FE 9FE A01 A03 A05 A0A A0F A10 A13 A28 A2A A30 A32 A33 A35 A36 A38 A39 A3C A3C",
   "A3E A42 A47 A48 A4B A4D A51 A51 A59 A5C A5E A5E A66 A75 A81 A83 A85 A8D A8F A91 A93 AA8",
   "AAA AB0 AB2 AB3 AB5 AB9 ABC AC5 AC7 AC9 ACB ACD AD0 AD0 AE0 AE3 AE6 AEF AF9 AFF B01 B03",
   "B05 B0C B0F B10 B13 B28 B2A B30 B32 B33 B35 B39 B3C B44 B47 B48 B4B B4D B55 B57 B5C B5D",
   "B5F B63 B66 B6F B71 B71 B82 B83 B85 B8A B8E B90 B92 B95 B99 B9A B9C B9C B9E B9F BA3 BA4",
   "BA8 BAA BAE BB9 BBE BC2 BC6 BC8 BCA BCD BD0 BD0 BD7 BD7 BE6 BEF C00 C0C C0E C10 C12 C28",
   "C2A C39 C3C C44 C46 C48 C4A C4D C55 C56 C58 C5A C5D C5D C60 C63 C66 C6F C80 C83 C85 C8C",
   "C8E C90 C92 CA8 CAA CB3 CB5 CB9 CBC CC4 CC6 CC8 CCA CCD CD5 CD6 CDD CDE CE0 CE3 CE6 CEF",
   "CF1 CF3 D00 D0C D0E D10 D12 D44 D46 D48 D4A D4E D54 D57 D5F D63 D66 D6F D7A D7F D81 D83",
   "D85 D96 D9A DB1 DB3 DBB DBD DBD DC0 DC6 DCA DCA DCF DD4 DD6 DD6 DD8 DDF DE6 DEF DF2 DF3",
   "E01 E3A E40 E4E E50 E59 E81 E82 E84 E84 E86 E8A E8C EA3 EA5 EA5 EA7 EBD EC0 EC4 EC6 EC6",
   "EC8 ECE ED0 ED9 EDC EDF F00 F00 F18 F19 F20 F29 F35 F35 F37 F37 F39 F39 F3E F47 F49 F6C",
   "F71 F84 F86 F97 F99 FBC FC6 FC6 1000 1049 1050 109D 10A0 10C5 10C7 10C7 10CD 10CD 10D0 10FA",
   "10FC 1248 124A 124D 1250 1256 1258 1258 125A 125D 1260 1288 128A 128D 1290 12B0 12B2 12B5",
   "12B8 12BE 12C0 12C0 12C2 12C5 12C8 12D6 12D8 1310 1312 1315 1318 135A 135D 135F 1380 138F",
   "13A0 13F5 13F8 13FD 1401 166C 166F 167F 1681 169A 16A0 16EA 16EE 16F8 1700 1715 171F 1734",
   "1740 1753 1760 176C 176E 1770 1772 1773 1780 17D3 17D7 17D7 17DC 17DD 17E0 17E9 180B 180D",
   "180F 1819 1820 1878 1880 18AA 18B0 18F5 1900 191E 1920 192B 1930 193B 1946 196D 1970 1974",
   "1980 19AB 19B0 19C9 19D0 19D9 1A00 1A1B 1A20 1A5E 1A60 1A7C 1A7F 1A89 1A90 1A99 1AA7 1AA7",
   "1AB0 1ACE 1B00 1B4C 1B50 1B59 1B6B 1B73 1B80 1BF3 1C00 1C37 1C40 1C49 1C4D 1C7D 1C80 1C8A",
   "1C90 1CBA 1CBD 1CBF 1CD0 1CD2 1CD4 1CFA 1D00 1F15 1F18 1F1D 1F20 1F45 1F48 1F4D 1F50 1F57",
   "1F59 1F59 1F5B 1F5B 1F5D 1F5D 1F5F 1F7D 1F80 1FB4 1FB6 1FBC 1FBE 1FBE 1FC2 1FC4 1FC6 1FCC",
   "1FD0 1FD3 1FD6 1FDB 1FE0 1FEC 1FF2 1FF4 1FF6 1FFC 200C 200D 203F 2040 2054 2054 2071 2071",
   "207F 207F 2090 209C 20D0 20F0 2102 2102 2107 2107 210A 2113 2115 2115 2119 211D 2124 2124",
   "2126 2126 2128 2128 212A 212D 212F 2139 213C 213F 2145 2149 214E 214E 2160 2188 24B6 24E9",
   "2C00 2CE4 2CEB 2CF3 2D00 2D25 2D27 2D27 2D2D 2D2D 2D30 2D67 2D6F 2D6F 2D7F 2D96 2DA0 2DA6",
   "2DA8 2DAE 2DB0 2DB6 2DB8 2DBE 2DC0 2DC6 2DC8 2DCE 2DD0 2DD6 2DD8 2DDE 2DE0 2DFF 2E2F 2E2F",
   "3005 3007 3021 302F 3031 3035 3038 303C 3041 3096 3099 309A 309D 309F 30A1 30FA 30FC 30FF",
   "3105 312F 3131 318E 31A0 31BF 31F0 31FF 3400 4DBF 4E00 A48C A4D0 A4FD A500 A60C A610 A62B",
   "A640 A672 A674 A67D A67F A6F1 A717 A71F A722 A788 A78B A7CD A7D0 A7D1 A7D3 A7D3 A7D5 A7DC",
   "A7F2 A827 A82C A82C A840 A873 A880 A8C5 A8D0 A8D9 A8E0 A8F7 A8FB A8FB A8FD A92D A930 A953",
   "A960 A97C A980 A9C0 A9CF A9D9 A9E0 A9FE AA00 AA36 AA40 AA4D AA50 AA59 AA60 AA76 AA7A AAC2",
   "AADB AADD AAE0 AAEF AAF2 AAF6 AB01 AB06 AB09 AB0E AB11 AB16 AB20 AB26 AB28 AB2E AB30 AB5A",
   "AB5C AB69 AB70 ABEA ABEC ABED ABF0 ABF9 AC00 D7A3 D7B0 D7C6 D7CB D7FB F900 FA6D FA70 FAD9",
   "FB00 FB06 FB13 FB17 FB1D FB28 FB2A FB36 FB38 FB3C FB3E FB3E FB40 FB41 FB43 FB44 FB46 FBB1",
   "FBD3 FD3D FD50 FD8F FD92 FDC7 FDF0 FDFB FE00 FE0F FE20 FE2F FE33 FE34 FE4D FE4F FE70 FE74",
   "FE76 FEFC FF10 FF19 FF21 FF3A FF3F FF3F FF41 FF5A FF66 FFBE FFC2 FFC7 FFCA FFCF FFD2 FFD7",
   "FFDA FFDC 10000 1000B 1000D 10026 10028 1003A 1003C 1003D 1003F 1004D 10050 1005D",
   "10080 100FA 10140 10174 101FD 101FD 10280 1029C 102A0 102D0 102E0 102E0 10300 1031F",
   "1032D 1034A 10350 1037A 10380 1039D 103A0 103C3 103C8 103CF 103D1 103D5 10400 1049D",
   "104A0 104A9 104B0 104D3 104D8 104FB 10500 10527 10530 10563 10570 1057A 1057C 1058A",
   "1058C 10592 10594 10595 10597 105A1 105A3 105B1 105B3 105B9 105BB 105BC 10600 10736",
   "10740 10755 10760 10767 10780 10785 10787 107B0 107B2 107BA 10800 10805 10808 10808",
   "1080A 10835 10837 10838 1083C 1083C 1083F 10855 10860 10876 10880 1089E 108E0 108F2",
   "108F4 108F5 10900 10915 10920 10939 10980 109B7 109BE 109BF 10A00 10A03 10A05 10A06",
   "10A0C 10A13 10A15 10A17 10A19 10A35 10A38 10A3A 10A3F 10A3F 10A60 10A7C 10A80 10A9C",
   "10AC0 10AC7 10AC9 10AE6 10B00 10B35 10B40 10B55 10B60 10B72 10B80 10B91 10C00 10C48",
   "10C80 10CB2 10CC0 10CF2 10D00 10D27 10D30 10D39 10D50 10D65 10D70 10D85 10E80 10EA9",
   "10EAB 10EAC 10EB0 10EB1 10EFD 10F1C 10F27 10F27 10F30 10F50 10F70 10F85 10FB0 10FC4",
   "10FE0 10FF6 11000 11046 11066 11075 1107F 110BA 110C2 110C2 110D0 110E8 110F0 110F9",
   "11100 11134 11136 1113F 11144 11147 11150 11173 11176 11176 11180 111C4 111C9 111CC",
   "111CE 111DA 111DC 111DC 11200 11211 11213 11237 1123E 11241 11280 11286 11288 11288",
   "1128A 1128D 1128F 1129D 1129F 112A8 112B0 112EA 112F0 112F9 11300 11303 11305 1130C",
   "1130F 11310 11313 11328 1132A 11330 11332 11333 11335 11339 1133B 11344 11347 11348",
   "1134B 1134D 11350 11350 11357 11357 1135D 11363 11366 1136C 11370 11374 11400 1144A",
   "11450 11459 1145E 11461 11480 114C5 114C7 114C7 114D0 114D9 11580 115B5 115B8 115C0",
   "115D8 115DD 11600 11640 11644 11644 11650 11659 11680 116B8 116C0 116C9 11700 1171A",
   "1171D 1172B 11730 11739 11740 11746 11800 1183A 118A0 118E9 118FF 11906 11909 11909",
   "1190C 11913 11915 11916 11918 11935 11937 11938 1193B 11943 11950 11959 119A0 119A7",
   "119AA 119D7 119DA 119E1 119E3 119E4 11A00 11A3E 11A47 11A47 11A50 11A99 11A9D 11A9D",
   "11AB0 11AF8 11C00 11C08 11C0A 11C36 11C38 11C40 11C50 11C59 11C72 11C8F 11C92 11CA7",
   "11CA9 11CB6 11D00 11D06 11D08 11D09 11D0B 11D36 11D3A 11D3A 11D3C 11D3D 11D3F 11D47",
   "11D50 11D59 11D60 11D65 11D67 11D68 11D6A 11D8E 11D90 11D91 11D93 11D98 11DA0 11DA9",
   "11EE0 11EF6 11F00 11F10 11F12 11F3A 11F3E 11F42 11F50 11F59 11FB0 11FB0 12000 12399",
   "12400 1246E 12480 12543 12F90 12FF0 13000 1342F 13440 13455 14400 14646 16800 16A38",
   "16A40 16A5E 16A60 16A69 16A70 16ABE 16AC0 16AC9 16AD0 16AED 16AF0 16AF4 16B00 16B36",
   "16B40 16B43 16B50 16B59 16B63 16B77 16B7D 16B8F 16E40 16E7F 16F00 16F4A 16F4F 16F87",
   "16F8F 16F9F 16FE0 16FE1 16FE3 16FE4 16FF0 16FF1 17000 187F7 18800 18CD5 18D00 18D08",
   "1AFF0 1AFF3 1AFF5 1AFFB 1AFFD 1AFFE 1B000 1B122 1B132 1B132 1B150 1B152 1B155 1B155",
   "1B164 1B167 1B170 1B2FB 1BC00 1BC6A 1BC70 1BC7C 1BC80 1BC88 1BC90 1BC99 1BC9D 1BC9E",
   "1CF00 1CF2D 1CF30 1CF46 1D165 1D169 1D16D 1D172 1D17B 1D182 1D185 1D18B 1D1AA 1D1AD",
   "1D242 1D244 1D400 1D454 1D456 1D49C 1D49E 1D49F 1D4A2 1D4A2 1D4A5 1D4A6 1D4A9 1D4AC",
   "1D4AE 1D4B9 1D4BB 1D4BB 1D4BD 1D4C3 1D4C5 1D505 1D507 1D50A 1D50D 1D514 1D516 1D51C",
   "1D51E 1D539 1D53B 1D53E 1D540 1D544 1D546 1D546 1D54A 1D550 1D552 1D6A5 1D6A8 1D6C0",
   "1D6C2 1D6DA 1D6DC 1D6FA 1D6FC 1D714 1D716 1D734 1D736 1D74E 1D750 1D76E 1D770 1D788",
   "1D78A 1D7A8 1D7AA 1D7C2 1D7C4 1D7CB 1D7CE 1D7FF 1DA00 1DA36 1DA3B 1DA6C 1DA75 1DA75",
   "1DA84 1DA84 1DA9B 1DA9F 1DAA1 1DAAF 1DF00 1DF1E 1DF25 1DF2A 1E000 1E006 1E008 1E018",
   "1E01B 1E021 1E023 1E024 1E026 1E02A 1E030 1E06D 1E08F 1E08F 1E100 1E12C 1E130 1E13D",
   "1E140 1E149 1E14E 1E14E 1E290 1E2AE 1E2C0 1E2F9 1E4D0 1E4F9 1E7E0 1E7E6 1E7E8 1E7EB",
   "1E7ED 1E7EE 1E7F0 1E7FE 1E800 1E8C4 1E8D0 1E8D6 1E900 1E94B 1E950 1E959 1EE00 1EE03",
   "1EE05 1EE1F 1EE21 1EE22 1EE24 1EE24 1EE27 1EE27 1EE29 1EE32 1EE34 1EE37 1EE39 1EE39",
   "1EE3B 1EE3B 1EE42 1EE42 1EE47 1EE47 1EE49 1EE49 1EE4B 1EE4B 1EE4D 1EE4F 1EE51 1EE52",
   "1EE54 1EE54 1EE57 1EE57 1EE59 1EE59 1EE5B 1EE5B 1EE5D 1EE5D 1EE5F 1EE5F 1EE61 1EE62",
   "1EE64 1EE64 1EE67 1EE6A 1EE6C 1EE72 1EE74 1EE77 1EE79 1EE7C 1EE7E 1EE7E 1EE80 1EE89",
   "1EE8B 1EE9B 1EEA1 1EEA3 1EEA5 1EEA9 1EEAB 1EEBB 1F130 1F149 1F150 1F169 1F170 1F189",
   "1FBF0 1FBF9 20000 2A6DF 2A700 2B739 2B740 2B81D 2B820 2CEA1 2CEB0 2EBE0 2F800 2FA1D",
   "30000 3134A 31350 323AF E0100 E01EF"]

end Catalog.Text.Table
