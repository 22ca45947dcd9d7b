import OAuthEndpoint.Text.Ranges

/-! The letters and the other characters of names in data formats that let names be written without
quotes. -/

namespace OAuthEndpoint.Text

/-- The characters of category Letter and the numbers that are letters.  Ranges run on over
characters that no name has. -/
def letters : Ranges := .parse
  "41-5A 61-7A AA B5 BA C0-D6 D8-F6 F8-2C1 2C6-2D1 2E0-2E4 2EC 2EE 370-374 376-37D 37F 386
  388-3F5 3F7-481 48A-559 560-588 5D0-5F2 620-64A 66E-66F 671-6D3 6D5 6E5-6E6 6EE-6EF 6FA-6FC
  6FF 710 712-72F 74D-7A5 7B1 7CA-7EA 7F4-7F5 7FA 800-815 81A 824 828 840-858 860-887 889-88F
  8A0-8C9 904-939 93D 950 958-961 971-980 985-9B9 9BD 9CE 9DC-9E1 9F0-9F1 9FC A05-A39 A59-A5E
  A72-A74 A85-AB9 ABD AD0-AE1 AF9 B05-B39 B3D B5C-B61 B71 B83-BB9 BD0 C05-C39 C3D C58-C61 C80
  C85-CB9 CBD CDC-CE1 CF1-CF2 D04-D3A D3D D4E D54-D56 D5F-D61 D7A-D7F D85-DC6 E01-E30 E32-E33
  E40-E46 E81-EB0 EB2-EB3 EBD-EC6 EDC-F00 F40-F6C F88-F8C 1000-102A 103F 1050-1055 105A-105D
  1061 1065-1066 106E-1070 1075-1081 108E 10A0-10FA 10FC-135A 1380-138F 13A0-13FD 1401-166C
  166F-167F 1681-169A 16A0-16EA 16EE-1711 171F-1731 1740-1751 1760-1770 1780-17B3 17D7 17DC
  1820-1884 1887-18A8 18AA-191E 1950-19C9 1A00-1A16 1A20-1A54 1AA7 1B05-1B33 1B45-1B4C 1B83-1BA0
  1BAE-1BAF 1BBA-1BE5 1C00-1C23 1C4D-1C4F 1C5A-1C7D 1C80-1CBF 1CE9-1CEC 1CEE-1CF3 1CF5-1CF6
  1CFA-1DBF 1E00-1FBC 1FBE 1FC2-1FCC 1FD0-1FDB 1FE0-1FEC 1FF2-1FFC 2071 207F 2090-209C 2102 2107
  210A-2113 2115 2119-211D 2124 2126 2128 212A-212D 212F-2139 213C-213F 2145-2149 214E 2160-2188
  2C00-2CE4 2CEB-2CEE 2CF2-2CF3 2D00-2D6F 2D80-2DDE 2E2F 3005-3007 3021-3029 3031-3035 3038-303C
  3041-3096 309D-309F 30A1-30FA 30FC-318E 31A0-31BF 31F0-31FF 3400-4DBF 4E00-A48C A4D0-A4FD
  A500-A60C A610-A61F A62A-A66E A67F-A69D A6A0-A6EF A717-A71F A722-A788 A78B-A801 A803-A805
  A807-A80A A80C-A822 A840-A873 A882-A8B3 A8F2-A8F7 A8FB A8FD-A8FE A90A-A925 A930-A946 A960-A97C
  A984-A9B2 A9CF A9E0-A9E4 A9E6-A9EF A9FA-AA28 AA40-AA42 AA44-AA4B AA60-AA76 AA7A AA7E-AAAF AAB1
  AAB5-AAB6 AAB9-AABD AAC0 AAC2-AADD AAE0-AAEA AAF2-AAF4 AB01-AB5A AB5C-AB69 AB70-ABE2 AC00-D7FB
  F900-FB1D FB1F-FB28 FB2A-FBB1 FBD3-FD3D FD50-FD8F FD92-FDC7 FDF0-FDFB FE70-FEFC FF21-FF3A
  FF41-FF5A FF66-FFDC 10000-100FA 10140-10174 10280-102D0 10300-1031F 1032D-10375 10380-1039D
  103A0-103CF 103D1-1049D 104B0-10563 10570-10855 10860-10876 10880-1089E 108E0-108F5
  10900-10915 10920-10939 10940-109B7 109BE-109BF 10A00 10A10-10A35 10A60-10A7C 10A80-10A9C
  10AC0-10AC7 10AC9-10AE4 10B00-10B35 10B40-10B55 10B60-10B72 10B80-10B91 10C00-10CF2
  10D00-10D23 10D4A-10D65 10D6F-10D85 10E80-10EA9 10EB0-10EC7 10F00-10F1C 10F27-10F45
  10F70-10F81 10FB0-10FC4 10FE0-10FF6 11003-11037 11071-11072 11075 11083-110AF 110D0-110E8
  11103-11126 11144 11147-11172 11176 11183-111B2 111C1-111C4 111DA 111DC 11200-1122B
  1123F-11240 11280-112A8 112B0-112DE 11305-11339 1133D 11350 1135D-11361 11380-113B7 113D1
  113D3 11400-11434 11447-1144A 1145F-114AF 114C4-114C5 114C7 11580-115AE 115D8-115DB
  11600-1162F 11644 11680-116AA 116B8 11700-1171A 11740-1182B 118A0-118DF 118FF-1192F 1193F
  11941 119A0-119D0 119E1 119E3 11A00 11A0B-11A32 11A3A 11A50 11A5C-11A89 11A9D 11AB0-11AF8
  11BC0-11BE0 11C00-11C2E 11C40 11C72-11C8F 11D00-11D30 11D46 11D60-11D89 11D98 11DB0-11DDB
  11EE0-11EF2 11F02 11F04-11F33 11FB0 12000-1246E 12480-12FF0 13000-1342F 13441-13446
  13460-1611D 16800-16A5E 16A70-16ABE 16AD0-16AED 16B00-16B2F 16B40-16B43 16B63-16D6C
  16E40-16E7F 16EA0-16F4A 16F50 16F93-16FE1 16FE3 16FF2-1BC99 1D400-1D6C0 1D6C2-1D6DA
  1D6DC-1D6FA 1D6FC-1D714 1D716-1D734 1D736-1D74E 1D750-1D76E 1D770-1D788 1D78A-1D7A8
  1D7AA-1D7C2 1D7C4-1D7CB 1DF00-1DF2A 1E030-1E06D 1E100-1E12C 1E137-1E13D 1E14E 1E290-1E2AD
  1E2C0-1E2EB 1E4D0-1E4EB 1E5D0-1E5ED 1E5F0 1E6C0-1E6E2 1E6E4-1E6E5 1E6E7-1E6ED 1E6F0-1E6F4
  1E6FE-1E8C4 1E900-1E943 1E94B 1EE00-1EEBB 20000-33479"

/-- The marks without width, the decimal digits, the connectors and the diacritics, in ranges of the
same kind. -/
def nameParts : Ranges := .parse
  "30-39 5E-60 A8 AF B4 B7-B8 2B0-36F 374-375 37A 384-385 483-487 559 591-5BD 5BF 5C1-5C2 5C4-5C5
  5C7 610-61A 64B-669 670 6D6-6DC 6DF-6E8 6EA-6ED 6F0-6F9 711 730-74A 7A6-7B0 7C0-7C9 7EB-7F5
  7FD 816-819 81B-823 825-827 829-82D 859-85B 897-89F 8C9-8E1 8E3-902 93A 93C 941-948 94D
  951-957 962-963 966-96F 971 981 9BC 9C1-9C4 9CD 9E2-9EF 9FE-A02 A3C A41-A51 A66-A71 A75
  A81-A82 ABC AC1-AC8 ACD AE2-AEF AFA-B01 B3C B3F B41-B44 B4D-B56 B62-B6F B82 BC0 BCD BE6-BEF
  C00 C04 C3C C3E-C40 C46-C56 C62-C6F C81 CBC CBF CC6 CCC-CCD CE2-CEF D00-D01 D3B-D3C D41-D44
  D4D D62-D6F D81 DCA DD2-DD6 DE6-DEF E31 E34-E3A E47-E4E E50-E59 EB1 EB4-EBC EC8-ED9 F18-F19
  F20-F29 F35 F37 F39 F3E-F3F F71-F7E F80-F84 F86-F87 F8D-FBC FC6 102D-1030 1032-1037 1039-103A
  103D-103E 1040-1049 1058-1059 105E-1060 1063-1064 1069-106D 1071-1074 1082 1085-108D 108F-109B
  109D 135D-135F 1712-1715 1732-1734 1752-1753 1772-1773 17B4-17B5 17B7-17BD 17C6 17C9-17D3
  17DD-17E9 180B-180D 180F-1819 1885-1886 18A9 1920-1922 1927-1928 1932 1939-193B 1946-194F
  19D0-19D9 1A17-1A18 1A1B 1A56 1A58-1A60 1A62 1A65-1A6C 1A73-1A99 1AB0-1B03 1B34 1B36-1B3A 1B3C
  1B42 1B44 1B50-1B59 1B6B-1B73 1B80-1B81 1BA2-1BA5 1BA8-1BAD 1BB0-1BB9 1BE6 1BE8-1BE9 1BED
  1BEF-1BF3 1C2C-1C33 1C36-1C37 1C40-1C49 1C50-1C59 1C78-1C7D 1CD0-1CE8 1CED 1CF4 1CF7-1CF9
  1D2C-1D6A 1D9B-1DBE 1DC0-1DFF 1FBD 1FBF-1FC1 1FCD-1FCF 1FDD-1FDF 1FED-1FEF 1FFD-1FFE 203F-2040
  2054 20D0-20DC 20E1 20E5-20F0 2CEF-2CF1 2D7F 2DE0-2DFF 2E2F 302A-302F 3099-309C 30FC A620-A629
  A66F A674-A67D A67F A69C-A69F A6F0-A6F1 A700-A721 A788-A78A A7F1 A7F8-A7F9 A802 A806 A80B
  A825-A826 A82C A8C4-A8C5 A8D0-A8F1 A8FF-A909 A926-A92E A947-A951 A953 A980-A982 A9B3 A9B6-A9B9
  A9BC-A9BD A9C0 A9D0-A9D9 A9E5 A9F0-A9F9 AA29-AA2E AA31-AA32 AA35-AA36 AA43 AA4C AA50-AA59
  AA7B-AA7D AAB0 AAB2-AAB4 AAB7-AAB8 AABE-AAC2 AAEC-AAED AAF6 AB5B-AB5F AB69-AB6B ABE5 ABE8
  ABEC-ABF9 FB1E FE00-FE0F FE20-FE2F FE33-FE34 FE4D-FE4F FF10-FF19 FF3E-FF40 FF70 FF9E-FF9F FFE3
  101FD 102E0 10376-1037A 104A0-104A9 10780-107BA 10A01-10A0F 10A38-10A3F 10AE5-10AE6
  10D22-10D49 10D4E 10D69-10D6D 10EAB-10EAC 10EFA-10EFF 10F46-10F50 10F82-10F85 11001
  11038-11046 11066-11070 11073-11074 1107F-11081 110B3-110B6 110B9-110BA 110C2 110F0-11102
  11127-1112B 1112D-1113F 11173 11180-11181 111B6-111BE 111C0 111C9-111CC 111CF-111D9
  1122F-11231 11234-11237 1123E 11241 112DF 112E3-11301 1133B-1133C 11340 1134D 11366-11374
  113BB-113C0 113CE-113D0 113D2-113D3 113E1-113E2 11438-1143F 11442-11444 11446 11450-11459
  1145E 114B3-114B8 114BA 114BF-114C0 114C2-114C3 114D0-114D9 115B2-115B5 115BC-115BD
  115BF-115C0 115DC-115DD 11633-1163A 1163D 1163F-11640 11650-11659 116AB 116AD 116B0-116B7
  116C0-116E3 1171D 1171F 11722-11725 11727-11739 1182F-11837 11839-1183A 118E0-118E9
  1193B-1193E 11943 11950-11959 119D4-119DB 119E0 11A01-11A0A 11A33-11A38 11A3B-11A3E 11A47
  11A51-11A56 11A59-11A5B 11A8A-11A96 11A98-11A99 11B60 11B62-11B64 11B66 11BF0-11BF9
  11C30-11C3D 11C3F 11C50-11C59 11C92-11CA7 11CAA-11CB0 11CB2-11CB3 11CB5-11CB6 11D31-11D45
  11D47-11D59 11D90-11D91 11D95 11D97 11DA0-11DA9 11DD9 11DE0-11DE9 11EF3-11EF4 11F00-11F01
  11F36-11F3A 11F40-11F42 11F50-11F5A 13440 13447-13455 1611E-16129 1612D-16139 16A60-16A69
  16AC0-16AC9 16AF0-16AF4 16B30-16B36 16B50-16B59 16D6B-16D6C 16D70-16D79 16F4F 16F8F-16F9F
  16FE4-16FF1 1AFF0-1AFFE 1BC9D-1BC9E 1CCF0-1CCF9 1CF00-1CF46 1D167-1D169 1D16D-1D172
  1D17B-1D182 1D185-1D18B 1D1AA-1D1AD 1D242-1D244 1D7CE-1D7FF 1DA00-1DA36 1DA3B-1DA6C 1DA75
  1DA84 1DA9B-1DAAF 1E000-1E08F 1E130-1E136 1E140-1E149 1E2AE 1E2EC-1E2F9 1E4EC-1E4F9
  1E5EE-1E5EF 1E5F1-1E5FA 1E6E3 1E6E6 1E6EE-1E6EF 1E6F5 1E8D0-1E8D6 1E944-1E94A 1E950-1E959
  1FBF0-1FBF9 E0100-E01EF"

/-- Whether a name may start with a character. -/
def isNameStart (c : Char) : Bool :=
  c.isAlpha || c == '_' || (c.toNat ≥ 0x80 && letters.contains c)

/-- Whether a character may stand in a name after the first. -/
def isNamePart (c : Char) : Bool :=
  isNameStart c || c.isDigit || (c.toNat ≥ 0x80 && nameParts.contains c)

end OAuthEndpoint.Text
