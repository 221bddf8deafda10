import DataAccess.Text.Composition

/-!
# `DataAccess.Url.Mapping`: the plain form of domain names

Domain names can be written in many ways: in capitals, in wide or
raised forms of letters, with ligatures. The plain form has none of
them (Unicode calls it the mapping of `UTS 46`).

* `plainChars?`: the characters that take the place of a character, if
  domain names may have it at all.
* `plain?`: the plain form of a text, with its marks composed.

The characters of ASCII are all allowed here.
-/

set_option autoImplicit false

namespace DataAccess.Url

open Text (Range ranges keyedRanges)

/-- The characters that are left out. -/
def ignoredRanges : List Range := ranges
  "ad 34f 115f-1160 17b4-17b5 180b-180f 200b 2060-2064 206a-206f 3164 fe00-fe0f feff ffa0
   1bca0-1bca3 1d173-1d17a e0100-e01ef"

/-- The characters that no domain name has. The ranges run on over
those that are left out or replaced. -/
def refusedRanges : List Range := ranges
  "80-9f 378-379 380-38d 3a2 530-558 58b-58c 590 5c8-5cf 5eb-5ee 5f5-605 61c 6dd 70e-70f 74b-74c
   7b2-7bf 7fb-7fc 82e-82f 83f 85c-85d 85f 86b-86f 890-896 8e2 984 98d-98e 991-992 9a9 9b1
   9b3-9b5 9ba-9bb 9c5-9c6 9c9-9ca 9cf-9d6 9d8-9de 9e4-9e5 9ff-a00 a04 a0b-a0e a11-a12 a29 a31
   a34 a37 a3a-a3b a3d a43-a46 a49-a4a a4e-a50 a52-a58 a5d-a65 a77-a80 a84 a8e a92 aa9 ab1 ab4
   aba-abb ac6 aca ace-acf ad1-adf ae4-ae5 af2-af8 b00 b04 b0d-b0e b11-b12 b29 b31 b34 b3a-b3b
   b45-b46 b49-b4a b4e-b54 b58-b5e b64-b65 b78-b81 b84 b8b-b8d b91 b96-b98 b9b b9d ba0-ba2
   ba5-ba7 bab-bad bba-bbd bc3-bc5 bc9 bce-bcf bd1-bd6 bd8-be5 bfb-bff c0d c11 c29 c3a-c3b c45
   c49 c4e-c54 c57 c5b c5e-c5f c64-c65 c70-c76 c8d c91 ca9 cb4 cba-cbb cc5 cc9 cce-cd4 cd7-cdb
   cdf ce4-ce5 cf0 cf4-cff d0d d11 d45 d49 d50-d53 d64-d65 d80 d84 d97-d99 db2 dbc dbe-dbf
   dc7-dc9 dcb-dce dd5 dd7 de0-de5 df0-df1 df5-e00 e3b-e3e e5c-e80 e83 e85 e8b ea4 ea6 ebe-ebf
   ec5 ec7 ecf eda-edb ee0-eff f48 f6d-f70 f98 fbd fcd fdb-fff 10c6-10cf 1249 124e-124f 1257 1259
   125e-125f 1289 128e-128f 12b1 12b6-12b7 12bf 12c1 12c6-12c7 12d7 1311 1316-1317 135b-135c
   137d-137f 139a-139f 13f6-13ff 1680 169d-169f 16f9-16ff 1716-171e 1737-173f 1754-175f 176d 1771
   1774-177f 17de-17df 17ea-17ef 17fa-17ff 181a-181f 1879-187f 18ab-18af 18f6-18ff 191f 192c-192f
   193c-193f 1941-1943 196e-196f 1975-197f 19ac-19af 19ca-19cf 19db-19dd 1a1c-1a1d 1a5f 1a7d-1a7e
   1a8a-1a8f 1a9a-1a9f 1aae-1aaf 1ade-1adf 1aec-1aff 1b4d 1bf4-1bfb 1c38-1c3a 1c4a-1c4c 1c8b-1cbc
   1cc8-1ccf 1cfb-1cff 1f16-1f1f 1f46-1f4f 1f58-1f5e 1f7e-1f7f 1fb5 1fc5 1fd4-1fd5 1fdc 1ff0-1ff5
   1fff 200e-200f 2024-2026 2028-202e 2065-209f 20c2-20cf 20f1-20ff 218c-218f 242a-243f 244b-249b
   2b74-2b75 2cf4-2cf8 2d26 2d28-2d2c 2d2e-2d2f 2d68-2d6e 2d71-2d7e 2d97-2d9f 2da7 2daf 2db7 2dbf
   2dc7 2dcf 2dd7 2ddf 2e5e-2e7f 2e9a 2ef4-2fff 3040 3097-3098 3100-3104 3130-318f 31e6-31ef 321f
   33c2-33d8 a48d-a48f a4c7-a4cf a62c-a63f a6f8-a6ff a7dd-a7f0 a82d-a82f a83a-a83f a878-a87f
   a8c6-a8cd a8da-a8df a954-a95e a97d-a97f a9ce a9da-a9dd a9ff aa37-aa3f aa4e-aa4f aa5a-aa5b
   aac3-aada aaf7-ab00 ab07-ab08 ab0f-ab10 ab17-ab1f ab27 ab2f ab6c-ab6f abee-abef abfa-abff
   d7a4-d7af d7c7-d7ca d7fc-f8ff fa6e-fb1c fb37-fb45 fdd0-fdef fe12-fe1f fe30 fe52-fe6f fe75-ffff
   1000c 10027 1003b 1003e 1004e-1004f 1005e-1007f 100fb-100ff 10103-10106 10134-10136 1018f
   1019d-1019f 101a1-101cf 101fe-1027f 1029d-1029f 102d1-102df 102fc-102ff 10324-1032c
   1034b-1034f 1037b-1037f 1039e 103c4-103c7 103d6-103ff 1049e-1049f 104aa-104d7 104fc-104ff
   10528-1052f 10564-1056e 1057b-10596 105a2 105b2 105ba 105bd-105bf 105f4-105ff 10737-1073f
   10756-1075f 10768-1077f 10786-107ff 10806-10807 10809 10836 10839-1083b 1083d-1083e 10856
   1089f-108a6 108b0-108df 108f3 108f6-108fa 1091c-1091e 1093a-1093e 1095a-1097f 109b8-109bb
   109d0-109d1 10a04 10a07-10a0b 10a14 10a18 10a36-10a37 10a3b-10a3e 10a49-10a4f 10a59-10a5f
   10aa0-10abf 10ae7-10aea 10af7-10aff 10b36-10b38 10b56-10b57 10b73-10b77 10b92-10b98
   10b9d-10ba8 10bb0-10bff 10c49-10cbf 10cf3-10cf9 10d28-10d2f 10d3a-10d3f 10d66-10d68
   10d86-10d8d 10d90-10e5f 10e7f 10eaa 10eae-10eaf 10eb2-10ec1 10ec8-10ecf 10ed9-10ef9
   10f28-10f2f 10f5a-10f6f 10f8a-10faf 10fcc-10fdf 10ff7-10fff 1104e-11051 11076-1107e 110bd
   110c3-110cf 110e9-110ef 110fa-110ff 11135 11148-1114f 11177-1117f 111e0 111f5-111ff 11212
   11242-1127f 11287 11289 1128e 1129e 112aa-112af 112eb-112ef 112fa-112ff 11304 1130d-1130e
   11311-11312 11329 11331 11334 1133a 11345-11346 11349-1134a 1134e-1134f 11351-11356
   11358-1135c 11364-11365 1136d-1136f 11375-1137f 1138a 1138c-1138d 1138f 113b6 113c1
   113c3-113c4 113c6 113cb 113d6 113d9-113e0 113e3-113ff 1145c 11462-1147f 114c8-114cf
   114da-1157f 115b6-115b7 115de-115ff 11645-1164f 1165a-1165f 1166d-1167f 116ba-116bf
   116ca-116cf 116e4-116ff 1171b-1171c 1172c-1172f 11747-117ff 1183c-1189f 118f3-118fe
   11907-11908 1190a-1190b 11914 11917 11936 11939-1193a 11947-1194f 1195a-1199f 119a8-119a9
   119d8-119d9 119e5-119ff 11a48-11a4f 11aa3-11aaf 11af9-11aff 11b0a-11b5f 11b68-11bbf
   11be2-11bef 11bfa-11bff 11c09 11c37 11c46-11c4f 11c6d-11c6f 11c90-11c91 11ca8 11cb7-11cff
   11d07 11d0a 11d37-11d39 11d3b 11d3e 11d48-11d4f 11d5a-11d5f 11d66 11d69 11d8f 11d92
   11d99-11d9f 11daa-11daf 11ddc-11ddf 11dea-11edf 11ef9-11eff 11f11 11f3b-11f3d 11f5b-11faf
   11fb1-11fbf 11ff2-11ffe 1239a-123ff 1246f 12475-1247f 12544-12f8f 12ff3-12fff 13430-1343f
   13456-1345f 143fb-143ff 14647-160ff 1613a-167ff 16a39-16a3f 16a5f 16a6a-16a6d 16abf
   16aca-16acf 16aee-16aef 16af6-16aff 16b46-16b4f 16b5a 16b62 16b78-16b7c 16b90-16d3f
   16d7a-16e3f 16e9b-16eba 16ed4-16eff 16f4b-16f4e 16f88-16f8e 16fa0-16fdf 16fe5-16fef
   16ff7-16fff 18cd6-18cfe 18d1f-18d7f 18df3-1afef 1aff4 1affc 1afff 1b123-1b131 1b133-1b14f
   1b153-1b154 1b156-1b163 1b168-1b16f 1b2fc-1bbff 1bc6b-1bc6f 1bc7d-1bc7f 1bc89-1bc8f
   1bc9a-1bc9b 1bca4-1cbff 1ccfd-1ccff 1ceb4-1ceb9 1ced1-1cedf 1cef1-1ceff 1cf2e-1cf2f
   1cf47-1cf4f 1cfc4-1cfff 1d0f6-1d0ff 1d127-1d128 1d1eb-1d1ff 1d246-1d2bf 1d2d4-1d2df
   1d2f4-1d2ff 1d357-1d35f 1d379-1d7cd 1da8c-1da9a 1daa0 1dab0-1deff 1df1f-1df24 1df2b-1dfff
   1e007 1e019-1e01a 1e022 1e025 1e02b-1e08e 1e090-1e0ff 1e12d-1e12f 1e13e-1e13f 1e14a-1e14d
   1e150-1e28f 1e2af-1e2bf 1e2fa-1e2fe 1e300-1e4cf 1e4fa-1e5cf 1e5fb-1e5fe 1e600-1e6bf 1e6df
   1e6f6-1e6fd 1e700-1e7df 1e7e7 1e7ec 1e7ef 1e7ff 1e8c5-1e8c6 1e8d7-1e8ff 1e94c-1e94f
   1e95a-1e95d 1e960-1ec70 1ecb5-1ed00 1ed3e-1eeef 1eef2-1efff 1f02c-1f02f 1f094-1f09f
   1f0af-1f0b0 1f0c0 1f0d0 1f0f6-1f100 1f1ae-1f1e5 1f203-1f25f 1f266-1f2ff 1f6d9-1f6db
   1f6ed-1f6ef 1f6fd-1f6ff 1f7da-1f7df 1f7ec-1f7ef 1f7f1-1f7ff 1f80c-1f80f 1f848-1f84f
   1f85a-1f85f 1f888-1f88f 1f8ae-1f8af 1f8bc-1f8bf 1f8c2-1f8cf 1f8d9-1f8ff 1fa58-1fa5f
   1fa6e-1fa6f 1fa7d-1fa7f 1fa8b-1fa8d 1fac7 1fac9-1facc 1fadd-1fade 1faeb-1faee 1faf9-1faff
   1fb93 1fbfb-1ffff 2a6e0-2a6ff 2b81e-2b81f 2ceae-2ceaf 2ebe1-2ebef 2ee5e-2ffff 3134b-3134f
   3347a-10ffff"

/-- Every other character of these ranges, beginning with the first, is
the capital of the one after it. -/
def pairedRanges : List Range := ranges
  "100-12e 134-136 139-13d 141-147 14a-176 179-17d 182-184 187 18b 191 198 1a0-1a4 1a7 1ac 1af
   1b3-1b5 1b8 1bc 1cd-1db 1de-1ee 1f4 1f8-21e 222-232 23b 241 246-24e 370-372 376 3d8-3ee 3f7
   3fa 460-480 48a-4be 4c1-4cd 4d0-52e 1c89 1e00-1e94 1ea0-1efe 2183 2c60 2c67-2c6b 2c72 2c75
   2c80-2ce2 2ceb-2ced 2cf2 a640-a66c a680-a69a a722-a72e a732-a76e a779-a77b a77e-a786 a78b
   a790-a792 a796-a7a8 a7b4-a7c2 a7c7-a7c9 a7cc-a7da a7f5"

/-- Under each character those that it takes the place of; for a range,
the characters after it take the places of the others in turn. -/
def shiftedRanges : List (List Nat × List Range) := keyedRanges
  "20:a0 2000 2001 2002 2003 2004 2005 2006 2007 2008 2009 200a 202f 205f 3000;21:fe15 fe57
   ff01-ff20;23:fe5f;24:fe69-fe6a;26:fe60;28:207d-207e 208d-208e fe35-fe36 fe59-fe5a;
   2a:fe61-fe62;2b:207a 208a fb29;2c:fe10 fe50;2d:fe63;2e:3002 ff61;30:2070 2080-2089 24ea
   1ccf0-1ccf9 1d7ce-1d7d7 1d7d8-1d7e1 1d7e2-1d7eb 1d7ec-1d7f5 1d7f6-1d7ff 1fbf0-1fbf9;31:b9
   2460-2468;32:b2-b3;34:2074-2079;3a:fe13-fe14 fe55;3b:37e fe54;3c:fe64;3d:207c 208c fe66;
   3e:fe65;3f:fe16 fe56;40:fe6b;5b:fe47 ff3b-ff5e;5c:fe68;5d:fe48;5f:fe33 fe34 fe4d fe4e fe4f;
   60:1fef;61:aa 1d2c 1d43 2090 24b6-24cf 24d0-24e9 ff21-ff3a 1ccd6-1ccef 1d400-1d419 1d41a-1d433
   1d434-1d44d 1d44e-1d454 1d468-1d481 1d482-1d49b 1d49c 1d4b6-1d4b9 1d4d0-1d4e9 1d4ea-1d503
   1d504-1d505 1d51e-1d537 1d538-1d539 1d552-1d56b 1d56c-1d585 1d586-1d59f 1d5a0-1d5b9
   1d5ba-1d5d3 1d5d4-1d5ed 1d5ee-1d607 1d608-1d621 1d622-1d63b 1d63c-1d655 1d656-1d66f
   1d670-1d689 1d68a-1d6a3 1f130-1f149;62:1d2e 1d47 212c-212d;63:1d9c 2102 216d-216e 217d-217e
   a7f2 1d49e-1d49f 1f12b;64:1d30-1d31 1d48-1d49 2145 2146-2147 1d507-1d50a 1d53b-1d53e;65:2091
   212f 2130-2131;66:1da0 a7f3 1d4bb;67:1d33-1d3a 1d4d 210a-210b 1d4a2;68:2b0 2095 210c 210d 210e
   1d4bd-1d4c3;69:1d62 2071 2110 2111 2139 2148-2149 2160 2170 1d456-1d467 1d540-1d544;6a:2b2
   2c7c 1d4a5-1d4a6 1d50d-1d514;6b:1d4f 2096-2099 212a;6c:2e1 2112 2113 216c 217c;6d:1d50 2133
   216f 217f;6e:207f 2115 1d4a9-1d4ac;6f:ba 1d3c 1d52 2092 2134 1d546;70:1d3e 1d56 209a 2119-211b
   1d4c5-1d4cf;71:a7f4 107a5;72:2b3 1d3f 1d63 211c 211d 1f12c;73:17f 2e2 209b-209c a7f1
   1d4ae-1d4b5 1d516-1d51c 1d54a-1d550;74:1d40-1d41 1d57-1d58;75:1d64-1d65;76:1d5b 2164 2174
   2c7d;77:2b7 1d42;78:2e3 2093 2169 2179;79:2b8;7a:1dbb 2124 2128;7b:fe37 fe5b;7d:fe38 fe5c;
   a2:ffe0-ffe1;a5:ffe5;a6:ffe4;ac:ffe2;b7:387;df:1e9e;e0:c0-d6;e5:212b;e6:1d2d 10783;f0:1d9e;
   f8:d8-de 107a2;ff:178;127:210f a7f8 10795;131:1d6a4;14b:1d51;153:a7f9;180:243;195:1f6;19a:23d;
   19b:a7dc;19e:220;1ab:1db5;1bf:1f7;1c0:107b6-107b8;1dd:18e 1d32;223:1d3d;237:1d6a5;
   23f:2c7e-2c7f;250:1d44-1d45 2c6f;251:2c6d;252:1d9b 2c70;253:181 10785;254:186 1d53;255:1d9d;
   256:189-18a 1078b-1078c;258:1078e;259:18f 1d4a 2094;25b:190 1d4b-1d4c 2107;25c:1d9f a7ab;
   25e:1078f;25f:1da1;260:193 10793;261:1da2 a7ac;262:10792;263:194 2e0;264:a7cb 10791;265:1da3
   a78d;266:2b1 a7aa;267:10797;268:197 1da4-1da6;269:196;26a:a7ae;26b:2c62 ab5e;26c:a7ad 1079b;
   26d:1da9;26e:1079e;26f:19c 1d5a;270:1dad;271:1dac 2c6e;272:19d 1dae-1db1;275:19f;
   276:107a3-107a4;278:1db2;279:2b4;27a:107a6;27b:2b5;27d:2c64 107a8-107a9;280:1a6 107aa;281:2b6;
   282:1db3-1db4 a7c5;283:1a9;284:10798;287:a7b1;288:1ae 107af;289:244 1db6-1db7;28a:1b1-1b2;
   28b:1db9-1dba;28c:245;28d:ab69;28e:107a0;28f:107b2;290:1dbc-1dbe;292:1b7;295:2e4;298:107b5;
   299:10784;29b:10794;29c:10796;29d:1da8 a7b2;29e:a7b0;29f:1dab;2a1:107b3-107b4;2a3:10787;
   2a4:1078a;2a5:10789;2a6:107ac;2a7:107ae;2a8:107ab;2a9:10790;2aa:10799-1079a;2b9:374;
   2d0:10781-10782;300:340-341;313:343;37b:3fd-3ff;390:1fd3;3ac:386 1f71 1fbb;3ad:388-38a 1f73
   1fc9;3ae:1f75 1fcb;3af:1f77 1fdb;3b0:1fe3;3b1:391-3a1 1d6a8-1d6b8 1d6c2-1d6d2 1d6e2-1d6f2
   1d6fc-1d70c 1d71c-1d72c 1d736-1d746 1d756-1d766 1d770-1d780 1d790-1d7a0 1d7aa-1d7ba;3b2:3d0
   1d5d-1d5f 1d66-1d67;3b3:213d 213e;3b5:3f5 1d6dc 1d716 1d750 1d78a 1d7c4;3b8:3d1 3f4 1dbf 1d6b9
   1d6dd 1d6f3 1d717 1d72d 1d751 1d767 1d78b 1d7a1 1d7c5;3b9:345 1fbe;3ba:3f0 1d6de 1d718 1d752
   1d78c 1d7c6;3bc:b5;3c0:3d6 213c 213f 1d6e1 1d71b 1d755 1d78f 1d7c9;3c1:3f1 1d68 1d6e0 1d71a
   1d754 1d78e 1d7c8;3c3:3a3-3ab 3f2 3f9 1d6ba-1d6c0 1d6d3 1d6d4-1d6da 1d6f4-1d6fa 1d70d
   1d70e-1d714 1d72e-1d734 1d747 1d748-1d74e 1d768-1d76e 1d781 1d782-1d788 1d7a2-1d7a8 1d7bb
   1d7bc-1d7c2;3c5:3d2;3c6:3d5 1d60-1d61 1d69-1d6a 1d6df 1d719 1d753 1d78d 1d7c7;3c9:2126;
   3cb:3d4;3cc:38c 1f79 1ff9;3cd:38e-38f 3d3 1f7b 1feb;3ce:1f7d 1ffb;3d7:3cf;3dd:1d7ca 1d7cb;
   3f3:37f;430:410-42f 1e030-1e038 1e051-1e059;432:1c80;434:1c81;43a:1e039-1e03b 1e05a-1e05b;
   43d:1d78;43e:1c82 1e03c-1e046 1e05c-1e05d;441:1c83-1c84 1e05e;442:1c85;443:1e05f-1e064;
   44a:1c86 a69c 1e065-1e066;44b:1e047;44c:a69d;44d:1e048-1e049;450:400-40f;455:1e069;456:1e04c
   1e068;458:1e04d;45f:1e06a;463:1c87;491:1e067;4ab:1e06b;4af:1e04f;4b1:1e06d;4cf:4c0 1e050;
   4d9:1e04b;4e9:1e04e;561:531-556;5d0:2135-2138 fb21;5d3:fb22-fb23;5db:fb24-fb26;5e2:fb20;
   5e8:fb27;5ea:fb28;621:fe80-fe81;622:fe82-fe83;623:fe84-fe85;624:fe86-fe87;625:fe88-fe89;
   626:fe8a fe8b fe8c-fe8d;627:fe8e-fe8f 1ee00-1ee01 1ee80-1ee81;628:fe90 fe91 fe92-fe93 1ee21
   1ee61 1eea1;629:fe94-fe95;62a:fe96 fe97 fe98-fe99 1ee15-1ee16 1ee35-1ee36 1ee75-1ee76
   1ee95-1ee96 1eeb5-1eeb6;62b:fe9a fe9b fe9c-fe9d;62c:fe9e fe9f fea0-fea1 1ee02 1ee22 1ee42
   1ee62 1ee82 1eea2;62d:fea2 fea3 fea4-fea5 1ee07 1ee27 1ee47 1ee67 1ee87 1eea7;62e:fea6 fea7
   fea8-fea9 1ee17 1ee37 1ee57 1ee77 1ee97 1eeb7;62f:feaa-feab 1ee03 1ee83 1eea3;630:feac-fead
   1ee18 1ee98 1eeb8;631:feae-feaf 1ee13 1ee93 1eeb3;632:feb0-feb1 1ee06 1ee86 1eea6;633:feb2
   feb3 feb4-feb5 1ee0e 1ee2e 1ee4e 1ee6e 1ee8e 1eeae;634:feb6 feb7 feb8-feb9 1ee14 1ee34 1ee54
   1ee74 1ee94 1eeb4;635:feba febb febc-febd 1ee11 1ee31 1ee51 1ee71 1ee91 1eeb1;636:febe febf
   fec0-fec1 1ee19 1ee39 1ee59 1ee79 1ee99 1eeb9;637:fec2 fec3 fec4-fec5 1ee08 1ee68 1ee88 1eea8;
   638:fec6 fec7 fec8-fec9 1ee1a 1ee7a 1ee9a 1eeba;639:feca fecb fecc-fecd 1ee0f 1ee2f 1ee4f
   1ee6f 1ee8f 1eeaf;63a:fece fecf fed0 1ee1b 1ee3b 1ee5b 1ee7b 1ee9b 1eebb;641:fed1 fed2 fed3
   fed4-fed5 1ee10 1ee30 1ee70 1ee90 1eeb0;642:fed6 fed7 fed8-fed9 1ee12 1ee32 1ee52 1ee72 1ee92
   1eeb2;643:feda fedb fedc-fedd 1ee0a-1ee0d 1ee2a-1ee2d 1ee6a;644:fede fedf fee0-fee1 1ee4b
   1ee8b-1ee8d 1eeab-1eead;645:fee2 fee3 fee4-fee5 1ee6c-1ee6d;646:fee6 fee7 fee8-fee9 1ee4d;
   647:feea feeb feec-feed 1ee24 1ee64 1ee84-1ee85;648:feee-feef 1ee05 1eea5;649:fbe8 fbe9
   fef0-fef1;64a:fef2 fef3 fef4 1ee09 1ee29 1ee49 1ee69 1ee89 1eea9;66e:1ee1c 1ee7c;66f:1ee1f
   1ee5f;671:fb50 fb51;679:fb66 fb67 fb68 fb69;67a:fb5e fb5f fb60 fb61;67b:fb52 fb53 fb54 fb55;
   67e:fb56 fb57 fb58 fb59;67f:fb62 fb63 fb64 fb65;680:fb5a fb5b fb5c fb5d;683:fb76 fb77 fb78
   fb79;684:fb72 fb73 fb74 fb75;686:fb7a fb7b fb7c fb7d-fb7e;687:fb7f fb80 fb81;688:fb88 fb89;
   68c:fb84 fb85;68d:fb82 fb83;68e:fb86 fb87;691:fb8c fb8d;698:fb8a fb8b;6a1:1ee1e 1ee7e;6a4:fb6a
   fb6b fb6c fb6d;6a6:fb6e fb6f fb70 fb71;6a9:fb8e fb8f fb90 fb91;6ad:fbd3 fbd4 fbd5 fbd6;
   6af:fb92 fb93 fb94 fb95;6b1:fb9a fb9b fb9c fb9d;6b3:fb96 fb97 fb98 fb99;6ba:fb9e fb9f-fba0
   1ee1d 1ee5d;6bb:fba1 fba2 fba3;6be:fbaa fbab fbac fbad;6c0:fba4 fba5-fba6;6c1:fba7 fba8 fba9;
   6c5:fbe0 fbe1;6c6:fbd9 fbda;6c7:fbd7 fbd8;6c8:fbdb fbdc;6c9:fbe2 fbe3;6cb:fbde fbdf;6cc:fbfc
   fbfd fbfe fbff;6d0:fbe4 fbe5 fbe6 fbe7;6d2:fbae fbaf-fbb0;6d3:fbb1;f0b:f0c;10d0:1c90-1cba;
   10dc:10fc;10fd:1cbd-1cbf;1100:3131-3132 3260 ffa1-ffa2;1102:3134 3261-3262 ffa4;1103:3137-3139
   ffa7-ffa9;1105:3263-3265;1106:3141-3143 ffb1-ffb3;1109:3145-314e 3266 ffb5-ffbe;
   110b:3267-3268;110e:3269-326d;1114:3165-3166;111a:3140 ffb0;111c:316e;111d:3171-3172;
   1120:3173;1121:3144 ffb4;1122:3174-3175;1127:3176;1129:3177;112b:3178-317c;1132:317d;
   1136:317e;1140:317f;1147:3180;114c:3181;1157:3184-3186;1161:314f-3163 ffc2-ffc7;
   1167:ffca-ffcf;116d:ffd2-ffd7;1173:ffda-ffdc;1184:3187-3188;1188:3189;1191:318a-318b;
   1194:318c;119e:318d;11a1:318e;11aa:3133 ffa3;11ac:3135-3136 ffa5-ffa6;11b0:313a-313f
   ffaa-ffaf;11c7:3167-3168;11cc:3169;11ce:316a;11d3:316b;11d7:316c;11d9:316d;11dd:316f;
   11df:3170;11f1:3182-3183;13a0:ab70-abbf;13f0:13f8-13fd;1d02:1d46;1d16:1d54-1d55;1d1c:1db8;
   1d1d:1d59;1d25:1d5c;1d79:a77d;1d7b:1da7;1d7d:2c63;1d85:1daa;1d8e:a7c6;1d91:1078d;1e61:1e9b;
   1f00:1f08-1f0f;1f10:1f18-1f1d;1f20:1f28-1f2f;1f30:1f38-1f3f;1f40:1f48-1f4d;1f51:1f59;
   1f53:1f5b;1f55:1f5d;1f57:1f5f;1f60:1f68-1f6f;1f70:1fba;1f72:1fc8;1f74:1fca;1f76:1fda;
   1f78:1ff8;1f7a:1fea;1f7c:1ffa;1fb0:1fb8-1fb9;1fd0:1fd8-1fd9;1fe0:1fe8-1fe9;1fe5:1fec;
   2010:2011;2013:fe32;2014:fe31 fe58;20a9:ffe6;214e:2132;2190:ffe9-ffec;2202:1d6db 1d715 1d74f
   1d789 1d7c3;2207:1d6c1 1d6fb 1d735 1d76f 1d7a9;2211:2140;2212:207b 208b;2502:ffe8;25a0:ffed;
   25cb:ffee;2985:ff5f-ff60;2c30:2c00-2c2f;2c65:23a;2c66:23e;2c71:107b0;2d00:10a0-10c5;2d27:10c7;
   2d2d:10cd;2d61:2d6f;3001:fe11 fe51 ff64;3008:2329-232a fe3f-fe40;300a:fe3d-fe3e;300c:fe41-fe44
   ff62-ff63;3010:fe3b-fe3c;3012:3036;3014:fe39-fe3a fe5d-fe5e;3016:fe17-fe18;3099:ff9e-ff9f;
   30a1:ff67;30a2:32d0 ff71;30a3:ff68;30a4:32d1 ff72;30a5:ff69;30a6:32d2 ff73;30a7:ff6a;30a8:32d3
   ff74;30a9:ff6b;30aa:32d4-32d5 ff75-ff76;30ad:32d6 ff77;30af:32d7 ff78;30b1:32d8 ff79;30b3:32d9
   ff7a;30b5:32da ff7b 1f202;30b7:32db ff7c;30b9:32dc ff7d;30bb:32dd ff7e;30bd:32de ff7f;
   30bf:32df ff80;30c1:32e0 ff81;30c3:ff6f;30c4:32e1 ff82;30c6:32e2 ff83;30c7:1f213;30c8:32e3
   ff84;30ca:32e4-32e9 ff85-ff8a;30d2:32ea ff8b;30d5:32eb ff8c;30d8:32ec ff8d;30db:32ed ff8e;
   30de:32ee-32f2 ff8f-ff93;30e3:ff6c;30e4:32f3 ff94;30e5:ff6d;30e6:32f4 ff95;30e7:ff6e;
   30e8:32f5-32fa ff96-ff9b;30ef:32fb-32fe ff9c;30f2:ff66;30f3:ff9d;30fb:ff65;30fc:ff70;
   349e:2f80c;34b9:2f813;34bb:2f9ca;34df:2f81f;3515:2f824;36ee:2f867;36fc:2f868;3781:2f876;
   382f:2f883;3862:2f888;387c:2f88a;38c7:2f896;38e3:2f89b;391c:2f8a2;393a:2f8a1;3a2e:2f8c2;
   3a6c:2f8c7;3ae4:2f8d1;3b08:2f8d0;3b19:2f8ce;3b49:2f8de;3b9d:fad2 2f8e7;3c18:2f8ee;3c4e:2f8f2;
   3d33:2f90a;3d96:2f916;3eac:2f92a;3eb8:2f92c 2f92d;3f1b:2f933;3ffc:2f93e;4008:2f93f;4018:fad3;
   4039:fad4 2f949;4046:2f94b;4096:2f94c;40e3:2f951;412f:2f958;4202:2f960;4227:2f964;42a0:2f967;
   4301:2f96d;4334:2f971;4359:2f974;43d5:2f981;43d9:2f8d7;440b:2f984;446b:2f98e;452b:2f9a7;
   455d:2f9ae;4561:2f9af;456b:2f9b2;45d7:2f9bf;45f9:2f9c2;4635:2f9c8;46be:2f9cd;46c7:2f9ce;
   4995:2f9ef;49e6:2f9f2;4a6e:2f9f8;4a76:2f9f9;4ab2:2f9fc;4b33:2fa03;4bce:2fa08;4cce:2fa0d;
   4ced:2fa0e;4cf8:2fa11;4d56:2fa16;4e00:2f00 3192 3280 1f229;4e01:319c;4e03:3286;4e09:3194 3282
   1f22a;4e0a:3196 32a4;4e0b:3198 32a6;4e0d:f967;4e19:319b;4e26:fa70;4e28:2f01;4e2d:3197 32a5
   1f22d;4e32:f905;4e36:2f02;4e38:2f801;4e39:f95e;4e3d:2f800;4e3f:2f03;4e41:2f802;4e59:2f04 319a;
   4e5d:3288;4e82:f91b;4e85:2f05;4e86:f9ba;4e8c:2f06 3193 3281 1f214;4e94:3284;4ea0:2f07;
   4ea4:1f218;4eae:f977;4eba:2f08 319f;4ec0:f9fd;4ecc:2f819;4ee4:f9a8;4f01:32ad;4f11:32a1;
   4f60:2f804;4f80:fa73;4f86:f92d;4f8b:f9b5;4fae:fa30 2f805;4fbb:2f806;4fbf:f965;5002:2f807;
   502b:f9d4;507a:2f808;5099:2f809;50cf:2f80b;50da:f9bb;50e7:fa31 2f80a;512a:329d;513f:2f09;
   5140:fa0c;5145:fa74;514d:fa32 2f80e;5154:2f80f;5164:2f810;5165:2f0a;5167:2f814;5168:fa72;
   5169:f978;516b:2f0b 3287;516d:3285 f9d1;5177:2f811;5180:fa75;5182:2f0c;518d:1f21e 2f815;
   5192:2f8d2;5195:2f8d3;5196:2f0d;5197:2f817;5199:32a2;51a4:2f818;51ab:2f0e;51ac:2f81a;51b5:fa71
   2f81b;51b7:f92e;51c9:f979;51cc:f955;51dc:f954;51de:fa15;51e0:2f0f;51f5:2f10 2f81d;5200:2f11;
   5203:2f81e;5207:fa00 2f850;5217:f99c;521d:1f220;5229:f9dd;523a:f9ff;523b:2f820;5246:2f821;
   524d:1f21c;5272:1f239 2f822;5277:2f823;5289:f9c7;529b:2f12 f98a;52a3:f99d;52b3:2f992;
   52b4:3298;52c7:fa76 2f825;52c9:fa33 2f826;52d2:f952;52de:f92f;52e4:fa34 2f827;52f5:f97f;
   52f9:2f13;52fa:fa77 2f828;5305:2f829-2f82a;5315:2f14;5317:f963 2f82b;531a:2f15;5338:2f16;
   533b:32a9;533f:f9eb;5341:2f17 3038 3289;5344:3039-303a;5349:2f82c;5351:fa35 2f82d;5354:32af;
   535a:2f82e;535c:2f18;5369:2f19;5370:329e;5373:2f82f;5375:f91c;537d:2f830;537f:2f831 2f832
   2f833;5382:2f1a;53b6:2f1b;53c3:f96b;53c8:2f1c;53ca:2f836;53cc:1f212;53df:2f837;53e3:2f1d;
   53e5:f906;53eb:2f839;53ef:1f251;53f1:2f83a;53f3:32a8 1f22e;5406:2f83b;5408:1f234;540d:3294;
   540f:f9de;541d:f9ed;5438:2f83d;5439:1f225;5442:f980;5448:2f83e;5468:2f83f;549e:2f83c;
   54a2:2f840;54bd:f99e;54f6:2f841;5510:2f842;554f:3244;5553:2f843;5555:fa79;5563:2f844;
   5584:2f845 2f846;5587:f90b;5599:fa7a 2f847;559d:fa36 fa78;55ab:2f848;55b3:2f849;55b6:1f23a;
   55c0:fa0d;55c2:2f84a;55e2:fa7b;5606:fa37 2f84c;5651:2f84e;5668:fa38;5674:2f84f;56d7:2f1e;
   56db:3195 3283;56f9:f9a9;5716:2f84b;5717:2f84d;571f:2f1f 328f;5730:319e;578b:2f855;57ce:2f852;
   57f4:2f853;580d:2f854;5831:2f857;5832:2f856;5840:fa39;585a:fa10 fa7c;585e:f96c;58a8:fa3a;
   58ac:2f858;58b3:fa7d;58d8:f94a;58df:f942;58eb:2f20;58ee:2f851;58f0:1f224;58f2:2f85a;
   58f7:2f85b;5902:2f21;5906:2f85c;590a:2f22;5915:2f23;591a:1f215 2f85d;591c:32b0;5922:2f85e;
   5927:2f24;5929:319d 1f217;5944:fa7e;5948:f90c;5951:f909;5954:fa7f;5962:2f85f;5973:2f25 329b
   f981;59d8:2f865;59ec:2f862;5a1b:2f863;5a27:2f864;5a62:fa80;5a66:2f866;5ab5:2f986;5b08:2f869;
   5b28:fa81;5b3e:2f86a 2f86b;5b50:2f26;5b57:1f211;5b66:32ab;5b80:2f27;5b85:fa04;5b97:32aa;
   5bc3:2f86d;5bd8:2f86e;5be7:f95f f9aa 2f86f;5bee:f9bc;5bf3:2f870;5bf8:2f28;5bff:2f872;
   5c06:2f873;5c0f:2f29;5c22:2f2a 2f875;5c38:2f2b;5c3f:f9bd;5c60:2f877;5c62:f94b;5c64:fa3b;
   5c65:f9df;5c6e:2f2c fa3c 2f878;5c71:2f2d;5c8d:2f87a;5cc0:2f879;5d19:f9d5;5d43:2f87c;5d50:f921;
   5d6b:2f87f;5d6e:2f87e;5d7c:2f880;5db2:2f9f4;5dba:f9ab;5ddb:2f2e;5de1:2f881-2f882;5de5:2f2f;
   5de6:32a7 1f22c;5df1:2f30;5dfd:2f884;5dfe:2f31;5e28:2f885;5e3d:2f886;5e69:2f887;5e72:2f32;
   5e74:f98e;5e7a:2f33;5e7c:3245;5e7f:2f34;5ea6:fa01;5eb0:2f88b;5eb3:2f88c;5eb6:2f88d;5ec9:f9a2;
   5eca:f928 2f88e;5ed2:fa82;5ed3:fa0b;5ed9:fa83;5eec:f982;5ef4:2f35;5efe:2f36 2f890;5f04:f943;
   5f0b:2f37;5f13:2f38;5f22:2f894 2f895;5f50:2f39;5f53:2f874;5f61:2f3a;5f62:2f899;5f69:fa84;
   5f6b:2f89a;5f73:2f3b;5f8b:f9d8;5f8c:1f21d;5f97:1f250;5f9a:2f89c;5fa9:f966;5fad:fa85;5fc3:2f3c;
   5fcd:2f89d;5fd7:2f89e;5ff5:f9a3;5ff9:2f89f;6012:f960;601c:f9ac;6075:fa6b;6081:2f8a0;6094:fa3d
   2f8a3;60c7:2f8a5;60d8:fa86;60e1:f9b9;6108:fa88;6144:f9d9;6148:2f8a6;614c:2f8a7 2f8a9;614e:fa87
   2f8a8;6160:fa8a;6168:fa3e;617a:2f8aa;618e:fa3f fa89 2f8ab;6190:f98f;61a4:2f8ad;61af:2f8ae;
   61b2:2f8ac;61de:2f8af;61f2:fa40 fa8b 2f8b0;61f6:f90d 2f8b1;6200:f990;6208:2f3d;6210:2f8b2;
   621b:2f8b3;622e:f9d2;6234:fa8c;6236:2f3e;624b:2f3f 1f210;6253:1f231;625d:2f8b4;6295:1f227;
   62b1:2f8b5;62c9:f925;62cf:f95b;62d3:fa02;62d4:2f8b6;62fc:2f8ba;62fe:f973;6307:1f22f;
   633d:2f8b9;6350:2f8b7;6355:1f228;6368:2f8bb;637b:f9a4;6383:2f8bc;63a0:f975;63a9:2f8c1;
   63c4:fa8d;63c5:2f8c0;63e4:2f8bd;641c:fa8e;6422:2f8bf;6452:fa8f;6469:2f8c3;6477:2f8c6;
   647e:2f8c4;649a:f991;649d:2f8c5;64c4:f930;652f:2f40;6534:2f41;654f:fa41 2f8c8;6556:fa90;
   656c:2f8c9;6578:f969;6587:2f42 3246;6597:2f43;6599:f9be 1f21b;65a4:2f44;65b0:1f21f;65b9:2f45;
   65c5:f983;65e0:2f46;65e2:fa42;65e3:2f8cb;65e5:2f47 3290;6613:f9e0;6620:1f219;6649:2f8cd;
   6674:fa12 fa91;6688:f9c5;6691:fa43 2f8cf;669c:2f8d5;66b4:fa06;66c6:f98b;66f0:2f48;66f4:f901;
   66f8:2f8cc;6700:2f8d4;6708:2f49 328a 1f237;6709:3292 1f236;6717:f929 fa92 2f8d8;671b:fa93
   2f8d9;6721:2f8da;6728:2f4a 328d;674e:f9e1;6753:2f8dc;6756:fa94;675e:2f8db;677b:f9c8;
   6785:2f8e0;6797:f9f4;67f3:f9c9;67fa:2f8df;6817:f9da;681f:2f8e5;682a:3291;6852:2f8e1;6881:f97a;
   6885:fa44 2f8e2;688e:2f8e4;68a8:f9e2;6914:2f8e6;6942:2f8e8;69a3:2f8e9;69ea:2f8ea;6a02:f914
   f95c f9bf;6a13:f94c;6aa8:2f8eb;6ad3:f931;6adb:2f8ed;6b04:f91d;6b20:2f4b;6b21:2f8ef;6b54:2f8f1;
   6b62:2f4c;6b63:32a3;6b72:2f8f3;6b77:f98c;6b79:2f4d fa95;6b9f:2f8f4;6bae:f9a5;6bb3:2f4e;
   6bba:f970 fa96 2f8f5-2f8f6;6bcb:2f4f;6bcd:2e9f;6bd4:2f50;6bdb:2f51;6c0f:2f52;6c14:2f53;
   6c34:2f54 328c;6c4e:2f8fa;6c67:2f8fe;6c88:f972;6cbf:2f8fc;6ccc:f968;6ccd:2f8fd;6ce5:f9e3;
   6ce8:329f;6d16:2f8ff;6d1b:f915;6d1e:fa05;6d34:2f907;6d3e:2f900;6d41:f9ca fa97 2f902;
   6d69:2f903;6d6a:f92a;6d77:fa45 2f901;6d78:2f904;6d85:2f905;6dcb:f9f5;6dda:f94d;6dea:f9d6;
   6df9:2f90e;6e1a:fa46;6e2f:2f908;6e6e:2f909;6e80:1f235;6e9c:f9cb;6eba:f9ec;6ec7:2f90c;6ecb:fa99
   2f90b;6ed1:f904;6edb:fa98;6f0f:f94e;6f14:1f226;6f22:fa47 fa9a;6f23:f992;6f6e:2f90f;6fc6:2f912;
   6feb:f922;6ffe:f984;701b:2f915;701e:fa9b 2f914;7039:2f913;704a:2f917;706b:2f55 328b;
   7070:2f835;7077:2f919;707d:2f918;7099:f9fb;70ad:2f91a;70c8:f99f;70d9:f916;7121:1f21a;
   7145:2f91c;7149:f993;716e:fa48 fa9c;719c:2f91e;71ce:f9c0;71d0:f9ee;7210:f932;721b:f91e;
   7228:2f920;722a:2f56;722b:fa49;7235:fa9e 2f921;7236:2f57;723b:2f58;723f:2f59;7247:2f5a;
   7250:2f922;7259:2f5b;725b:2f5c;7262:f946;7279:3295;7280:2f924;7295:2f925;72ac:2f5d;72af:fa9f;
   72c0:f9fa;72fc:f92b;732a:fa16 faa0;7375:f9a7;737a:2f928;7384:2f5e;7387:f961 f9db;7389:2f5f;
   738b:2f929;73a5:2f92b;73b2:f9ad;73de:f917;7406:f9e4;7409:f9cc;7422:fa4a;7447:2f92e;745c:2f92f;
   7469:f9ae;7471:faa1 2f930;7485:2f931;7489:f994;7498:f9ef;74ca:2f932;74dc:2f60;74e6:2f61;
   7506:faa2;7518:2f62;751f:2f63 1f222;7524:2f934;7528:2f64;7530:2f65;7532:3199;7533:1f238;
   7537:329a;753b:faa3;753e:2f936;7559:f9cd;7565:f976;7570:f962 2f938;758b:2f66;7592:2f67;
   75e2:f9e5;7610:2f93a;761d:faa4;761f:faa5;7642:f9c1;7669:f90e;7676:2f68;767d:2f69;76ae:2f6a;
   76bf:2f6b;76ca:fa17 faa6;76db:faa7;76e3:32ac;76e7:f933;76ee:2f6c;76f4:faa8 2f940;7701:f96d;
   771e:2f945-2f946;771f:2f947;7740:faaa;774a:faa9 2f948;778b:2f94a;77a7:fa9d;77db:2f6d;
   77e2:2f6e;77f3:2f6f;784e:2f94e;786b:f9ce;788c:f93b 2f94f;7891:fa4b;78ca:f947;78cc:faab 2f950;
   78fb:f964;792a:f985;793a:2f70;793c:fa18;793e:3293 fa4c;7948:fa4e;7949:fa4d;7950:fa4f;7956:fa50
   2f953;795d:3297 fa51;795e:fa19;7965:fa1a;797f:f93c;7981:1f232;798d:fa52-fa53;798f:fa1b 2f956;
   79ae:f9b6;79b8:2f71;79be:2f72;79ca:f995;79d8:3299;79eb:2f957;7a1c:f956;7a40:fa54 2f959;
   7a4a:2f95a;7a4f:2f95b;7a74:2f73;7a7a:1f233;7a81:fa55;7ab1:faac;7acb:2f74 f9f7;7aee:2f95f;
   7af9:2f75;7b20:f9f8;7b8f:3247;7bc0:fa56 faad;7bc6:2f962;7bc9:2f963;7c3e:f9a6;7c60:f944;
   7c73:2f76;7c7b:faae;7c92:f9f9;7cbe:fa1d;7cd2:2f966;7cd6:fa03;7ce3:2f969;7ce7:f97b;7ce8:2f968;
   7cf8:2f77;7d00:2f96a;7d10:f9cf;7d22:f96a;7d2f:f94f;7d42:1f221;7d5b:faaf;7d63:2f96c;7da0:f93d;
   7dbe:f957;7dc7:2f96e;7df4:f996 fa57 fab0;7e02:2f96f;7e09:fa58;7e37:f950;7e41:fa59;7e45:2f970;
   7f36:2f78;7f3e:fab1;7f51:2f79;7f72:fa5a;7f79:f9e6;7f7a:2f976;7f85:f90f;7f8a:2f7a;7f95:2f978;
   7f9a:f9af;7fbd:2f7b fa1e;7ffa:2f979;8001:2f7c f934;8005:fa5b fab2 2f97a;800c:2f7d;8012:2f7e;
   8033:2f7f;8046:f9b0;8060:2f97d;806f:f997;8070:2f97f;807e:f945;807f:2f80;8089:2f81;808b:f953;
   80ad:2f8d6;80b2:2f982;8103:2f983;813e:2f985;81d8:f926;81e3:2f82;81e8:f9f6;81ea:2f83;81ed:fa5c;
   81f3:2f84;81fc:2f85;8201:2f893 2f98b;8204:2f98c;820c:2f86;8218:fa6d;821b:2f87;821f:2f88;
   826e:2f89;826f:f97c;8272:2f8a;8278:2f8b;8279:fa5d fa5e;828b:2f990;8291:2f98f;829d:2f991;
   82b1:2f993;82b3:2f994;82bd:2f995;82e5:f974 2f998;82e6:2f996;831d:2f999;8323:2f99c;8336:f9fe;
   8352:fab3;8353:2f9a0;8363:2f99a;83ad:2f99b;83bd:2f99d;83c9:f93e;83ca:2f9a1;83cc:2f9a2;
   83dc:2f9a3;83e7:2f99e;83ef:fab4;83f1:f958;843d:f918;8449:f96e;8457:fa5f 2f99f;84ee:f999;
   84f1:2f9a8;84f3:2f9a9;84fc:f9c2;8516:2f9aa;8564:2f9ac;85cd:f923;85fa:f9f0;8606:f935;8612:fa20;
   862d:f91f;863f:f910;864d:2f8c;8650:2f9b3;865c:f936 2f9b4;8667:2f9b5;8669:2f9b6;866b:2f8d;
   8688:2f9b8;86a9:2f9b7;86e2:2f9ba;870e:2f9b9;8728:2f9bc;876b:2f9bd;8779:fab5 2f9bb;8786:2f9be;
   87ba:f911;87e1:2f9c0;8801:2f9c1;881f:f927;8840:2f8e;884c:2f8f fa08;8860:2f9c3;8863:2f90 2f9c4;
   88c2:f9a0;88cf:f9e7;88d7:2f9c6;88de:2f9c7;88e1:f9e8;88f8:f912;88fa:2f9c9;8910:fa60;8941:fab6;
   8964:f924;897e:2f91;8986:fab7;898b:2f92 fa0a;8996:fa61 fab8;89d2:2f93;89e3:1f216;8a00:2f94;
   8aa0:2f9cf;8aaa:f96f f9a1;8abf:fab9;8acb:fabb;8ad2:f97d;8ad6:f941;8aed:fabe 2f9d0;8af8:fa22
   faba;8afe:f95d fabd;8b01:fa62 fabc;8b39:fa63 fabf;8b58:f9fc;8b80:f95a;8b8a:fac0 2f9d1;
   8c37:2f95;8c46:2f96;8c48:f900;8c55:2f97 2f9d2;8c78:2f98;8c9d:2f99;8ca1:3296;8ca9:1f223;
   8cab:2f9d4;8cc1:2f9d5;8cc2:f948;8cc7:32ae;8cc8:f903;8cd3:fa64;8d08:fa65 fac1;8d1b:2f9d6;
   8d64:2f9a;8d70:2f9b 1f230;8d77:2f9d7;8db3:2f9c;8dbc:2f9db;8dcb:2f9da;8def:f937;8df0:2f9dc;
   8eab:2f9d;8eca:2f9e f902;8ed4:2f9de;8f26:f998;8f2a:f9d7;8f38:fac2 2f9df;8f3b:fa07;8f62:f98d;
   8f9b:2f9f;8f9e:2f98d;8fb0:2fa0 f971;8fb5:2fa1;8fb6:fa66;9023:f99a;9038:fa25 fa67;904a:1f22b;
   9069:329c;9072:fac3;907c:f9c3;908f:f913;9091:2fa2;9094:2f9e2;90ce:f92c;90de:fa2e;90f1:2f9e3;
   90fd:fa26;9111:2f9e4;911b:2f9e6;9149:2fa3;914d:1f23b;916a:f919;9199:fac4;91b4:f9b7;91c6:2fa4;
   91cc:2fa5 f9e9;91cf:f97e;91d1:2fa6 328e f90a;9234:f9b1;9238:2f9e7;9276:fac5;927c:2f9ea;
   92d7:2f9e8-2f9e9;9304:f93f;934a:f99b;93f9:2f9eb;9415:2f9ec;9577:2fa7;9580:2fa8;958b:2f9ee;
   95ad:f986;95b7:2f9f0;961c:2fa9;962e:f9c6;964b:f951;964d:fa09;9675:f959;9678:f9d3;967c:fac6;
   9686:f9dc;96a3:f9f1;96b6:2faa;96b7:fa2f;96b8:f9b8;96b9:2fab;96c3:2f9f3;96e2:f9ea;96e3:fa68
   fac7;96e8:2fac;96f6:f9b2;96f7:f949;9723:2f9f5;9732:f938;9748:f9b3;9751:2fad;9756:fa1c fac8;
   975e:2fae;9762:2faf;9769:2fb0;97cb:2fb1;97db:fac9;97e0:2f9fa;97ed:2fb2;97f3:2fb3;97ff:fa69
   faca;9801:2fb4;9805:32a0;980b:facb 2f9fe 2f9ff;9818:f9b4;9829:2fa00;983b:fa6a facc;985e:f9d0;
   98a8:2fb5;98db:2fb6;98df:2fb7;98e2:2fa02;98ef:fa2a;98fc:fa2b;9928:fa2c;9929:2fa04;9996:2fb8;
   9999:2fb9;99a7:2fa05;99ac:2fba;99c2:2fa06;99f1:f91a;99fe:2fa07;9a6a:f987;9aa8:2fbb;9ad8:2fbc;
   9adf:2fbd;9b12:facd 2fa0a;9b25:2fbe;9b2f:2fbf;9b32:2fc0;9b3c:2fc1;9b5a:2fc2;9b6f:f939;
   9c40:2fa0b;9c57:f9f2;9ce5:2fc3;9cfd:2fa0c;9d67:2fa0f;9db4:fa2d;9dfa:f93a;9e1e:f920;9e75:2fc4;
   9e7f:2fc5 f940;9e97:f988;9e9f:f9f3;9ea5:2fc6;9ebb:2fc7 2fa15;9ec3:2fc8;9ecd:2fc9;9ece:f989;
   9ed1:2fca;9ef9:2fcb 2fa17;9efd:2fcc;9efe:2fa18;9f05:2fa19;9f0e:2fcd;9f0f:2fa1a;9f13:2fce;
   9f16:2fa1b;9f20:2fcf;9f3b:2fd0 2fa1c;9f43:fad8;9f4a:2fd1;9f52:2fd2;9f8d:2fd3 f9c4;9f8e:fad9;
   9f9c:2fd4 f907 f908 face;9f9f:2ef3;9fa0:2fd5;a64b:1c88;a651:1e06c;a689:1e04a;a727:ab5c;
   a76f:a770;a78e:1079d;a794:a7c4;ab37:ab5d;ab52:ab5f;ab53:a7b3;ab66:10788;ab67:107ad;ac00:326e;
   b098:326f;b2e4:3270;b77c:3271;b9c8:3272;bc14:3273;c0ac:3274;c544:3275;c6b0:327e;c790:3276;
   cc28:3277;ce74:3278;d0c0:3279;d30c:327a;d558:327b;10428:10400-10427;104d8:104b0-104d3;
   10597:10570-1057a;105a3:1057c-1058a;105b3:1058c-10592;105bb:10594-10595;10cc0:10c80-10cb2;
   10d70:10d50-10d65;118c0:118a0-118bf;16e60:16e40-16e5f;16ebb:16ea0-16eb8;1df04:1079c;
   1df05:1079f;1df06:107a1;1df08:107a7;1df0a:107b9;1df1e:107ba;1e922:1e900-1e921;20122:2f803;
   2051c:2f812;20525:2f91b;2054b:2f816;2063a:2f80d;20804:2f9d9;208de:2f9dd;20a2c:2f834;
   20b63:2f838;214e4:2f859;216a8:2f860;216ea:2f861;219c8:2f86c;21b18:2f871;21d0b:2f8f8;
   21de4:2f87b;21de6:2f87d;22183:2f889;2219f:2f939;22331:2f891 2f892;226d4:2f8a4;22844:fad0;
   2284a:facf;22b0c:2f8b8;22bf1:2f8be;2300a:2f8ca;232b8:2f897;2335f:2f980;23393:2f989;
   2339c:2f98a;233c3:2f8dd;233d5:fad1;2346d:2f8e3;236a3:2f8ec;238a7:2f8f0;23a8d:2f8f7;
   23afa:2f8f9;23cbc:2f8fb;23d1e:2f906;23ed1:2f90d;23f5e:2f910;23f8e:2f911;24263:2f91d;
   242ee:fa6c;243ab:2f91f;24608:2f923;24735:2f926;24814:2f927;24c36:2f935;24c92:2f937;
   24fa1:2f93b;24fb8:2f93c;25044:2f93d;250f2:2f942;250f3:2f941;25119:2f943;25133:2f944;
   25249:fad5;2541d:2f94d;25626:2f952;2569a:2f954;256c5:2f955;2597c:2f95c;25aa7:2f95d 2f95e;
   25bab:2f961;25c80:2f965;25cd0:fad6;25f86:2f96b;261da:2f898;26228:2f972;26247:2f973;
   262d9:2f975;2633e:2f977;264da:2f97b;26523:2f97c;265a8:2f97e;267a7:2f987;267b5:2f988;
   26b3c:2f997;26c36:2f9a4;26cd5:2f9a6;26d6b:2f9a5;26f2c:2f9ad;26fb1:2f9b0;270d2:2f9b1;
   273ca:2f9ab;27667:2f9c5;278ae:2f9cb;27966:2f9cc;27ca8:2f9d3;27ed3:fad7;27f2f:2f9d8;
   285d2:2f9e0;285ed:2f9e1;2872e:2f9e5;28bfa:2f9ed;28d77:2f9f1;29145:2f9f6;291df:2f81c;
   2921a:2f9f7;2940a:2f9fb;29496:2f9fd;295b6:2fa01;29b30:2fa09;2a0ce:2fa10;2a105:2fa12;
   2a20e:2fa13;2a291:2fa14;2a392:2f88f;2a600:2fa1d"

/-- Under several characters those whose place they take. -/
def spelledRanges : List (List Nat × List Range) := keyedRanges
  "20+301:b4 384 1ffd;20+303:2dc;20+304:af ffe3;20+305:203e fe49-fe4c;20+306:2d8;20+307:2d9;
   20+308:a8;20+308+300:1fed;20+308+301:385 1fee;20+308+342:1fc1;20+30a:2da;20+30b:2dd;
   20+313:1fbd 1fbf;20+313+300:1fcd;20+313+301:1fce;20+313+342:1fcf;20+314:1ffe;20+314+300:1fdd;
   20+314+301:1fde;20+314+342:1fdf;20+327:b8;20+328:2db;20+333:2017;20+342:1fc0;20+3b9:37a;
   20+64b:fe70;20+64c:fe72;20+64c+651:fc5e;20+64d:fe74;20+64d+651:fc5f;20+64e:fe76;
   20+64e+651:fc60;20+64f:fe78;20+64f+651:fc61;20+650:fe7a;20+650+651:fc62;20+651:fe7c;
   20+651+670:fc63;20+652:fe7e;20+3099:309b;20+309a:309c;21+21:203c;21+3f:2049;28+31+29:2474;
   28+31+30+29:247d;28+31+31+29:247e;28+31+32+29:247f;28+31+33+29:2480;28+31+34+29:2481;
   28+31+35+29:2482;28+31+36+29:2483;28+31+37+29:2484;28+31+38+29:2485;28+31+39+29:2486;
   28+32+29:2475;28+32+30+29:2487;28+33+29:2476;28+34+29:2477;28+35+29:2478;28+36+29:2479;
   28+37+29:247a;28+38+29:247b;28+39+29:247c;28+61+29:249c 1f110;28+62+29:249d 1f111;
   28+63+29:249e 1f112;28+64+29:249f 1f113;28+65+29:24a0 1f114;28+66+29:24a1 1f115;28+67+29:24a2
   1f116;28+68+29:24a3 1f117;28+69+29:24a4 1f118;28+6a+29:24a5 1f119;28+6b+29:24a6 1f11a;
   28+6c+29:24a7 1f11b;28+6d+29:24a8 1f11c;28+6e+29:24a9 1f11d;28+6f+29:24aa 1f11e;28+70+29:24ab
   1f11f;28+71+29:24ac 1f120;28+72+29:24ad 1f121;28+73+29:24ae 1f122;28+74+29:24af 1f123;
   28+75+29:24b0 1f124;28+76+29:24b1 1f125;28+77+29:24b2 1f126;28+78+29:24b3 1f127;28+79+29:24b4
   1f128;28+7a+29:24b5 1f129;28+1100+29:3200;28+1102+29:3201;28+1103+29:3202;28+1105+29:3203;
   28+1106+29:3204;28+1107+29:3205;28+1109+29:3206;28+110b+29:3207;28+110c+29:3208;
   28+110e+29:3209;28+110f+29:320a;28+1110+29:320b;28+1111+29:320c;28+1112+29:320d;
   28+4e00+29:3220;28+4e03+29:3226;28+4e09+29:3222;28+4e5d+29:3228;28+4e8c+29:3221;
   28+4e94+29:3224;28+4ee3+29:3239;28+4f01+29:323d;28+4f11+29:3241;28+516b+29:3227;
   28+516d+29:3225;28+52b4+29:3238;28+5341+29:3229;28+5354+29:323f;28+540d+29:3234;
   28+547c+29:323a;28+56db+29:3223;28+571f+29:322f;28+5b66+29:323b;28+65e5+29:3230;
   28+6708+29:322a;28+6709+29:3232;28+6728+29:322d;28+682a+29:3231;28+6c34+29:322c;
   28+706b+29:322b;28+7279+29:3235;28+76e3+29:323c;28+793e+29:3233;28+795d+29:3237;
   28+796d+29:3240;28+81ea+29:3242;28+81f3+29:3243;28+8ca1+29:3236;28+8cc7+29:323e;
   28+91d1+29:322e;28+ac00+29:320e;28+b098+29:320f;28+b2e4+29:3210;28+b77c+29:3211;
   28+b9c8+29:3212;28+bc14+29:3213;28+c0ac+29:3214;28+c544+29:3215;28+c624+c804+29:321d;
   28+c624+d6c4+29:321e;28+c790+29:3216;28+c8fc+29:321c;28+cc28+29:3217;28+ce74+29:3218;
   28+d0c0+29:3219;28+d30c+29:321a;28+d558+29:321b;30+2c:1f101;30+2044+33:2189;30+70b9:3358;
   31+2c:1f102;31+30:2469;31+30+65e5:33e9;31+30+6708:32c9;31+30+70b9:3362;31+31:246a;
   31+31+65e5:33ea;31+31+6708:32ca;31+31+70b9:3363;31+32:246b;31+32+65e5:33eb;31+32+6708:32cb;
   31+32+70b9:3364;31+33:246c;31+33+65e5:33ec;31+33+70b9:3365;31+34:246d;31+34+65e5:33ed;
   31+34+70b9:3366;31+35:246e;31+35+65e5:33ee;31+35+70b9:3367;31+36:246f;31+36+65e5:33ef;
   31+36+70b9:3368;31+37:2470;31+37+65e5:33f0;31+37+70b9:3369;31+38:2471;31+38+65e5:33f1;
   31+38+70b9:336a;31+39:2472;31+39+65e5:33f2;31+39+70b9:336b;31+2044:215f;31+2044+31+30:2152;
   31+2044+32:bd;31+2044+33:2153;31+2044+34:bc;31+2044+35:2155;31+2044+36:2159;31+2044+37:2150;
   31+2044+38:215b;31+2044+39:2151;31+65e5:33e0;31+6708:32c0;31+70b9:3359;32+2c:1f103;32+30:2473;
   32+30+65e5:33f3;32+30+70b9:336c;32+31:3251;32+31+65e5:33f4;32+31+70b9:336d;32+32:3252;
   32+32+65e5:33f5;32+32+70b9:336e;32+33:3253;32+33+65e5:33f6;32+33+70b9:336f;32+34:3254;
   32+34+65e5:33f7;32+34+70b9:3370;32+35:3255;32+35+65e5:33f8;32+36:3256;32+36+65e5:33f9;
   32+37:3257;32+37+65e5:33fa;32+38:3258;32+38+65e5:33fb;32+39:3259;32+39+65e5:33fc;
   32+2044+33:2154;32+2044+35:2156;32+65e5:33e1;32+6708:32c1;32+70b9:335a;33+2c:1f104;33+30:325a;
   33+30+65e5:33fd;33+31:325b;33+31+65e5:33fe;33+32:325c;33+33:325d;33+34:325e;33+35:325f;
   33+36:32b1;33+37:32b2;33+38:32b3;33+39:32b4;33+2044+34:be;33+2044+35:2157;33+2044+38:215c;
   33+65e5:33e2;33+6708:32c2;33+70b9:335b;34+2c:1f105;34+30:32b5;34+31:32b6;34+32:32b7;
   34+33:32b8;34+34:32b9;34+35:32ba;34+36:32bb;34+37:32bc;34+38:32bd;34+39:32be;34+2044+35:2158;
   34+65e5:33e3;34+6708:32c3;34+70b9:335c;35+2c:1f106;35+30:32bf;35+2044+36:215a;35+2044+38:215d;
   35+65e5:33e4;35+6708:32c4;35+70b9:335d;36+2c:1f107;36+65e5:33e5;36+6708:32c5;36+70b9:335e;
   37+2c:1f108;37+2044+38:215e;37+65e5:33e6;37+6708:32c6;37+70b9:335f;38+2c:1f109;38+65e5:33e7;
   38+6708:32c7;38+70b9:3360;39+2c:1f10a;39+65e5:33e8;39+6708:32c8;39+70b9:3361;3a+3a+3d:2a74;
   3d+3d:2a75;3d+3d+3d:2a76;3f+21:2048;3f+3f:2047;61+2f+63:2100;61+2f+73:2101;61+75:3373;
   61+2be:1e9a;61+2215+6d:33df;62+61+72:3374;62+71:33c3;63+2f+6f:2105;63+2f+75:2106;
   63+61+6c:3388;63+63:33c4;63+64:33c5 1f12d;63+6d:339d;63+6d+32:33a0;63+6d+33:33a4;
   63+2215+6b+67:33c6;64+61:3372;64+62:33c8;64+6a:1f190;64+6c:3397;64+6d:3377;64+6d+32:3378;
   64+6d+33:3379;64+7a:1f1-1f3;64+17e:1c4-1c6;65+72+67:32cd;65+76:32ce;66+61+78:213b;66+66:fb00;
   66+66+69:fb03;66+66+6c:fb04;66+69:fb01;66+6c:fb02;66+6d:3399;67+61+6c:33ff;67+62:3387;
   67+68+7a:3393;67+70+61:33ac;67+79:33c9;68+61:33ca;68+67:32cc;68+70:33cb;68+70+61:3371;
   68+76:1f14a;68+7a:3390;69+69:2161 2171;69+69+69:2162 2172;69+6a:132-133;69+6e:33cc;69+75:337a;
   69+76:2163 2173;69+78:2168 2178;69+307:130;6b+61:3384;6b+62:3385;6b+63+61+6c:3389;6b+67:338f;
   6b+68+7a:3391;6b+6b:33cd;6b+6c:3398;6b+6d:339e 33ce;6b+6d+32:33a2;6b+6d+33:33a6;6b+70+61:33aa;
   6b+74:33cf;6b+76:33b8;6b+77:33be;6b+3c9:33c0;6c+6a:1c7-1c9;6c+6d:33d0;6c+6e:33d1;
   6c+6f+67:33d2;6c+74+64:32cf;6c+78:33d3;6c+b7:13f-140;6d+32:33a1;6d+33:33a5;6d+61:3383;
   6d+62:3386 33d4;6d+63:1f16a;6d+64:1f16b;6d+67:338e;6d+68+7a:3392;6d+69+6c:33d5;6d+6c:3396;
   6d+6d:339c;6d+6d+32:339f;6d+6d+33:33a3;6d+6f+6c:33d6;6d+70+61:33ab;6d+72:1f16c;6d+73:33b3;
   6d+76:33b7 33b9 1f14b;6d+77:33bd 33bf;6d+3c9:33c1;6d+2215+73:33a7;6d+2215+73+32:33a8;
   6e+61:3381;6e+66:338b;6e+6a:1ca-1cc;6e+6d:339a;6e+6f:2116;6e+73:33b1;6e+76:33b5;6e+77:33bb;
   6f+76:3375;70+61:3380 33a9;70+63:3376;70+66:338a;70+68:33d7;70+70+6d:33d9;70+70+76:1f14e;
   70+72:33da;70+73:33b0;70+74+65:3250;70+76:33b4;70+77:33ba;72+61+64:33ad;72+61+64+2215+73:33ae;
   72+61+64+2215+73+32:33af;72+73:20a8;73+64:1f14c;73+6d:2120;73+72:33db;73+73:1f14d;
   73+74:fb05-fb06;73+76:33dc;74+65+6c:2121;74+68+7a:3394;74+6d:2122;76+69:2165 2175;
   76+69+69:2166 2176;76+69+69+69:2167 2177;76+2215+6d:33de;77+62:33dd;77+63:1f14f;77+7a:1f12e;
   78+69:216a 217a;78+69+69:216b 217b;b0+63:2103;b0+66:2109;2bc+6e:149;308+301:344;3ac+3b9:1fb4;
   3ae+3b9:1fc4;3b1+3b9:1fb3 1fbc;3b7+3b9:1fc3 1fcc;3bc+61:3382;3bc+66:338c;3bc+67:338d;
   3bc+6c:3395;3bc+6d:339b;3bc+73:33b2;3bc+76:33b6;3bc+77:33bc;3c9+3b9:1ff3 1ffc;3ce+3b9:1ff4;
   565+582:587;574+565:fb14;574+56b:fb15;574+56d:fb17;574+576:fb13;57e+576:fb16;5d0+5b7:fb2e;
   5d0+5b8:fb2f;5d0+5bc:fb30;5d0+5dc:fb4f;5d1+5bc:fb31;5d1+5bf:fb4c;5d2+5bc:fb32;5d3+5bc:fb33;
   5d4+5bc:fb34;5d5+5b9:fb4b;5d5+5bc:fb35;5d6+5bc:fb36;5d8+5bc:fb38;5d9+5b4:fb1d;5d9+5bc:fb39;
   5da+5bc:fb3a;5db+5bc:fb3b;5db+5bf:fb4d;5dc+5bc:fb3c;5de+5bc:fb3e;5e0+5bc:fb40;5e1+5bc:fb41;
   5e3+5bc:fb43;5e4+5bc:fb44;5e4+5bf:fb4e;5e6+5bc:fb46;5e7+5bc:fb47;5e8+5bc:fb48;5e9+5bc:fb49;
   5e9+5bc+5c1:fb2c;5e9+5bc+5c2:fb2d;5e9+5c1:fb2a;5e9+5c2:fb2b;5ea+5bc:fb4a;5f2+5b7:fb1f;
   626+627:fbea-fbeb;626+62c:fc00 fc97;626+62d:fc01 fc98;626+62e:fc99;626+631:fc64;626+632:fc65;
   626+645:fc02 fc66 fc9a fcdf;626+646:fc67;626+647:fc9b fce0;626+648:fbee-fbef;626+649:fbf9-fbfb
   fc03 fc68;626+64a:fc04 fc69;626+6c6:fbf2-fbf3;626+6c7:fbf0-fbf1;626+6c8:fbf4-fbf5;
   626+6d0:fbf6-fbf8;626+6d5:fbec-fbed;627+643+628+631:fdf3;627+644+644+647:fdf2;
   627+64b:fd3c-fd3d;627+674:675;628+62c:fc05 fc9c;628+62d:fc06 fc9d;628+62d+64a:fdc2;
   628+62e:fc07 fc9e;628+62e+64a:fd9e;628+631:fc6a;628+632:fc6b;628+645:fc08 fc6c fc9f fce1;
   628+646:fc6d;628+647:fca0 fce2;628+649:fc09 fc6e;628+64a:fc0a fc6f;62a+62c:fc0b fca1;
   62a+62c+645:fd50;62a+62c+649:fda0;62a+62c+64a:fd9f;62a+62d:fc0c fca2;62a+62d+62c:fd51-fd52;
   62a+62d+645:fd53;62a+62e:fc0d fca3;62a+62e+645:fd54;62a+62e+649:fda2;62a+62e+64a:fda1;
   62a+631:fc70;62a+632:fc71;62a+645:fc0e fc72 fca4 fce3;62a+645+62c:fd55;62a+645+62d:fd56;
   62a+645+62e:fd57;62a+645+649:fda4;62a+645+64a:fda3;62a+646:fc73;62a+647:fca5 fce4;62a+649:fc0f
   fc74;62a+64a:fc10 fc75;62b+62c:fc11;62b+631:fc76;62b+632:fc77;62b+645:fc12 fc78 fca6 fce5;
   62b+646:fc79;62b+647:fce6;62b+649:fc13 fc7a;62b+64a:fc14 fc7b;62c+62d:fc15 fca7;
   62c+62d+649:fda6;62c+62d+64a:fdbe;62c+644+20+62c+644+627+644+647:fdfb;62c+645:fc16 fca8;
   62c+645+62d:fd58-fd59;62c+645+649:fda7;62c+645+64a:fda5;62c+649:fd01 fd1d;62c+64a:fd02 fd1e;
   62d+62c:fc17 fca9;62d+62c+64a:fdbf;62d+645:fc18 fcaa;62d+645+649:fd5b;62d+645+64a:fd5a;
   62d+649:fcff fd1b;62d+64a:fd00 fd1c;62e+62c:fc19 fcab;62e+62d:fc1a;62e+645:fc1b fcac;
   62e+649:fd03 fd1f;62e+64a:fd04 fd20;630+670:fc5b;631+633+648+644:fdf6;631+670:fc5c;
   631+6cc+627+644:fdfc;633+62c:fc1c fcad fd34;633+62c+62d:fd5d;633+62c+649:fd5e;633+62d:fc1d
   fcae fd35;633+62d+62c:fd5c;633+62e:fc1e fcaf fd36;633+62e+649:fda8;633+62e+64a:fdc6;
   633+631:fd0e fd2a;633+645:fc1f fcb0 fce7;633+645+62c:fd61;633+645+62d:fd5f-fd60;
   633+645+645:fd62-fd63;633+647:fce8 fd31;633+649:fcfb fd17;633+64a:fcfc fd18;634+62c:fd09 fd25
   fd2d fd37;634+62c+64a:fd69;634+62d:fd0a fd26 fd2e fd38;634+62d+645:fd67-fd68;634+62d+64a:fdaa;
   634+62e:fd0b fd27 fd2f fd39;634+631:fd0d fd29;634+645:fce9 fd0c fd28 fd30;
   634+645+62e:fd6a-fd6b;634+645+645:fd6c-fd6d;634+647:fcea fd32;634+649:fcfd fd19;634+64a:fcfe
   fd1a;635+62d:fc20 fcb1;635+62d+62d:fd64-fd65;635+62d+64a:fda9;635+62e:fcb2;635+631:fd0f fd2b;
   635+644+639+645:fdf5;635+644+649:fdf9;
   635+644+649+20+627+644+644+647+20+639+644+64a+647+20+648+633+644+645:fdfa;635+644+6d2:fdf0;
   635+645:fc21 fcb3;635+645+645:fd66 fdc5;635+649:fd05 fd21;635+64a:fd06 fd22;636+62c:fc22 fcb4;
   636+62d:fc23 fcb5;636+62d+649:fd6e;636+62d+64a:fdab;636+62e:fc24 fcb6;636+62e+645:fd6f-fd70;
   636+631:fd10 fd2c;636+645:fc25 fcb7;636+649:fd07 fd23;636+64a:fd08 fd24;637+62d:fc26 fcb8;
   637+645:fc27 fd33 fd3a;637+645+62d:fd71-fd72;637+645+645:fd73;637+645+64a:fd74;637+649:fcf5
   fd11;637+64a:fcf6 fd12;638+645:fc28 fcb9 fd3b;639+62c:fc29 fcba;639+62c+645:fd75 fdc4;
   639+644+64a+647:fdf7;639+645:fc2a fcbb;639+645+645:fd76-fd77;639+645+649:fd78;
   639+645+64a:fdb6;639+649:fcf7 fd13;639+64a:fcf8 fd14;63a+62c:fc2b fcbc;63a+645:fc2c fcbd;
   63a+645+645:fd79;63a+645+649:fd7b;63a+645+64a:fd7a;63a+649:fcf9 fd15;63a+64a:fcfa fd16;
   640+64b:fe71;640+64e:fe77;640+64e+651:fcf2;640+64f:fe79;640+64f+651:fcf3;640+650:fe7b;
   640+650+651:fcf4;640+651:fe7d;640+652:fe7f;641+62c:fc2d fcbe;641+62d:fc2e fcbf;641+62e:fc2f
   fcc0;641+62e+645:fd7c-fd7d;641+645:fc30 fcc1;641+645+64a:fdc1;641+649:fc31 fc7c;641+64a:fc32
   fc7d;642+62d:fc33 fcc2;642+644+6d2:fdf1;642+645:fc34 fcc3;642+645+62d:fd7e fdb4;
   642+645+645:fd7f;642+645+64a:fdb2;642+649:fc35 fc7e;642+64a:fc36 fc7f;643+627:fc37 fc80;
   643+62c:fc38 fcc4;643+62d:fc39 fcc5;643+62e:fc3a fcc6;643+644:fc3b fc81 fcc7 fceb;643+645:fc3c
   fc82 fcc8 fcec;643+645+645:fdbb fdc3;643+645+64a:fdb7;643+649:fc3d fc83;643+64a:fc3e fc84;
   644+622:fef5-fef6;644+623:fef7-fef8;644+625:fef9-fefa;644+627:fefb-fefc;644+62c:fc3f fcc9;
   644+62c+62c:fd83-fd84;644+62c+645:fdba fdbc;644+62c+64a:fdac;644+62d:fc40 fcca;
   644+62d+645:fd80 fdb5;644+62d+649:fd82;644+62d+64a:fd81;644+62e:fc41 fccb;
   644+62e+645:fd85-fd86;644+645:fc42 fc85 fccc fced;644+645+62d:fd87-fd88;644+645+64a:fdad;
   644+647:fccd;644+649:fc43 fc86;644+64a:fc44 fc87;645+627:fc88;645+62c:fc45 fcce;
   645+62c+62d:fd8c;645+62c+62e:fd92;645+62c+645:fd8d;645+62c+64a:fdc0;645+62d:fc46 fccf;
   645+62d+62c:fd89;645+62d+645:fd8a;645+62d+645+62f:fdf4;645+62d+64a:fd8b;645+62e:fc47 fcd0;
   645+62e+62c:fd8e;645+62e+645:fd8f;645+62e+64a:fdb9;645+645:fc48 fc89 fcd1;645+645+64a:fdb1;
   645+649:fc49;645+64a:fc4a;646+62c:fc4b fcd2;646+62c+62d:fdb8 fdbd;646+62c+645:fd97-fd98;
   646+62c+649:fd99;646+62c+64a:fdc7;646+62d:fc4c fcd3;646+62d+645:fd95;646+62d+649:fd96;
   646+62d+64a:fdb3;646+62e:fc4d fcd4;646+631:fc8a;646+632:fc8b;646+645:fc4e fc8c fcd5 fcee;
   646+645+649:fd9b;646+645+64a:fd9a;646+646:fc8d;646+647:fcd6 fcef;646+649:fc4f fc8e;
   646+64a:fc50 fc8f;647+62c:fc51 fcd7;647+645:fc52 fcd8;647+645+62c:fd93;647+645+645:fd94;
   647+649:fc53;647+64a:fc54;647+670:fcd9;648+633+644+645:fdf8;648+674:676;649+670:fc5d fc90;
   64a+62c:fc55 fcda;64a+62c+64a:fdaf;64a+62d:fc56 fcdb;64a+62d+64a:fdae;64a+62e:fc57 fcdc;
   64a+631:fc91;64a+632:fc92;64a+645:fc58 fc93 fcdd fcf0;64a+645+645:fd9c-fd9d;64a+645+64a:fdb0;
   64a+646:fc94;64a+647:fcde fcf1;64a+649:fc59 fc95;64a+64a:fc5a fc96;64a+674:678;6c7+674:677
   fbdd;915+93c:958;916+93c:959;917+93c:95a;91c+93c:95b;921+93c:95c;922+93c:95d;92b+93c:95e;
   92f+93c:95f;9a1+9bc:9dc;9a2+9bc:9dd;9af+9bc:9df;a16+a3c:a59;a17+a3c:a5a;a1c+a3c:a5b;
   a2b+a3c:a5e;a32+a3c:a33;a38+a3c:a36;b21+b3c:b5c;b22+b3c:b5d;e4d+e32:e33;eab+e99:edc;
   eab+ea1:edd;ecd+eb2:eb3;f40+fb5:f69;f42+fb7:f43;f4c+fb7:f4d;f51+fb7:f52;f56+fb7:f57;
   f5b+fb7:f5c;f71+f72:f73;f71+f74:f75;f71+f80:f81;f90+fb5:fb9;f92+fb7:f93;f9c+fb7:f9d;
   fa1+fb7:fa2;fa6+fb7:fa7;fab+fb7:fac;fb2+f71+f80:f77;fb2+f80:f76;fb3+f71+f80:f79;fb3+f80:f78;
   1f00+3b9:1f80 1f88;1f01+3b9:1f81 1f89;1f02+3b9:1f82 1f8a;1f03+3b9:1f83 1f8b;1f04+3b9:1f84
   1f8c;1f05+3b9:1f85 1f8d;1f06+3b9:1f86 1f8e;1f07+3b9:1f87 1f8f;1f20+3b9:1f90 1f98;1f21+3b9:1f91
   1f99;1f22+3b9:1f92 1f9a;1f23+3b9:1f93 1f9b;1f24+3b9:1f94 1f9c;1f25+3b9:1f95 1f9d;1f26+3b9:1f96
   1f9e;1f27+3b9:1f97 1f9f;1f60+3b9:1fa0 1fa8;1f61+3b9:1fa1 1fa9;1f62+3b9:1fa2 1faa;1f63+3b9:1fa3
   1fab;1f64+3b9:1fa4 1fac;1f65+3b9:1fa5 1fad;1f66+3b9:1fa6 1fae;1f67+3b9:1fa7 1faf;
   1f70+3b9:1fb2;1f74+3b9:1fc2;1f7c+3b9:1ff2;1fb6+3b9:1fb7;1fc6+3b9:1fc7;1ff6+3b9:1ff7;
   2032+2032:2033;2032+2032+2032:2034;2032+2032+2032+2032:2057;2035+2035:2036;
   2035+2035+2035:2037;222b+222b:222c;222b+222b+222b:222d;222b+222b+222b+222b:2a0c;
   222e+222e:222f;222e+222e+222e:2230;2add+338:2adc;3014+73+3015:1f12a;3014+4e09+3015:1f241;
   3014+4e8c+3015:1f242;3014+52dd+3015:1f247;3014+5b89+3015:1f243;3014+6253+3015:1f245;
   3014+6557+3015:1f248;3014+672c+3015:1f240;3014+70b9+3015:1f244;3014+76d7+3015:1f246;
   307b+304b:1f200;3088+308a:309f;30a2+30d1+30fc+30c8:3300;30a2+30eb+30d5+30a1:3301;
   30a2+30f3+30da+30a2:3302;30a2+30fc+30eb:3303;30a4+30cb+30f3+30b0:3304;30a4+30f3+30c1:3305;
   30a6+30a9+30f3:3306;30a8+30b9+30af+30fc+30c9:3307;30a8+30fc+30ab+30fc:3308;
   30aa+30f3+30b9:3309;30aa+30fc+30e0:330a;30ab+30a4+30ea:330b;30ab+30e9+30c3+30c8:330c;
   30ab+30ed+30ea+30fc:330d;30ac+30ed+30f3:330e;30ac+30f3+30de:330f;30ad+30e5+30ea+30fc:3312;
   30ad+30ed:3314;30ad+30ed+30b0+30e9+30e0:3315;30ad+30ed+30e1+30fc+30c8+30eb:3316;
   30ad+30ed+30ef+30c3+30c8:3317;30ae+30ac:3310;30ae+30cb+30fc:3311;30ae+30eb+30c0+30fc:3313;
   30af+30eb+30bc+30a4+30ed:331a;30af+30ed+30fc+30cd:331b;30b0+30e9+30e0:3318;
   30b0+30e9+30e0+30c8+30f3:3319;30b1+30fc+30b9:331c;30b3+30b3:1f201;30b3+30c8:30ff;
   30b3+30eb+30ca:331d;30b3+30fc+30dd:331e;30b5+30a4+30af+30eb:331f;
   30b5+30f3+30c1+30fc+30e0:3320;30b7+30ea+30f3+30b0:3321;30bb+30f3+30c1:3322;
   30bb+30f3+30c8:3323;30c0+30fc+30b9:3324;30c7+30b7:3325;30c8+30f3:3327;30c9+30eb:3326;
   30ca+30ce:3328;30ce+30c3+30c8:3329;30cf+30a4+30c4:332a;30d0+30fc+30ec+30eb:332d;
   30d1+30fc+30bb+30f3+30c8:332b;30d1+30fc+30c4:332c;30d3+30eb:3331;
   30d4+30a2+30b9+30c8+30eb:332e;30d4+30af+30eb:332f;30d4+30b3:3330;
   30d5+30a1+30e9+30c3+30c9:3332;30d5+30a3+30fc+30c8:3333;30d5+30e9+30f3:3335;
   30d6+30c3+30b7+30a7+30eb:3334;30d8+30af+30bf+30fc+30eb:3336;30d8+30eb+30c4:3339;
   30d9+30fc+30bf:333c;30da+30bd:3337;30da+30cb+30d2:3338;30da+30f3+30b9:333a;
   30da+30fc+30b8:333b;30db+30f3:333f;30db+30fc+30eb:3341;30db+30fc+30f3:3342;
   30dc+30eb+30c8:333e;30dd+30a4+30f3+30c8:333d;30dd+30f3+30c9:3340;30de+30a4+30af+30ed:3343;
   30de+30a4+30eb:3344;30de+30c3+30cf:3345;30de+30eb+30af:3346;30de+30f3+30b7+30e7+30f3:3347;
   30df+30af+30ed+30f3:3348;30df+30ea:3349;30df+30ea+30d0+30fc+30eb:334a;30e1+30ac:334b;
   30e1+30ac+30c8+30f3:334c;30e1+30fc+30c8+30eb:334d;30e4+30fc+30c9:334e;30e4+30fc+30eb:334f;
   30e6+30a2+30f3:3350;30ea+30c3+30c8+30eb:3351;30ea+30e9:3352;30eb+30d4+30fc:3353;
   30eb+30fc+30d6+30eb:3354;30ec+30e0:3355;30ec+30f3+30c8+30b2+30f3:3356;30ef+30c3+30c8:3357;
   4ee4+548c:32ff;5927+6b63:337d;5e73+6210:337b;660e+6cbb:337e;662d+548c:337c;
   682a+5f0f+4f1a+793e:337f;c8fc+c758:327d;cc38+ace0:327c;1d157+1d165:1d15e;1d158+1d165:1d15f;
   1d158+1d165+1d16e:1d160;1d158+1d165+1d16f:1d161;1d158+1d165+1d170:1d162;
   1d158+1d165+1d171:1d163;1d158+1d165+1d172:1d164;1d1b9+1d165:1d1bb;1d1b9+1d165+1d16e:1d1bd;
   1d1b9+1d165+1d16f:1d1bf;1d1ba+1d165:1d1bc;1d1ba+1d165+1d16e:1d1be;1d1ba+1d165+1d16f:1d1c0"

/-- The characters that take the place of the one with the number `n`,
if one does so with it. -/
def replacement? (n : Nat) : Option (List Char) :=
  match pairedRanges.find? (·.has n) with
  | some range =>
    if (n - range.first) % 2 = 0 then some [Char.ofNat (n + 1)] else none
  | none =>
    match Text.findKeyed? shiftedRanges n with
    | some (key, range) => some (key.map fun k => Char.ofNat (k + (n - range.first)))
    | none => (Text.findKeyed? spelledRanges n).map fun (key, _) => key.map Char.ofNat

/-- The characters that take the place of a character, or none if no
domain name has it. -/
def plainChars? (c : Char) : Option (List Char) :=
  let n := c.toNat
  if n < 0x80 then some [c.toLower]
  else if Text.inRanges ignoredRanges n then some []
  else
    match replacement? n with
    | some cs => some cs
    | none => if Text.inRanges refusedRanges n then none else some [c]

/-- The plain form of a text. -/
def plain? (cs : List Char) : Option (List Char) :=
  (cs.mapM plainChars?).map fun parts => Text.composed parts.flatten

end DataAccess.Url
