import SpinLidar.Text.RangeTable
namespace SpinLidar

namespace Text

def printableRuns : RangeTable :=
  RangeTable.ofHex (
    "20 7f a1 ad ae 378 37a 380 384 38b 38c 38d 38e 3a2 3a3 530 531 557 559 58b 58d 590 " ++
    "591 5c8 5d0 5eb 5ef 5f5 606 61c 61d 6dd 6de 70e 710 74b 74d 7b2 7c0 7fb 7fd 82e 830 " ++
    "83f 840 85c 85e 85f 860 86b 870 88f 898 8e2 8e3 984 985 98d 98f 991 993 9a9 9aa 9b1 " ++
    "9b2 9b3 9b6 9ba 9bc 9c5 9c7 9c9 9cb 9cf 9d7 9d8 9dc 9de 9df 9e4 9e6 9ff a01 a04 a05 " ++
    "a0b a0f a11 a13 a29 a2a a31 a32 a34 a35 a37 a38 a3a a3c a3d a3e a43 a47 a49 a4b a4e " ++
    "a51 a52 a59 a5d a5e a5f a66 a77 a81 a84 a85 a8e a8f a92 a93 aa9 aaa ab1 ab2 ab4 ab5 " ++
    "aba abc ac6 ac7 aca acb ace ad0 ad1 ae0 ae4 ae6 af2 af9 b00 b01 b04 b05 b0d b0f b11 " ++
    "b13 b29 b2a b31 b32 b34 b35 b3a b3c b45 b47 b49 b4b b4e b55 b58 b5c b5e b5f b64 b66 " ++
    "b78 b82 b84 b85 b8b b8e b91 b92 b96 b99 b9b b9c b9d b9e ba0 ba3 ba5 ba8 bab bae bba " ++
    "bbe bc3 bc6 bc9 bca bce bd0 bd1 bd7 bd8 be6 bfb c00 c0d c0e c11 c12 c29 c2a c3a c3c " ++
    "c45 c46 c49 c4a c4e c55 c57 c58 c5b c5d c5e c60 c64 c66 c70 c77 c8d c8e c91 c92 ca9 " ++
    "caa cb4 cb5 cba cbc cc5 cc6 cc9 cca cce cd5 cd7 cdd cdf ce0 ce4 ce6 cf0 cf1 cf3 d00 " ++
    "d0d d0e d11 d12 d45 d46 d49 d4a d50 d54 d64 d66 d80 d81 d84 d85 d97 d9a db2 db3 dbc " ++
    "dbd dbe dc0 dc7 dca dcb dcf dd5 dd6 dd7 dd8 de0 de6 df0 df2 df5 e01 e3b e3f e5c e81 " ++
    "e83 e84 e85 e86 e8b e8c ea4 ea5 ea6 ea7 ebe ec0 ec5 ec6 ec7 ec8 ece ed0 eda edc ee0 " ++
    "f00 f48 f49 f6d f71 f98 f99 fbd fbe fcd fce fdb 1000 10c6 10c7 10c8 10cd 10ce 10d0 " ++
    "1249 124a 124e 1250 1257 1258 1259 125a 125e 1260 1289 128a 128e 1290 12b1 12b2 12b6 " ++
    "12b8 12bf 12c0 12c1 12c2 12c6 12c8 12d7 12d8 1311 1312 1316 1318 135b 135d 137d 1380 " ++
    "139a 13a0 13f6 13f8 13fe 1400 1680 1681 169d 16a0 16f9 1700 1716 171f 1737 1740 1754 " ++
    "1760 176d 176e 1771 1772 1774 1780 17de 17e0 17ea 17f0 17fa 1800 180e 180f 181a 1820 " ++
    "1879 1880 18ab 18b0 18f6 1900 191f 1920 192c 1930 193c 1940 1941 1944 196e 1970 1975 " ++
    "1980 19ac 19b0 19ca 19d0 19db 19de 1a1c 1a1e 1a5f 1a60 1a7d 1a7f 1a8a 1a90 1a9a 1aa0 " ++
    "1aae 1ab0 1acf 1b00 1b4d 1b50 1b7f 1b80 1bf4 1bfc 1c38 1c3b 1c4a 1c4d 1c89 1c90 1cbb " ++
    "1cbd 1cc8 1cd0 1cfb 1d00 1f16 1f18 1f1e 1f20 1f46 1f48 1f4e 1f50 1f58 1f59 1f5a 1f5b " ++
    "1f5c 1f5d 1f5e 1f5f 1f7e 1f80 1fb5 1fb6 1fc5 1fc6 1fd4 1fd6 1fdc 1fdd 1ff0 1ff2 1ff5 " ++
    "1ff6 1fff 2010 2028 2030 205f 2070 2072 2074 208f 2090 209d 20a0 20c1 20d0 20f1 2100 " ++
    "218c 2190 2427 2440 244b 2460 2b74 2b76 2b96 2b97 2cf4 2cf9 2d26 2d27 2d28 2d2d 2d2e " ++
    "2d30 2d68 2d6f 2d71 2d7f 2d97 2da0 2da7 2da8 2daf 2db0 2db7 2db8 2dbf 2dc0 2dc7 2dc8 " ++
    "2dcf 2dd0 2dd7 2dd8 2ddf 2de0 2e5e 2e80 2e9a 2e9b 2ef4 2f00 2fd6 2ff0 2ffc 3001 3040 " ++
    "3041 3097 3099 3100 3105 3130 3131 318f 3190 31e4 31f0 321f 3220 a48d a490 a4c7 a4d0 " ++
    "a62c a640 a6f8 a700 a7cb a7d0 a7d2 a7d3 a7d4 a7d5 a7da a7f2 a82d a830 a83a a840 a878 " ++
    "a880 a8c6 a8ce a8da a8e0 a954 a95f a97d a980 a9ce a9cf a9da a9de a9ff aa00 aa37 aa40 " ++
    "aa4e aa50 aa5a aa5c aac3 aadb aaf7 ab01 ab07 ab09 ab0f ab11 ab17 ab20 ab27 ab28 ab2f " ++
    "ab30 ab6c ab70 abee abf0 abfa ac00 d7a4 d7b0 d7c7 d7cb d7fc f900 fa6e fa70 fada fb00 " ++
    "fb07 fb13 fb18 fb1d fb37 fb38 fb3d fb3e fb3f fb40 fb42 fb43 fb45 fb46 fbc3 fbd3 fd90 " ++
    "fd92 fdc8 fdcf fdd0 fdf0 fe1a fe20 fe53 fe54 fe67 fe68 fe6c fe70 fe75 fe76 fefd ff01 " ++
    "ffbf ffc2 ffc8 ffca ffd0 ffd2 ffd8 ffda ffdd ffe0 ffe7 ffe8 ffef fffc fffe 10000 " ++
    "1000c 1000d 10027 10028 1003b 1003c 1003e 1003f 1004e 10050 1005e 10080 100fb 10100 " ++
    "10103 10107 10134 10137 1018f 10190 1019d 101a0 101a1 101d0 101fe 10280 1029d 102a0 " ++
    "102d1 102e0 102fc 10300 10324 1032d 1034b 10350 1037b 10380 1039e 1039f 103c4 103c8 " ++
    "103d6 10400 1049e 104a0 104aa 104b0 104d4 104d8 104fc 10500 10528 10530 10564 1056f " ++
    "1057b 1057c 1058b 1058c 10593 10594 10596 10597 105a2 105a3 105b2 105b3 105ba 105bb " ++
    "105bd 10600 10737 10740 10756 10760 10768 10780 10786 10787 107b1 107b2 107bb 10800 " ++
    "10806 10808 10809 1080a 10836 10837 10839 1083c 1083d 1083f 10856 10857 1089f 108a7 " ++
    "108b0 108e0 108f3 108f4 108f6 108fb 1091c 1091f 1093a 1093f 10940 10980 109b8 109bc " ++
    "109d0 109d2 10a04 10a05 10a07 10a0c 10a14 10a15 10a18 10a19 10a36 10a38 10a3b 10a3f " ++
    "10a49 10a50 10a59 10a60 10aa0 10ac0 10ae7 10aeb 10af7 10b00 10b36 10b39 10b56 10b58 " ++
    "10b73 10b78 10b92 10b99 10b9d 10ba9 10bb0 10c00 10c49 10c80 10cb3 10cc0 10cf3 10cfa " ++
    "10d28 10d30 10d3a 10e60 10e7f 10e80 10eaa 10eab 10eae 10eb0 10eb2 10f00 10f28 10f30 " ++
    "10f5a 10f70 10f8a 10fb0 10fcc 10fe0 10ff7 11000 1104e 11052 11076 1107f 110bd 110be " ++
    "110c3 110d0 110e9 110f0 110fa 11100 11135 11136 11148 11150 11177 11180 111e0 111e1 " ++
    "111f5 11200 11212 11213 1123f 11280 11287 11288 11289 1128a 1128e 1128f 1129e 1129f " ++
    "112aa 112b0 112eb 112f0 112fa 11300 11304 11305 1130d 1130f 11311 11313 11329 1132a " ++
    "11331 11332 11334 11335 1133a 1133b 11345 11347 11349 1134b 1134e 11350 11351 11357 " ++
    "11358 1135d 11364 11366 1136d 11370 11375 11400 1145c 1145d 11462 11480 114c8 114d0 " ++
    "114da 11580 115b6 115b8 115de 11600 11645 11650 1165a 11660 1166d 11680 116ba 116c0 " ++
    "116ca 11700 1171b 1171d 1172c 11730 11747 11800 1183c 118a0 118f3 118ff 11907 11909 " ++
    "1190a 1190c 11914 11915 11917 11918 11936 11937 11939 1193b 11947 11950 1195a 119a0 " ++
    "119a8 119aa 119d8 119da 119e5 11a00 11a48 11a50 11aa3 11ab0 11af9 11c00 11c09 11c0a " ++
    "11c37 11c38 11c46 11c50 11c6d 11c70 11c90 11c92 11ca8 11ca9 11cb7 11d00 11d07 11d08 " ++
    "11d0a 11d0b 11d37 11d3a 11d3b 11d3c 11d3e 11d3f 11d48 11d50 11d5a 11d60 11d66 11d67 " ++
    "11d69 11d6a 11d8f 11d90 11d92 11d93 11d99 11da0 11daa 11ee0 11ef9 11fb0 11fb1 11fc0 " ++
    "11ff2 11fff 1239a 12400 1246f 12470 12475 12480 12544 12f90 12ff3 13000 1342f 14400 " ++
    "14647 16800 16a39 16a40 16a5f 16a60 16a6a 16a6e 16abf 16ac0 16aca 16ad0 16aee 16af0 " ++
    "16af6 16b00 16b46 16b50 16b5a 16b5b 16b62 16b63 16b78 16b7d 16b90 16e40 16e9b 16f00 " ++
    "16f4b 16f4f 16f88 16f8f 16fa0 16fe0 16fe5 16ff0 16ff2 17000 187f8 18800 18cd6 18d00 " ++
    "18d09 1aff0 1aff4 1aff5 1affc 1affd 1afff 1b000 1b123 1b150 1b153 1b164 1b168 1b170 " ++
    "1b2fc 1bc00 1bc6b 1bc70 1bc7d 1bc80 1bc89 1bc90 1bc9a 1bc9c 1bca0 1cf00 1cf2e 1cf30 " ++
    "1cf47 1cf50 1cfc4 1d000 1d0f6 1d100 1d127 1d129 1d173 1d17b 1d1eb 1d200 1d246 1d2e0 " ++
    "1d2f4 1d300 1d357 1d360 1d379 1d400 1d455 1d456 1d49d 1d49e 1d4a0 1d4a2 1d4a3 1d4a5 " ++
    "1d4a7 1d4a9 1d4ad 1d4ae 1d4ba 1d4bb 1d4bc 1d4bd 1d4c4 1d4c5 1d506 1d507 1d50b 1d50d " ++
    "1d515 1d516 1d51d 1d51e 1d53a 1d53b 1d53f 1d540 1d545 1d546 1d547 1d54a 1d551 1d552 " ++
    "1d6a6 1d6a8 1d7cc 1d7ce 1da8c 1da9b 1daa0 1daa1 1dab0 1df00 1df1f 1e000 1e007 1e008 " ++
    "1e019 1e01b 1e022 1e023 1e025 1e026 1e02b 1e100 1e12d 1e130 1e13e 1e140 1e14a 1e14e " ++
    "1e150 1e290 1e2af 1e2c0 1e2fa 1e2ff 1e300 1e7e0 1e7e7 1e7e8 1e7ec 1e7ed 1e7ef 1e7f0 " ++
    "1e7ff 1e800 1e8c5 1e8c7 1e8d7 1e900 1e94c 1e950 1e95a 1e95e 1e960 1ec71 1ecb5 1ed01 " ++
    "1ed3e 1ee00 1ee04 1ee05 1ee20 1ee21 1ee23 1ee24 1ee25 1ee27 1ee28 1ee29 1ee33 1ee34 " ++
    "1ee38 1ee39 1ee3a 1ee3b 1ee3c 1ee42 1ee43 1ee47 1ee48 1ee49 1ee4a 1ee4b 1ee4c 1ee4d " ++
    "1ee50 1ee51 1ee53 1ee54 1ee55 1ee57 1ee58 1ee59 1ee5a 1ee5b 1ee5c 1ee5d 1ee5e 1ee5f " ++
    "1ee60 1ee61 1ee63 1ee64 1ee65 1ee67 1ee6b 1ee6c 1ee73 1ee74 1ee78 1ee79 1ee7d 1ee7e " ++
    "1ee7f 1ee80 1ee8a 1ee8b 1ee9c 1eea1 1eea4 1eea5 1eeaa 1eeab 1eebc 1eef0 1eef2 1f000 " ++
    "1f02c 1f030 1f094 1f0a0 1f0af 1f0b1 1f0c0 1f0c1 1f0d0 1f0d1 1f0f6 1f100 1f1ae 1f1e6 " ++
    "1f203 1f210 1f23c 1f240 1f249 1f250 1f252 1f260 1f266 1f300 1f6d8 1f6dd 1f6ed 1f6f0 " ++
    "1f6fd 1f700 1f774 1f780 1f7d9 1f7e0 1f7ec 1f7f0 1f7f1 1f800 1f80c 1f810 1f848 1f850 " ++
    "1f85a 1f860 1f888 1f890 1f8ae 1f8b0 1f8b2 1f900 1fa54 1fa60 1fa6e 1fa70 1fa75 1fa78 " ++
    "1fa7d 1fa80 1fa87 1fa90 1faad 1fab0 1fabb 1fac0 1fac6 1fad0 1fada 1fae0 1fae8 1faf0 " ++
    "1faf7 1fb00 1fb93 1fb94 1fbcb 1fbf0 1fbfa 20000 2a6e0 2a700 2b739 2b740 2b81e 2b820 " ++
    "2cea2 2ceb0 2ebe1 2f800 2fa1e 30000 3134b e0100 e01f0")

def isPrintable (c : Char) : Bool :=
  if c.toNat < 128 then decide (32 ≤ c.toNat ∧ c.toNat < 127)
  else printableRuns.contains c.toNat

end Text

end SpinLidar
