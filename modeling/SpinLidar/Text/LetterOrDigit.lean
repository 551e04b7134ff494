import SpinLidar.Text.RangeTable
namespace SpinLidar

namespace Text

def letterOrDigitRuns : RangeTable :=
  RangeTable.ofHex (
    "30 3a 41 5b 61 7b aa ab b2 b4 b5 b6 b9 bb bc bf c0 d7 d8 f7 f8 2c2 2c6 2d2 2e0 2e5 " ++
    "2ec 2ed 2ee 2ef 370 375 376 378 37a 37e 37f 380 386 387 388 38b 38c 38d 38e 3a2 3a3 " ++
    "3f6 3f7 482 48a 530 531 557 559 55a 560 589 5d0 5eb 5ef 5f3 620 64b 660 66a 66e 670 " ++
    "671 6d4 6d5 6d6 6e5 6e7 6ee 6fd 6ff 700 710 711 712 730 74d 7a6 7b1 7b2 7c0 7eb 7f4 " ++
    "7f6 7fa 7fb 800 816 81a 81b 824 825 828 829 840 859 860 86b 870 888 889 88f 8a0 8ca " ++
    "904 93a 93d 93e 950 951 958 962 966 970 971 981 985 98d 98f 991 993 9a9 9aa 9b1 9b2 " ++
    "9b3 9b6 9ba 9bd 9be 9ce 9cf 9dc 9de 9df 9e2 9e6 9f2 9f4 9fa 9fc 9fd a05 a0b a0f a11 " ++
    "a13 a29 a2a a31 a32 a34 a35 a37 a38 a3a a59 a5d a5e a5f a66 a70 a72 a75 a85 a8e a8f " ++
    "a92 a93 aa9 aaa ab1 ab2 ab4 ab5 aba abd abe ad0 ad1 ae0 ae2 ae6 af0 af9 afa b05 b0d " ++
    "b0f b11 b13 b29 b2a b31 b32 b34 b35 b3a b3d b3e b5c b5e b5f b62 b66 b70 b71 b78 b83 " ++
    "b84 b85 b8b b8e b91 b92 b96 b99 b9b b9c b9d b9e ba0 ba3 ba5 ba8 bab bae bba bd0 bd1 " ++
    "be6 bf3 c05 c0d c0e c11 c12 c29 c2a c3a c3d c3e c58 c5b c5d c5e c60 c62 c66 c70 c78 " ++
    "c7f c80 c81 c85 c8d c8e c91 c92 ca9 caa cb4 cb5 cba cbd cbe cdd cdf ce0 ce2 ce6 cf0 " ++
    "cf1 cf3 d04 d0d d0e d11 d12 d3b d3d d3e d4e d4f d54 d57 d58 d62 d66 d79 d7a d80 d85 " ++
    "d97 d9a db2 db3 dbc dbd dbe dc0 dc7 de6 df0 e01 e31 e32 e34 e40 e47 e50 e5a e81 e83 " ++
    "e84 e85 e86 e8b e8c ea4 ea5 ea6 ea7 eb1 eb2 eb4 ebd ebe ec0 ec5 ec6 ec7 ed0 eda edc " ++
    "ee0 f00 f01 f20 f34 f40 f48 f49 f6d f88 f8d 1000 102b 103f 104a 1050 1056 105a 105e " ++
    "1061 1062 1065 1067 106e 1071 1075 1082 108e 108f 1090 109a 10a0 10c6 10c7 10c8 10cd " ++
    "10ce 10d0 10fb 10fc 1249 124a 124e 1250 1257 1258 1259 125a 125e 1260 1289 128a 128e " ++
    "1290 12b1 12b2 12b6 12b8 12bf 12c0 12c1 12c2 12c6 12c8 12d7 12d8 1311 1312 1316 1318 " ++
    "135b 1369 137d 1380 1390 13a0 13f6 13f8 13fe 1401 166d 166f 1680 1681 169b 16a0 16eb " ++
    "16ee 16f9 1700 1712 171f 1732 1740 1752 1760 176d 176e 1771 1780 17b4 17d7 17d8 17dc " ++
    "17dd 17e0 17ea 17f0 17fa 1810 181a 1820 1879 1880 1885 1887 18a9 18aa 18ab 18b0 18f6 " ++
    "1900 191f 1946 196e 1970 1975 1980 19ac 19b0 19ca 19d0 19db 1a00 1a17 1a20 1a55 1a80 " ++
    "1a8a 1a90 1a9a 1aa7 1aa8 1b05 1b34 1b45 1b4d 1b50 1b5a 1b83 1ba1 1bae 1be6 1c00 1c24 " ++
    "1c40 1c4a 1c4d 1c7e 1c80 1c89 1c90 1cbb 1cbd 1cc0 1ce9 1ced 1cee 1cf4 1cf5 1cf7 1cfa " ++
    "1cfb 1d00 1dc0 1e00 1f16 1f18 1f1e 1f20 1f46 1f48 1f4e 1f50 1f58 1f59 1f5a 1f5b 1f5c " ++
    "1f5d 1f5e 1f5f 1f7e 1f80 1fb5 1fb6 1fbd 1fbe 1fbf 1fc2 1fc5 1fc6 1fcd 1fd0 1fd4 1fd6 " ++
    "1fdc 1fe0 1fed 1ff2 1ff5 1ff6 1ffd 2070 2072 2074 207a 207f 208a 2090 209d 2102 2103 " ++
    "2107 2108 210a 2114 2115 2116 2119 211e 2124 2125 2126 2127 2128 2129 212a 212e 212f " ++
    "213a 213c 2140 2145 214a 214e 214f 2150 218a 2460 249c 24ea 2500 2776 2794 2c00 2ce5 " ++
    "2ceb 2cef 2cf2 2cf4 2cfd 2cfe 2d00 2d26 2d27 2d28 2d2d 2d2e 2d30 2d68 2d6f 2d70 2d80 " ++
    "2d97 2da0 2da7 2da8 2daf 2db0 2db7 2db8 2dbf 2dc0 2dc7 2dc8 2dcf 2dd0 2dd7 2dd8 2ddf " ++
    "2e2f 2e30 3005 3008 3021 302a 3031 3036 3038 303d 3041 3097 309d 30a0 30a1 30fb 30fc " ++
    "3100 3105 3130 3131 318f 3192 3196 31a0 31c0 31f0 3200 3220 322a 3248 3250 3251 3260 " ++
    "3280 328a 32b1 32c0 3400 4dc0 4e00 a48d a4d0 a4fe a500 a60d a610 a62c a640 a66f a67f " ++
    "a69e a6a0 a6f0 a717 a720 a722 a789 a78b a7cb a7d0 a7d2 a7d3 a7d4 a7d5 a7da a7f2 a802 " ++
    "a803 a806 a807 a80b a80c a823 a830 a836 a840 a874 a882 a8b4 a8d0 a8da a8f2 a8f8 a8fb " ++
    "a8fc a8fd a8ff a900 a926 a930 a947 a960 a97d a984 a9b3 a9cf a9da a9e0 a9e5 a9e6 a9ff " ++
    "aa00 aa29 aa40 aa43 aa44 aa4c aa50 aa5a aa60 aa77 aa7a aa7b aa7e aab0 aab1 aab2 aab5 " ++
    "aab7 aab9 aabe aac0 aac1 aac2 aac3 aadb aade aae0 aaeb aaf2 aaf5 ab01 ab07 ab09 ab0f " ++
    "ab11 ab17 ab20 ab27 ab28 ab2f ab30 ab5b ab5c ab6a ab70 abe3 abf0 abfa ac00 d7a4 d7b0 " ++
    "d7c7 d7cb d7fc f900 fa6e fa70 fada fb00 fb07 fb13 fb18 fb1d fb1e fb1f fb29 fb2a fb37 " ++
    "fb38 fb3d fb3e fb3f fb40 fb42 fb43 fb45 fb46 fbb2 fbd3 fd3e fd50 fd90 fd92 fdc8 fdf0 " ++
    "fdfc fe70 fe75 fe76 fefd ff10 ff1a ff21 ff3b ff41 ff5b ff66 ffbf ffc2 ffc8 ffca ffd0 " ++
    "ffd2 ffd8 ffda ffdd 10000 1000c 1000d 10027 10028 1003b 1003c 1003e 1003f 1004e " ++
    "10050 1005e 10080 100fb 10107 10134 10140 10179 1018a 1018c 10280 1029d 102a0 102d1 " ++
    "102e1 102fc 10300 10324 1032d 1034b 10350 10376 10380 1039e 103a0 103c4 103c8 103d0 " ++
    "103d1 103d6 10400 1049e 104a0 104aa 104b0 104d4 104d8 104fc 10500 10528 10530 10564 " ++
    "10570 1057b 1057c 1058b 1058c 10593 10594 10596 10597 105a2 105a3 105b2 105b3 105ba " ++
    "105bb 105bd 10600 10737 10740 10756 10760 10768 10780 10786 10787 107b1 107b2 107bb " ++
    "10800 10806 10808 10809 1080a 10836 10837 10839 1083c 1083d 1083f 10856 10858 10877 " ++
    "10879 1089f 108a7 108b0 108e0 108f3 108f4 108f6 108fb 1091c 10920 1093a 10980 109b8 " ++
    "109bc 109d0 109d2 10a01 10a10 10a14 10a15 10a18 10a19 10a36 10a40 10a49 10a60 10a7f " ++
    "10a80 10aa0 10ac0 10ac8 10ac9 10ae5 10aeb 10af0 10b00 10b36 10b40 10b56 10b58 10b73 " ++
    "10b78 10b92 10ba9 10bb0 10c00 10c49 10c80 10cb3 10cc0 10cf3 10cfa 10d24 10d30 10d3a " ++
    "10e60 10e7f 10e80 10eaa 10eb0 10eb2 10f00 10f28 10f30 10f46 10f51 10f55 10f70 10f82 " ++
    "10fb0 10fcc 10fe0 10ff7 11003 11038 11052 11070 11071 11073 11075 11076 11083 110b0 " ++
    "110d0 110e9 110f0 110fa 11103 11127 11136 11140 11144 11145 11147 11148 11150 11173 " ++
    "11176 11177 11183 111b3 111c1 111c5 111d0 111db 111dc 111dd 111e1 111f5 11200 11212 " ++
    "11213 1122c 11280 11287 11288 11289 1128a 1128e 1128f 1129e 1129f 112a9 112b0 112df " ++
    "112f0 112fa 11305 1130d 1130f 11311 11313 11329 1132a 11331 11332 11334 11335 1133a " ++
    "1133d 1133e 11350 11351 1135d 11362 11400 11435 11447 1144b 11450 1145a 1145f 11462 " ++
    "11480 114b0 114c4 114c6 114c7 114c8 114d0 114da 11580 115af 115d8 115dc 11600 11630 " ++
    "11644 11645 11650 1165a 11680 116ab 116b8 116b9 116c0 116ca 11700 1171b 11730 1173c " ++
    "11740 11747 11800 1182c 118a0 118f3 118ff 11907 11909 1190a 1190c 11914 11915 11917 " ++
    "11918 11930 1193f 11940 11941 11942 11950 1195a 119a0 119a8 119aa 119d1 119e1 119e2 " ++
    "119e3 119e4 11a00 11a01 11a0b 11a33 11a3a 11a3b 11a50 11a51 11a5c 11a8a 11a9d 11a9e " ++
    "11ab0 11af9 11c00 11c09 11c0a 11c2f 11c40 11c41 11c50 11c6d 11c72 11c90 11d00 11d07 " ++
    "11d08 11d0a 11d0b 11d31 11d46 11d47 11d50 11d5a 11d60 11d66 11d67 11d69 11d6a 11d8a " ++
    "11d98 11d99 11da0 11daa 11ee0 11ef3 11fb0 11fb1 11fc0 11fd5 12000 1239a 12400 1246f " ++
    "12480 12544 12f90 12ff1 13000 1342f 14400 14647 16800 16a39 16a40 16a5f 16a60 16a6a " ++
    "16a70 16abf 16ac0 16aca 16ad0 16aee 16b00 16b30 16b40 16b44 16b50 16b5a 16b5b 16b62 " ++
    "16b63 16b78 16b7d 16b90 16e40 16e97 16f00 16f4b 16f50 16f51 16f93 16fa0 16fe0 16fe2 " ++
    "16fe3 16fe4 17000 187f8 18800 18cd6 18d00 18d09 1aff0 1aff4 1aff5 1affc 1affd 1afff " ++
    "1b000 1b123 1b150 1b153 1b164 1b168 1b170 1b2fc 1bc00 1bc6b 1bc70 1bc7d 1bc80 1bc89 " ++
    "1bc90 1bc9a 1d2e0 1d2f4 1d360 1d379 1d400 1d455 1d456 1d49d 1d49e 1d4a0 1d4a2 1d4a3 " ++
    "1d4a5 1d4a7 1d4a9 1d4ad 1d4ae 1d4ba 1d4bb 1d4bc 1d4bd 1d4c4 1d4c5 1d506 1d507 1d50b " ++
    "1d50d 1d515 1d516 1d51d 1d51e 1d53a 1d53b 1d53f 1d540 1d545 1d546 1d547 1d54a 1d551 " ++
    "1d552 1d6a6 1d6a8 1d6c1 1d6c2 1d6db 1d6dc 1d6fb 1d6fc 1d715 1d716 1d735 1d736 1d74f " ++
    "1d750 1d76f 1d770 1d789 1d78a 1d7a9 1d7aa 1d7c3 1d7c4 1d7cc 1d7ce 1d800 1df00 1df1f " ++
    "1e100 1e12d 1e137 1e13e 1e140 1e14a 1e14e 1e14f 1e290 1e2ae 1e2c0 1e2ec 1e2f0 1e2fa " ++
    "1e7e0 1e7e7 1e7e8 1e7ec 1e7ed 1e7ef 1e7f0 1e7ff 1e800 1e8c5 1e8c7 1e8d0 1e900 1e944 " ++
    "1e94b 1e94c 1e950 1e95a 1ec71 1ecac 1ecad 1ecb0 1ecb1 1ecb5 1ed01 1ed2e 1ed2f 1ed3e " ++
    "1ee00 1ee04 1ee05 1ee20 1ee21 1ee23 1ee24 1ee25 1ee27 1ee28 1ee29 1ee33 1ee34 1ee38 " ++
    "1ee39 1ee3a 1ee3b 1ee3c 1ee42 1ee43 1ee47 1ee48 1ee49 1ee4a 1ee4b 1ee4c 1ee4d 1ee50 " ++
    "1ee51 1ee53 1ee54 1ee55 1ee57 1ee58 1ee59 1ee5a 1ee5b 1ee5c 1ee5d 1ee5e 1ee5f 1ee60 " ++
    "1ee61 1ee63 1ee64 1ee65 1ee67 1ee6b 1ee6c 1ee73 1ee74 1ee78 1ee79 1ee7d 1ee7e 1ee7f " ++
    "1ee80 1ee8a 1ee8b 1ee9c 1eea1 1eea4 1eea5 1eeaa 1eeab 1eebc 1f100 1f10d 1fbf0 1fbfa " ++
    "20000 2a6e0 2a700 2b739 2b740 2b81e 2b820 2cea2 2ceb0 2ebe1 2f800 2fa1e 30000 3134b")

def isLetterOrDigit (c : Char) : Bool :=
  if c.toNat < 128 then c.isAlphanum
  else letterOrDigitRuns.contains c.toNat

end Text

end SpinLidar
