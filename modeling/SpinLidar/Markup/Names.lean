import SpinLidar.Text.RangeTable
namespace SpinLidar

namespace Markup

def nameStartTable : Text.RangeTable := .ofHex
  ("c0 d7 d8 f7 f8 132 134 13f 141 149 14a 17f " ++
   "180 1c4 1cd 1f1 1f4 1f6 1fa 218 250 2a9 2bb 2c2 " ++
   "386 387 388 38b 38c 38d 38e 3a2 3a3 3cf 3d0 3d7 " ++
   "3da 3db 3dc 3dd 3de 3df 3e0 3e1 3e2 3f4 401 40d " ++
   "40e 450 451 45d 45e 482 490 4c5 4c7 4c9 4cb 4cd " ++
   "4d0 4ec 4ee 4f6 4f8 4fa 531 557 559 55a 561 587 " ++
   "5d0 5eb 5f0 5f3 621 63b 641 64b 671 6b8 6ba 6bf " ++
   "6c0 6cf 6d0 6d4 6d5 6d6 6e5 6e7 905 93a 93d 93e " ++
   "958 962 985 98d 98f 991 993 9a9 9aa 9b1 9b2 9b3 " ++
   "9b6 9ba 9dc 9de 9df 9e2 9f0 9f2 a05 a0b a0f a11 " ++
   "a13 a29 a2a a31 a32 a34 a35 a37 a38 a3a a59 a5d " ++
   "a5e a5f a72 a75 a85 a8c a8d a8e a8f a92 a93 aa9 " ++
   "aaa ab1 ab2 ab4 ab5 aba abd abe ae0 ae1 b05 b0d " ++
   "b0f b11 b13 b29 b2a b31 b32 b34 b36 b3a b3d b3e " ++
   "b5c b5e b5f b62 b85 b8b b8e b91 b92 b96 b99 b9b " ++
   "b9c b9d b9e ba0 ba3 ba5 ba8 bab bae bb6 bb7 bba " ++
   "c05 c0d c0e c11 c12 c29 c2a c34 c35 c3a c60 c62 " ++
   "c85 c8d c8e c91 c92 ca9 caa cb4 cb5 cba cde cdf " ++
   "ce0 ce2 d05 d0d d0e d11 d12 d29 d2a d3a d60 d62 " ++
   "e01 e2f e30 e31 e32 e34 e40 e46 e81 e83 e84 e85 " ++
   "e87 e89 e8a e8b e8d e8e e94 e98 e99 ea0 ea1 ea4 " ++
   "ea5 ea6 ea7 ea8 eaa eac ead eaf eb0 eb1 eb2 eb4 " ++
   "ebd ebe ec0 ec5 f40 f48 f49 f6a 10a0 10c6 10d0 10f7 " ++
   "1100 1101 1102 1104 1105 1108 1109 110a 110b 110d 110e 1113 " ++
   "113c 113d 113e 113f 1140 1141 114c 114d 114e 114f 1150 1151 " ++
   "1154 1156 1159 115a 115f 1162 1163 1164 1165 1166 1167 1168 " ++
   "1169 116a 116d 116f 1172 1174 1175 1176 119e 119f 11a8 11a9 " ++
   "11ab 11ac 11ae 11b0 11b7 11b9 11ba 11bb 11bc 11c3 11eb 11ec " ++
   "11f0 11f1 11f9 11fa 1e00 1e9c 1ea0 1efa 1f00 1f16 1f18 1f1e " ++
   "1f20 1f46 1f48 1f4e 1f50 1f58 1f59 1f5a 1f5b 1f5c 1f5d 1f5e " ++
   "1f5f 1f7e 1f80 1fb5 1fb6 1fbd 1fbe 1fbf 1fc2 1fc5 1fc6 1fcd " ++
   "1fd0 1fd4 1fd6 1fdc 1fe0 1fed 1ff2 1ff5 1ff6 1ffd 2126 2127 " ++
   "212a 212c 212e 212f 2180 2183 3007 3008 3021 302a 3041 3095 " ++
   "30a1 30fb 3105 312d 4e00 9fa6 ac00 d7a4")

def nameTable : Text.RangeTable := .ofHex
  ("b7 b8 c0 d7 d8 f7 f8 132 134 13f 141 149 " ++
   "14a 17f 180 1c4 1cd 1f1 1f4 1f6 1fa 218 250 2a9 " ++
   "2bb 2c2 2d0 2d2 300 346 360 362 386 38b 38c 38d " ++
   "38e 3a2 3a3 3cf 3d0 3d7 3da 3db 3dc 3dd 3de 3df " ++
   "3e0 3e1 3e2 3f4 401 40d 40e 450 451 45d 45e 482 " ++
   "483 487 490 4c5 4c7 4c9 4cb 4cd 4d0 4ec 4ee 4f6 " ++
   "4f8 4fa 531 557 559 55a 561 587 591 5a2 5a3 5ba " ++
   "5bb 5be 5bf 5c0 5c1 5c3 5c4 5c5 5d0 5eb 5f0 5f3 " ++
   "621 63b 640 653 660 66a 670 6b8 6ba 6bf 6c0 6cf " ++
   "6d0 6d4 6d5 6e9 6ea 6ee 6f0 6fa 901 904 905 93a " ++
   "93c 94e 951 955 958 964 966 970 981 984 985 98d " ++
   "98f 991 993 9a9 9aa 9b1 9b2 9b3 9b6 9ba 9bc 9bd " ++
   "9be 9c5 9c7 9c9 9cb 9ce 9d7 9d8 9dc 9de 9df 9e4 " ++
   "9e6 9f2 a02 a03 a05 a0b a0f a11 a13 a29 a2a a31 " ++
   "a32 a34 a35 a37 a38 a3a a3c a3d a3e a43 a47 a49 " ++
   "a4b a4e a59 a5d a5e a5f a66 a75 a81 a84 a85 a8c " ++
   "a8d a8e a8f a92 a93 aa9 aaa ab1 ab2 ab4 ab5 aba " ++
   "abc ac6 ac7 aca acb ace ae0 ae1 ae6 af0 b01 b04 " ++
   "b05 b0d b0f b11 b13 b29 b2a b31 b32 b34 b36 b3a " ++
   "b3c b44 b47 b49 b4b b4e b56 b58 b5c b5e b5f b62 " ++
   "b66 b70 b82 b84 b85 b8b b8e b91 b92 b96 b99 b9b " ++
   "b9c b9d b9e ba0 ba3 ba5 ba8 bab bae bb6 bb7 bba " ++
   "bbe bc3 bc6 bc9 bca bce bd7 bd8 be7 bf0 c01 c04 " ++
   "c05 c0d c0e c11 c12 c29 c2a c34 c35 c3a c3e c45 " ++
   "c46 c49 c4a c4e c55 c57 c60 c62 c66 c70 c82 c84 " ++
   "c85 c8d c8e c91 c92 ca9 caa cb4 cb5 cba cbe cc5 " ++
   "cc6 cc9 cca cce cd5 cd7 cde cdf ce0 ce2 ce6 cf0 " ++
   "d02 d04 d05 d0d d0e d11 d12 d29 d2a d3a d3e d44 " ++
   "d46 d49 d4a d4e d57 d58 d60 d62 d66 d70 e01 e2f " ++
   "e30 e3b e40 e4f e50 e5a e81 e83 e84 e85 e87 e89 " ++
   "e8a e8b e8d e8e e94 e98 e99 ea0 ea1 ea4 ea5 ea6 " ++
   "ea7 ea8 eaa eac ead eaf eb0 eba ebb ebe ec0 ec5 " ++
   "ec6 ec7 ec8 ece ed0 eda f18 f1a f20 f2a f35 f36 " ++
   "f37 f38 f39 f3a f3e f48 f49 f6a f71 f85 f86 f8c " ++
   "f90 f96 f97 f98 f99 fae fb1 fb8 fb9 fba 10a0 10c6 " ++
   "10d0 10f7 1100 1101 1102 1104 1105 1108 1109 110a 110b 110d " ++
   "110e 1113 113c 113d 113e 113f 1140 1141 114c 114d 114e 114f " ++
   "1150 1151 1154 1156 1159 115a 115f 1162 1163 1164 1165 1166 " ++
   "1167 1168 1169 116a 116d 116f 1172 1174 1175 1176 119e 119f " ++
   "11a8 11a9 11ab 11ac 11ae 11b0 11b7 11b9 11ba 11bb 11bc 11c3 " ++
   "11eb 11ec 11f0 11f1 11f9 11fa 1e00 1e9c 1ea0 1efa 1f00 1f16 " ++
   "1f18 1f1e 1f20 1f46 1f48 1f4e 1f50 1f58 1f59 1f5a 1f5b 1f5c " ++
   "1f5d 1f5e 1f5f 1f7e 1f80 1fb5 1fb6 1fbd 1fbe 1fbf 1fc2 1fc5 " ++
   "1fc6 1fcd 1fd0 1fd4 1fd6 1fdc 1fe0 1fed 1ff2 1ff5 1ff6 1ffd " ++
   "20d0 20dd 20e1 20e2 2126 2127 212a 212c 212e 212f 2180 2183 " ++
   "3005 3006 3007 3008 3021 3030 3031 3036 3041 3095 3099 309b " ++
   "309d 309f 30a1 30fb 30fc 30ff 3105 312d 4e00 9fa6 ac00 d7a4")

def wideNameStart (c : Char) : Bool := nameStartTable.contains c.toNat

def wideNameChar (c : Char) : Bool := nameTable.contains c.toNat

end Markup

end SpinLidar
