import Leasehold.Text.CodeTable

/-!
# Folding of characters in domain names

What becomes of the characters of a name before its labels are encoded: letters
go to lower case, variants of a character to the character itself, and the full
stops of other scripts to the ASCII one; characters that only shape their
neighbours vanish, and characters that no name may hold are refused.
-/

set_option autoImplicit false

namespace Leasehold.Domain

inductive Folding where
  | kept
  | dropped
  | refused
  /-- Each goes to the character at a distance. -/
  | moved (distance : Int)
  /-- The first and every other one behind it goes to the character at a distance, the rest stay. -/
  | alternating (distance : Int)
  /-- Each becomes these characters. -/
  | written (codes : List Nat)
  deriving Repr

def readDistance (s : List Char) : Int :=
  match s with
  | '-' :: digits => -(Text.hexValue digits : Int)
  | _ :: digits => Text.hexValue digits
  | [] => 0

def readFolding (s : List Char) : Folding :=
  match s with
  | ['v'] => .kept
  | ['i'] => .dropped
  | ['x'] => .refused
  | '/' :: distance => .alternating (readDistance distance)
  | '+' :: _ | '-' :: _ => .moved (readDistance s)
  | _ => .written ((Text.splitAt ',' s).map Text.hexValue)

def foldingLines : List String :=
  ["80:x a0:20 v a8:20,308 v 61 v ad:i v 20,304 v b2:-80 b4:20,301 3bc v b8:20,327 31 6f v",
    "31,2044,34 31,2044,32 33,2044,34 v +20 d7:v +20 df:v 100:/+1 130:69,307 v 69,6a 134:/+1",
    "138:v /+1 13f:6c,b7 141:/+1 149:2bc,6e /+1 178:ff /+1 17f:73 v 253 /+1 186:254 188 v +cd",
    "18b:18c v 18e:1dd 259 25b 192 v 260 263 v 269 268 199 v 19c:26f 272 v 275 /+1 1a6:280 1a8",
    "v 283 v 1ac:1ad v 288 1b0 v +d9 1b3:/+1 1b7:292 1b9 v 1bc:1bd v 1c4:64,17e 1c7:6c,6a",
    "1ca:6e,6a 1cd:/+1 1dd:v /+1 1f0:v 64,7a 1f4:1f5 v 195 1bf /+1 220:19e v /+1 234:v 23a:2c65",
    "23c v 19a 2c66 v 241:242 v 180 289 28c /+1 250:v 2b0:68 266 6a 72 279 27b 281 77 79 v",
    "2d8:20,306 20,307 20,30a 20,328 20,303 20,30b v 2e0:263 6c 73 78 295 v 340:-40 342:v 313",
    "308,301 3b9 v 34f:i v 370:/+1 374:2b9 v 377 v x 37a:20,3b9 v 37e:3b 3f3 x 384:20,301",
    "20,308,301 3ac b7 +25 38b:x 3cc x +3f 390:v +20 3a2:x +20 3ac:v 3cf:3d7 3b2 3b8 3c5 3cd",
    "3cb 3c6 3c0 v /+1 3f0:3ba 3c1 3c3 v 3b8 3b5 v 3f8 v 3c3 3fb v 3fd:-82 400:+50 410:+20",
    "430:v 460:/+1 482:v 48a:/+1 4c0:4cf /+1 4cf:v /+1 530:x +30 557:x 559:v 587:565,582 v",
    "58b:x 58d:v 590:x v 5c8:x 5d0:v 5eb:x 5ef:v 5f5:x 606:v 61c:x v 675:627,674 648,674",
    "6c7,674 64a,674 v 6dd:x v 70e:x 710:v 74b:x 74d:v 7b2:x 7c0:v 7fb:x 7fd:v 82e:x 830:v",
    "83f:x v 85c:x 85e:v x v 86b:x 870:v 890:x 897:v 8e2:x v 958:915,93c 916,93c 917,93c",
    "91c,93c 921,93c 922,93c 92b,93c 92f,93c v 984:x v 98d:x 98f:v 991:x 993:v 9a9:x v 9b1:x v",
    "x 9b6:v 9ba:x 9bc:v 9c5:x 9c7:v 9c9:x 9cb:v 9cf:x 9d7:v x 9dc:9a1,9bc 9a2,9bc x 9af,9bc v",
    "9e4:x 9e6:v 9ff:x a01:v a04:x v a0b:x a0f:v a11:x a13:v a29:x v a31:x v a32,a3c x v",
    "a38,a3c x v a3a:x a3c:v x v a43:x a47:v a49:x a4b:v a4e:x a51:v x a59:a16,a3c a17,a3c",
    "a1c,a3c v x a2b,a3c x a66:v a77:x a81:v a84:x v a8e:x v a92:x v aa9:x v ab1:x v ab4:x v",
    "aba:x abc:v ac6:x v aca:x v ace:x ad0:v x ae0:v ae4:x ae6:v af2:x af9:v b00:x v b04:x v",
    "b0d:x b0f:v b11:x b13:v b29:x v b31:x v b34:x v b3a:x b3c:v b45:x b47:v b49:x b4b:v b4e:x",
    "b55:v b58:x b5c:b21,b3c b22,b3c x v b64:x b66:v b78:x b82:v b84:x v b8b:x b8e:v b91:x v",
    "b96:x b99:v b9b:x v x v ba0:x ba3:v ba5:x ba8:v bab:x bae:v bba:x bbe:v bc3:x bc6:v bc9:x",
    "v bce:x bd0:v x bd7:v x be6:v bfb:x c00:v c0d:x v c11:x v c29:x v c3a:x c3c:v c45:x v",
    "c49:x v c4e:x c55:v c57:x v c5b:x v c5e:x c60:v c64:x c66:v c70:x c77:v c8d:x v c91:x v",
    "ca9:x v cb4:x v cba:x cbc:v cc5:x v cc9:x v cce:x cd5:v cd7:x cdc:v cdf:x v ce4:x ce6:v",
    "cf0:x v cf4:x d00:v d0d:x v d11:x v d45:x v d49:x v d50:x d54:v d64:x d66:v d80:x v d84:x",
    "v d97:x d9a:v db2:x v dbc:x v x dc0:v dc7:x dca:v x dcf:v dd5:x v x v de0:x de6:v df0:x",
    "df2:v df5:x e01:v e33:e4d,e32 v e3b:x e3f:v e5c:x e81:v e83:x v x v e8b:x v ea4:x v x v",
    "eb3:ecd,eb2 v ebe:x ec0:v ec5:x v x v ecf:x v eda:x edc:eab,e99 eab,ea1 v ee0:x f00:v",
    "f0c:f0b v f43:f42,fb7 v f48:x v f4d:f4c,fb7 v f52:f51,fb7 v f57:f56,fb7 v f5c:f5b,fb7 v",
    "f69:f40,fb5 v f6d:x f71:v f73:f71,f72 v f71,f74 fb2,f80 fb2,f71,f80 fb3,f80 fb3,f71,f80 v",
    "f81:f71,f80 v f93:f92,fb7 v f98:x v f9d:f9c,fb7 v fa2:fa1,fb7 v fa7:fa6,fb7 v fac:fab,fb7",
    "v fb9:f90,fb5 v fbd:x v fcd:x v fdb:x 1000:v 10a0:+1c60 10c6:x 2d27 x 10cd:2d2d x 10d0:v",
    "10fc:10dc v 115f:i 1161:v 1249:x v 124e:x 1250:v 1257:x v x v 125e:x 1260:v 1289:x v",
    "128e:x 1290:v 12b1:x v 12b6:x 12b8:v 12bf:x v x v 12c6:x 12c8:v 12d7:x v 1311:x v 1316:x",
    "1318:v 135b:x 135d:v 137d:x 1380:v 139a:x 13a0:v 13f6:x 13f8:-8 13fe:x 1400:v 1680:x v",
    "169d:x 16a0:v 16f9:x 1700:v 1716:x 171f:v 1737:x 1740:v 1754:x 1760:v 176d:x v 1771:x v",
    "1774:x 1780:v 17b4:i 17b6:v 17de:x 17e0:v 17ea:x 17f0:v 17fa:x 1800:v 180b:i 1810:v 181a:x",
    "1820:v 1879:x 1880:v 18ab:x 18b0:v 18f6:x 1900:v 191f:x v 192c:x 1930:v 193c:x 1940:v x",
    "1944:v 196e:x 1970:v 1975:x 1980:v 19ac:x 19b0:v 19ca:x 19d0:v 19db:x 19de:v 1a1c:x 1a1e:v",
    "1a5f:x v 1a7d:x 1a7f:v 1a8a:x 1a90:v 1a9a:x 1aa0:v 1aae:x 1ab0:v 1ade:x 1ae0:v 1aec:x",
    "1b00:v 1b4d:x v 1bf4:x 1bfc:v 1c38:x 1c3b:v 1c4a:x 1c4d:v 1c80:432 434 43e -1842 1c85:442",
    "44a 463 a64b 1c8a v x 1c90:-bc0 1cbb:x 1cbd:-bc0 1cc0:v 1cc8:x 1cd0:v 1cfb:x 1d00:v",
    "1d2c:61 e6 /-1ccc 1d31:65 1dd -1ccc 1d3b:v 6f 223 70 72 -1ccc 1d42:77 61 -1af4 1d46:1d02",
    "62 -1ce4 1d4a:259 -1af0 1d4d:67 v 6b 6d 14b 6f 254 -3e 1d56:70 -1ce3 1d59:1d1d 26f 76 1d25",
    "-19ab 1d60:-199a 1d62:69 72 -1cef 1d66:-19b4 1d68:3c1 -19a3 1d6b:v 1d78:43d v 1d9b:252 63",
    "255 f0 25c 66 25f 261 265 -1b3c 1da7:1d7b 29d 26d 1d85 29f 271 270 -1b3c 1db2:278 -1b31",
    "1db5:1ab -1b2d 1db8:1d1c -1b2e 1dbb:7a -1b2c 1dbf:3b8 v 1e00:/+1 1e96:v 1e9a:61,2be 1e61 v",
    "1e9e:df v /+1 1f00:v 1f08:-8 1f10:v 1f16:x 1f18:-8 1f1e:x 1f20:v 1f28:-8 1f30:v 1f38:-8",
    "1f40:v 1f46:x 1f48:-8 1f4e:x 1f50:v 1f58:x 1f51 x 1f53 x 1f55 x 1f57 v 1f68:-8 1f70:v 3ac",
    "v 3ad v 3ae v 3af v 3cc v 3cd v 3ce x 1f80:1f00,3b9 1f01,3b9 1f02,3b9 1f03,3b9 1f04,3b9",
    "1f05,3b9 1f06,3b9 1f07,3b9 1f00,3b9 1f01,3b9 1f02,3b9 1f03,3b9 1f04,3b9 1f05,3b9 1f06,3b9",
    "1f07,3b9 1f20,3b9 1f21,3b9 1f22,3b9 1f23,3b9 1f24,3b9 1f25,3b9 1f26,3b9 1f27,3b9 1f20,3b9",
    "1f21,3b9 1f22,3b9 1f23,3b9 1f24,3b9 1f25,3b9 1f26,3b9 1f27,3b9 1f60,3b9 1f61,3b9 1f62,3b9",
    "1f63,3b9 1f64,3b9 1f65,3b9 1f66,3b9 1f67,3b9 1f60,3b9 1f61,3b9 1f62,3b9 1f63,3b9 1f64,3b9",
    "1f65,3b9 1f66,3b9 1f67,3b9 v 1fb2:1f70,3b9 3b1,3b9 3ac,3b9 x v 1fb6,3b9 -8 1fba:1f70 3ac",
    "3b1,3b9 20,313 3b9 20,313 20,342 20,308,342 1f74,3b9 3b7,3b9 3ae,3b9 x v 1fc6,3b9 1f72 3ad",
    "1f74 3ae 3b7,3b9 20,313,300 20,313,301 20,313,342 v 1fd3:390 x 1fd6:v 1fd8:-8 1fda:1f76",
    "3af x 20,314,300 20,314,301 20,314,342 v 1fe3:3b0 v 1fe8:-8 1fea:1f7a 3cd 1fe5 20,308,300",
    "20,308,301 60 x 1ff2:1f7c,3b9 3c9,3b9 3ce,3b9 x v 1ff6,3b9 1f78 3cc 1f7c 3ce 3c9,3b9",
    "20,301 20,314 x 20 200b:i v 200e:x 2010:v 2010 v 2017:20,333 v 2024:x 2027:v x 202f:20 v",
    "2033:2032,2032 2032,2032,2032 v 2035,2035 2035,2035,2035 v 203c:21,21 v 20,305 v",
    "2047:3f,3f 3f,21 21,3f v 2057:2032,2032,2032,2032 v 205f:20 i 2065:x 206a:i 2070:30 69 x",
    "2074:-2040 207a:2b 2212 3d -2055 207f:6e -2050 208a:2b 2212 3d -2065 208f:x 61 65 6f 78",
    "259 68 -202b 209a:70 -2028 209d:x 20a0:v 20a8:72,73 v 20c2:x 20d0:v 20f1:x 2100:61,2f,63",
    "61,2f,73 63 b0,63 v 63,2f,6f 63,2f,75 25b v b0,66 -20a3 210c:68 210f:127 69 2112:6c 2114:v",
    "6e 6e,6f v 2119:-20a9 211c:72 211e:v 2120:73,6d 74,65,6c 74,6d v 7a v 3c9 v 7a v 6b e5",
    "-20ca 212e:v 65 2131:66 214e 6d 6f -1b65 2139:69 v 66,61,78 3c0 3b3 213f:3c0 2211 v",
    "2145:64 2147:65 -20df 214a:v 2150:31,2044,37 31,2044,39 31,2044,31,30 31,2044,33",
    "32,2044,33 31,2044,35 32,2044,35 33,2044,35 34,2044,35 31,2044,36 35,2044,36 31,2044,38",
    "33,2044,38 35,2044,38 37,2044,38 31,2044 69 69,69 69,69,69 69,76 76 76,69 76,69,69",
    "76,69,69,69 69,78 78 78,69 78,69,69 6c -210a 216f:6d 69 69,69 69,69,69 69,76 76 76,69",
    "76,69,69 76,69,69,69 69,78 78 78,69 78,69,69 6c -211a 217f:6d v 2183:2184 v",
    "2189:30,2044,33 v 218c:x 2190:v 222c:222b,222b 222b,222b,222b v 222e,222e 222e,222e,222e v",
    "2329:+cdf 232b:v 242a:x 2440:v 244b:x 2460:-242f 2469:31,30 31,31 31,32 31,33 31,34 31,35",
    "31,36 31,37 31,38 31,39 32,30 28,31,29 28,32,29 28,33,29 28,34,29 28,35,29 28,36,29",
    "28,37,29 28,38,29 28,39,29 28,31,30,29 28,31,31,29 28,31,32,29 28,31,33,29 28,31,34,29",
    "28,31,35,29 28,31,36,29 28,31,37,29 28,31,38,29 28,31,39,29 28,32,30,29 x 249c:28,61,29",
    "28,62,29 28,63,29 28,64,29 28,65,29 28,66,29 28,67,29 28,68,29 28,69,29 28,6a,29 28,6b,29",
    "28,6c,29 28,6d,29 28,6e,29 28,6f,29 28,70,29 28,71,29 28,72,29 28,73,29 28,74,29 28,75,29",
    "28,76,29 28,77,29 28,78,29 28,79,29 28,7a,29 -2455 24d0:-246f 24ea:30 v",
    "2a0c:222b,222b,222b,222b v 2a74:3a,3a,3d 3d,3d 3d,3d,3d v 2adc:2add,338 v 2b74:x 2b76:v",
    "2c00:+30 2c30:v 2c60:2c61 v 26b 1d7d 27d v 2c67:/+1 2c6d:251 271 250 252 v 2c73 v",
    "2c75:2c76 v 2c7c:6a 76 -2a3f 2c80:/+1 2ce4:v 2ceb:/+1 2cef:v 2cf2:2cf3 v x 2cf9:v 2d26:x v",
    "x 2d2d:v x 2d30:v 2d68:x 2d6f:2d61 v x 2d7f:v 2d97:x 2da0:v 2da7:x v 2daf:x v 2db7:x v",
    "2dbf:x v 2dc7:x v 2dcf:x v 2dd7:x v 2ddf:x v 2e5e:x 2e80:v 2e9a:x v 2e9f:6bcd v 2ef3:9f9f",
    "x 2f00:4e00 4e28 4e36 4e3f 4e59 4e85 4e8c 4ea0 4eba 513f 5165 516b 5182 5196 51ab 51e0",
    "51f5 5200 529b 52f9 5315 531a 5338 5341 535c 5369 5382 53b6 53c8 53e3 56d7 571f 58eb 5902",
    "590a 5915 5927 5973 5b50 5b80 5bf8 5c0f 5c22 5c38 5c6e 5c71 5ddb 5de5 5df1 5dfe 5e72 5e7a",
    "5e7f 5ef4 5efe 5f0b 5f13 5f50 5f61 5f73 5fc3 6208 6236 624b 652f 6534 6587 6597 65a4 65b9",
    "65e0 65e5 66f0 6708 6728 6b20 6b62 6b79 6bb3 6bcb 6bd4 6bdb 6c0f 6c14 6c34 706b 722a 7236",
    "723b 723f 7247 7259 725b 72ac 7384 7389 74dc 74e6 7518 751f 7528 7530 758b 7592 7676 767d",
    "76ae 76bf 76ee 77db 77e2 77f3 793a 79b8 79be 7a74 7acb 7af9 7c73 7cf8 7f36 7f51 7f8a 7fbd",
    "8001 800c 8012 8033 807f 8089 81e3 81ea 81f3 81fc 820c 821b 821f 826e 8272 8278 864d 866b",
    "8840 884c 8863 897e 898b 89d2 8a00 8c37 8c46 8c55 8c78 8c9d 8d64 8d70 8db3 8eab 8eca 8f9b",
    "8fb0 8fb5 9091 9149 91c6 91cc 91d1 9577 9580 961c 96b6 96b9 96e8 9751 975e 9762 9769 97cb",
    "97ed 97f3 9801 98a8 98db 98df 9996 9999 99ac 9aa8 9ad8 9adf 9b25 9b2f 9b32 9b3c 9b5a 9ce5",
    "9e75 9e7f 9ea5 9ebb 9ec3 9ecd 9ed1 9ef9 9efd 9f0e 9f13 9f20 9f3b 9f4a 9f52 9f8d 9f9c 9fa0",
    "x 3000:20 v 2e v 3036:3012 v 5341 +230b 303b:v 3040:x v 3097:x 3099:v 309b:20,3099 20,309a",
    "v 309f:3088,308a v 30ff:30b3,30c8 x 3105:v 3130:x -2031 3133:11aa 1102 -1f89 3137:-2034",
    "313a:-1f8a 3140:111a -203b 3144:1121 -203c 314f:-1fee 3164:i -2051 3167:-1fa0 3169:11cc",
    "11ce 11d3 11d7 11d9 111c 11dd 11df -2054 3173:1120 -2052 3176:1127 1129 -204d 317d:1132",
    "1136 1140 1147 114c -1f91 3184:-202d 3187:-2003 3189:1188 -1ff9 318c:1194 119e 11a1 x v",
    "3192:4e00 4e8c 4e09 56db 4e0a 4e2d 4e0b 7532 4e59 4e19 4e01 5929 5730 4eba v 31e6:x 31f0:v",
    "3200:28,1100,29 28,1102,29 28,1103,29 28,1105,29 28,1106,29 28,1107,29 28,1109,29",
    "28,110b,29 28,110c,29 28,110e,29 28,110f,29 28,1110,29 28,1111,29 28,1112,29 28,ac00,29",
    "28,b098,29 28,b2e4,29 28,b77c,29 28,b9c8,29 28,bc14,29 28,c0ac,29 28,c544,29 28,c790,29",
    "28,cc28,29 28,ce74,29 28,d0c0,29 28,d30c,29 28,d558,29 28,c8fc,29 28,c624,c804,29",
    "28,c624,d6c4,29 x 28,4e00,29 28,4e8c,29 28,4e09,29 28,56db,29 28,4e94,29 28,516d,29",
    "28,4e03,29 28,516b,29 28,4e5d,29 28,5341,29 28,6708,29 28,706b,29 28,6c34,29 28,6728,29",
    "28,91d1,29 28,571f,29 28,65e5,29 28,682a,29 28,6709,29 28,793e,29 28,540d,29 28,7279,29",
    "28,8ca1,29 28,795d,29 28,52b4,29 28,4ee3,29 28,547c,29 28,5b66,29 28,76e3,29 28,4f01,29",
    "28,8cc7,29 28,5354,29 28,796d,29 28,4f11,29 28,81ea,29 28,81f3,29 554f 5e7c 6587 7b8f v",
    "3250:70,74,65 32,31 32,32 32,33 32,34 32,35 32,36 32,37 32,38 32,39 33,30 33,31 33,32",
    "33,33 33,34 33,35 1100 -215f 3263:-215e 3266:1109 -215c 3269:-215b 326e:ac00 b098 b2e4",
    "b77c b9c8 bc14 c0ac c544 c790 cc28 ce74 d0c0 d30c d558 cc38,ace0 c8fc,c758 c6b0 v 4e00",
    "4e8c 4e09 56db 4e94 516d 4e03 516b 4e5d 5341 6708 706b 6c34 6728 91d1 571f 65e5 682a 6709",
    "793e 540d 7279 8ca1 795d 52b4 79d8 7537 5973 9069 512a 5370 6ce8 9805 4f11 5199 6b63 4e0a",
    "4e2d 4e0b 5de6 53f3 533b 5b97 5b66 76e3 4f01 8cc7 5354 591c 33,36 33,37 33,38 33,39 34,30",
    "34,31 34,32 34,33 34,34 34,35 34,36 34,37 34,38 34,39 35,30 31,6708 32,6708 33,6708",
    "34,6708 35,6708 36,6708 37,6708 38,6708 39,6708 31,30,6708 31,31,6708 31,32,6708 68,67",
    "65,72,67 65,76 6c,74,64 30a2 30a4 30a6 30a8 -22a 32d6:30ad 30af 30b1 30b3 30b5 30b7 30b9",
    "30bb 30bd 30bf 30c1 30c4 30c6 30c8 -21a 32ea:30d2 30d5 30d8 30db -210 32f3:30e4 30e6 -20d",
    "32fb:-20c 32ff:4ee4,548c 30a2,30d1,30fc,30c8 30a2,30eb,30d5,30a1 30a2,30f3,30da,30a2",
    "30a2,30fc,30eb 30a4,30cb,30f3,30b0 30a4,30f3,30c1 30a6,30a9,30f3 30a8,30b9,30af,30fc,30c9",
    "30a8,30fc,30ab,30fc 30aa,30f3,30b9 30aa,30fc,30e0 30ab,30a4,30ea 30ab,30e9,30c3,30c8",
    "30ab,30ed,30ea,30fc 30ac,30ed,30f3 30ac,30f3,30de 30ae,30ac 30ae,30cb,30fc",
    "30ad,30e5,30ea,30fc 30ae,30eb,30c0,30fc 30ad,30ed 30ad,30ed,30b0,30e9,30e0",
    "30ad,30ed,30e1,30fc,30c8,30eb 30ad,30ed,30ef,30c3,30c8 30b0,30e9,30e0",
    "30b0,30e9,30e0,30c8,30f3 30af,30eb,30bc,30a4,30ed 30af,30ed,30fc,30cd 30b1,30fc,30b9",
    "30b3,30eb,30ca 30b3,30fc,30dd 30b5,30a4,30af,30eb 30b5,30f3,30c1,30fc,30e0",
    "30b7,30ea,30f3,30b0 30bb,30f3,30c1 30bb,30f3,30c8 30c0,30fc,30b9 30c7,30b7 30c9,30eb",
    "30c8,30f3 30ca,30ce 30ce,30c3,30c8 30cf,30a4,30c4 30d1,30fc,30bb,30f3,30c8 30d1,30fc,30c4",
    "30d0,30fc,30ec,30eb 30d4,30a2,30b9,30c8,30eb 30d4,30af,30eb 30d4,30b3 30d3,30eb",
    "30d5,30a1,30e9,30c3,30c9 30d5,30a3,30fc,30c8 30d6,30c3,30b7,30a7,30eb 30d5,30e9,30f3",
    "30d8,30af,30bf,30fc,30eb 30da,30bd 30da,30cb,30d2 30d8,30eb,30c4 30da,30f3,30b9",
    "30da,30fc,30b8 30d9,30fc,30bf 30dd,30a4,30f3,30c8 30dc,30eb,30c8 30db,30f3 30dd,30f3,30c9",
    "30db,30fc,30eb 30db,30fc,30f3 30de,30a4,30af,30ed 30de,30a4,30eb 30de,30c3,30cf",
    "30de,30eb,30af 30de,30f3,30b7,30e7,30f3 30df,30af,30ed,30f3 30df,30ea",
    "30df,30ea,30d0,30fc,30eb 30e1,30ac 30e1,30ac,30c8,30f3 30e1,30fc,30c8,30eb 30e4,30fc,30c9",
    "30e4,30fc,30eb 30e6,30a2,30f3 30ea,30c3,30c8,30eb 30ea,30e9 30eb,30d4,30fc",
    "30eb,30fc,30d6,30eb 30ec,30e0 30ec,30f3,30c8,30b2,30f3 30ef,30c3,30c8 30,70b9 31,70b9",
    "32,70b9 33,70b9 34,70b9 35,70b9 36,70b9 37,70b9 38,70b9 39,70b9 31,30,70b9 31,31,70b9",
    "31,32,70b9 31,33,70b9 31,34,70b9 31,35,70b9 31,36,70b9 31,37,70b9 31,38,70b9 31,39,70b9",
    "32,30,70b9 32,31,70b9 32,32,70b9 32,33,70b9 32,34,70b9 68,70,61 64,61 61,75 62,61,72 6f,76",
    "70,63 64,6d 64,6d,32 64,6d,33 69,75 5e73,6210 662d,548c 5927,6b63 660e,6cbb",
    "682a,5f0f,4f1a,793e 70,61 6e,61 3bc,61 6d,61 6b,61 6b,62 6d,62 67,62 63,61,6c 6b,63,61,6c",
    "70,66 6e,66 3bc,66 3bc,67 6d,67 6b,67 68,7a 6b,68,7a 6d,68,7a 67,68,7a 74,68,7a 3bc,6c",
    "6d,6c 64,6c 6b,6c 66,6d 6e,6d 3bc,6d 6d,6d 63,6d 6b,6d 6d,6d,32 63,6d,32 6d,32 6b,6d,32",
    "6d,6d,33 63,6d,33 6d,33 6b,6d,33 6d,2215,73 6d,2215,73,32 70,61 6b,70,61 6d,70,61 67,70,61",
    "72,61,64 72,61,64,2215,73 72,61,64,2215,73,32 70,73 6e,73 3bc,73 6d,73 70,76 6e,76 3bc,76",
    "6d,76 6b,76 6d,76 70,77 6e,77 3bc,77 6d,77 6b,77 6d,77 6b,3c9 6d,3c9 x 62,71 63,63 63,64",
    "63,2215,6b,67 x 64,62 67,79 68,61 68,70 69,6e 6b,6b 6b,6d 6b,74 6c,6d 6c,6e 6c,6f,67 6c,78",
    "6d,62 6d,69,6c 6d,6f,6c 70,68 x 70,70,6d 70,72 73,72 73,76 77,62 76,2215,6d 61,2215,6d",
    "31,65e5 32,65e5 33,65e5 34,65e5 35,65e5 36,65e5 37,65e5 38,65e5 39,65e5 31,30,65e5",
    "31,31,65e5 31,32,65e5 31,33,65e5 31,34,65e5 31,35,65e5 31,36,65e5 31,37,65e5 31,38,65e5",
    "31,39,65e5 32,30,65e5 32,31,65e5 32,32,65e5 32,33,65e5 32,34,65e5 32,35,65e5 32,36,65e5",
    "32,37,65e5 32,38,65e5 32,39,65e5 33,30,65e5 33,31,65e5 67,61,6c v a48d:x a490:v a4c7:x",
    "a4d0:v a62c:x a640:/+1 a66e:v a680:/+1 a69c:44a 44c v a6f8:x a700:v a722:/+1 a730:v",
    "a732:/+1 a770:a76f v a779:/+1 a77d:1d79 /+1 a788:v a78b:a78c v 265 v a790:/+1 a794:v",
    "a796:/+1 a7aa:266 25c 261 26c 26a v 29e 287 29d ab53 /+1 a7c4:a794 282 1d8e /+1 a7cb:264",
    "/+1 a7dc:19b x a7f1:73 63 66 71 a7f6 v a7f8:127 153 v a82d:x a830:v a83a:x a840:v a878:x",
    "a880:v a8c6:x a8ce:v a8da:x a8e0:v a954:x a95f:v a97d:x a980:v a9ce:x v a9da:x a9de:v",
    "a9ff:x v aa37:x aa40:v aa4e:x aa50:v aa5a:x aa5c:v aac3:x aadb:v aaf7:x ab01:v ab07:x",
    "ab09:v ab0f:x ab11:v ab17:x ab20:v ab27:x v ab2f:x v ab5c:a727 ab37 26b ab52 v ab69:28d v",
    "ab6c:x ab70:-97d0 abc0:v abee:x abf0:v abfa:x ac00:v d7a4:x d7b0:v d7c7:x d7cb:v d7fc:x",
    "f900:8c48 66f4 8eca 8cc8 6ed1 4e32 53e5 9f9c f909:5951 91d1 5587 5948 61f6 7669 7f85 863f",
    "87ba 88f8 908f 6a02 6d1b 70d9 73de 843d 916a 99f1 4e82 5375 6b04 721b 862d 9e1e 5d50 6feb",
    "85cd 8964 62c9 81d8 881f 5eca 6717 6d6a 72fc 90ce 4f86 51b7 52de 64c4 6ad3 7210 76e7 8001",
    "8606 865c 8def 9732 9b6f 9dfa 788c 797f 7da0 83c9 9304 9e7f 8ad6 58df 5f04 7c60 807e 7262",
    "78ca 8cc2 96f7 58d8 5c62 6a13 6dda 6f0f 7d2f 7e37 964b 52d2 808b 51dc 51cc 7a1c 7dbe 83f1",
    "9675 8b80 62cf 6a02 8afe 4e39 5be7 6012 7387 7570 5317 78fb 4fbf 5fa9 4e0d 6ccc 6578 7d22",
    "53c3 585e 7701 8449 8aaa 6bba 8fb0 6c88 62fe 82e5 63a0 7565 4eae 5169 51c9 6881 7ce7 826f",
    "8ad2 91cf 52f5 5442 5973 5eec 65c5 6ffe 792a 95ad 9a6a 9e97 9ece 529b 66c6 6b77 8f62 5e74",
    "6190 6200 649a 6f23 7149 7489 79ca 7df4 806f 8f26 84ee 9023 934a 5217 52a3 54bd 70c8 88c2",
    "8aaa 5ec9 5ff5 637b 6bae 7c3e 7375 4ee4 56f9 5be7 5dba 601c 73b2 7469 7f9a 8046 9234 96f6",
    "9748 9818 4f8b 79ae 91b4 96b8 60e1 4e86 50da 5bee 5c3f 6599 6a02 71ce 7642 84fc 907c 9f8d",
    "6688 962e 5289 677b 67f3 6d41 6e9c 7409 7559 786b 7d10 985e 516d 622e 9678 502b 5d19 6dea",
    "8f2a 5f8b 6144 6817 7387 9686 5229 540f 5c65 6613 674e 68a8 6ce5 7406 75e2 7f79 88cf 88e1",
    "91cc 96e2 533f 6eba 541d 71d0 7498 85fa 96a3 9c57 9e9f 6797 6dcb 81e8 7acb 7b20 7c92 72c0",
    "7099 8b58 4ec0 8336 523a 5207 5ea6 62d3 7cd6 5b85 6d1e 66b4 8f3b 884c 964d 898b 5ed3 5140",
    "55c0 v fa10:585a v 6674 v fa15:51de 732a 76ca 793c 795e 7965 798f 9756 7cbe 7fbd v 8612 v",
    "8af8 v fa25:9038 90fd v fa2a:98ef 98fc 9928 9db4 90de 96b7 4fae 50e7 514d 52c9 52e4 5351",
    "559d 5606 5668 5840 58a8 5c64 5c6e 6094 6168 618e 61f2 654f 65e2 6691 6885 6d77 6e1a 6f22",
    "716e 722b 7422 7891 793e 7949 7948 7950 7956 795d -80c5 fa54:7a40 7a81 7bc0 7df4 7e09 7e41",
    "7f72 8005 81ed 8279 fa5f:8457 8910 8996 8b01 8b39 8cd3 8d08 8fb6 9038 96e3 97ff 983b 6075",
    "242ee 8218 x fa70:4e26 51b5 5168 4f80 5145 5180 52c7 52fa 559d 5555 5599 55e2 585a 58b3",
    "5944 5954 5a62 5b28 5ed2 5ed9 5f69 5fad 60d8 614e 6108 618e 6160 61f2 6234 63c4 641c 6452",
    "6556 6674 6717 671b 6756 6b79 6bba 6d41 6edb 6ecb 6f22 701e 716e 77a7 7235 72af 732a 7471",
    "7506 753b 761d 761f 76ca 76db 76f4 774a 7740 78cc 7ab1 7bc0 7c7b 7d5b 7df4 7f3e 8005 8352",
    "83ef 8779 8941 8986 8996 8abf 8af8 8acb 8b01 8afe 8aed 8b39 8b8a 8d08 8f38 9072 9199 9276",
    "967c 96e3 9756 97db 97ff 980b 983b 9b12 9f9c 2284a 22844 233d5 3b9d 4018 4039 25249 25cd0",
    "27ed3 9f43 9f8e x fb00:66,66 66,69 66,6c 66,66,69 66,66,6c 73,74 fb07:x fb13:574,576",
    "574,565 574,56b 57e,576 574,56d x fb1d:5d9,5b4 v 5f2,5b7 5e2 5d0 -f54f fb24:-f549 fb27:5e8",
    "5ea 2b 5e9,5c1 5e9,5c2 5e9,5bc,5c1 5e9,5bc,5c2 5d0,5b7 5d0,5b8 5d0,5bc 5d1,5bc 5d2,5bc",
    "5d3,5bc 5d4,5bc 5d5,5bc 5d6,5bc x 5d8,5bc 5d9,5bc 5da,5bc 5db,5bc 5dc,5bc x 5de,5bc x",
    "5e0,5bc 5e1,5bc x 5e3,5bc 5e4,5bc x 5e6,5bc 5e7,5bc 5e8,5bc 5e9,5bc 5ea,5bc 5d5,5b9",
    "5d1,5bf 5db,5bf 5e4,5bf 5d0,5dc 671 fb52:67b fb56:67e fb5a:680 fb5e:67a fb62:67f fb66:679",
    "fb6a:6a4 fb6e:6a6 fb72:684 fb76:683 fb7a:686 fb7e:687 fb82:68d fb84:68c fb86:68e fb88:688",
    "fb8a:698 fb8c:691 fb8e:6a9 fb92:6af fb96:6b3 fb9a:6b1 fb9e:6ba fba0:6bb fba4:6c0 fba6:6c1",
    "fbaa:6be fbae:6d2 fbb0:6d3 fbb2:v fbd3:6ad fbd7:6c7 fbd9:6c6 fbdb:6c8 fbdd:6c7,674 6cb",
    "fbe0:6c5 fbe2:6c9 fbe4:6d0 fbe8:649 fbea:626,627 fbec:626,6d5 fbee:626,648 fbf0:626,6c7",
    "fbf2:626,6c6 fbf4:626,6c8 fbf6:626,6d0 fbf9:626,649 fbfc:6cc fc00:626,62c 626,62d 626,645",
    "626,649 626,64a 628,62c 628,62d 628,62e 628,645 628,649 628,64a 62a,62c 62a,62d 62a,62e",
    "62a,645 62a,649 62a,64a 62b,62c 62b,645 62b,649 62b,64a 62c,62d 62c,645 62d,62c 62d,645",
    "62e,62c 62e,62d 62e,645 633,62c 633,62d 633,62e 633,645 635,62d 635,645 636,62c 636,62d",
    "636,62e 636,645 637,62d 637,645 638,645 639,62c 639,645 63a,62c 63a,645 641,62c 641,62d",
    "641,62e 641,645 641,649 641,64a 642,62d 642,645 642,649 642,64a 643,627 643,62c 643,62d",
    "643,62e 643,644 643,645 643,649 643,64a 644,62c 644,62d 644,62e 644,645 644,649 644,64a",
    "645,62c 645,62d 645,62e 645,645 645,649 645,64a 646,62c 646,62d 646,62e 646,645 646,649",
    "646,64a 647,62c 647,645 647,649 647,64a 64a,62c 64a,62d 64a,62e 64a,645 64a,649 64a,64a",
    "630,670 631,670 649,670 20,64c,651 20,64d,651 20,64e,651 20,64f,651 20,650,651 20,651,670",
    "626,631 626,632 626,645 626,646 626,649 626,64a 628,631 628,632 628,645 628,646 628,649",
    "628,64a 62a,631 62a,632 62a,645 62a,646 62a,649 62a,64a 62b,631 62b,632 62b,645 62b,646",
    "62b,649 62b,64a 641,649 641,64a 642,649 642,64a 643,627 643,644 643,645 643,649 643,64a",
    "644,645 644,649 644,64a 645,627 645,645 646,631 646,632 646,645 646,646 646,649 646,64a",
    "649,670 64a,631 64a,632 64a,645 64a,646 64a,649 64a,64a 626,62c 626,62d 626,62e 626,645",
    "626,647 628,62c 628,62d 628,62e 628,645 628,647 62a,62c 62a,62d 62a,62e 62a,645 62a,647",
    "62b,645 62c,62d 62c,645 62d,62c 62d,645 62e,62c 62e,645 633,62c 633,62d 633,62e 633,645",
    "635,62d 635,62e 635,645 636,62c 636,62d 636,62e 636,645 637,62d 638,645 639,62c 639,645",
    "63a,62c 63a,645 641,62c 641,62d 641,62e 641,645 642,62d 642,645 643,62c 643,62d 643,62e",
    "643,644 643,645 644,62c 644,62d 644,62e 644,645 644,647 645,62c 645,62d 645,62e 645,645",
    "646,62c 646,62d 646,62e 646,645 646,647 647,62c 647,645 647,670 64a,62c 64a,62d 64a,62e",
    "64a,645 64a,647 626,645 626,647 628,645 628,647 62a,645 62a,647 62b,645 62b,647 633,645",
    "633,647 634,645 634,647 643,644 643,645 644,645 646,645 646,647 64a,645 64a,647",
    "640,64e,651 640,64f,651 640,650,651 637,649 637,64a 639,649 639,64a 63a,649 63a,64a",
    "633,649 633,64a 634,649 634,64a 62d,649 62d,64a 62c,649 62c,64a 62e,649 62e,64a 635,649",
    "635,64a 636,649 636,64a 634,62c 634,62d 634,62e 634,645 634,631 633,631 635,631 636,631",
    "637,649 637,64a 639,649 639,64a 63a,649 63a,64a 633,649 633,64a 634,649 634,64a 62d,649",
    "62d,64a 62c,649 62c,64a 62e,649 62e,64a 635,649 635,64a 636,649 636,64a 634,62c 634,62d",
    "634,62e 634,645 634,631 633,631 635,631 636,631 634,62c 634,62d 634,62e 634,645 633,647",
    "634,647 637,645 633,62c 633,62d 633,62e 634,62c 634,62d 634,62e 637,645 638,645 627,64b",
    "fd3e:v fd50:62a,62c,645 62a,62d,62c fd53:62a,62d,645 62a,62e,645 62a,645,62c 62a,645,62d",
    "62a,645,62e 62c,645,62d fd5a:62d,645,64a 62d,645,649 633,62d,62c 633,62c,62d 633,62c,649",
    "633,645,62d fd61:633,645,62c 633,645,645 fd64:635,62d,62d fd66:635,645,645 634,62d,645",
    "fd69:634,62c,64a 634,645,62e fd6c:634,645,645 fd6e:636,62d,649 636,62e,645",
    "fd71:637,645,62d fd73:637,645,645 637,645,64a 639,62c,645 639,645,645 fd78:639,645,649",
    "63a,645,645 63a,645,64a 63a,645,649 641,62e,645 fd7e:642,645,62d 642,645,645 644,62d,645",
    "644,62d,64a 644,62d,649 644,62c,62c fd85:644,62e,645 fd87:644,645,62d fd89:645,62d,62c",
    "645,62d,645 645,62d,64a 645,62c,62d 645,62c,645 645,62e,62c 645,62e,645 v fd92:645,62c,62e",
    "647,645,62c 647,645,645 646,62d,645 646,62d,649 646,62c,645 fd99:646,62c,649 646,645,64a",
    "646,645,649 64a,645,645 fd9e:628,62e,64a 62a,62c,64a 62a,62c,649 62a,62e,64a 62a,62e,649",
    "62a,645,64a 62a,645,649 62c,645,64a 62c,62d,649 62c,645,649 633,62e,649 635,62d,64a",
    "634,62d,64a 636,62d,64a 644,62c,64a 644,645,64a 64a,62d,64a 64a,62c,64a 64a,645,64a",
    "645,645,64a 642,645,64a 646,62d,64a 642,645,62d 644,62d,645 639,645,64a 643,645,64a",
    "646,62c,62d 645,62e,64a 644,62c,645 643,645,645 644,62c,645 646,62c,62d 62c,62d,64a",
    "62d,62c,64a 645,62c,64a 641,645,64a 628,62d,64a 643,645,645 639,62c,645 635,645,645",
    "633,62e,64a 646,62c,64a v fdd0:x fdf0:635,644,6d2 642,644,6d2 627,644,644,647",
    "627,643,628,631 645,62d,645,62f 635,644,639,645 631,633,648,644 639,644,64a,647",
    "648,633,644,645 635,644,649",
    "635,644,649,20,627,644,644,647,20,639,644,64a,647,20,648,633,644,645",
    "62c,644,20,62c,644,627,644,647 631,6cc,627,644 v fe00:i fe10:2c 3001 x -fdd9 fe15:21 3f",
    "-ce01 fe19:x fe20:v fe30:x 2014 2013 5f fe35:-fe0d fe37:7b 7d -ce25 fe3b:-ce2b fe3d:-ce33",
    "fe3f:-ce37 fe41:-ce35 fe45:v fe47:5b 5d 20,305 fe4d:5f fe50:2c 3001 x fe54:3b 3a 3f 21",
    "2014 -fe31 fe5b:7b 7d -ce49 fe5f:23 26 -fe37 fe63:2d 3c 3e 3d x 5c -fe45 fe6b:40 x",
    "fe70:20,64b 640,64b 20,64c v 20,64d x 20,64e 640,64e 20,64f 640,64f 20,650 640,650 20,651",
    "640,651 20,652 640,652 -f85f fe82:-f860 fe84:-f861 fe86:-f862 fe88:-f863 fe8a:626 fe8d:627",
    "fe8f:628 fe93:629 fe95:62a fe99:62b fe9d:62c fea1:62d fea5:62e fea9:62f feab:630 fead:631",
    "feaf:632 feb1:633 feb5:634 feb9:635 febd:636 fec1:637 fec5:638 fec9:639 fecd:63a fed1:641",
    "fed5:642 fed9:643 fedd:644 fee1:645 fee5:646 fee9:647 feed:648 feef:649 fef1:64a",
    "fef5:644,622 fef7:644,623 fef9:644,625 fefb:644,627 fefd:x feff:i x -fee0 ff21:-fec0",
    "ff3b:-fee0 ff5f:-d5da ff61:2e -cf56 ff64:3001 30fb 30f2 30a1 30a3 30a5 30a7 30a9 30e3 30e5",
    "30e7 30c3 30fc 30a2 30a4 30a6 30a8 -cecb ff77:30ad 30af 30b1 30b3 30b5 30b7 30b9 30bb 30bd",
    "30bf 30c1 30c4 30c6 30c8 -cebb ff8b:30d2 30d5 30d8 30db -ceb1 ff94:30e4 30e6 -ceae",
    "ff9c:30ef 30f3 -cf05 ffa0:i -eea1 ffa3:11aa 1102 -edf9 ffa7:-eea4 ffaa:-edfa ffb0:111a",
    "-eeab ffb4:1121 -eeac ffbf:x ffc2:-ee61 ffc8:x ffca:-ee63 ffd0:x ffd2:-ee65 ffd8:x",
    "ffda:-ee67 ffdd:x ffe0:-ff3e ffe2:ac 20,304 a6 a5 20a9 x 2502 -de59 ffed:25a0 25cb x",
    "10000:v 1000c:x v 10027:x v 1003b:x v 1003e:x v 1004e:x 10050:v 1005e:x 10080:v 100fb:x",
    "10100:v 10103:x 10107:v 10134:x 10137:v 1018f:x v 1019d:x 101a0:v x 101d0:v 101fe:x",
    "10280:v 1029d:x 102a0:v 102d1:x 102e0:v 102fc:x 10300:v 10324:x 1032d:v 1034b:x 10350:v",
    "1037b:x 10380:v 1039e:x v 103c4:x 103c8:v 103d6:x 10400:+28 10428:v 1049e:x 104a0:v",
    "104aa:x 104b0:+28 104d4:x 104d8:v 104fc:x 10500:v 10528:x 10530:v 10564:x 1056f:v +27",
    "1057b:x +27 1058b:x +27 10593:x +27 10596:x v 105a2:x v 105b2:x v 105ba:x v 105bd:x",
    "105c0:v 105f4:x 10600:v 10737:x 10740:v 10756:x 10760:v 10768:x 10780:v -104b1 10783:e6",
    "299 253 x 2a3 ab66 2a5 2a4 -10535 1078d:1d91 258 25e 2a9 264 262 260 29b 127 29c 267 284",
    "-104ef 1079b:26c 1df04 a78e 26e 1df05 28e 1df06 f8 -1052d 107a5:71 27a 1df08 -1052b",
    "107aa:280 2a8 2a6 ab67 2a7 288 2c71 x 28f -10512 107b5:298 -105f6 107b9:1df0a 1df1e x",
    "10800:v 10806:x 10808:v x v 10836:x v 10839:x 1083c:v x 1083f:v 10856:x v 1089f:x 108a7:v",
    "108b0:x 108e0:v 108f3:x v 108f6:x 108fb:v 1091c:x 1091f:v 1093a:x 1093f:v 1095a:x 10980:v",
    "109b8:x 109bc:v 109d0:x 109d2:v 10a04:x v 10a07:x 10a0c:v 10a14:x v 10a18:x v 10a36:x",
    "10a38:v 10a3b:x 10a3f:v 10a49:x 10a50:v 10a59:x 10a60:v 10aa0:x 10ac0:v 10ae7:x 10aeb:v",
    "10af7:x 10b00:v 10b36:x 10b39:v 10b56:x 10b58:v 10b73:x 10b78:v 10b92:x 10b99:v 10b9d:x",
    "10ba9:v 10bb0:x 10c00:v 10c49:x 10c80:+40 10cb3:x 10cc0:v 10cf3:x 10cfa:v 10d28:x 10d30:v",
    "10d3a:x 10d40:v 10d50:+20 10d66:x 10d69:v 10d86:x 10d8e:v 10d90:x 10e60:v 10e7f:x v",
    "10eaa:x v 10eae:x 10eb0:v 10eb2:x 10ec2:v 10ec8:x 10ed0:v 10ed9:x 10efa:v 10f28:x 10f30:v",
    "10f5a:x 10f70:v 10f8a:x 10fb0:v 10fcc:x 10fe0:v 10ff7:x 11000:v 1104e:x 11052:v 11076:x",
    "1107f:v 110bd:x v 110c3:x 110d0:v 110e9:x 110f0:v 110fa:x 11100:v 11135:x v 11148:x",
    "11150:v 11177:x 11180:v 111e0:x v 111f5:x 11200:v 11212:x v 11242:x 11280:v 11287:x v x v",
    "1128e:x v 1129e:x v 112aa:x 112b0:v 112eb:x 112f0:v 112fa:x 11300:v 11304:x v 1130d:x",
    "1130f:v 11311:x 11313:v 11329:x v 11331:x v 11334:x v 1133a:x v 11345:x 11347:v 11349:x",
    "1134b:v 1134e:x 11350:v x 11357:v x 1135d:v 11364:x 11366:v 1136d:x 11370:v 11375:x",
    "11380:v 1138a:x v x 1138e:v x v 113b6:x v 113c1:x v x 113c5:v x v 113cb:x v 113d6:x v",
    "113d9:x 113e1:v 113e3:x 11400:v 1145c:x v 11462:x 11480:v 114c8:x 114d0:v 114da:x 11580:v",
    "115b6:x 115b8:v 115de:x 11600:v 11645:x 11650:v 1165a:x 11660:v 1166d:x 11680:v 116ba:x",
    "116c0:v 116ca:x 116d0:v 116e4:x 11700:v 1171b:x 1171d:v 1172c:x 11730:v 11747:x 11800:v",
    "1183c:x 118a0:+20 118c0:v 118f3:x 118ff:v 11907:x 11909:v x 1190c:v 11914:x v 11917:x v",
    "11936:x v 11939:x 1193b:v 11947:x 11950:v 1195a:x 119a0:v 119a8:x 119aa:v 119d8:x 119da:v",
    "119e5:x 11a00:v 11a48:x 11a50:v 11aa3:x 11ab0:v 11af9:x 11b00:v 11b0a:x 11b60:v 11b68:x",
    "11bc0:v 11be2:x 11bf0:v 11bfa:x 11c00:v 11c09:x v 11c37:x v 11c46:x 11c50:v 11c6d:x",
    "11c70:v 11c90:x 11c92:v 11ca8:x v 11cb7:x 11d00:v 11d07:x v 11d0a:x v 11d37:x 11d3a:v x v",
    "11d3e:x v 11d48:x 11d50:v 11d5a:x 11d60:v 11d66:x v 11d69:x v 11d8f:x v 11d92:x v 11d99:x",
    "11da0:v 11daa:x 11db0:v 11ddc:x 11de0:v 11dea:x 11ee0:v 11ef9:x 11f00:v 11f11:x v 11f3b:x",
    "11f3e:v 11f5b:x 11fb0:v x 11fc0:v 11ff2:x 11fff:v 1239a:x 12400:v 1246f:x v 12475:x",
    "12480:v 12544:x 12f90:v 12ff3:x 13000:v 13430:x 13440:v 13456:x 13460:v 143fb:x 14400:v",
    "14647:x 16100:v 1613a:x 16800:v 16a39:x 16a40:v 16a5f:x v 16a6a:x 16a6e:v 16abf:x v",
    "16aca:x 16ad0:v 16aee:x 16af0:v 16af6:x 16b00:v 16b46:x 16b50:v 16b5a:x v 16b62:x v",
    "16b78:x 16b7d:v 16b90:x 16d40:v 16d7a:x 16e40:+20 16e60:v 16e9b:x 16ea0:+1b 16eb9:x",
    "16ebb:v 16ed4:x 16f00:v 16f4b:x 16f4f:v 16f88:x 16f8f:v 16fa0:x 16fe0:v 16fe5:x 16ff0:v",
    "16ff7:x 17000:v 18cd6:x 18cff:v 18d1f:x 18d80:v 18df3:x 1aff0:v 1aff4:x v 1affc:x v",
    "1afff:x v 1b123:x 1b132:v x 1b150:v 1b153:x 1b155:v x 1b164:v 1b168:x 1b170:v 1b2fc:x",
    "1bc00:v 1bc6b:x 1bc70:v 1bc7d:x 1bc80:v 1bc89:x 1bc90:v 1bc9a:x 1bc9c:v 1bca0:i 1bca4:x",
    "1cc00:v 1ccd6:-1cc75 1ccf0:-1ccc0 1ccfa:v 1ccfd:x 1cd00:v 1ceb4:x 1ceba:v 1ced1:x 1cee0:v",
    "1cef1:x 1cf00:v 1cf2e:x 1cf30:v 1cf47:x 1cf50:v 1cfc4:x 1d000:v 1d0f6:x 1d100:v 1d127:x",
    "1d129:v 1d15e:1d157,1d165 1d158,1d165 1d158,1d165,1d16e 1d158,1d165,1d16f",
    "1d158,1d165,1d170 1d158,1d165,1d171 1d158,1d165,1d172 v 1d173:i 1d17b:v 1d1bb:1d1b9,1d165",
    "1d1ba,1d165 1d1b9,1d165,1d16e 1d1ba,1d165,1d16e 1d1b9,1d165,1d16f 1d1ba,1d165,1d16f v",
    "1d1eb:x 1d200:v 1d246:x 1d2c0:v 1d2d4:x 1d2e0:v 1d2f4:x 1d300:v 1d357:x 1d360:v 1d379:x",
    "1d400:-1d39f 1d41a:-1d3b9 1d434:-1d3d3 1d44e:-1d3ed 1d455:x -1d3ed 1d468:-1d407",
    "1d482:-1d421 1d49c:61 x -1d43b 1d4a0:x 1d4a2:67 x 1d4a5:-1d43b 1d4a7:x 1d4a9:-1d43b",
    "1d4ad:x -1d43b 1d4b6:-1d455 1d4ba:x 66 x -1d455 1d4c4:x -1d455 1d4d0:-1d46f 1d4ea:-1d489",
    "1d504:-1d4a3 1d506:x -1d4a3 1d50b:x 1d50d:-1d4a3 1d515:x -1d4a3 1d51d:x -1d4bd",
    "1d538:-1d4d7 1d53a:x -1d4d7 1d53f:x -1d4d7 1d545:x 6f x 1d54a:-1d4d7 1d551:x -1d4f1",
    "1d56c:-1d50b 1d586:-1d525 1d5a0:-1d53f 1d5ba:-1d559 1d5d4:-1d573 1d5ee:-1d58d 1d608:-1d5a7",
    "1d622:-1d5c1 1d63c:-1d5db 1d656:-1d5f5 1d670:-1d60f 1d68a:-1d629 1d6a4:131 237 x",
    "1d6a8:-1d2f7 1d6b9:3b8 -1d2f7 1d6c1:2207 -1d311 1d6d3:3c3 1d6d5:-1d311 1d6db:2202 3b5 3b8",
    "3ba 3c6 3c1 3c0 -1d331 1d6f3:3b8 -1d331 1d6fb:2207 -1d34b 1d70d:3c3 1d70f:-1d34b",
    "1d715:2202 3b5 3b8 3ba 3c6 3c1 3c0 -1d36b 1d72d:3b8 -1d36b 1d735:2207 -1d385 1d747:3c3",
    "1d749:-1d385 1d74f:2202 3b5 3b8 3ba 3c6 3c1 3c0 -1d3a5 1d767:3b8 -1d3a5 1d76f:2207 -1d3bf",
    "1d781:3c3 1d783:-1d3bf 1d789:2202 3b5 3b8 3ba 3c6 3c1 3c0 -1d3df 1d7a1:3b8 -1d3df",
    "1d7a9:2207 -1d3f9 1d7bb:3c3 1d7bd:-1d3f9 1d7c3:2202 3b5 3b8 3ba 3c6 3c1 3c0 3dd 1d7cc:x",
    "1d7ce:-1d79e 1d7d8:-1d7a8 1d7e2:-1d7b2 1d7ec:-1d7bc 1d7f6:-1d7c6 1d800:v 1da8c:x 1da9b:v",
    "1daa0:x v 1dab0:x 1df00:v 1df1f:x 1df25:v 1df2b:x 1e000:v 1e007:x v 1e019:x 1e01b:v",
    "1e022:x v 1e025:x v 1e02b:x 1e030:-1dc00 1e039:-1dbff 1e03c:-1dbfe 1e047:44b -1dbfb",
    "1e04a:a689 4d9 456 458 4e9 4af 4cf -1dc21 1e05a:-1dc20 1e05c:-1dc1e 1e05e:441 -1dc1c",
    "1e065:-1dc1b 1e067:491 456 455 45f 4ab a651 4b1 x 1e08f:v x 1e100:v 1e12d:x 1e130:v",
    "1e13e:x 1e140:v 1e14a:x 1e14e:v 1e150:x 1e290:v 1e2af:x 1e2c0:v 1e2fa:x 1e2ff:v x 1e4d0:v",
    "1e4fa:x 1e5d0:v 1e5fb:x 1e5ff:v x 1e6c0:v 1e6df:x v 1e6f6:x 1e6fe:v 1e700:x 1e7e0:v",
    "1e7e7:x v 1e7ec:x v 1e7ef:x v 1e7ff:x v 1e8c5:x 1e8c7:v 1e8d7:x 1e900:+22 1e922:v 1e94c:x",
    "1e950:v 1e95a:x 1e95e:v 1e960:x 1ec71:v 1ecb5:x 1ed01:v 1ed3e:x 1ee00:-1e7d9 1ee02:62c 62f",
    "x 648 632 62d 637 64a -1e7c7 1ee0e:633 639 641 635 642 631 634 -1e7eb 1ee17:62e 630 636",
    "638 63a 66e 6ba 6a1 66f x 628 62c x 647 x 1ee27:62d x 64a -1e7e7 1ee2e:633 639 641 635 642",
    "x 634 -1e80b 1ee37:62e x 636 x 63a x 1ee42:62c x 1ee47:62d x 64a x 644 x 646 633 639 x 635",
    "642 x 634 x 1ee57:62e x 636 x 63a x 6ba x 66f x 628 62c x 647 x 1ee67:62d 637 64a 643 x",
    "-1e827 1ee6e:633 639 641 635 642 x 634 -1e84b 1ee77:62e x 636 638 63a 66e x 6a1 x -1e859",
    "1ee82:62c 62f -1e83d 1ee86:632 62d 637 64a x -1e847 1ee8e:633 639 641 635 642 631 634",
    "-1e86b 1ee97:62e 630 636 638 63a x 1eea1:628 62c 62f x 648 632 62d 637 64a x -1e867",
    "1eeae:633 639 641 635 642 631 634 -1e88b 1eeb7:62e 630 636 638 63a x 1eef0:v 1eef2:x",
    "1f000:v 1f02c:x 1f030:v 1f094:x 1f0a0:v 1f0af:x 1f0b1:v 1f0c0:x v 1f0d0:x v 1f0f6:x",
    "1f101:30,2c 31,2c 32,2c 33,2c 34,2c 35,2c 36,2c 37,2c 38,2c 39,2c v 1f110:28,61,29",
    "28,62,29 28,63,29 28,64,29 28,65,29 28,66,29 28,67,29 28,68,29 28,69,29 28,6a,29 28,6b,29",
    "28,6c,29 28,6d,29 28,6e,29 28,6f,29 28,70,29 28,71,29 28,72,29 28,73,29 28,74,29 28,75,29",
    "28,76,29 28,77,29 28,78,29 28,79,29 28,7a,29 3014,73,3015 63 72 63,64 77,7a v -1f0cf",
    "1f14a:68,76 6d,76 73,64 73,73 70,70,76 77,63 v 1f16a:6d,63 6d,64 6d,72 v 1f190:64,6a v",
    "1f1ae:x 1f1e6:v 1f200:307b,304b 30b3,30b3 30b5 x 1f210:624b 5b57 53cc 30c7 4e8c 591a 89e3",
    "5929 4ea4 6620 7121 6599 524d 5f8c 518d 65b0 521d 7d42 751f 8ca9 58f0 5439 6f14 6295 6355",
    "4e00 4e09 904a 5de6 4e2d 53f3 6307 8d70 6253 7981 7a7a 5408 6e80 6709 6708 7533 5272 55b6",
    "914d x 1f240:3014,672c,3015 3014,4e09,3015 3014,4e8c,3015 3014,5b89,3015 3014,70b9,3015",
    "3014,6253,3015 3014,76d7,3015 3014,52dd,3015 3014,6557,3015 x 1f250:5f97 53ef x 1f260:v",
    "1f266:x 1f300:v 1f6d9:x 1f6dc:v 1f6ed:x 1f6f0:v 1f6fd:x 1f700:v 1f7da:x 1f7e0:v 1f7ec:x",
    "1f7f0:v x 1f800:v 1f80c:x 1f810:v 1f848:x 1f850:v 1f85a:x 1f860:v 1f888:x 1f890:v 1f8ae:x",
    "1f8b0:v 1f8bc:x 1f8c0:v 1f8c2:x 1f8d0:v 1f8d9:x 1f900:v 1fa58:x 1fa60:v 1fa6e:x 1fa70:v",
    "1fa7d:x 1fa80:v 1fa8b:x 1fa8e:v 1fac7:x v x 1facd:v 1fadd:x 1fadf:v 1faeb:x 1faef:v",
    "1faf9:x 1fb00:v 1fb93:x v 1fbf0:-1fbc0 1fbfa:v x 20000:v 2a6e0:x 2a700:v 2b81e:x 2b820:v",
    "2ceae:x 2ceb0:v 2ebe1:x 2ebf0:v 2ee5e:x 2f800:4e3d 4e38 4e41 20122 4f60 4fae 4fbb 5002",
    "507a 5099 50e7 50cf 349e 2063a 514d 5154 5164 5177 2051c 34b9 5167 518d 2054b 5197 51a4",
    "4ecc 51ac 51b5 291df 51f5 5203 34df 523b 5246 5272 5277 3515 52c7 52c9 52e4 52fa -2a524",
    "2f82b:5317 5349 5351 535a 5373 537d 537f 2f834:20a2c 7070 53ca 53df 20b63 53eb 53f1 5406",
    "549e 5438 5448 5468 54a2 54f6 5510 5553 5563 5584 2f847:5599 55ab 55b3 55c2 5716 5606 5717",
    "5651 5674 5207 58ee 57ce 57f4 580d 578b 5832 5831 58ac 214e4 58f2 58f7 5906 591a 5922 5962",
    "216a8 216ea 59ec 5a1b 5a27 59d8 5a66 36ee 36fc 5b08 5b3e 2f86c:219c8 5bc3 5bd8 5be7 5bf3",
    "21b18 5bff 5c06 5f53 5c22 3781 5c60 5c6e 5cc0 5c8d 21de4 5d43 21de6 5d6e 5d6b 5d7c -29aa0",
    "2f883:382f 5dfd 5e28 5e3d 5e69 3862 22183 387c 5eb0 5eb3 5eb6 5eca 2a392 5efe 22331",
    "2f893:8201 5f22 2f896:38c7 232b8 261da 5f62 5f6b 38e3 5f9a 5fcd 5fd7 5ff9 6081 393a 391c",
    "6094 226d4 60c7 6148 614c 614e 614c 617a 618e 61b2 61a4 61af 61de 61f2 61f6 6210 621b 625d",
    "62b1 62d4 6350 22b0c 633d 62fc 6368 6383 63e4 22bf1 6422 63c5 63a9 3a2e 6469 647e 649d",
    "6477 3a6c 654f 656c 2300a 65e3 66f8 6649 3b19 6691 3b08 3ae4 5192 5195 6700 669c 80ad 43d9",
    "6717 671b 6721 675e 6753 233c3 3b49 67fa 6785 6852 6885 2346d 688e 681f 6914 3b9d 6942",
    "69a3 69ea 6aa8 236a3 6adb 3c18 6b21 238a7 6b54 3c4e 6b72 6b9f -28d3b 2f8f7:23a8d 21d0b",
    "23afa 6c4e 23cbc 6cbf 6ccd 6c67 6d16 6d3e 6d77 6d41 6d69 6d78 6d85 23d1e 6d34 6e2f 6e6e",
    "3d33 6ecb 6ec7 23ed1 6df9 6f6e 23f5e 23f8e 6fc6 7039 701e 701b 3d96 704a 707d 7077 70ad",
    "20525 7145 24263 719c 243ab 7228 7235 7250 24608 7280 7295 24735 24814 737a 738b 3eac 73a5",
    "3eb8 2f92e:7447 745c 7471 7485 74ca 3f1b 7524 24c36 753e 24c92 7570 2219f 7610 24fa1 24fb8",
    "25044 3ffc 4008 76f4 250f3 250f2 25119 25133 -28227 2f947:771f 774a 4039 778b 4046 4096",
    "2541d 784e 788c 78cc 40e3 25626 7956 2569a 256c5 798f 79eb 412f 7a40 7a4a 7a4f 2597c 25aa7",
    "2f95f:7aee 4202 25bab 7bc6 7bc9 4227 25c80 7cd2 42a0 7ce8 7ce3 7d00 25f86 7d63 4301 7dc7",
    "7e02 7e45 4334 26228 26247 4359 262d9 7f7a 2633e 7f95 7ffa 8005 264da 26523 8060 265a8",
    "8070 2335f 43d5 80b2 8103 440b 813e 5ab5 267a7 267b5 23393 2339c 8201 8204 8f9e 446b 8291",
    "828b 829d 52b3 82b1 82b3 82bd 82e6 26b3c 82e5 831d 8363 83ad 8323 83bd 83e7 8457 8353 83ca",
    "83cc 83dc 26c36 26d6b 26cd5 452b 84f1 84f3 8516 273ca 8564 26f2c 455d 4561 26fb1 270d2",
    "456b 8650 865c 8667 8669 86a9 8688 870e 86e2 8779 8728 876b 8786 45d7 87e1 8801 45f9 8860",
    "8863 27667 88d7 88de 4635 88fa 34bb 278ae 27966 46be 46c7 8aa0 8aed 8b8a 8c55 27ca8 8cab",
    "8cc1 8d1b 8d77 27f2f 20804 8dcb 8dbc 8df0 208de 8ed4 8f38 285d2 285ed 9094 90f1 9111 2872e",
    "911b 9238 -26711 2f9ea:927c 93f9 9415 28bfa 958b 4995 95b7 28d77 49e6 96c3 5db2 9723 29145",
    "2921a 4a6e 4a76 97e0 2940a 4ab2 29496 980b 2fa00:9829 295b6 98e2 4b33 9929 99a7 99c2 99fe",
    "4bce 29b30 9b12 9c40 9cfd 4cce 4ced 9d67 2a0ce 4cf8 2a105 2a20e 2a291 9ebb 4d56 9ef9 9efe",
    "9f05 9f0f 9f16 9f3b 2a600 x 30000:v 3134b:x 31350:v 3347a:x e0100:i e01f0:x"]

def foldingTable : Text.CodeTable Folding := .ofLines readFolding foldingLines

def shifted (c : Char) (distance : Int) : Char := Char.ofNat ((c.toNat : Int) + distance).toNat

def fold (c : Char) : Option (List Char) :=
  if c.toNat < 0x80 then some [c.toLower]
  else
    match foldingTable.row? c.toNat with
    | some (_, .kept) => some [c]
    | some (_, .dropped) => some []
    | some (_, .moved distance) => some [shifted c distance]
    | some (first, .alternating distance) =>
        some [if (c.toNat - first) % 2 = 0 then shifted c distance else c]
    | some (_, .written codes) => some (codes.map Char.ofNat)
    | some (_, .refused) | none => none

end Leasehold.Domain
