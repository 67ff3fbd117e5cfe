import Leasehold.Text.CodeTable

/-!
# Composition of letters and marks

A letter and the combining marks behind it are written in one way only: the
marks in the order of their classes, and a letter with a mark as one character
where there is one for the two.  Names that differ only in this are the same
name.  The tables cover the characters that a name may hold after folding.
-/

set_option autoImplicit false

namespace Leasehold.Domain

/-- The combining classes of marks.  Marks of one class keep their order, and those of class zero
stay where they are. -/
def classLines : List String :=
  ["0:0 300:e6 315:e8 dc 31a:e8 d8 dc 321:ca 323:dc 327:ca 329:dc 334:1 339:dc 33d:e6 347:dc",
    "34a:e6 34d:dc 350:e6 353:dc 357:e6 e8 dc 35b:e6 e9 ea 35f:e9 ea 362:e9 e6 371:0 483:e6",
    "488:0 591:dc e6 596:dc e6 59a:de dc e6 5a2:dc 5a8:e6 5aa:dc e6 5ad:de e4 e6 a b c d e f 10",
    "11 12 13 5bb:14 15 16 0 17 0 18 19 0 e6 dc 0 12 5d0:0 610:e6 618:1e 1f 20 0 64b:1b 1c 1d",
    "1e 1f 20 21 22 e6 655:dc 657:e6 65c:dc e6 65f:dc 0 670:23 0 6d6:e6 6de:0 e6 6e3:dc e6 0",
    "6e7:e6 6e9:0 dc e6 6ed:dc 0 711:24 0 730:e6 dc e6 734:dc e6 737:dc 73a:e6 dc 73d:e6 dc e6",
    "742:dc e6 dc e6 dc e6 dc e6 74d:0 7eb:e6 7f2:dc e6 0 7fd:dc 0 816:e6 81a:0 e6 824:0 e6",
    "828:0 e6 830:0 859:dc 85e:0 897:e6 899:dc 89c:e6 8a0:0 8ca:e6 8cf:dc 8d4:e6 8e3:dc e6",
    "8e6:dc e6 8e9:dc e6 8ed:dc 8f0:1b 1c 1d e6 8f6:dc e6 8f9:dc 8fb:e6 900:0 93c:7 0 94d:9 0",
    "951:e6 dc e6 955:0 9bc:7 0 9cd:9 0 9fe:e6 a01:0 a3c:7 a3e:0 a4d:9 a51:0 abc:7 0 acd:9",
    "ad0:0 b3c:7 0 b4d:9 b55:0 bcd:9 bd0:0 c3c:7 0 c4d:9 c55:54 5b c58:0 cbc:7 0 ccd:9 cd5:0",
    "d3b:9 d3d:0 d4d:9 0 dca:9 dcf:0 e38:67 e3a:9 e3f:0 e48:6b e4c:0 eb8:76 eba:9 0 ec8:7a",
    "ecc:0 f18:dc f1a:0 f35:dc 0 dc 0 d8 0 f71:81 82 f74:84 f7a:82 f7e:0 f80:82 f82:e6 f84:9 0",
    "e6 f88:0 fc6:dc 0 1037:7 0 9 103b:0 108d:dc 0 135d:e6 1360:0 1714:9 171f:0 1734:9 0 17d2:9",
    "0 17dd:e6 17e0:0 18a9:e4 0 1939:de e6 dc 1940:0 1a17:e6 dc 0 1a60:9 0 1a75:e6 1a7f:dc 0",
    "1ab0:e6 1ab5:dc 1abb:e6 1abd:dc 0 dc 1ac1:e6 1ac3:dc 1ac5:e6 1aca:dc e6 1add:dc 1ae0:e6",
    "1ae6:dc e6 1aeb:ea 1b00:0 1b34:7 0 1b44:9 0 1b6b:e6 dc e6 1b74:0 1baa:9 1bac:0 1be6:7 0",
    "1bf2:9 1bfc:0 1c37:7 1c3b:0 1cd0:e6 1cd3:0 1 dc 1cda:e6 1cdc:dc 1ce0:e6 0 1 1ce9:0 1ced:dc",
    "0 1cf4:e6 0 1cf8:e6 1cfa:0 1dc0:e6 1dc2:dc e6 1dca:dc e6 1dcd:ea d6 dc ca e6 1df6:e8 e4",
    "1df9:dc da e6 e9 dc e6 dc 1e01:0 20d0:e6 20d2:1 20d4:e6 20d8:1 20db:e6 20dd:0 20e1:e6 0",
    "20e5:1 20e7:e6 dc e6 1 20ec:dc 20f0:e6 2104:0 2cef:e6 2cf3:0 2d7f:9 0 2de0:e6 2e00:0",
    "302a:da e4 e8 de e0 3030:0 3099:8 309d:0 a66f:e6 0 a674:e6 a67e:0 a69e:e6 a6a0:0 a6f0:e6",
    "a6f2:0 a806:9 0 a82c:9 a830:0 a8c4:9 0 a8e0:e6 a8f2:0 a92b:dc a92e:0 a953:9 a95f:0 a9b3:7",
    "0 a9c0:9 0 aab0:e6 0 e6 aab4:dc 0 aab7:e6 aab9:0 aabe:e6 aac0:0 e6 0 aaf6:9 ab01:0 abed:9",
    "abf0:0 fb1e:1a fbb2:0 fe20:e6 fe27:dc fe2e:e6 fe45:0 101fd:dc 10280:0 102e0:dc 0 10376:e6",
    "10380:0 10a0d:dc 0 e6 0 10a38:e6 1 dc 10a3f:9 0 10ae5:e6 dc 10aeb:0 10d24:e6 10d30:0",
    "10d69:e6 10d6e:0 10eab:e6 10ead:0 10efa:dc 10efc:0 dc 10f00:0 10f46:dc 10f48:e6 10f4b:dc",
    "e6 dc 10f51:0 10f82:e6 dc e6 dc 0 11046:9 0 11070:9 0 1107f:9 0 110b9:9 7 0 11100:e6",
    "11103:0 11133:9 11136:0 11173:7 0 111c0:9 0 111ca:7 0 11235:9 7 0 112e9:7 9 112f0:0",
    "1133b:7 1133d:0 1134d:9 11350:0 11366:e6 11380:0 113ce:9 113d1:0 11442:9 0 11446:7 0",
    "1145e:e6 0 114c2:9 7 0 115bf:9 7 0 1163f:9 0 116b6:9 7 0 1172b:9 11730:0 11839:9 7 0",
    "1193d:9 1193f:0 11943:7 0 119e0:9 0 11a34:9 0 11a47:9 11a50:0 11a99:9 0 11c3f:9 0 11d42:7",
    "0 9 11d46:0 11d97:9 0 11f41:9 11f43:0 1612f:9 0 16af0:1 16af5:0 16b30:e6 16b37:0 16ff0:6",
    "16ff2:0 1bc9e:1 0 1d165:d8 1d167:1 1d16a:0 1d16d:e2 d8 1d17b:dc 1d183:0 1d185:e6 1d18a:dc",
    "1d18c:0 1d1aa:e6 1d1ae:0 1d242:e6 1d245:0 1e000:e6 1e100:0 1e130:e6 1e137:0 1e2ae:e6",
    "1e2c0:0 1e2ec:e6 1e2f0:0 1e4ec:e8 1e4ee:dc e6 0 1e5ee:e6 dc 0 1e6e3:e6 0 1e6e6:e6 0",
    "1e6ee:e6 1e6f0:0 1e6f5:e6 1e6fe:0 1e8d0:dc 1e922:0 1e944:e6 1e94a:7 0"]

def classTable : Text.CodeTable Nat := .ofLines Text.hexValue classLines

def combiningClass (c : Char) : Nat := if c.toNat < 0x300 then 0 else classTable.value 0 c

/-- The class of the marks that join the letters before and behind them. -/
def viramaClass : Nat := 9

def markLines : List String :=
  ["0:n 300:y 371:n 483:y 48b:n 591:y 5be:n y n y 5c3:n y 5c6:n y 5d0:n 610:y 61b:n 64b:y",
    "660:n 670:y n 6d6:y 6de:n y 6e5:n 6e7:y 6e9:n y 6ee:n 711:y n 730:y 74d:n 7a6:y 7b1:n",
    "7eb:y 7f4:n 7fd:y n 816:y 81a:n y 824:n y 828:n y 830:n 859:y 85e:n 897:y 8a0:n 8ca:y",
    "904:n 93a:y 93d:n y 950:n y 960:n 962:y 964:n 981:y 985:n 9bc:y n y 9ce:n 9d7:y 9e0:n",
    "9e2:y 9e6:n 9fe:y a05:n a3c:y a5c:n a70:y a72:n a75:y n a81:y a85:n abc:y n y ad0:n ae2:y",
    "ae6:n afa:y b05:n b3c:y n y b5f:n b62:y b66:n b82:y n bbe:y bd0:n bd7:y be6:n c00:y c05:n",
    "c3c:y n y c58:n c62:y c66:n c81:y c84:n cbc:y n y cdc:n ce2:y ce6:n cf3:y d04:n d3b:y",
    "d3d:n y d4e:n d57:y n d62:y d66:n d81:y d85:n dca:y de6:n df2:y df4:n e31:y n e34:y e3f:n",
    "e47:y e4f:n eb1:y n eb4:y ebd:n ec8:y ed0:n f18:y f1a:n f35:y n y n y n f3e:y f40:n f71:y",
    "f85:n y f88:n f8d:y fbe:n fc6:y n 102b:y 103f:n 1056:y 105a:n 105e:y 1061:n y 1065:n",
    "1067:y 106e:n 1071:y 1075:n 1082:y 108e:n y n 109a:y 109e:n 135d:y 1360:n 1712:y 171f:n",
    "1732:y 1735:n 1752:y 1760:n 1772:y 1780:n 17b6:y 17d4:n 17dd:y 17e0:n 1885:y 1887:n 18a9:y",
    "n 1920:y 1940:n 1a17:y 1a1e:n 1a55:y 1a80:n 1ab0:y 1b05:n 1b34:y 1b45:n 1b6b:y 1b74:n",
    "1b80:y 1b83:n 1ba1:y 1bae:n 1be6:y 1bfc:n 1c24:y 1c3b:n 1cd0:y 1cd3:n y 1ce9:n 1ced:y n",
    "1cf4:y n 1cf7:y 1cfa:n 1dc0:y 1e01:n 20d0:y 2104:n 2cef:y 2cf3:n 2d7f:y n 2de0:y 2e00:n",
    "302a:y 3030:n 3099:y 309d:n a66f:y a673:n y a67e:n a69e:y a6a0:n a6f0:y a6f2:n a802:y n",
    "a806:y n a80b:y n a823:y a828:n a82c:y a830:n a880:y a882:n a8b4:y a8ce:n a8e0:y a8f2:n",
    "a8ff:y n a926:y a92e:n a947:y a95f:n a980:y a984:n a9b3:y a9c1:n a9e5:y n aa29:y aa40:n",
    "aa43:y n aa4c:y aa50:n aa7b:y aa7e:n aab0:y n y aab5:n aab7:y aab9:n aabe:y aac0:n y n",
    "aaeb:y aaf0:n aaf5:y ab01:n abe3:y abeb:n y abf0:n fb1e:y fbb2:n fe20:y fe45:n 101fd:y",
    "10280:n 102e0:y n 10376:y 10380:n 10a01:y 10a10:n 10a38:y 10a40:n 10ae5:y 10aeb:n 10d24:y",
    "10d30:n 10d69:y 10d6e:n 10eab:y 10ead:n 10efa:y 10f00:n 10f46:y 10f51:n 10f82:y 10f86:n",
    "11000:y 11003:n 11038:y 11047:n 11070:y n 11073:y 11075:n 1107f:y 11083:n 110b0:y 110bb:n",
    "110c2:y 110d0:n 11100:y 11103:n 11127:y 11136:n 11145:y 11147:n 11173:y n 11180:y 11183:n",
    "111b3:y 111c1:n 111c9:y 111cd:n y 111d0:n 1122c:y 11238:n 1123e:y n 11241:y 11280:n",
    "112df:y 112f0:n 11300:y 11305:n 1133b:y 1133d:n y 11350:n 11357:y 1135d:n 11362:y 11380:n",
    "113b8:y 113d1:n y n 113e1:y 11400:n 11435:y 11447:n 1145e:y n 114b0:y 114c4:n 115af:y",
    "115c1:n 115dc:y 11600:n 11630:y 11641:n 116ab:y 116b8:n 1171d:y 11730:n 1182c:y 1183b:n",
    "11930:y 1193f:n y n y 11944:n 119d1:y 119e1:n 119e4:y 11a00:n y 11a0b:n 11a33:y 11a3a:n y",
    "11a3f:n 11a47:y 11a50:n y 11a5c:n 11a8a:y 11a9a:n 11b60:y 11bc0:n 11c2f:y 11c40:n 11c92:y",
    "11d00:n 11d31:y 11d46:n y 11d50:n 11d8a:y 11d98:n 11ef3:y 11ef7:n 11f00:y 11f02:n y n",
    "11f34:y 11f43:n 11f5a:y 11fb0:n 13440:y n 13447:y 13460:n 1611e:y 16130:n 16af0:y 16af5:n",
    "16b30:y 16b37:n 16f4f:y n y 16f93:n 16fe4:y 16ff2:n 1bc9d:y 1bc9f:n 1cf00:y 1cf50:n",
    "1d165:y 1d16a:n 1d16d:y 1d183:n 1d185:y 1d18c:n 1d1aa:y 1d1ae:n 1d242:y 1d245:n 1da00:y",
    "1da37:n 1da3b:y 1da6d:n 1da75:y n 1da84:y n 1da9b:y 1df00:n 1e000:y 1e100:n 1e130:y",
    "1e137:n 1e2ae:y 1e2c0:n 1e2ec:y 1e2f0:n 1e4ec:y 1e4f0:n 1e5ee:y 1e5f0:n 1e6e3:y n 1e6e6:y",
    "n 1e6ee:y 1e6f0:n 1e6f5:y 1e6fe:n 1e8d0:y 1e922:n 1e944:y 1e94b:n"]

def markTable : Text.CodeTable Bool := .ofLines (· == ['y']) markLines

def isMark (c : Char) : Bool := 0x300 ≤ c.toNat && markTable.value false c

/-- Characters that are a letter and a mark, or one of them with one mark more: the code of the
whole, and the two parts. -/
def wholeLines : List String :=
  ["e0:61,300 61,301 61,302 61,303 61,308 61,30a e7:63,327 65,300 65,301 65,302 65,308 69,300",
    "69,301 69,302 69,308 f1:6e,303 6f,300 6f,301 6f,302 6f,303 6f,308 f9:75,300 75,301 75,302",
    "75,308 79,301 ff:79,308 101:61,304 103:61,306 105:61,328 107:63,301 109:63,302 10b:63,307",
    "10d:63,30c 10f:64,30c 113:65,304 115:65,306 117:65,307 119:65,328 11b:65,30c 11d:67,302",
    "11f:67,306 121:67,307 123:67,327 125:68,302 129:69,303 12b:69,304 12d:69,306 12f:69,328",
    "135:6a,302 137:6b,327 13a:6c,301 13c:6c,327 13e:6c,30c 144:6e,301 146:6e,327 148:6e,30c",
    "14d:6f,304 14f:6f,306 151:6f,30b 155:72,301 157:72,327 159:72,30c 15b:73,301 15d:73,302",
    "15f:73,327 161:73,30c 163:74,327 165:74,30c 169:75,303 16b:75,304 16d:75,306 16f:75,30a",
    "171:75,30b 173:75,328 175:77,302 177:79,302 17a:7a,301 17c:7a,307 17e:7a,30c 1a1:6f,31b",
    "1b0:75,31b 1ce:61,30c 1d0:69,30c 1d2:6f,30c 1d4:75,30c 1d6:fc,304 1d8:fc,301 1da:fc,30c",
    "1dc:fc,300 1df:e4,304 1e1:227,304 1e3:e6,304 1e7:67,30c 1e9:6b,30c 1eb:6f,328 1ed:1eb,304",
    "1ef:292,30c 6a,30c 1f5:67,301 1f9:6e,300 1fb:e5,301 1fd:e6,301 1ff:f8,301 201:61,30f",
    "203:61,311 205:65,30f 207:65,311 209:69,30f 20b:69,311 20d:6f,30f 20f:6f,311 211:72,30f",
    "213:72,311 215:75,30f 217:75,311 219:73,326 21b:74,326 21f:68,30c 227:61,307 229:65,327",
    "22b:f6,304 22d:f5,304 22f:6f,307 231:22f,304 233:79,304 390:3ca,301 3ac:3b1,301 3b5,301",
    "3b7,301 3b9,301 3cb,301 3ca:3b9,308 3c5,308 3bf,301 3c5,301 3c9,301 439:438,306",
    "450:435,300 435,308 453:433,301 457:456,308 45c:43a,301 438,300 443,306 477:475,30f",
    "4c2:436,306 4d1:430,306 4d3:430,308 4d7:435,306 4db:4d9,308 4dd:436,308 4df:437,308",
    "4e3:438,304 4e5:438,308 4e7:43e,308 4eb:4e9,308 4ed:44d,308 4ef:443,304 4f1:443,308",
    "4f3:443,30b 4f5:447,308 4f9:44b,308 622:627,653 627,654 648,654 627,655 64a,654",
    "6c0:6d5,654 6c2:6c1,654 6d3:6d2,654 929:928,93c 931:930,93c 934:933,93c 9cb:9c7,9be",
    "9c7,9d7 b48:b47,b56 b4b:b47,b3e b47,b57 b94:b92,bd7 bca:bc6,bbe bc7,bbe bc6,bd7",
    "c48:c46,c56 cc0:cbf,cd5 cc7:cc6,cd5 cc6,cd6 cca:cc6,cc2 cca,cd5 d4a:d46,d3e d47,d3e",
    "d46,d57 dda:dd9,dca ddc:dd9,dcf ddc,dca dd9,ddf 1026:1025,102e 1b06:1b05,1b35",
    "1b08:1b07,1b35 1b0a:1b09,1b35 1b0c:1b0b,1b35 1b0e:1b0d,1b35 1b12:1b11,1b35 1b3b:1b3a,1b35",
    "1b3d:1b3c,1b35 1b40:1b3e,1b35 1b3f,1b35 1b43:1b42,1b35 1e01:61,325 1e03:62,307 1e05:62,323",
    "1e07:62,331 1e09:e7,301 1e0b:64,307 1e0d:64,323 1e0f:64,331 1e11:64,327 1e13:64,32d",
    "1e15:113,300 1e17:113,301 1e19:65,32d 1e1b:65,330 1e1d:229,306 1e1f:66,307 1e21:67,304",
    "1e23:68,307 1e25:68,323 1e27:68,308 1e29:68,327 1e2b:68,32e 1e2d:69,330 1e2f:ef,301",
    "1e31:6b,301 1e33:6b,323 1e35:6b,331 1e37:6c,323 1e39:1e37,304 1e3b:6c,331 1e3d:6c,32d",
    "1e3f:6d,301 1e41:6d,307 1e43:6d,323 1e45:6e,307 1e47:6e,323 1e49:6e,331 1e4b:6e,32d",
    "1e4d:f5,301 1e4f:f5,308 1e51:14d,300 1e53:14d,301 1e55:70,301 1e57:70,307 1e59:72,307",
    "1e5b:72,323 1e5d:1e5b,304 1e5f:72,331 1e61:73,307 1e63:73,323 1e65:15b,307 1e67:161,307",
    "1e69:1e63,307 1e6b:74,307 1e6d:74,323 1e6f:74,331 1e71:74,32d 1e73:75,324 1e75:75,330",
    "1e77:75,32d 1e79:169,301 1e7b:16b,308 1e7d:76,303 1e7f:76,323 1e81:77,300 1e83:77,301",
    "1e85:77,308 1e87:77,307 1e89:77,323 1e8b:78,307 1e8d:78,308 1e8f:79,307 1e91:7a,302",
    "1e93:7a,323 1e95:7a,331 68,331 74,308 77,30a 79,30a 1ea1:61,323 1ea3:61,309 1ea5:e2,301",
    "1ea7:e2,300 1ea9:e2,309 1eab:e2,303 1ead:1ea1,302 1eaf:103,301 1eb1:103,300 1eb3:103,309",
    "1eb5:103,303 1eb7:1ea1,306 1eb9:65,323 1ebb:65,309 1ebd:65,303 1ebf:ea,301 1ec1:ea,300",
    "1ec3:ea,309 1ec5:ea,303 1ec7:1eb9,302 1ec9:69,309 1ecb:69,323 1ecd:6f,323 1ecf:6f,309",
    "1ed1:f4,301 1ed3:f4,300 1ed5:f4,309 1ed7:f4,303 1ed9:1ecd,302 1edb:1a1,301 1edd:1a1,300",
    "1edf:1a1,309 1ee1:1a1,303 1ee3:1a1,323 1ee5:75,323 1ee7:75,309 1ee9:1b0,301 1eeb:1b0,300",
    "1eed:1b0,309 1eef:1b0,303 1ef1:1b0,323 1ef3:79,300 1ef5:79,323 1ef7:79,309 1ef9:79,303",
    "1f00:3b1,313 3b1,314 1f00,300 1f01,300 1f00,301 1f01,301 1f00,342 1f01,342 1f10:3b5,313",
    "3b5,314 1f10,300 1f11,300 1f10,301 1f11,301 1f20:3b7,313 3b7,314 1f20,300 1f21,300",
    "1f20,301 1f21,301 1f20,342 1f21,342 1f30:3b9,313 3b9,314 1f30,300 1f31,300 1f30,301",
    "1f31,301 1f30,342 1f31,342 1f40:3bf,313 3bf,314 1f40,300 1f41,300 1f40,301 1f41,301",
    "1f50:3c5,313 3c5,314 1f50,300 1f51,300 1f50,301 1f51,301 1f50,342 1f51,342 1f60:3c9,313",
    "3c9,314 1f60,300 1f61,300 1f60,301 1f61,301 1f60,342 1f61,342 1f70:3b1,300 1f72:3b5,300",
    "1f74:3b7,300 1f76:3b9,300 1f78:3bf,300 1f7a:3c5,300 1f7c:3c9,300 1fb0:3b1,306 3b1,304",
    "1fb6:3b1,342 1fc6:3b7,342 1fd0:3b9,306 3b9,304 3ca,300 1fd6:3b9,342 3ca,342 1fe0:3c5,306",
    "3c5,304 3cb,300 1fe4:3c1,313 3c1,314 3c5,342 3cb,342 1ff6:3c9,342 219a:2190,338 2192,338",
    "21ae:2194,338 21cd:21d0,338 21d4,338 21d2,338 2204:2203,338 2209:2208,338 220c:220b,338",
    "2224:2223,338 2226:2225,338 2241:223c,338 2244:2243,338 2247:2245,338 2249:2248,338",
    "2260:3d,338 2262:2261,338 226d:224d,338 3c,338 3e,338 2264,338 2265,338 2274:2272,338",
    "2273,338 2278:2276,338 2277,338 2280:227a,338 227b,338 2284:2282,338 2283,338",
    "2288:2286,338 2287,338 22ac:22a2,338 22a8,338 22a9,338 22ab,338 22e0:227c,338 227d,338",
    "2291,338 2292,338 22ea:22b2,338 22b3,338 22b4,338 22b5,338 304c:304b,3099 304e:304d,3099",
    "3050:304f,3099 3052:3051,3099 3054:3053,3099 3056:3055,3099 3058:3057,3099 305a:3059,3099",
    "305c:305b,3099 305e:305d,3099 3060:305f,3099 3062:3061,3099 3065:3064,3099 3067:3066,3099",
    "3069:3068,3099 3070:306f,3099 306f,309a 3073:3072,3099 3072,309a 3076:3075,3099 3075,309a",
    "3079:3078,3099 3078,309a 307c:307b,3099 307b,309a 3094:3046,3099 309e:309d,3099",
    "30ac:30ab,3099 30ae:30ad,3099 30b0:30af,3099 30b2:30b1,3099 30b4:30b3,3099 30b6:30b5,3099",
    "30b8:30b7,3099 30ba:30b9,3099 30bc:30bb,3099 30be:30bd,3099 30c0:30bf,3099 30c2:30c1,3099",
    "30c5:30c4,3099 30c7:30c6,3099 30c9:30c8,3099 30d0:30cf,3099 30cf,309a 30d3:30d2,3099",
    "30d2,309a 30d6:30d5,3099 30d5,309a 30d9:30d8,3099 30d8,309a 30dc:30db,3099 30db,309a",
    "30f4:30a6,3099 30f7:30ef,3099 30f0,3099 30f1,3099 30f2,3099 30fe:30fd,3099 105c9:105d2,307",
    "105e4:105da,307 1109a:11099,110ba 1109c:1109b,110ba 110ab:110a5,110ba 1112e:11131,11127",
    "11132,11127 1134b:11347,1133e 11347,11357 11383:11382,113c9 11385:11384,113bb",
    "1138e:1138b,113c2 11391:11390,113c9 113c5:113c2,113c2 113c7:113c2,113b8 113c2,113c9",
    "114bb:114b9,114ba 114b9,114b0 114be:114b9,114bd 115ba:115b8,115af 115b9,115af",
    "11938:11935,11930 16121:1611e,1611e 1611e,16129 1611e,1611f 16129,1611f 1611e,16120",
    "16121,1611f 16122,1611f 16121,16120 16d68:16d67,16d67 16d63,16d67 16d69,16d67"]

def readParts (s : List Char) : Char × Char :=
  match (Text.splitAt ',' s).map Text.hexValue with
  | [a, b] => (Char.ofNat a, Char.ofNat b)
  | _ => ('\x00', '\x00')

def wholeTable : Text.CodeTable (Char × Char) := .ofLines readParts wholeLines

def tableParts? (c : Char) : Option (Char × Char) :=
  if c.toNat < 0xC0 then none
  else
    match wholeTable.row? c.toNat with
    | some (code, parts) => if code = c.toNat then some parts else none
    | none => none

/-! ## Syllables of Hangul

A syllable is a lead, a vowel and possibly a tail; its code tells which. -/

def syllableBase : Nat := 0xAC00
def leadBase : Nat := 0x1100
def vowelBase : Nat := 0x1161
def tailBase : Nat := 0x11A7
def leadCount : Nat := 19
def vowelCount : Nat := 21
def tailCount : Nat := 28

def syllableParts? (c : Char) : Option (Char × Char) :=
  let i := c.toNat - syllableBase
  if c.toNat < syllableBase ∨ leadCount * vowelCount * tailCount ≤ i then none
  else if i % tailCount = 0 then
    some (Char.ofNat (leadBase + i / (vowelCount * tailCount)),
      Char.ofNat (vowelBase + i / tailCount % vowelCount))
  else some (Char.ofNat (c.toNat - i % tailCount), Char.ofNat (tailBase + i % tailCount))

def syllable? (a b : Char) : Option Char :=
  let lead := a.toNat - leadBase
  let vowel := b.toNat - vowelBase
  if leadBase ≤ a.toNat ∧ lead < leadCount ∧ vowelBase ≤ b.toNat ∧ vowel < vowelCount then
    some (Char.ofNat (syllableBase + (lead * vowelCount + vowel) * tailCount))
  else if (syllableParts? a).isSome ∧ (a.toNat - syllableBase) % tailCount = 0 ∧
      tailBase < b.toNat ∧ b.toNat < tailBase + tailCount then
    some (Char.ofNat (a.toNat + (b.toNat - tailBase)))
  else none

/-! ## Parts and wholes -/

def parts? (c : Char) : Option (Char × Char) := (tableParts? c).or (syllableParts? c)

def decomposeChar : Nat → Char → List Char
  | 0, c => [c]
  | depth + 1, c =>
      match parts? c with
      | some (base, mark) => decomposeChar depth base ++ [mark]
      | none => [c]

def whole? (base mark : Char) : Option Char :=
  match wholeTable.rows.find? fun r => r.2.2 == mark && r.2.1 == base with
  | some (code, _) => some (Char.ofNat code)
  | none => syllable? base mark

def classed (s : List Char) : List (Char × Nat) := s.map fun c => (c, combiningClass c)

def insertMark (m : Char × Nat) : List (Char × Nat) → List (Char × Nat)
  | [] => [m]
  | x :: xs => if x.2 ≤ m.2 then x :: insertMark m xs else m :: x :: xs

/-- The characters with each run of marks in the order of their classes; `run` is the run being
read. -/
def ordered (run : List (Char × Nat)) : List (Char × Nat) → List (Char × Nat)
  | [] => run
  | x :: xs =>
      if x.2 = 0 then run ++ x :: ordered [] xs else ordered (insertMark x run) xs

structure Composing where
  done : List Char := []
  letter : Option Char := none
  marks : List Char := []
  last : Nat := 0

namespace Composing

def text (p : Composing) : List Char := p.done ++ p.letter.toList ++ p.marks

/-- The text with one more character.  A mark joins the letter unless one of its class or of a
greater one stands between them. -/
def next (p : Composing) (x : Char × Nat) : Composing :=
  let (c, class_) := x
  let free := p.marks.isEmpty || p.last < class_
  match if free then p.letter.bind (whole? · c) else none with
  | some whole => { p with letter := some whole }
  | none =>
      if class_ = 0 then { done := p.text, letter := some c }
      else { p with marks := p.marks ++ [c], last := class_ }

end Composing

/-- The text with its letters and marks in the one way of writing them.  Characters below all marks
are not changed. -/
def compose (s : List Char) : List Char :=
  if s.all (·.toNat < 0x300) then s
  else
    ((ordered [] (classed (s.flatMap (decomposeChar 4)))).foldl Composing.next {}).text

end Leasehold.Domain
