import Leasehold.Text.CodeTable

/-!
# Writing directions in domain names

A name with a character that is written from right to left has labels of one
direction each, so that no label is taken for another: a label starts with a
letter, holds only what goes with the direction of that letter, and ends with a
letter or a digit, marks not counted.
-/

set_option autoImplicit false

namespace Leasehold.Domain

inductive Direction where
  | left
  | right
  | arabic
  | european
  | neutral
  | mark
  deriving DecidableEq, Repr

def readDirection (s : List Char) : Direction :=
  match s with
  | ['R'] => .right
  | ['A'] => .arabic
  | ['E'] => .european
  | ['N'] => .neutral
  | ['M'] => .mark
  | _ => .left

def directionLines : List String :=
  ["0:L 0:N 30:E 3a:N 61:L 7b:N df:L f7:N L 2b9:N 2bb:L 2c2:N 2d0:L 2d2:N 2ee:L N 300:M 371:L",
    "375:N 377:L 3f6:N 3f8:L 483:M 48b:L 58a:N 591:M 5be:R M R M 5c3:R M 5c6:R M 5d0:R 606:N",
    "608:R N 60b:R N R N 610:M 61b:R 64b:M 660:A 66a:N A 66d:R 670:M R 6d6:M 6de:N M 6e5:R",
    "6e7:M 6e9:N M 6ee:R 6f0:E 6fa:R 711:M R 730:M 74d:R 7a6:M 7b1:R 7eb:M 7f4:R 7f6:N 7fa:R",
    "7fd:M R 816:M 81a:R M 824:R M 828:R M 830:R 859:M 85e:R 897:M 8a0:R 8ca:M 903:L 93a:M L M",
    "L 941:M 949:L 94d:M L 951:M 960:L 962:M 964:L 981:M L 9bc:M L 9c1:M 9c7:L 9cd:M L 9e2:M",
    "9e6:L 9f2:N 9f4:L 9fb:N L 9fe:M a03:L a3c:M a3e:L a41:M a5c:L a70:M a72:L a75:M L a81:M",
    "a83:L abc:M L ac1:M ac9:L acd:M ad0:L ae2:M ae6:L af1:N af9:L M b02:L b3c:M L b3f:M L M",
    "b47:L b4d:M b57:L b62:M b66:L b82:M L bc0:M L bcd:M bd0:L bf3:N c00:M L c04:M L c3c:M L M",
    "c41:L c46:M c58:L c62:M c66:L c78:N c7f:L c81:M L cbc:M L ccc:M cd5:L ce2:M ce6:L d00:M",
    "d02:L d3b:M d3d:L d41:M d46:L d4d:M L d62:M d66:L d81:M L dca:M dcf:L dd2:M dd8:L e31:M L",
    "e34:M e3f:N L e47:M e4f:L eb1:M L eb4:M ebd:L ec8:M ed0:L f18:M f1a:L f35:M L M L M N",
    "f3e:L f71:M f7f:L M f85:L M f88:L f8d:M fbe:L fc6:M L 102d:M 1031:L M 1038:L M 103b:L",
    "103d:M 103f:L 1058:M 105a:L 105e:M 1061:L 1071:M 1075:L 1082:M L 1085:M 1087:L 108d:M L",
    "109d:M L 135d:M 1360:L 1390:N 13a0:L 1400:N L 169b:N 16a0:L 1712:M 1715:L 1732:M 1734:L",
    "1752:M 1760:L 1772:M 1780:L 17b7:M 17be:L 17c6:M L 17c9:M 17d4:L 17db:N L M 17e0:L 17f0:N",
    "1810:L 1885:M 1887:L 18a9:M L 1920:M 1923:L 1927:M 1929:L 1932:M L 1939:M 1940:N 1946:L",
    "19de:N 1a00:L 1a17:M 1a19:L 1a1b:M 1a1e:L 1a56:M L M 1a61:L M L 1a65:M 1a6d:L 1a73:M",
    "1a80:L 1ab0:M 1b04:L 1b34:M L M 1b3b:L M L 1b42:M L 1b6b:M 1b74:L 1b80:M 1b82:L 1ba2:M",
    "1ba6:L 1ba8:M 1baa:L M 1bae:L 1be6:M L M 1bea:L 1bed:M L M 1bf2:L 1c2c:M 1c34:L 1c36:M",
    "1c3b:L 1cd0:M 1cd3:L M 1ce1:L M 1ce9:L 1ced:M L 1cf4:M L 1cf8:M 1cfa:L 1dc0:M 1e01:L",
    "200c:N 20d0:M 2104:N 214e:L 218a:N 2336:L 237b:N 2395:L N 26ac:L N 2800:L 2900:N 2c30:L",
    "2ce5:N 2cec:L 2cef:M 2cf3:L 2cf9:N 2d00:L 2d7f:M L 2de0:M 2e00:N 3005:L 3008:N 3021:L",
    "302a:M 302e:L 3030:N L 3037:N 303b:L 303d:N 3041:L 3099:M 309d:L 30a0:N L 30fb:N L 31c0:N",
    "31f0:L 4dc0:N 4e00:L a490:N a4d0:L a60d:N a610:L a66f:M a673:N M a67e:N a681:L a69e:M",
    "a6a0:L a6f0:M a6f2:L a700:N a723:L a788:N L a802:M L a806:M L a80b:M L a825:M a827:L N",
    "a82c:M a830:L a838:N a840:L a874:N a880:L a8c4:M a8ce:L a8e0:M a8f2:L a8ff:M L a926:M",
    "a92e:L a947:M a952:L a980:M a983:L a9b3:M L a9b6:M a9ba:L a9bc:M a9be:L a9e5:M L aa29:M",
    "aa2f:L aa31:M aa33:L aa35:M aa40:L aa43:M L aa4c:M L aa7c:M L aab0:M L M aab5:L aab7:M",
    "aab9:L aabe:M aac0:L M L aaec:M aaee:L aaf6:M ab01:L ab6a:N abc0:L abe5:M L abe8:M L",
    "abed:M abf0:L fb1e:M fbb2:R fbc3:N fe20:M fe45:N fe73:R 10000:L 10101:N L 10140:N 1018d:L",
    "10190:N 101d0:L 101fd:M 10280:L 102e0:M E 10300:L 10376:M 10380:L 10800:R 1091f:N R",
    "10a01:M 10a10:R 10a38:M 10a40:R 10ae5:M 10aeb:R 10b39:N 10b40:R 10d24:M 10d30:A 10d40:R",
    "10d69:M 10d6e:N R 10e60:A 10e80:R 10eab:M 10ead:R 10ed0:N 10efa:M 10f00:R 10f46:M 10f51:R",
    "10f82:M 10f86:R 11000:L M L 11038:M 11047:L 11052:N 11066:L 11070:M L 11073:M 11075:L",
    "1107f:M 11082:L 110b3:M 110b7:L 110b9:M 110bb:L 110c2:M 110d0:L 11100:M 11103:L 11127:M",
    "1112c:L M 11136:L 11173:M L 11180:M 11182:L 111b6:M 111bf:L 111c9:M 111cd:L 111cf:M L",
    "1122f:M 11232:L 11234:M L M 11238:L 1123e:M L 11241:M 11280:L 112df:M L 112e3:M 112f0:L",
    "11300:M 11302:L 1133b:M 1133d:L 11340:M L 11366:M 11380:L 113bb:M 113c2:L 113ce:M L M L M",
    "L 113e1:M 11400:L 11438:M 11440:L 11442:M 11445:L M L 1145e:M L 114b3:M 114b9:L M L",
    "114bf:M 114c1:L M 114c4:L 115b2:M 115b8:L 115bc:M 115be:L M 115c1:L 115dc:M 11600:L",
    "11633:M 1163b:L 1163d:M L M 11641:L 11660:N 11680:L 116ab:M L M L 116b0:M 116b6:L M L",
    "1171d:M 11720:L 11722:M 11726:L M 11730:L 1182f:M 11838:L M 1183b:L 1193b:M 1193d:L M L",
    "11943:M L 119d4:M 119dc:L 119e0:M L 11a01:M 11a07:L 11a09:M 11a0b:L 11a33:M 11a39:L",
    "11a3b:M 11a3f:L 11a47:M 11a50:L M 11a57:L 11a59:M 11a5c:L 11a8a:M 11a97:L M 11a9a:L",
    "11b60:M L M 11b65:L M L 11c30:M 11c3e:L 11c92:M 11ca9:L M 11cb1:L M 11cb4:L M 11d00:L",
    "11d31:M 11d46:L M 11d50:L 11d90:M 11d93:L 11d95:M L M L 11ef3:M 11ef5:L 11f00:M 11f02:L",
    "11f36:M 11f3e:L 11f40:M L M L 11f5a:M 11fb0:L 11fd5:N 11fff:L 13440:M L 13447:M 13460:L",
    "1611e:M 1612a:L 1612d:M 16130:L 16af0:M 16af5:L 16b30:M 16b37:L 16f4f:M L 16f8f:M 16f93:L",
    "16fe2:N L M 16ff0:L 1bc9d:M 1bc9f:L 1cc00:N 1cf00:M 1cf50:L 1d167:M 1d16a:L 1d17b:M",
    "1d183:L 1d185:M 1d18c:L 1d1aa:M 1d1ae:L 1d1e9:N 1d242:M 1d245:N 1d2c0:L 1d300:N 1d360:L",
    "1da00:M 1da37:L 1da3b:M 1da6d:L 1da75:M L 1da84:M L 1da9b:M 1df00:L 1e000:M 1e100:L",
    "1e130:M 1e137:L 1e2ae:M 1e2c0:L 1e2ec:M 1e2f0:L 1e2ff:N 1e4d0:L 1e4ec:M 1e4f0:L 1e5ee:M",
    "1e5f0:L 1e6e3:M L 1e6e6:M L 1e6ee:M 1e6f0:L 1e6f5:M 1e6fe:L 1e800:R 1e8d0:M 1e922:R",
    "1e944:M 1e94b:R 1eef0:N 1f150:L 1f16d:N 1f170:L 1f1ad:N 1f1e6:L 1f260:N 20000:L"]

def directionTable : Text.CodeTable Direction := .ofLines readDirection directionLines

def direction (c : Char) : Direction := directionTable.value .left c

def fromRight (c : Char) : Bool :=
  0x590 ≤ c.toNat && (direction c == .right || direction c == .arabic)

def withoutEndMarks (l : List Direction) : List Direction :=
  (l.reverse.dropWhile (· == .mark)).reverse

def fitBehind (first : Direction) (rest : List Direction) : Bool :=
  let core := withoutEndMarks rest
  if first = .left then
    core.all (fun d => d != .right && d != .arabic) &&
      core.getLast?.all fun d => d == .left || d == .european
  else if first = .right then
    core.all (· != .left) && !(core.contains .european && core.contains .arabic) &&
      core.getLast?.all fun d => d == .right || d == .european || d == .arabic
  else false

def keepsDirection (label : List Char) : Bool :=
  match label.map direction with
  | [] => true
  | first :: rest => fitBehind first rest

/-- Whether the labels of a name go together: if one of them holds a character written from right
to left, each keeps to one direction. -/
def directionsFit (labels : List (List Char)) : Bool :=
  !(labels.any (·.any fromRight)) || labels.all keepsDirection

end Leasehold.Domain
