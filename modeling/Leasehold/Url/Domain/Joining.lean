import Leasehold.Url.Domain.Composition

/-!
# Joiners in domain names

The two invisible characters that ask for, or forbid, a joined form of the
letters around them.  They may stand only where they matter to the eye: behind
a mark that joins letters, and the one that forbids also between letters of a
cursive script.
-/

set_option autoImplicit false

namespace Leasehold.Domain

/-- On which sides a letter of a cursive script joins others. -/
inductive Joining where
  | none
  | before
  | behind
  | both
  | across
  deriving DecidableEq, Repr

def readJoining (s : List Char) : Joining :=
  match s with
  | ['R'] => .before
  | ['L'] => .behind
  | ['D'] => .both
  | ['T'] => .across
  | _ => .none

def joiningLines : List String :=
  ["0:U 300:T 371:U 483:T 48b:U 591:T 5be:U T U T 5c3:U T 5c6:U T 5d0:U 610:T 61b:U 620:D U R",
    "626:D R D R D 62f:R 633:D 640:U D 648:R D 64b:T 660:U 66e:D 670:T R 674:U 679:D 688:R",
    "69a:D 6c0:R D 6c3:R 6cc:D R D R D 6d2:R 6d4:U R T 6de:U T 6e5:U 6e7:T 6e9:U T 6ee:R 6f0:U",
    "6fa:D 6fd:U 6ff:D U 710:R T D 715:R 71a:D 71e:R D 728:R D R D R D 72f:R T 74d:R D 759:R",
    "75c:D 76b:R 76d:D 771:R D R 775:D 778:R 77a:D 780:U 7a6:T 7b1:U 7ca:D 7eb:T 7f4:U 7fd:T U",
    "816:T 81a:U T 824:U T 828:U T 830:U 840:R D 846:R 848:D R D 854:R D R 859:T 85e:U 860:D U",
    "D 866:U R D R 883:U 886:D U 889:D 88e:R D 897:T 8a0:D 8aa:R 8ad:U R D 8b1:R 8b3:D 8b9:R D",
    "8c9:U T 903:U 93a:T U T U 941:T 949:U 94d:T U 951:T 960:U 962:T 964:U 981:T U 9bc:T U",
    "9c1:T 9c7:U 9cd:T U 9e2:T 9e6:U 9fe:T a03:U a3c:T a3e:U a41:T a5c:U a70:T a72:U a75:T U",
    "a81:T a83:U abc:T U ac1:T ac9:U acd:T ad0:U ae2:T ae6:U afa:T b02:U b3c:T U b3f:T U T",
    "b47:U b4d:T b57:U b62:T b66:U b82:T U bc0:T U bcd:T bd0:U c00:T U c04:T U c3c:T U T c41:U",
    "c46:T c58:U c62:T c66:U c81:T U cbc:T U cbf:T U cc6:T U ccc:T cd5:U ce2:T ce6:U d00:T",
    "d02:U d3b:T d3d:U d41:T d46:U d4d:T U d62:T d66:U d81:T U dca:T dcf:U dd2:T dd8:U e31:T U",
    "e34:T e3f:U e47:T e4f:U eb1:T U eb4:T ebd:U ec8:T ed0:U f18:T f1a:U f35:T U T U T U f71:T",
    "f7f:U T f85:U T f88:U f8d:T fbe:U fc6:T U 102d:T 1031:U T 1038:U T 103b:U 103d:T 103f:U",
    "1058:T 105a:U 105e:T 1061:U 1071:T 1075:U 1082:T U 1085:T 1087:U 108d:T U 109d:T U 135d:T",
    "1360:U 1712:T 1715:U 1732:T 1734:U 1752:T 1760:U 1772:T 1780:U 17b7:T 17be:U 17c6:T U",
    "17c9:T 17d4:U 17dd:T 17e0:U 1807:D U 1820:D 1880:U 1885:T 1887:D 18a9:T D 18b0:U 1920:T",
    "1923:U 1927:T 1929:U 1932:T U 1939:T 1940:U 1a17:T 1a19:U 1a1b:T 1a1e:U 1a56:T U T 1a61:U",
    "T U 1a65:T 1a6d:U 1a73:T 1a80:U 1ab0:T 1b04:U 1b34:T U T 1b3b:U T U 1b42:T U 1b6b:T 1b74:U",
    "1b80:T 1b82:U 1ba2:T 1ba6:U 1ba8:T 1baa:U T 1bae:U 1be6:T U T 1bea:U 1bed:T U T 1bf2:U",
    "1c2c:T 1c34:U 1c36:T 1c3b:U 1cd0:T 1cd3:U T 1ce1:U T 1ce9:U 1ced:T U 1cf4:T U 1cf8:T",
    "1cfa:U 1dc0:T 1e01:U 20d0:T 2104:U 2cef:T 2cf3:U 2d7f:T U 2de0:T 2e00:U 302a:T 302e:U",
    "3099:T 309d:U a66f:T a673:U T a67e:U a69e:T a6a0:U a6f0:T a6f2:U a802:T U a806:T U a80b:T",
    "U a825:T a827:U a82c:T a830:U a840:D a872:L U a8c4:T a8ce:U a8e0:T a8f2:U a8ff:T U a926:T",
    "a92e:U a947:T a952:U a980:T a983:U a9b3:T U a9b6:T a9ba:U a9bc:T a9be:U a9e5:T U aa29:T",
    "aa2f:U aa31:T aa33:U aa35:T aa40:U aa43:T U aa4c:T U aa7c:T U aab0:T U T aab5:U aab7:T",
    "aab9:U aabe:T aac0:U T U aaec:T aaee:U aaf6:T ab01:U abe5:T U abe8:T U abed:T abf0:U",
    "fb1e:T fbb2:U fe20:T fe45:U 101fd:T 10280:U 102e0:T U 10376:T 10380:U 10a01:T 10a10:U",
    "10a38:T 10a40:U 10ac0:D 10ac5:R U R U R 10acb:U 10acd:L R 10ad3:D 10ad7:L D 10add:R D",
    "10ae1:R U 10ae4:R T 10aeb:D 10aef:R U 10b80:D R D R 10b86:D 10b89:R D 10b8c:R D R 10b90:D",
    "R 10b99:U 10ba9:R 10bad:D 10baf:U 10d00:L D 10d22:R D T 10d30:U 10d69:T 10d6e:U 10eab:T",
    "10ead:U 10ec2:R D 10ec5:U D 10ed0:U 10efa:T 10f00:U 10f30:D 10f33:R D 10f45:U T 10f51:D",
    "10f54:R U 10f70:D 10f74:R 10f76:D 10f82:T 10f86:U 10fb0:D U D 10fb4:R 10fb7:U D R 10fbb:D",
    "10fbd:R D 10fc0:U D R 10fc4:D U 10fc9:R D L 10fe0:U 11001:T U 11038:T 11047:U 11070:T U",
    "11073:T 11075:U 1107f:T 11082:U 110b3:T 110b7:U 110b9:T 110bb:U 110c2:T 110d0:U 11100:T",
    "11103:U 11127:T 1112c:U T 11136:U 11173:T U 11180:T 11182:U 111b6:T 111bf:U 111c9:T",
    "111cd:U 111cf:T U 1122f:T 11232:U 11234:T U T 11238:U 1123e:T U 11241:T 11280:U 112df:T U",
    "112e3:T 112f0:U 11300:T 11302:U 1133b:T 1133d:U 11340:T U 11366:T 11380:U 113bb:T 113c2:U",
    "113ce:T U T U T U 113e1:T 11400:U 11438:T 11440:U 11442:T 11445:U T U 1145e:T U 114b3:T",
    "114b9:U T U 114bf:T 114c1:U T 114c4:U 115b2:T 115b8:U 115bc:T 115be:U T 115c1:U 115dc:T",
    "11600:U 11633:T 1163b:U 1163d:T U T 11641:U 116ab:T U T U 116b0:T 116b6:U T U 1171d:T U T",
    "U 11722:T 11726:U T 11730:U 1182f:T 11838:U T 1183b:U 1193b:T 1193d:U T U 11943:T U",
    "119d4:T 119dc:U 119e0:T U 11a01:T 11a0b:U 11a33:T 11a39:U 11a3b:T 11a3f:U 11a47:T 11a50:U",
    "T 11a57:U 11a59:T 11a5c:U 11a8a:T 11a97:U T 11a9a:U 11b60:T U T 11b65:U T U 11c30:T",
    "11c3e:U T U 11c92:T 11ca9:U T 11cb1:U T 11cb4:U T 11d00:U 11d31:T 11d46:U T 11d50:U",
    "11d90:T 11d93:U 11d95:T U T U 11ef3:T 11ef5:U 11f00:T 11f02:U 11f36:T 11f3e:U 11f40:T U T",
    "U 11f5a:T 11fb0:U 13440:T U 13447:T 13460:U 1611e:T 1612a:U 1612d:T 16130:U 16af0:T",
    "16af5:U 16b30:T 16b37:U 16f4f:T U 16f8f:T 16f93:U 16fe4:T 16ff0:U 1bc9d:T 1bc9f:U 1cf00:T",
    "1cf50:U 1d167:T 1d16a:U 1d17b:T 1d183:U 1d185:T 1d18c:U 1d1aa:T 1d1ae:U 1d242:T 1d245:U",
    "1da00:T 1da37:U 1da3b:T 1da6d:U 1da75:T U 1da84:T U 1da9b:T 1df00:U 1e000:T 1e100:U",
    "1e130:T 1e137:U 1e2ae:T 1e2c0:U 1e2ec:T 1e2f0:U 1e4ec:T 1e4f0:U 1e5ee:T 1e5f0:U 1e6e3:T U",
    "1e6e6:T U 1e6ee:T 1e6f0:U 1e6f5:T 1e6fe:U 1e8d0:T 1e922:D 1e944:T 1e950:U"]

def joiningTable : Text.CodeTable Joining := .ofLines readJoining joiningLines

def joining (c : Char) : Joining := joiningTable.value .none c

def meets (a b : Joining) (s : List Char) : Bool :=
  match (s.map joining).dropWhile (· == .across) with
  | j :: _ => j == a || j == b
  | [] => false

def nonJoiner : Char := '\u200c'

def joiner : Char := '\u200d'

/-- Whether the joiners among the characters behind `before`, which is kept backwards, may stand
where they stand. -/
def joinersFitFrom (before : List Char) : List Char → Bool
  | [] => true
  | c :: behind =>
      (if c = joiner ∨ c = nonJoiner then
        before.head?.any (combiningClass · == viramaClass) ||
          (c == nonJoiner && meets .behind .both before && meets .before .both behind)
      else true) && joinersFitFrom (c :: before) behind

def joinersFit (label : List Char) : Bool := joinersFitFrom [] label

end Leasehold.Domain
