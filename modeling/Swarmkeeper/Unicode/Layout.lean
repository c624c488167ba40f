import Swarmkeeper.Unicode.Age
import Swarmkeeper.Unicode.Category

/-!
How characters of Unicode 16 stand beside each other in a text: which are marks on the character
before them, which letters join their neighbours, and in which direction they are written.
-/

namespace Swarmkeeper.Unicode.Layout

/-- Marks that take no room of their own and have the direction of the character before them. -/
def nonspacing : RangeSet :=
  .difference
    (.unions [Category.nonspacingMark, Category.enclosingMark, .decode
      ["897 10D69-10D6D 10EFC 113BB-113C0 113CE 113D0 113D2 113E1-113E2 11F5A 1611E-16129",
       "1612D-1612F 1E5EE-1E5EF"]])
    (.decode ["CBF CC6 1171E 11A07-11A08 11C3F"])

/-- All marks. -/
def marks : RangeSet :=
  .unions [Category.mark, nonspacing, .decode
    ["113B8-113BA 113C2 113C5 113C7-113CA 113CC-113CD 113CF 1612A-1612C"]]

/-- Characters that letters join across. -/
def transparent : RangeSet :=
  .union nonspacing (.decode ["CBF CC6 11A07-11A08 11C3F 1E94B"])

/-- Letters that join the one before them and the one after them. -/
def dualJoining : RangeSet := .decode
    ["620 626 628 62A-62E 633-63F 641-647 649-64A 66E-66F 679-687 69A-6BF 6C1-6C2 6CC 6CE 6D0-6D1",
     "6FA-6FC 6FF 712-714 71A-71D 71F-727 729 72B 72D-72E 74E-758 75C-76A 76D-770 772 775-777",
     "77A-77F 7CA-7EA 841-845 848 84A-853 855 860 862-865 868 886 889-88D 8A0-8A9 8AF-8B0 8B3-8B8",
     "8BA-8C8 1807 1820-1878 1887-18A8 18AA A840-A871 10AC0-10AC4 10AD3-10AD6 10AD8-10ADC",
     "10ADE-10AE0 10AEB-10AEE 10B80 10B82 10B86-10B88 10B8A-10B8B 10B8D 10B90 10BAD-10BAE",
     "10D01-10D21 10D23 10EC3-10EC4 10F30-10F32 10F34-10F44 10F51-10F53 10F70-10F73 10F76-10F81",
     "10FB0 10FB2-10FB3 10FB8 10FBB-10FBC 10FBE-10FBF 10FC1 10FC4 10FCA 1E922-1E943"]

/-- Letters that join the one after them only. -/
def leftJoining : RangeSet := .decode ["A872 10ACD 10AD7 10D00 10FCB"]

/-- Letters that join the one before them only. -/
def rightJoining : RangeSet := .decode
    ["622-625 627 629 62F-632 648 671-673 688-699 6C0 6C3-6CB 6CD 6CF 6D2-6D3 6D5 6EE-6EF 710",
     "715-719 71E 728 72A 72C 72F 74D 759-75B 76B-76C 771 773-774 778-779 840 846-847 849 854",
     "856-858 867 869-882 88E 8AA-8AC 8AE 8B1-8B2 8B9 10AC5 10AC7 10AC9-10ACA 10ACE-10AD2 10ADD",
     "10AE1 10AE4 10AEF 10B81 10B83-10B85 10B89 10B8C 10B8E-10B8F 10B91 10BA9-10BAC 10D22 10EC2",
     "10F33 10F54 10F74-10F75 10FB4-10FB6 10FB9-10FBA 10FBD 10FC2-10FC3 10FC9"]

/-- A text up to its nearest character that is not transparent, read away from a place, ends in a
character of the set. -/
def joins (letters : RangeSet) (text : List Nat) : Bool :=
  (text.dropWhile transparent.contains).head?.any letters.contains

/-- Letters join across the place between two texts. The text before it is given last character
first. -/
def joinedAcross (before after : List Nat) : Bool :=
  joins (leftJoining.union dualJoining) before && joins (rightJoining.union dualJoining) after

/-- The part that a character has in the direction of a text. -/
inductive Direction where
  | left
  | right
  | arabicNumber
  | number
  | mark
  | neutral
deriving DecidableEq

namespace Direction

/-- Digits that have their place in a text from right to left. -/
def arabicNumbers : RangeSet := .decode ["660-669 66B-66C 10D30-10D49 10E60-10E7E"]

/-- Digits of texts of both directions. -/
def numbers : RangeSet := .decode ["30-39 6F0-6F9 102E1-102FB"]

/-- Letters of scripts that are written from right to left. -/
def rightLetters : RangeSet := .decode ["5BE-8C9 FBB2-FE73 10800-10FF6 1E800-1ED3D"]

/-- Signs that have the direction of what is around them. -/
def neutrals : RangeSet := .decode
    ["21-2F 3A-40 5B-60 7B-D7 F7 2B9-2BA 2C2-2CF 2D2-2ED 2EF-2FF 375 3F6 58A-58F 606-607 609-60A",
     "60C 60E-60F 66A 6DE 6E9 7F6-7F9 9F2-9F3 9FB AF1 BF3-BFA C78-C7E E3F F3A-F3D 1390-1399 1400",
     "169B-169C 17DB 17F0-180A 1940-1945 19DE-19FF 200C-214D 218A-2335 237B-2394 2396-26AB",
     "26AD-27FF 2900-2BFF 2CE5-2CEA 2CF9-2CFF 2E00-3004 3008-3020 3030 3037 303D-303F 30A0 30FB",
     "31C0-31E5 4DC0-4DFF A490-A4C6 A60D-A60F A673-A67F A700-A721 A788 A828-A82B A838-A839",
     "A874-A877 AB6A-AB6B FD3E-FE46 10101 10140-1018C 10190-101A0 1091F 10B39-10B3F 10D6E",
     "11052-11065 11660-1166C 11FD5-11FF1 16FE2 1CC00-1CEB3 1D1E9-1D245 1D300-1D356 1E2FF",
     "1EEF0-1F12F 1F16D-1F16F 1F1AD 1F260-1FBEF"]

/-- The direction of a character that a text may have; where the tables leave out a character, it is
one written from left to right. -/
def ofCodePoint (n : Nat) : Direction :=
  if nonspacing.contains n then mark
  else if arabicNumbers.contains n then arabicNumber
  else if numbers.contains n then number
  else if neutrals.contains n then neutral
  else if rightLetters.contains n then right
  else left

/-- The character makes a text one that is, in part, written from right to left. -/
def turns : Direction → Bool
  | right | arabicNumber => true
  | _ => false

/-- The direction in which a text ends: that of its last character that is no mark. -/
def ending (ds : List Direction) : Option Direction := (ds.reverse.dropWhile (· == mark)).head?

/-- A label that can be read in one way only beside labels of the other direction. It starts with a
letter, has no character of the other direction, ends in a letter or a digit, and has one kind of
digits. -/
def isSteady : List Direction → Bool
  | [] => true
  | left :: ds =>
      !ds.any turns && (ending (left :: ds) == some left || ending (left :: ds) == some number)
  | right :: ds =>
      !ds.contains left && !(ds.contains number && ds.contains arabicNumber) &&
        (ending (right :: ds)).any (· != neutral)
  | _ => false

end Direction

end Swarmkeeper.Unicode.Layout
