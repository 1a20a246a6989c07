import FlowConsole.Text.Composition
import FlowConsole.Text.Property
/-!
Which texts may stand between the dots of a domain name: none that begins with a mark, and none
with a joiner where it changes nothing.
-/
namespace FlowConsole.Url

open Text

/-- Marks that take up a place of their own. -/
def spacingMarks : CharSet := .ofTable [
    "903 93b 93e-940 949-94c 94e-94f 982-983 9bf-9c0 9c7-9cc a03 a3e-a40 a83 abe-ac0 ac9-acc",
    "b02-b03 b40 b47-b4c bbf bc1-bcc c01-c03 c41-c44 c82-c83 cbe cc0-cc1 cc3-cc4 cc7-ccb d02-d03",
    "d3f-d40 d46-d4c d82-d83 dd0-dd1 dd8-dde df2-df3 f3e-f3f f7f 102b-102c 1031 1038 103b-103c",
    "1056-1057 1062-1064 1067-106d 1083-1084 1087-108c 108f 109a-109c 1715 1734 17b6 17be-17c5",
    "17c7-17c8 1923-1926 1929-1931 1933-1938 1a19-1a1a 1a55 1a57 1a61 1a63-1a64 1a6d-1a72 1b04",
    "1b3b 1b3d-1b41 1b43-1b44 1b82 1ba1 1ba6-1ba7 1baa 1be7 1bea-1bec 1bee 1bf2-1bf3 1c24-1c2b",
    "1c34-1c35 1ce1 1cf7 a823-a824 a827 a880-a881 a8b4-a8c3 a952-a953 a983 a9b4-a9b5 a9ba-a9bb",
    "a9be-a9c0 aa2f-aa30 aa33-aa34 aa4d aa7b aa7d aaeb aaee-aaef aaf5 abe3-abe4 abe6-abe7",
    "abe9-abea abec 11000 11002 11082 110b0-110b2 110b7-110b8 1112c 11145-11146 11182 111b3-111b5",
    "111bf-111c0 111ce 1122c-1122e 11232-11233 11235 112e0-112e2 11302-11303 1133f 11341-1134d",
    "11362-11363 11435-11437 11440-11441 11445 114b1-114b2 114b9 114bb-114bc 114be 114c1",
    "115b0-115b1 115b8-115bb 115be 11630-11632 1163b-1163c 1163e 116ac 116ae-116af 116b6",
    "11720-11721 11726 1182c-1182e 11838 11931-11938 1193d 11940 11942 119d1-119d3 119dc-119df",
    "119e4 11a39 11a57-11a58 11a97 11c2f 11c3e 11ca9 11cb1 11cb4 11d8a-11d8e 11d93-11d94 11d96",
    "11ef5-11ef6 16f51-16f87 16ff0-16ff1 1d166 1d16d"]

/-- Letters that join the letters on both sides, or the letter after them only. -/
def joinsNext : CharSet := .ofTable [
    "620 626 628 62a-62e 633-63f 641-647 649-64a 66e-66f 679-687 69a-6bf 6c1-6c2 6cc 6ce 6d0-6d1",
    "6fa-6fc 6ff 712-714 71a-71d 71f-727 729 72b 72d-72e 74e-758 75c-76a 76d-770 772 775-777",
    "77a-77f 7ca-7ea 841-845 848 84a-853 855 860 862-865 868 886 889-88d 88f 8a0-8a9 8af-8b0",
    "8b3-8b8 8ba-8c8 1807 1820-1878 1887-18a8 18aa a840-a872 10ac0-10ac4 10acd 10ad3-10adc",
    "10ade-10ae0 10aeb-10aee 10b80 10b82 10b86-10b88 10b8a-10b8b 10b8d 10b90 10bad-10bae",
    "10d00-10d21 10d23 10ec3-10ec4 10ec6-10ec7 10f30-10f32 10f34-10f44 10f51-10f53 10f70-10f73",
    "10f76-10f81 10fb0 10fb2-10fb3 10fb8 10fbb-10fbc 10fbe-10fbf 10fc1 10fc4 10fca-10fcb",
    "1e922-1e943"]

/-- Letters that join the letters on both sides, or the letter before them only. -/
def joinsPrevious : CharSet := .ofTable [
    "620 622-63f 641-64a 66e-66f 671-673 679-6d3 6d5 6ee-6ef 6fa-6fc 6ff 710 712-72f 74d-77f",
    "7ca-7ea 840-858 860 862-865 867-882 886 889-88f 8a0-8ac 8ae-8c8 1807 1820-1878 1887-18a8",
    "18aa a840-a871 10ac0-10ac5 10ac7 10ac9-10aca 10ace-10ad6 10ad8-10ae1 10ae4 10aeb-10aef",
    "10b80-10b91 10ba9-10bae 10d01-10d23 10ec2-10ec4 10ec6-10ec7 10f30-10f44 10f51-10f54",
    "10f70-10f81 10fb0 10fb2-10fb6 10fb8-10fbf 10fc1-10fc4 10fc9-10fca 1e922-1e943"]

def nonJoiner : Char := '\u200C'

def joiner : Char := '\u200D'

def isMark (c : Char) : Bool :=
  (extending.contains c && c != nonJoiner) || spacingMarks.contains c

/-- Whether a mark that silences the vowel of its consonant comes last in a text, which is in
reverse. -/
def endsSilenced (before : List Char) : Bool :=
  before.head?.any fun c => Composition.classOf c = 9

/-- Whether the letters around a place would join, marks aside; the text before it is in
reverse. -/
def wouldJoin (before after : List Char) : Bool :=
  let letters := List.dropWhile fun c => extending.contains c && c != nonJoiner
  (letters before).head?.any joinsNext.contains && (letters after).head?.any joinsPrevious.contains

/-- A joiner may only follow a mark that silences a vowel; one that keeps letters apart may also
stand between letters that would join. `before` is what was passed, in reverse. -/
def joinersAllowed (before : List Char) : List Char → Bool
  | [] => true
  | c :: rest =>
    (if c = nonJoiner then endsSilenced before || wouldJoin before rest
     else if c = joiner then endsSilenced before
     else true) && joinersAllowed (c :: before) rest

/-- Whether a text may stand in a name: it begins with no mark, and its joiners have a place. -/
def isLabel (s : List Char) : Bool :=
  !s.head?.any isMark && joinersAllowed [] s

end FlowConsole.Url
