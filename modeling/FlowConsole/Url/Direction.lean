import FlowConsole.Text.Property
/-!
Direction of writing in domain names. A name that holds a letter written from right to left, or an
Arabic digit, keeps each of its labels to one direction, so that no label runs into the next when
the name is displayed.
-/
namespace FlowConsole.Url

open Text

/-- Letters written from right to left (Bidi_Class R and AL). -/
def rightToLeft : CharSet := .ofTable [
    "5be 5c0 5c3 5c6 5d0-5f4 608 60b 60d 61b-64a 66d-66f 671-6d5 6e5-6e6 6ee-6ef 6fa-710 712-72f",
    "74d-7a5 7b1-7ea 7f4-7f5 7fa 7fe-815 81a 824 828 830-858 85e-88e 8a0-8c9 200f fbb2-fbc2 fe73",
    "10800-1091b 10920-10a00 10a10-10a35 10a40-10ae4 10aeb-10b35 10b40-10d23 10e80-10ea9",
    "10ead-10f45 10f51-10f81 10f86-10ff6 1e800-1e8cf 1e922-1e943 1e94b-1ed3d"]

def arabicDigits : CharSet := .ofTable [
    "600-605 660-669 66b-66c 6dd 890-891 8e2 10d30-10e7e"]

def europeanDigits : CharSet := .ofTable [
    "30-39 6f0-6f9 102e1-102fb"]

/-- Signs that take the direction of what is around them. -/
def undirected : CharSet := .ofTable [
    "0-2f 3a-60 7b-d7 f7 2b9-2ba 2c2-2cf 2d2-2ed 2ef-2ff 375 3f6 58a-58f 606-607 609-60a 60c",
    "60e-60f 66a 6de 6e9 7f6-7f9 9f2-9f3 9fb af1 bf3-bfa c78-c7e e3f f3a-f3d 1390-1399 1400 1680",
    "169b-169c 17db 17f0-180a 180e 1940-1945 19de-19ff 200b-200d 2010-2029 2030-2064 206a-20c0",
    "2104-214d 218a-2335 237b-2394 2396-26ab 26ad-27ff 2900-2bff 2ce5-2cea 2cf9-2cff 2e00-3004",
    "3008-3020 3030 3037 303d-303f 30a0 30fb 31c0-31e3 4dc0-4dff a490-a4c6 a60d-a60f a673",
    "a67e-a67f a700-a721 a788 a828-a82b a838-a839 a874-a877 ab6a-ab6b fd3e-fdff fe45-fe46",
    "feff-fffd 10101 10140-1018c 10190-101a0 1091f 10b39-10b3f 11052-11065 11660-1166c",
    "11fd5-11ff1 16fe2 1bca0-1bca3 1d173-1d17a 1d1e9-1d241 1d245 1d300-1d356 1e2ff 1eef0-1f12f",
    "1f16d-1f16f 1f1ad 1f260-1fbca"]

def isLeftToRight (c : Char) : Bool :=
  !(rightToLeft.contains c || arabicDigits.contains c || europeanDigits.contains c ||
    undirected.contains c || extending.contains c)

def turnsDirection (s : List Char) : Bool :=
  s.any fun c => rightToLeft.contains c || arabicDigits.contains c

/-- Whether a label keeps to one direction: it begins with a letter, ends with a letter of its
direction or a digit, marks aside, and does not mix digits of two kinds. -/
def keepsDirection (s : List Char) : Bool :=
  match s with
  | [] => true
  | first :: _ =>
    let last := (s.reverse.dropWhile extending.contains).head?.getD first
    if rightToLeft.contains first then
      !s.any isLeftToRight &&
        (rightToLeft.contains last || europeanDigits.contains last || arabicDigits.contains last) &&
        !(s.any europeanDigits.contains && s.any arabicDigits.contains)
    else
      isLeftToRight first && !turnsDirection s &&
        (isLeftToRight last || europeanDigits.contains last)

end FlowConsole.Url
