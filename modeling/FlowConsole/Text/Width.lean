import FlowConsole.Text.Property
/-!
How many columns a text takes on a terminal.

Marks and ignorable characters take none, wide ones two, everything else one, controls included. A
pictograph takes two columns together with what modifies it or is joined to it.
-/
namespace FlowConsole.Text

/-- Joins two pictographs to one. -/
def zeroWidthJoiner : Char := '\u200D'

/-- Asks for the pictograph form of the character before it. -/
def pictographSelector : Char := '\uFE0F'

def isSkinTone (c : Char) : Bool :=
  0x1F3FB ≤ c.toNat && c.toNat ≤ 0x1F3FF

/-- Vowels and final consonants of Hangul, which join the syllable before them. -/
def joinsSyllable (c : Char) : Bool :=
  (0x1160 ≤ c.toNat && c.toNat ≤ 0x11FF) || (0xD7B0 ≤ c.toNat && c.toNat ≤ 0xD7FB)

def charWidth (c : Char) : Nat :=
  if c.toNat < 0x7F then 1
  else if c.toNat = 0x115F then 2
  else if ignorable.contains c || extending.contains c || joinsSyllable c then 0
  else if wide.contains c then 2
  else 1

/-- The columns of a text on one line. `joined` tells that the next pictograph belongs to the one
before it. -/
def columns (joined : Bool) : List Char → Nat
  | [] => 0
  | '\r' :: '\n' :: rest => 1 + columns false rest
  | [c] => if joined && pictograph.contains c then 0 else charWidth c
  | c :: d :: rest =>
    let alone := if joined && pictograph.contains c then 0 else charWidth c
    if d = pictographSelector ∧ pictograph.contains c then
      (if joined then 0 else 2) + columns false (d :: rest)
    else if isSkinTone d && modifiable.contains c then alone + columns false rest
    else if c = zeroWidthJoiner then columns false (d :: rest)
    else if d = zeroWidthJoiner ∧ pictograph.contains c then alone + columns true rest
    else alone + columns false (d :: rest)

def width (s : String) : Nat :=
  columns false s.toList

end FlowConsole.Text
