import FlowConsole.Url.Direction
import FlowConsole.Url.DomainMapping
import FlowConsole.Url.Label
import FlowConsole.Url.Punycode
/-!
Domain names in ASCII: mapped to lower case, composed, and with each label outside ASCII in
Punycode after `xn--`.
-/
namespace FlowConsole.Url

open Text

/-- ASCII characters that no domain name holds: controls, the blank, and those with a meaning in a
URL. -/
def forbiddenInDomain (c : Char) : Bool :=
  c.toNat ≤ 0x20 || c.toNat = 0x7F ||
    c ∈ ['%', '#', '/', ':', '<', '>', '?', '@', '[', '\\', ']', '^', '|']

/-- Whether mapping and composing leave a text as it is. -/
def isMapped (s : List Char) : Bool :=
  match s.mapM mapDomainChar with
  | some parts => Composition.normalise parts.flatten == s
  | none => false

def isAscii (s : List Char) : Bool :=
  s.all fun c => c.toNat < 0x80

/-- The text of a label. One that is in Punycode must stand for a text that needs it. -/
def labelText? (s : List Char) : Option (List Char) :=
  match s with
  | 'x' :: 'n' :: '-' :: '-' :: code =>
    (Punycode.decode? code).filter fun text => !isAscii text && isMapped text && isLabel text
  | s => if isAscii s || isLabel s then some s else none

def labelToAscii (text : List Char) : List Char :=
  if isAscii text then text else ['x', 'n', '-', '-'] ++ Punycode.encode text

/-- The ASCII form of a domain name, or `none` if it has none. Empty labels are kept. -/
def domainToAscii (s : List Char) : Option (List Char) := do
  let mapped ← s.mapM mapDomainChar
  let name := Composition.normalise mapped.flatten
  let labels ← (splitOn '.' name).mapM labelText?
  if labels.any turnsDirection && !labels.all keepsDirection then none
  else
    let name := List.intercalate ['.'] (labels.map labelToAscii)
    if name.any forbiddenInDomain then none else some name

end FlowConsole.Url
