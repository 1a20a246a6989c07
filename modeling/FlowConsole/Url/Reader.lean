import FlowConsole.Url.Basic
import FlowConsole.Url.DomainName
import FlowConsole.Text.Blank
/-!
Reading URLs the way a browser does.

Controls and blanks around the text and line breaks and tabs within it are dropped. Where the scheme
is one of those built on a host, a backslash counts as a slash, and the host is a domain name, an
IPv4 address in any of its spellings, or an IPv6 address in brackets. `.` and `..` are resolved in
the path. Each reader gives back what is left.
-/
namespace FlowConsole.Url

open Text

/-- Drops controls and blanks at both ends, and tabs and line breaks everywhere. -/
def clean (s : List Char) : List Char :=
  let edge (c : Char) : Bool := c.toNat ≤ 0x20
  (dropEndWhile edge (s.dropWhile edge)).filter fun c => !(c == '\t' || c == '\n' || c == '\r')

/-- The scheme in lower case and what follows its colon. -/
def readScheme? (s : List Char) : Option (String × List Char) :=
  let inScheme (c : Char) : Bool := c.isAlphanum || c == '+' || c == '-' || c == '.'
  match s.takeWhile inScheme, s.dropWhile inScheme with
  | c :: name, ':' :: rest =>
    if c.isAlpha then some (String.ofList ((c :: name).map Char.toLower), rest) else none
  | _, _ => none

inductive SchemeKind
  | file
  | hostBased
  | other
deriving DecidableEq

def SchemeKind.ofScheme (scheme : String) : SchemeKind :=
  if scheme == "file" then .file
  else if (defaultPort? scheme).isSome then .hostBased
  else .other

/-- Whether a backslash counts as a slash, and the path is never empty. -/
def SchemeKind.isSpecial (kind : SchemeKind) : Bool :=
  kind != .other

/-- Whether a character ends the part of a URL that names user and host. -/
def endsAuthority (special : Bool) (c : Char) : Bool :=
  c == '/' || c == '?' || c == '#' || (special && c == '\\')

def splitUserInfo (special : Bool) (s : List Char) : Option (List Char × List Char) :=
  let authority := s.takeWhile fun c => !endsAuthority special c
  let after := (authority.reverse.takeWhile (· != '@')).reverse
  if after.length = authority.length then none
  else some (authority.take (authority.length - after.length - 1),
    s.drop (authority.length - after.length))

/-- User name and password of a user information: the first colon parts them. A password that is
empty is none. -/
def userInfoOf (s : List Char) : String × Option String :=
  let encode (t : List Char) : String := String.ofList (percentEncode encodedInUserInfo t)
  let name := s.takeWhile (· != ':')
  let password := (s.dropWhile (· != ':')).drop 1
  (encode name, if password.isEmpty then none else some (encode password))

/-- The host's text: up to a port or the path, where a colon in brackets starts no port. -/
def takeHost (special bracketed : Bool) : List Char → List Char × List Char
  | [] => ([], [])
  | c :: rest =>
    if (c = ':' ∧ !bracketed) ∨ endsAuthority special c then ([], c :: rest)
    else
      let bracketed := if c = '[' then true else if c = ']' then false else bracketed
      let r := takeHost special bracketed rest
      (c :: r.1, r.2)

def bracketedHost (s : List Char) : Except Error Host :=
  match s.getLast? with
  | some ']' =>
    match ipv6OfText? s.dropLast with
    | some pieces => .ok (.ipv6 pieces)
    | none => .error .invalidIpv6
  | _ => .error .invalidIpv6

def hostOfText (s : List Char) : Except Error Host :=
  match s with
  | '[' :: rest => bracketedHost rest
  | s =>
    match (Utf8.decode? (percentDecode s)).bind fun t => domainToAscii t.toList with
    | none => .error .invalidDomain
    | some name =>
      if name.isEmpty then .error .emptyHost
      else if endsInNumber name then
        match ipv4OfText? name with
        | some address => .ok (.ipv4 address)
        | none => .error .invalidIpv4
      else .ok (.domain (String.ofList name))

def forbiddenInHost (c : Char) : Bool :=
  c ∈ ['\x00', '\t', '\n', '\r', ' ', '#', '/', ':', '<', '>', '?', '@', '[', '\\', ']', '^', '|']

/-- The host of any other scheme, which is kept as it is. -/
def opaqueHostOfText (s : List Char) : Except Error Host :=
  match s with
  | '[' :: rest => bracketedHost rest
  | s =>
    if s.any forbiddenInHost then .error .invalidDomainCharacter
    else .ok (.domain (String.ofList (percentEncode encodedAlways s)))

/-- The port if it has to be written: `none` if it is empty or the scheme's own. -/
def writtenPort? (scheme : String) (digits : List Char) : Option Nat :=
  if digits.isEmpty then none
  else
    let port := digits.foldl (fun n c => n * 10 + (c.toNat - 48)) 0
    if defaultPort? scheme = some port then none else some port

/-- A port after its colon, below `2 ^ 16`. -/
def readPort (scheme : String) (s : List Char) : Except Error (Option Nat × List Char) :=
  let digits := s.takeWhile Char.isDigit
  let rest := s.dropWhile Char.isDigit
  if digits.foldl (fun n c => n * 10 + (c.toNat - 48)) 0 > 65535 then .error .invalidPort
  else if rest.head?.elim true (endsAuthority true) then .ok (writtenPort? scheme digits, rest)
  else .error .invalidPort

/-- Host and port. Only a scheme not built on hosts may leave the host empty, and then it has no
port. -/
def readHostPort (scheme : String) (kind : SchemeKind) (s : List Char) :
    Except Error (Host × Option Nat × List Char) := do
  let taken := takeHost kind.isSpecial false s
  let host ←
    if kind = .other then opaqueHostOfText taken.1
    else if taken.1.isEmpty then .error .emptyHost
    else hostOfText taken.1
  match taken.2 with
  | ':' :: rest =>
    if host = .domain "" then .error .emptyHost
    else
      let (port, rest) ← readPort scheme rest
      pure (host, port, rest)
  | rest => pure (host, none, rest)

def isSingleDot (s : List Char) : Bool :=
  s == ['.'] || (s.map Char.toLower) == ['%', '2', 'e']

def isDoubleDot (s : List Char) : Bool :=
  let dots := s.map Char.toLower
  dots == ['.', '.'] || dots == ['.', '%', '2', 'e'] || dots == ['%', '2', 'e', '.'] ||
    dots == ['%', '2', 'e', '%', '2', 'e']

/-- Segments that name a drive; they are never left by `..`. -/
def isDrive (s : List Char) : Bool :=
  match s with
  | [c, d] => c.isAlpha && (d == ':' || d == '|')
  | _ => false

def segments (special : Bool) (s : List Char) : List (List Char) :=
  splitWhere (fun c => c == '/' || (special && c == '\\')) s

/-- Resolves dots; `done` holds the segments kept so far, the last first. A path that ends in a dot
segment ends in a slash. -/
def resolve (done : List (List Char)) : List (List Char) → List (List Char)
  | [] => done.reverse
  | segment :: rest =>
    if isDoubleDot segment then
      let above := match done with
        | last :: before => if isDrive last then last :: before else before
        | [] => []
      resolve (if rest.isEmpty then [] :: above else above) rest
    else if isSingleDot segment then resolve (if rest.isEmpty then [] :: done else done) rest
    else resolve (percentEncode encodedInPath segment :: done) rest

def pathText (segments : List (List Char)) : String :=
  String.ofList (segments.flatMap fun s => '/' :: s)

/-- The path up to a query or fragment. A scheme built on hosts always has one. -/
def readPath (special : Bool) (s : List Char) : String × List Char :=
  let inPath (c : Char) : Bool := !(c == '?' || c == '#')
  let path := s.takeWhile inPath
  let rest := s.dropWhile inPath
  match path with
  | [] => (if special then "/" else "", rest)
  | c :: tail =>
    let relative := if c = '/' ∨ (special ∧ c = '\\') then tail else path
    (pathText (resolve [] (segments special relative)), rest)

def readQueryFragment (special : Bool) (s : List Char) : Option String × Option String :=
  let fragmentOf (t : List Char) : Option String := match t with
    | '#' :: rest => some (String.ofList (percentEncode encodedInFragment rest))
    | _ => none
  match s with
  | '?' :: rest =>
    let query := rest.takeWhile (· != '#')
    (some (String.ofList (percentEncode (encodedInQuery special) query)),
      fragmentOf (rest.dropWhile (· != '#')))
  | s => (none, fragmentOf s)

/-- A URL after the slashes that introduce its host. -/
def readAuthority (scheme : String) (kind : SchemeKind) (s : List Char) : Except Error Url := do
  let special := kind.isSpecial
  let (userInfo, rest) : List Char × List Char ← match splitUserInfo special s with
    | none => pure ([], s)
    | some ([], rest) =>
      if rest.head?.elim false (endsAuthority special) then .error .emptyHost else pure ([], rest)
    | some (userInfo, rest) => pure (userInfo, rest)
  let (username, password) := userInfoOf userInfo
  let (host, port, rest) ← readHostPort scheme kind rest
  if host = .domain "" ∧ (username ≠ "" ∨ password ≠ none) then .error .emptyHost
  else
    let (path, rest) := readPath special rest
    let (query, fragment) := readQueryFragment special rest
    pure { scheme, username, password, host := some host, port, path, query, fragment }

/-- A file's URL. Its host is empty unless the text names one. -/
def readFile (s : List Char) : Except Error Url := do
  let slash (c : Char) : Bool := c == '/' || c == '\\'
  let (host, rest) : List Char × List Char := match s with
    | a :: b :: rest =>
      if slash a && slash b then
        let host := rest.takeWhile fun c => !endsAuthority true c
        if isDrive host then ([], rest) else (host, rest.drop host.length)
      else ([], s)
    | s => ([], s)
  let host ← if host.isEmpty then pure (Host.domain "") else hostOfText host
  let host := if host = .domain "localhost" then .domain "" else host
  let (path, rest) := readPath true rest
  let (query, fragment) := readQueryFragment true rest
  pure { scheme := "file", username := "", password := none, host := some host, port := none
         path, query, fragment }

def parseChars (s : List Char) : Except Error Url :=
  match readScheme? (clean s) with
  | none => .error .relativeWithoutBase
  | some (scheme, rest) =>
    match SchemeKind.ofScheme scheme with
    | .hostBased =>
      readAuthority scheme .hostBased (rest.dropWhile fun c => c == '/' || c == '\\')
    | .file => readFile rest
    | .other =>
      match rest with
      | '/' :: '/' :: rest => readAuthority scheme .other rest
      | rest =>
        let inPath (c : Char) : Bool := !(c == '?' || c == '#')
        let path := match rest with
          | '/' :: _ => (readPath false rest).1
          | rest => String.ofList (percentEncode encodedAlways (rest.takeWhile inPath))
        let (query, fragment) := readQueryFragment false (rest.dropWhile inPath)
        .ok { scheme, username := "", password := none, host := none, port := none
              path, query, fragment }

def parse (s : String) : Except Error Url :=
  parseChars s.toList

end FlowConsole.Url
