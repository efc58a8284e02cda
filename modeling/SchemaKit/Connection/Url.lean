import SchemaKit.Connection.Ipv6
import SchemaKit.Connection.Percent

/-!
# Connection URLs

What follows `scheme://` in a URL: user information, host, port, path and query.  `Url.parse` takes
these apart and leaves them encoded as they came; the host alone is put into its final form.

The user information ends at the last at sign in front of the path, and the password begins at its
first colon.  A host in brackets is an IPv6 address; any other host is kept as it is, with controls
and all characters outside ASCII escaped.  Dots in the path are resolved.
-/

namespace SchemaKit.Connection

/-- Why a text is no URL. -/
inductive UrlFault
  | emptyHost
  | invalidPort
  | invalidIpv6
  | invalidHostCharacter
  | noBase
deriving DecidableEq

def UrlFault.message : UrlFault → String
  | .emptyHost => "empty host"
  | .invalidPort => "invalid port number"
  | .invalidIpv6 => "invalid IPv6 address"
  | .invalidHostCharacter => "invalid domain character"
  | .noBase => "relative URL without a base"

/-- The parts of a URL.  User, password, path and query are still encoded. -/
structure Url where
  user : List Char
  password : Option (List Char)
  host : List Char
  port : Option UInt16
  path : List Char
  query : Option (List Char)

namespace Url

/-- A tab or line break, which counts for nothing wherever it stands. -/
def isIgnored (c : Char) : Bool :=
  c == '\t' || c == '\n' || c == '\r'

/-- A control character or space. -/
def isControlOrSpace (c : Char) : Bool :=
  c ≤ ' '

/-- A character that ends the host and port. -/
def endsAuthority (c : Char) : Bool :=
  c == '/' || c == '?' || c == '#'

/-- The text without what counts for nothing: blanks at its end, tabs and line breaks. -/
def clean (cs : List Char) : List Char :=
  (cs.reverse.dropWhile isControlOrSpace).reverse.filter fun c => !isIgnored c

/-! ### User information -/

/-- A text in front of and behind the last of a character, if there is one. -/
def splitLast (sep : Char) (cs : List Char) : Option (List Char × List Char) :=
  if cs.contains sep then
    let tail := (cs.reverse.takeWhile (· != sep)).reverse
    some (cs.take (cs.length - tail.length - 1), tail)
  else none

/-- A text in front of and behind the first of a character.  Nothing is behind it if there is
none. -/
def splitFirst (sep : Char) (cs : List Char) : List Char × List Char :=
  (cs.takeWhile (· != sep), (cs.dropWhile (· != sep)).drop 1)

/-- User and password.  A password of no characters is none. -/
def credentials (cs : List Char) : List Char × Option (List Char) :=
  let (user, password) := splitFirst ':' cs
  (user, if password.isEmpty then none else some password)

/-! ### Host and port -/

/-- A character that a host cannot hold. -/
def isForbidden (c : Char) : Bool :=
  ['\x00', '\t', '\n', '\r', ' ', '#', '/', ':', '<', '>', '?', '@', '[', '\\', ']', '^',
    '|'].contains c

/-- A character that is escaped in a host: a control or one outside ASCII. -/
def isEscaped (c : Char) : Bool :=
  c.toNat < 0x20 || 0x7F ≤ c.toNat

def opaqueHost (cs : List Char) : List Char :=
  cs.flatMap fun c =>
    if isEscaped c then (String.utf8EncodeChar c).flatMap Percent.escapeByte else [c]

/-- A host in its final form. -/
def parseHost (cs : List Char) : Except UrlFault (List Char) :=
  if cs.head? = some '[' then
    if cs.getLast? = some ']' then
      match Ipv6.parse? (cs.drop 1).dropLast with
      | some pieces => .ok ('[' :: (Ipv6.text pieces ++ [']']))
      | none => .error .invalidIpv6
    else .error .invalidIpv6
  else if cs.any isForbidden then .error .invalidHostCharacter
  else .ok (opaqueHost cs)

/-- Cuts a text behind its host: at the first colon outside brackets or at the end of the
authority. -/
def splitHost (bracket : Bool) : List Char → List Char × List Char
  | [] => ([], [])
  | c :: cs =>
    if (c = ':' && !bracket) || endsAuthority c then ([], c :: cs)
    else
      let (h, rest) := splitHost (c = '[' || (bracket && c != ']')) cs
      (c :: h, rest)

/-- A character that ends a port. -/
def endsPort (c : Char) : Bool :=
  endsAuthority c || c == '\\'

/-- A port of decimal digits, none if there are no digits. -/
def parsePort (cs : List Char) : Except UrlFault (Option UInt16) :=
  if !cs.all Char.isDigit then .error .invalidPort
  else
    let n := Nat.ofDigitChars 10 cs 0
    if 65535 < n then .error .invalidPort
    else .ok (if cs.isEmpty then none else some n.toUInt16)

/-- The port behind a host, and what follows it.  There can be no port without a host. -/
def portAndRest (host cs : List Char) : Except UrlFault (Option UInt16 × List Char) :=
  match cs with
  | ':' :: rest =>
    if host.isEmpty then .error .emptyHost
    else (parsePort (rest.takeWhile fun c => !endsPort c)).map
      fun p => (p, rest.dropWhile fun c => !endsPort c)
  | _ => .ok (none, cs)

/-! ### Path -/

/-- A dot, which may be escaped, and what follows it. -/
def dropDot? : List Char → Option (List Char)
  | '.' :: rest => some rest
  | '%' :: '2' :: e :: rest => if e = 'e' || e = 'E' then some rest else none
  | _ => none

/-- Whether a segment stands for the directory it is in. -/
def isSingleDot (segment : List Char) : Bool :=
  dropDot? segment = some []

/-- Whether a segment stands for the directory above the one it is in. -/
def isDoubleDot (segment : List Char) : Bool :=
  (dropDot? segment).bind dropDot? = some []

/-- Whether a segment begins like the name of a drive: a letter and a colon or bar, with nothing or
a backslash behind them. -/
def isDrive : List Char → Bool
  | c :: d :: rest =>
    c.isAlpha && (d == ':' || d == '|') && (rest.isEmpty || rest.head? = some '\\')
  | _ => false

/-- The directories left when one goes up: the last is dropped unless it is a drive. -/
def up (directories : List (List Char)) : List (List Char) :=
  match directories.getLast? with
  | some last => if isDrive last then directories else directories.dropLast
  | none => []

/-- The directories of a path and its last segment, dots resolved. -/
def resolve (directories : List (List Char)) : List (List Char) → List (List Char) × List Char
  | [] => (directories, [])
  -- dots at the end stand for a directory, behind which the last segment is empty
  | [last] =>
    if isDoubleDot last then (up directories, [])
    else if isSingleDot last then (directories, [])
    else (directories, last)
  | segment :: rest =>
    if isDoubleDot segment then resolve (up directories) rest
    else if isSingleDot segment then resolve directories rest
    else resolve (directories ++ [segment]) rest

def resolvePath (cs : List Char) : List Char :=
  match cs with
  | [] => []
  | c :: rest =>
    let (directories, last) := resolve [] ((if c = '/' then rest else cs).splitOn '/')
    '/' :: (directories.flatMap fun d => d ++ ['/']) ++ last

/-! ### The whole -/

/-- The query behind a path, if there is one. -/
def parseQuery (cs : List Char) : Option (List Char) :=
  match cs with
  | '?' :: rest => some (rest.takeWhile (· != '#'))
  | _ => none

/-- Takes apart what follows the slashes of a URL. -/
def parse (text : List Char) : Except UrlFault Url := do
  let cs := clean text
  let authority := cs.takeWhile fun c => !endsAuthority c
  let tail := cs.dropWhile fun c => !endsAuthority c
  let (information, rest) ←
    match splitLast '@' authority with
    | none => pure ([], cs)
    -- an at sign without a user in front of it is dropped, but no path may follow it at once
    | some ([], hostPart) =>
      if hostPart.isEmpty && !tail.isEmpty then throw .emptyHost else pure ([], hostPart ++ tail)
    | some (information, hostPart) => pure (information, hostPart ++ tail)
  let (user, password) := credentials information
  let (rawHost, rest) := splitHost false rest
  let host ← parseHost rawHost
  let (port, rest) ← portAndRest host rest
  if host.isEmpty && (!user.isEmpty || password.isSome) then throw .emptyHost
  return {
    user, password, host, port
    path := resolvePath (rest.takeWhile fun c => c != '?' && c != '#')
    query := parseQuery (rest.dropWhile fun c => c != '?' && c != '#') }

end Url

end SchemaKit.Connection
