import BuildManifest.Url.Address
import BuildManifest.Url.HostName

/-!
Which texts are urls. Only the front of a url can be wrong: it has a scheme, and
where two slashes follow, a host, maybe with a colon and a number after it.
Blanks at the ends, tabs and line breaks do not count.
-/

namespace BuildManifest

namespace Url

/-- What a scheme says about the rest: the schemes of the web always have a
host, files may have one, and others are free. -/
inductive Family where
  | web
  | file
  | other
  deriving DecidableEq, Repr

def familyOf (scheme : Text) : Family :=
  if (["http", "https", "ws", "wss", "ftp"] : List Text).contains scheme then .web
  else if scheme = ("file" : Text) then .file
  else .other

def isSchemeCharacter (c : Char) : Bool := c.isAlphanum || c = '+' || c = '-' || c = '.'

/-- The scheme in lower case, and what follows its colon. -/
def scheme? (t : Text) : Option (Text × Text) :=
  match t.takeWhile isSchemeCharacter, t.dropWhile isSchemeCharacter with
  | c :: more, ':' :: rest =>
    if c.isAlpha then some ((c :: more).map Char.toLower, rest) else none
  | _, _ => none

def isControlOrSpace (c : Char) : Bool := c.toNat ≤ 32

/-- The text without what does not count. -/
def essential (t : Text) : Text :=
  (((t.dropWhile isControlOrSpace).reverse.dropWhile isControlOrSpace).reverse).filter
    fun c => c ≠ '\t' && c ≠ '\n' && c ≠ '\r'

/-- Whether a character ends the part of a url that names a host. Backslashes
are slashes on the web. -/
def endsAuthority (web : Bool) (c : Char) : Bool :=
  c = '/' || c = '?' || c = '#' || (web && c = '\\')

def hexValue? (b : UInt8) : Option UInt8 :=
  if 48 ≤ b && b ≤ 57 then some (b - 48)
  else if 97 ≤ b && b ≤ 102 then some (b - 87)
  else if 65 ≤ b && b ≤ 70 then some (b - 55)
  else none

/-- A byte for every `%` with two hexadecimal digits. -/
def unescape : List UInt8 → List UInt8
  | 37 :: a :: b :: rest =>
    match hexValue? a, hexValue? b with
    | some x, some y => (16 * x + y) :: unescape rest
    | _, _ => 37 :: unescape (a :: b :: rest)
  | b :: rest => b :: unescape rest
  | [] => []

def checkHost (host : Text) : Except Fault Unit :=
  match host with
  | '[' :: rest =>
    if rest.getLast? = some ']' && isIpv6 rest.dropLast then .ok () else .error .badIpv6
  | host =>
    match Text.ofBytes? (unescape host.bytes).toByteArray with
    | none => .error .badHostName
    | some host =>
      match HostName.canonicalName? host with
      | none => .error .badHostName
      | some [] => .error .emptyHost
      | some name => if endsInNumber name && !isIpv4 name then .error .badIpv4 else .ok ()

def isOpaqueForbidden (c : Char) : Bool :=
  ("\x00\t\n\r #/:<>?@[\\]^|" : Text).contains c

def checkOpaqueHost (host : Text) : Except Fault Unit :=
  match host with
  | '[' :: rest =>
    if rest.getLast? = some ']' && isIpv6 rest.dropLast then .ok () else .error .badIpv6
  | host => if host.any isOpaqueForbidden then .error .badHostCharacter else .ok ()

/-- The host, which goes up to the first colon outside brackets, and the rest. -/
def takeHost : (inBrackets : Bool) → Text → Text × Text
  | _, [] => ([], [])
  | inBrackets, c :: rest =>
    if c = ':' && !inBrackets then ([], c :: rest)
    else
      let within := if c = '[' then true else if c = ']' then false else inBrackets
      let (host, rest) := takeHost within rest
      (c :: host, rest)

/-- Checks the number after a host, which a backslash may end too. -/
def checkNumber (t : Text) : Except Fault Unit :=
  let t := t.takeWhile (· ≠ '\\')
  if t.all Char.isDigit && (number? 10 t).all (· ≤ 65535) then .ok () else .error .badNumber

/-- The part before the last `@`, if there is one, and the part after it. -/
def splitUser (authority : Text) : Option Text × Text :=
  if authority.contains '@' then
    (some (authority.reverse.dropWhile (· ≠ '@')).tail.reverse,
      (authority.reverse.takeWhile (· ≠ '@')).reverse)
  else (none, authority)

/-- Checks user, host and number. `isLast` says that nothing follows them. -/
def checkAuthority (web : Bool) (authority : Text) (isLast : Bool) : Except Fault Unit := do
  let (user, place) := splitUser authority
  if user = some [] && place.isEmpty && !isLast then .error .emptyHost
  let (host, rest) := takeHost false place
  if web then
    if host.isEmpty then .error .emptyHost
    checkHost host
  else
    checkOpaqueHost host
    if host.isEmpty && !rest.isEmpty then .error .emptyHost
  match rest with
  | _ :: digits => checkNumber digits
  | [] => .ok ()
  if host.isEmpty && user.any (fun u => !u.isEmpty && u ≠ [':']) then .error .emptyHost

def isSlash (c : Char) : Bool := c = '/' || c = '\\'

/-- A letter and a colon, or a bar instead of it. -/
def isDriveLetter (t : Text) : Bool :=
  match t with
  | [c, d] => c.isAlpha && (d = ':' || d = '|')
  | _ => false

/-- Checks the host of a file url, which may be missing. -/
def checkFile (rest : Text) : Except Fault Unit :=
  match rest with
  | a :: b :: rest =>
    if isSlash a && isSlash b then
      let host := rest.takeWhile fun c => !endsAuthority true c
      if host.isEmpty || isDriveLetter host then .ok () else checkHost host
    else .ok ()
  | _ => .ok ()

def checkAfterSlashes (web : Bool) (t : Text) : Except Fault Unit :=
  checkAuthority web (t.takeWhile fun c => !endsAuthority web c)
    (t.dropWhile fun c => !endsAuthority web c).isEmpty

def check (t : Text) : Except Fault Unit :=
  match scheme? (essential t) with
  | none => .error .noScheme
  | some (scheme, rest) =>
    match familyOf scheme with
    | .file => checkFile rest
    | .web => checkAfterSlashes true (rest.dropWhile isSlash)
    | .other =>
      match rest with
      | '/' :: '/' :: rest => checkAfterSlashes false rest
      | _ => .ok ()

end Url

end BuildManifest
