import PipelineDepot.Url.Domain
import PipelineDepot.Url.Error

/-! # URLs

What makes a text an absolute URL, as far as its scheme and its host tell: `Url.scheme` gives the
scheme, in lower case, or what is wrong with the text. Blanks and controls around a URL and tabs and
line ends in it do not count. The schemes of the web have a host, which is a domain name or an
address; other schemes have one only behind two slashes.
-/

namespace PipelineDepot.Url

/-- The kinds of schemes. -/
inductive SchemeKind
  | web
  | file
  | other
  deriving DecidableEq, Repr

/-- The kind of a scheme. -/
def SchemeKind.of (scheme : String) : SchemeKind :=
  if scheme ∈ ["http", "https", "ws", "wss", "ftp"] then .web
  else if scheme = "file" then .file
  else .other

/-- A control or a space, as it is taken off both ends of a URL. -/
def isEdge (c : Char) : Bool := c.toNat ≤ 0x20

/-- The characters of a URL that count. -/
def significant (text : List Char) : List Char :=
  let trimmed := ((text.dropWhile isEdge).reverse.dropWhile isEdge).reverse
  trimmed.filter fun c => c != '\t' && c != '\n' && c != '\r'

/-- A character of a scheme. -/
def isSchemeChar (c : Char) : Bool :=
  c.isAlphanum || c == '+' || c == '-' || c == '.'

/-- The scheme in front of the first colon, in lower case, and what is behind the colon. -/
def splitScheme? (text : List Char) : Option (String × List Char) :=
  let scheme := text.takeWhile isSchemeChar
  match text.dropWhile isSchemeChar with
  | ':' :: rest =>
    if scheme.head?.any Char.isAlpha then some (String.ofList (scheme.map Char.toLower), rest)
    else none
  | _ => none

/-- A backslash counts as a slash in the schemes of the web. -/
def isSlash (web : Bool) (c : Char) : Bool := c == '/' || (web && c == '\\')

/-- The character ends the part of a URL that names the host. -/
def endsAuthority (web : Bool) (c : Char) : Bool := isSlash web c || c == '?' || c == '#'

/-- The part in front of the last at sign, if there is one, and what is behind it. -/
def splitUser (web : Bool) (text : List Char) : Option (List Char) × List Char :=
  let authority := text.takeWhile (!endsAuthority web ·)
  let rest := text.dropWhile (!endsAuthority web ·)
  let host := (authority.reverse.takeWhile (· != '@')).reverse
  if host.length = authority.length then (none, text)
  else (some (authority.take (authority.length - host.length - 1)), host ++ rest)

/-- The length of the host at the head of a text. A colon ends it outside of brackets. -/
def hostLength (web : Bool) : Bool → List Char → Nat
  | _, [] => 0
  | inBrackets, c :: rest =>
    if endsAuthority web c || (c == ':' && !inBrackets) then 0
    else hostLength web (c == '[' || (inBrackets && c != ']')) rest + 1

/-- Checks the address between brackets. -/
def checkBrackets (host : List Char) : Except UrlError Unit :=
  if host.getLast? = some ']' ∧ Ipv6.isValid (host.drop 1).dropLast then .ok ()
  else .error .badIpv6

/-- Checks a host that is a domain name or an address. -/
def checkDomain (host : List Char) : Except UrlError Unit :=
  if host.head? = some '[' then checkBrackets host
  else match Domain.ofText? host with
    | none => .error .badDomain
    | some [] => .error .emptyHost
    | some domain =>
      if Ipv4.isMeant domain && !Ipv4.isValid domain then .error .badIpv4 else .ok ()

/-- A character that no host holds, whatever the scheme. -/
def isRefusedAnywhere (c : Char) : Bool :=
  "\x00\t\n\r #/:<>?@[\\]^|".toList.contains c

/-- Checks a host whose meaning the scheme leaves open. -/
def checkOpaque (host : List Char) : Except UrlError Unit :=
  if host.head? = some '[' then checkBrackets host
  else if host.any isRefusedAnywhere then .error .badHostCharacter
  else .ok ()

/-- Checks the port behind a colon. -/
def checkPort (text : List Char) : Except UrlError Unit :=
  let digits := text.takeWhile Char.isDigit
  let ended := (text.dropWhile Char.isDigit).head?.all (endsAuthority true)
  if ended && (Text.digitsFrom? 10 0 digits).any (· < Nat.pow 2 16) then .ok ()
  else .error .badPort

/-- Checks what stands behind the two slashes: a user, a host and a port. -/
def checkAuthority (web : Bool) (text : List Char) : Except UrlError Unit := do
  let (user?, text) := splitUser web text
  if user? = some [] ∧ text.head?.any (endsAuthority web) then .error .emptyHost
  else
    let length := hostLength web false text
    let host := text.take length
    let behind := text.drop length
    if host = [] then
      let named := user?.any fun user => user ≠ [] ∧ user ≠ [':']
      if web || behind.head? = some ':' || named then .error .emptyHost else .ok ()
    else
      if web then checkDomain host else checkOpaque host
      match behind with
      | ':' :: port => checkPort port
      | _ => .ok ()

/-- A letter with a colon or a bar behind it names a drive and no host. -/
def isDrive (host : List Char) : Bool :=
  match host with
  | [letter, mark] => letter.isAlpha && (mark == ':' || mark == '|')
  | _ => false

/-- Checks what stands behind the scheme of files. -/
def checkFile (text : List Char) : Except UrlError Unit :=
  match text with
  | a :: b :: rest =>
    if isSlash true a && isSlash true b then
      let host := rest.takeWhile (!endsAuthority true ·)
      if host = [] ∨ isDrive host then .ok () else checkDomain host
    else .ok ()
  | _ => .ok ()

/-- The scheme of an absolute URL. -/
def scheme (text : String) : Except UrlError String := do
  match splitScheme? (significant text.toList) with
  | none => .error .noScheme
  | some (scheme, rest) =>
    match SchemeKind.of scheme with
    | .web => checkAuthority true (rest.dropWhile (isSlash true))
    | .file => checkFile rest
    | .other =>
      match rest with
      | '/' :: '/' :: rest => checkAuthority false rest
      | _ => .ok ()
    return scheme

end PipelineDepot.Url
