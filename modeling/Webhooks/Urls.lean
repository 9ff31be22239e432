import Webhooks.Python
import Webhooks.PythonText

/-!
# URLs as `urllib.parse` reads them

`urlsplit` of CPython 3.11 and the `hostname` and `port` of its result, with the
`ValueError`s they raise. The lower case and the compatibility form of characters
that are not ASCII are the interpreter's, and so is `ipaddress`.
-/
namespace Webhooks

/-- The parts of the interpreter that need the Unicode tables. -/
structure Unicode where
  lower : List Char → List Char
  nfkc : List Char → List Char
  decodeReplace : ByteArray → String

/-- `ipaddress`, and the policy over its addresses. -/
structure Addresses (Ip : Type) where
  /-- `ip_address`: the address a text denotes, or what its `ValueError` says. -/
  parse : String → Except String Ip
  /-- `str` of an address. -/
  text : Ip → String
  isIPv4 : Ip → Bool
  ipIsForbidden : Ip → Bool
  parse_text : ∀ ip, parse (text ip) = .ok ip

structure SplitResult where
  scheme : List Char
  netloc : List Char
  path : List Char
  query : List Char
  fragment : List Char
deriving DecidableEq

def valueError {α : Type} (text : String) : Except PyException α :=
  .error ⟨"ValueError", some text⟩

def isC0ControlOrSpace (c : Char) : Bool := c.toNat ≤ 32

def isSchemeChar (c : Char) : Bool := c.isAlphanum || c ∈ ['+', '-', '.']

def asciiLower (s : List Char) : List Char := s.map Char.toLower

/-- What stands after the last `sep`: the last of `rpartition`. -/
def afterLast (sep : Char) (s : List Char) : List Char := (Text.partition sep s.reverse).1.reverse

/-- The scheme in lower case, and the rest; a text without one is all rest. -/
def splitScheme (url : List Char) : List Char × List Char :=
  let (scheme, rest) := Text.partition ':' url
  if ':' ∈ url ∧ scheme.head?.any Char.isAlpha ∧ scheme.all isSchemeChar then
    (asciiLower scheme, rest)
  else ([], url)

def splitNetloc (url : List Char) : List Char × List Char :=
  match url with
  | '/' :: '/' :: rest =>
    let inside := fun c : Char => c ∉ ['/', '?', '#']
    (rest.takeWhile inside, rest.dropWhile inside)
  | _ => ([], url)

section
variable (py : Interpreter) (unicode : Unicode) {Ip : Type} (addresses : Addresses Ip)

def isHexDigit (c : Char) : Bool := c.isDigit || c.toLower ∈ ['a', 'b', 'c', 'd', 'e', 'f']

/-- `v`, hexadecimal digits, a dot and at least one more character. -/
def isIPvFuture (hostname : List Char) : Bool :=
  match hostname with
  | 'v' :: rest =>
    match rest.dropWhile isHexDigit with
    | '.' :: tail => !(rest.takeWhile isHexDigit).isEmpty && !tail.isEmpty
    | _ => false
  | _ => false

def checkBracketedHost (hostname : List Char) : Except PyException Unit :=
  if hostname.head? = some 'v' then
    if isIPvFuture hostname then .ok () else valueError "IPvFuture address is invalid"
  else
    match addresses.parse (String.ofList hostname) with
    | .error text => valueError text
    | .ok ip =>
      if addresses.isIPv4 ip then valueError "An IPv4 address cannot be in brackets" else .ok ()

def checkBracketedNetloc (netloc : List Char) : Except PyException Unit :=
  let (before, bracketed) := Text.partition '[' (afterLast '@' netloc)
  if '[' ∈ afterLast '@' netloc then
    let (hostname, port) := Text.partition ']' bracketed
    if before ≠ [] ∨ (port ≠ [] ∧ port.head? ≠ some ':') then valueError "Invalid IPv6 URL"
    else checkBracketedHost addresses hostname
  else checkBracketedHost addresses (Text.partition ':' (afterLast '@' netloc)).1

def checkBrackets (netloc : List Char) : Except PyException Unit :=
  if ('[' ∈ netloc) ≠ (']' ∈ netloc) then valueError "Invalid IPv6 URL"
  else if '[' ∈ netloc then checkBracketedNetloc addresses netloc
  else .ok ()

/-- Refuse characters whose compatibility form holds a delimiter. -/
def checkNetloc (netloc : List Char) : Except PyException Unit :=
  if netloc.all (·.toNat < 128) then .ok ()
  else
    let plain := netloc.filter fun c => c ∉ ['@', ':', '#', '?']
    let normal := unicode.nfkc plain
    if normal ≠ plain ∧ normal.any (· ∈ ['/', '?', '#', '@', ':']) then
      valueError ("netloc '" ++ String.ofList netloc ++
        "' contains invalid characters under NFKC normalization")
    else .ok ()

def urlsplit (url : List Char) : Except PyException SplitResult := do
  let url := (url.dropWhile isC0ControlOrSpace).filter fun c => c ∉ ['\t', '\r', '\n']
  let (scheme, url) := splitScheme url
  let (netloc, url) := splitNetloc url
  checkBrackets addresses netloc
  let (url, fragment) := Text.partition '#' url
  let (path, query) := Text.partition '?' url
  checkNetloc unicode netloc
  return { scheme, netloc, path, query, fragment }

/-- The text of the host and of the port in a netloc. -/
def hostinfo (parts : SplitResult) : List Char × List Char :=
  let info := afterLast '@' parts.netloc
  let (_, bracketed) := Text.partition '[' info
  if '[' ∈ info then
    let (hostname, port) := Text.partition ']' bracketed
    (hostname, (Text.partition ':' port).2)
  else Text.partition ':' info

/-- `hostname`: in lower case up to the zone, without a value where it is empty. -/
def SplitResult.hostname (parts : SplitResult) : Option (List Char) :=
  let hostname := (hostinfo parts).1
  if hostname = [] then none
  else
    let (address, zone) := Text.partition '%' hostname
    some (unicode.lower address ++ if '%' ∈ hostname then '%' :: zone else [])

def SplitResult.port (parts : SplitResult) : Except PyException (Option Nat) :=
  let port := (hostinfo parts).2
  if port = [] then .ok none
  else if port.all Char.isDigit then
    match readNatural port with
    | none =>
      valueError ("Exceeds the limit (4300 digits) for integer string conversion: value has " ++
        toString port.length ++ " digits; use sys.set_int_max_str_digits() to increase the limit")
    | some n => if n ≤ 65535 then .ok (some n) else valueError "Port out of range 0-65535"
  else
    valueError ("Port could not be cast to integer value as " ++ py.strRepr (String.ofList port))

end

end Webhooks
