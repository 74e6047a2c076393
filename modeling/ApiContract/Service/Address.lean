import ApiContract.Number.Numeral
import ApiContract.Text.Letter
import ApiContract.Value.Display

/-!
# Addresses

`Address.ofUrl` splits a URL into scheme, host, port and path. Scheme and host are in lower case. A URL
is refused for brackets that hold no IPv6 address, for host characters that stand for delimiters, and for
a port that is no number up to 65535.
-/

namespace ApiContract

open ApiContract.Number ApiContract.Text

structure Address where
  scheme : String
  host : Option String
  port : Option Nat
  path : String
  deriving DecidableEq, Repr

namespace Address

/-! ## Literal hosts -/

/-- One of the four numbers of an IPv4 address. -/
def isOctet (digits : List Char) : Bool :=
  !digits.isEmpty && digits.length ≤ 3 && digits.all Char.isDigit &&
    (digits == ['0'] || digits.head? != some '0') && Nat.ofDigitChars 10 digits 0 ≤ 255

def isIPv4 (text : List Char) : Bool :=
  let octets := text.splitOn '.'
  octets.length == 4 && octets.all isOctet

/-- One of the groups of an IPv6 address. -/
def isGroup (text : List Char) : Bool :=
  !text.isEmpty && text.length ≤ 4 && text.all fun c => (hexDigit? c).isSome

/-- The groups of an address, where an IPv4 address at the end counts as two. -/
def groups? (text : List Char) : Option (List (List Char)) :=
  let groups := text.splitOn ':'
  match groups.getLast? with
  | none => none
  | some last =>
    if groups.length < 3 then none
    else if last.contains '.' then
      if isIPv4 last then some (groups.dropLast ++ [['0'], ['0']]) else none
    else some groups

/-- Whether groups make up an address: eight of them, or fewer with one gap between them. The groups
at the ends may only be empty next to a gap at that end. -/
def areGroups (groups : List (List Char)) : Bool :=
  let inner := (groups.drop 1).dropLast
  let first := groups.head?.getD []
  let last := groups.getLast?.getD []
  if groups.length > 9 then false
  else
    match inner.findIdx? (·.isEmpty) with
    | none => groups.length == 8 && groups.all isGroup
    | some gap =>
      let before := groups.take (gap + 1)
      let after := groups.drop (gap + 2)
      let before := if first.isEmpty then before.drop 1 else before
      let after := if last.isEmpty then after.dropLast else after
      (inner.drop (gap + 1)).all (!·.isEmpty) && (!first.isEmpty || before.isEmpty) &&
        (!last.isEmpty || after.isEmpty) && before.length + after.length < 8 &&
        before.all isGroup && after.all isGroup

/-- An IPv6 address, with a zone after a percent sign. -/
def isIPv6 (text : List Char) : Bool :=
  let address := text.takeWhile (· != '%')
  let zone := text.drop address.length
  let zoneOk := zone.isEmpty || (1 < zone.length && !(zone.drop 1).contains '%')
  zoneOk && !text.contains '/' && (groups? address).any areGroups

/-- An address of a future version: its version in hexadecimal, a point and a text. -/
def isFutureAddress (text : List Char) : Bool :=
  let version := (text.drop 1).takeWhile fun c => (hexDigit? c).isSome
  match (text.drop 1).drop version.length with
  | '.' :: _ :: _ => !version.isEmpty
  | _ => false

/-- Why a host in brackets is refused. -/
def bracketProblem? (host : List Char) : Option String :=
  if host.head? = some 'v' then
    if isFutureAddress host then none else some "IPvFuture address is invalid"
  else if isIPv4 host then some "An IPv4 address cannot be in brackets"
  else if isIPv6 host then none
  else some (quoteText (String.ofList host) ++ " does not appear to be an IPv4 or IPv6 address")

/-! ## Parts of a URL -/

/-- Characters whose compatibility form holds a delimiter of URLs. -/
def delimiterForms : Ranges :=
  [(0x2047, 0x2049), (0x2100, 0x2101), (0x2105, 0x2106), (0x2a74, 0x2a74), (0xfe13, 0xfe13),
    (0xfe16, 0xfe16), (0xfe55, 0xfe56), (0xfe5f, 0xfe5f), (0xfe6b, 0xfe6b), (0xff03, 0xff03),
    (0xff0f, 0xff0f), (0xff1a, 0xff1a), (0xff1f, 0xff20)]

/-- The text before and after the first `c`. -/
def cut (c : Char) (text : List Char) : List Char × Option (List Char) :=
  let before := text.takeWhile (· != c)
  match text.drop before.length with
  | [] => (before, none)
  | _ :: after => (before, some after)

def isSchemeChar (c : Char) : Bool := c.isAlphanum || c == '+' || c == '-' || c == '.'

/-- The URL without controls and blanks in front and without tabs and line ends. -/
def cleanUrl (url : List Char) : List Char :=
  (url.dropWhile fun c => c.toNat ≤ 0x20).filter fun c => c != '\t' && c != '\r' && c != '\n'

def splitScheme (url : List Char) : List Char × List Char :=
  match cut ':' url with
  | (scheme, some rest) =>
    if scheme.head?.any Char.isAlpha && scheme.all isSchemeChar then
      (scheme.map Char.toLower, rest)
    else ([], url)
  | _ => ([], url)

/-- The host with its port, which stands after two slashes, and the rest. -/
def splitHost (url : List Char) : List Char × List Char :=
  match url with
  | '/' :: '/' :: rest =>
    let host := rest.takeWhile fun c => c != '/' && c != '?' && c != '#'
    (host, rest.drop host.length)
  | url => ([], url)

/-- Why the part of a URL with the host is refused as a whole. -/
def hostProblem? (host : List Char) : Option String :=
  if host.contains '[' != host.contains ']' then some "Invalid IPv6 URL"
  else
    let bracketed :=
      if host.contains '[' then
        bracketProblem? ((cut ']' ((cut '[' host).2.getD [])).1)
      else none
    match bracketed with
    | some problem => some problem
    | none =>
      if host.any delimiterForms.contains then
        some ("netloc '" ++ String.ofList host ++
          "' contains invalid characters under NFKC normalization")
      else none

/-- The name and the port of a host, after what names a user. -/
def splitPort (host : List Char) : List Char × List Char :=
  let host := (host.reverse.takeWhile (· != '@')).reverse
  match cut '[' host with
  | (_, some bracketed) =>
    let (name, after) := cut ']' bracketed
    (name, (cut ':' (after.getD [])).2.getD [])
  | (_, none) =>
    let (name, port) := cut ':' host
    (name, port.getD [])

/-- Lower case up to a zone. -/
def lowerHost (name : List Char) : List Char :=
  let address := name.takeWhile (· != '%')
  lower address ++ name.drop address.length

def readPort (port : List Char) : Except String (Option Nat) :=
  if port.isEmpty then .ok none
  else if !port.all Char.isDigit then
    .error ("Port could not be cast to integer value as " ++ quoteText (String.ofList port))
  else if numeralLimit < port.length then
    .error ("Exceeds the limit (" ++ toString numeralLimit ++
      " digits) for integer string conversion: value has " ++ toString port.length ++
      " digits; use sys.set_int_max_str_digits() to increase the limit")
  else
    let n := Nat.ofDigitChars 10 port 0
    if n ≤ 65535 then .ok (some n) else .error "Port out of range 0-65535"

/-- The parts of a URL; query and fragment are left out. -/
def ofUrl (url : String) : Except String Address := do
  let (scheme, rest) := splitScheme (cleanUrl url.toList)
  let (host, rest) := splitHost rest
  if let some problem := hostProblem? host then
    throw problem
  let (name, port) := splitPort host
  let port ← readPort port
  return {
    scheme := String.ofList scheme,
    host := if name.isEmpty then none else some (String.ofList (lowerHost name)),
    port,
    path := String.ofList (rest.takeWhile fun c => c != '#' && c != '?') }

end Address

end ApiContract
