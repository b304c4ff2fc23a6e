import HttpChain.Text.Ascii
import HttpChain.Text.Utf8

/-!
# HttpChain.Url.Basic

URLs as the URL standard splits them, the reasons a text is none, and the
percent-encoding of their parts.
-/

namespace HttpChain

namespace Url

/-- Why a text is not a URL. -/
inductive Fault where
  | emptyHost
  | internationalName
  | port
  | ipv4
  | ipv6
  | domainCharacter
  | noBase
deriving DecidableEq, Inhabited

/-- The text of a fault. -/
def Fault.message : Fault → String
  | emptyHost => "empty host"
  | internationalName => "invalid international domain name"
  | port => "invalid port number"
  | ipv4 => "invalid IPv4 address"
  | ipv6 => "invalid IPv6 address"
  | domainCharacter => "invalid domain character"
  | noBase => "relative URL without a base"

/-- The host of a URL: a name, or an address as a number or as eight groups. -/
inductive Host where
  | domain (name : List Char)
  | ipv4 (address : Nat)
  | ipv6 (groups : List Nat)
deriving DecidableEq, Inhabited

/-- How the part behind the scheme is read. -/
inductive SchemeKind where
  | file
  | special (defaultPort : Nat)
  | other
deriving DecidableEq

/-- The kind of a lower-case scheme. -/
def SchemeKind.of (scheme : List Char) : SchemeKind :=
  match String.ofList scheme with
  | "http" => special 80
  | "https" => special 443
  | "ws" => special 80
  | "wss" => special 443
  | "ftp" => special 21
  | "file" => file
  | _ => other

/-- Whether a backslash counts as a slash. -/
def SchemeKind.isSpecial : SchemeKind → Bool
  | other => false
  | _ => true

/-! ## percent-encoding -/

/-- A byte as a percent sign and two upper-case digits. -/
def percentByte (b : UInt8) : List Char :=
  ['%', Text.upperHex (b.toNat / 16), Text.upperHex (b.toNat % 16)]

/-- Encode the characters outside ASCII, the controls, and those that `also`
holds of. -/
def percentEncode (also : Char → Bool) (cs : List Char) : List Char :=
  cs.flatMap fun c =>
    if c.toNat < 0x20 || 0x7F ≤ c.toNat || also c then (Text.utf8 [c]).flatMap percentByte
    else [c]

/-- Characters encoded in a fragment. -/
def inFragment (c : Char) : Bool := c == ' ' || c == '"' || c == '<' || c == '>' || c == '\x60'

/-- Characters encoded in a path. -/
def inPath (c : Char) : Bool :=
  inFragment c || c == '#' || c == '?' || c == '\x7b' || c == '\x7d'

/-- Characters encoded in a user name and a password. -/
def inUserInfo (c : Char) : Bool :=
  inPath c || c == '/' || c == ':' || c == ';' || c == '=' || c == '@' || c == '[' ||
    c == '\\' || c == ']' || c == '^' || c == '|'

/-- Characters encoded in a query. -/
def inQuery (special : Bool) (c : Char) : Bool :=
  c == ' ' || c == '"' || c == '#' || c == '<' || c == '>' || (special && c == '\'')

/-- The bytes of a text in which a percent sign with two digits stands for a
byte. -/
def percentDecode : List Char → List UInt8
  | [] => []
  | '%' :: a :: b :: cs =>
    match Text.hexValue? a, Text.hexValue? b with
    | some x, some y => UInt8.ofNat (16 * x + y) :: percentDecode cs
    | _, _ => 37 :: percentDecode (a :: b :: cs)
  | c :: cs => Text.utf8 [c] ++ percentDecode cs
termination_by cs => cs.length

/-! ## addresses -/

/-- The four bytes of an address. -/
def showIpv4 (n : Nat) : List Char :=
  Text.decimal (n / 0x1000000 % 256) ++ '.' :: Text.decimal (n / 0x10000 % 256) ++
    '.' :: Text.decimal (n / 0x100 % 256) ++ '.' :: Text.decimal (n % 256)

/-- The length of the run of zeros at the front. -/
def zerosAhead (groups : List Nat) : Nat := (groups.takeWhile (· == 0)).length

/-- Where the longest run of at least two zero groups starts, and its length;
the first of equally long ones. -/
def longestZeros (groups : List Nat) : Option (Nat × Nat) :=
  let runs := (List.range groups.length).map fun i => (i, zerosAhead (groups.drop i))
  runs.foldl (fun best r =>
    match best with
    | none => if 2 ≤ r.2 then some r else none
    | some b => if b.2 < r.2 then some r else some b) none

/-- Groups in lower-case hexadecimal with colons between them. -/
def showGroups (groups : List Nat) : List Char :=
  [':'].intercalate (groups.map fun g => (Nat.toDigits 16 g))

/-- An address with its longest run of zero groups left out. -/
def showIpv6 (groups : List Nat) : List Char :=
  match longestZeros groups with
  | none => showGroups groups
  | some (i, n) => showGroups (groups.take i) ++ ':' :: ':' :: showGroups (groups.drop (i + n))

/-- The text of a host. -/
def Host.toChars : Host → List Char
  | domain name => name
  | ipv4 n => showIpv4 n
  | ipv6 groups => '[' :: (showIpv6 groups ++ [']'])

end Url

/-- A URL. -/
structure Url where
  scheme : List Char
  username : List Char
  password : List Char
  host : Option Url.Host
  port : Option Nat
  path : List Char
  query : Option (List Char)
  fragment : Option (List Char)
deriving DecidableEq, Inhabited

namespace Url

/-- The host and the port, as they stand in a URL. -/
def authority (u : Url) : List Char :=
  (match u.host with
    | some h => h.toChars
    | none => []) ++
  (match u.port with
    | some p => ':' :: Text.decimal p
    | none => [])

/-- The user name and the password, as they stand in a URL. -/
def userInfo (u : Url) : List Char :=
  if u.username = [] ∧ u.password = [] then []
  else u.username ++ (if u.password = [] then [] else ':' :: u.password) ++ ['@']

/-- The path and the query. -/
def resource (u : Url) : List Char :=
  u.path ++
  (match u.query with
    | some q => '?' :: q
    | none => [])

/-- The text of a URL in normal form. -/
def toChars (u : Url) : List Char :=
  u.scheme ++ ':' ::
  ((match u.host with
    | some _ => '/' :: '/' :: (u.userInfo ++ u.authority)
    | none => if u.path.take 2 = ['/', '/'] then ['/', '.'] else []) ++
  u.resource ++
  (match u.fragment with
    | some f => '#' :: f
    | none => []))

/-- The URL without its user name and its password. -/
def withoutUserInfo (u : Url) : Url := { u with username := [], password := [] }

/-- The URL without its fragment. -/
def withoutFragment (u : Url) : Url := { u with fragment := none }

end Url

end HttpChain
