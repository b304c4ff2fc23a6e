import HttpChain.Url.Address
import HttpChain.Url.International

/-!
# HttpChain.Url.Parser

Reading a URL without a base.  Blanks and controls around the text and line
ends and tabs inside it do not count; a backslash is a slash where the scheme
is special; dot segments of the path are resolved and each part is
percent-encoded as far as it has to be.
-/

namespace HttpChain.Url

/-- Cut controls and spaces from both ends, and line ends and tabs everywhere. -/
def cleaned (cs : List Char) : List Char :=
  let outer := fun (c : Char) => c.toNat ≤ 0x20
  let cs := ((cs.dropWhile outer).reverse.dropWhile outer).reverse
  cs.filter fun c => c ≠ '\t' && c ≠ '\n' && c ≠ '\r'

/-- The scheme in lower case, and what stands behind its colon. -/
def scheme? : List Char → Option (List Char × List Char)
  | [] => none
  | c :: cs =>
    let isTail := fun (c : Char) => c.isAlphanum || c == '+' || c == '-' || c == '.'
    if c.isAlpha then
      match cs.dropWhile isTail with
      | ':' :: rest => some ((c :: cs.takeWhile isTail).map Char.toLower, rest)
      | _ => none
    else none

/-- Where an authority ends. -/
def endsAuthority (special : Bool) (c : Char) : Bool :=
  c == '/' || c == '?' || c == '#' || (special && c == '\\')

/-! ## authority -/

/-- Split behind the last occurrence of a character. -/
def splitLast (sep : Char) (cs : List Char) : Option (List Char × List Char) :=
  (Text.splitOnce sep cs.reverse).map fun (b, a) => (a.reverse, b.reverse)

/-- The user name and the password of an authority, encoded, and the rest. -/
def userInfo? (authority : List Char) : Except Fault (List Char × List Char × List Char) :=
  match splitLast '@' authority with
  | none => pure ([], [], authority)
  | some ([], []) => throw .emptyHost
  | some (info, rest) =>
    let (name, password) := (Text.splitOnce ':' info).getD (info, [])
    pure (percentEncode inUserInfo name, percentEncode inUserInfo password, rest)

/-- The length of a host at the front of an authority: up to a colon outside
brackets. -/
def hostLength : Bool → List Char → Nat
  | _, [] => 0
  | _, '[' :: cs => hostLength true cs + 1
  | _, ']' :: cs => hostLength false cs + 1
  | inside, c :: cs => if c = ':' ∧ !inside then 0 else hostLength inside cs + 1

/-- An address in brackets. -/
def bracketed? (cs : List Char) : Except Fault Host :=
  if cs.getLast? = some ']' then
    match ipv6? cs.dropLast with
    | some gs => pure (.ipv6 gs)
    | none => throw .ipv6
  else throw .ipv6

/-- A host under a special scheme: percent signs are decoded, and a name that
ends in a number has to be an address. -/
def specialHost? : List Char → Except Fault Host
  | '[' :: cs => bracketed? cs
  | cs =>
    match (Text.decode? (percentDecode cs)).bind fun s => International.toAscii? s.toList with
    | none => throw .internationalName
    | some name =>
      if name = [] then throw .emptyHost
      else if endsInNumber name then
        match ipv4? name with
        | some a => pure (.ipv4 a)
        | none => throw .ipv4
      else pure (.domain name)

/-- Characters that no host holds, whatever its scheme. -/
def isForbiddenInHost (c : Char) : Bool :=
  c ∈ ['\x00', '\t', '\n', '\r', ' ', '#', '/', ':', '<', '>', '?', '@', '[', '\\', ']', '^', '|']

/-- A host under any other scheme. -/
def opaqueHost? : List Char → Except Fault Host
  | '[' :: cs => bracketed? cs
  | cs =>
    if cs.any isForbiddenInHost then throw .domainCharacter
    else pure (.domain (percentEncode (fun _ => false) cs))

/-- A port behind its colon; nothing there means the default one. -/
def port? (default : Option Nat) (cs : List Char) : Except Fault (Option Nat) :=
  if !cs.all Text.isDigit then throw .port
  else if 65535 < Text.decimalValue cs then throw .port
  else if cs = [] ∨ default = some (Text.decimalValue cs) then pure none
  else pure (some (Text.decimalValue cs))

/-- The host and the port of an authority without user name. -/
def hostAndPort? (kind : SchemeKind) (cs : List Char) : Except Fault (Host × Option Nat) := do
  let n := hostLength false cs
  let text := cs.take n
  let host ← if kind.isSpecial then
      if text = [] then throw .emptyHost else specialHost? text
    else opaqueHost? text
  match cs.drop n with
  | ':' :: digits =>
    if host = .domain [] then throw .emptyHost
    else
      let default := match kind with
        | .special p => some p
        | _ => none
      let port ← port? default digits
      pure (host, port)
  | _ => pure (host, none)

/-! ## path -/

/-- A segment that stands for the directory itself. -/
def isDot (segment : List Char) : Bool :=
  segment = ['.'] || Text.foldCase segment = ['%', '2', 'e']

/-- A segment that stands for the directory above. -/
def isDoubleDot (segment : List Char) : Bool :=
  match Text.foldCase segment with
  | '.' :: rest => isDot rest
  | '%' :: '2' :: 'e' :: rest => isDot rest
  | _ => false

/-- A letter and a colon or a bar. -/
def isDriveLetter : List Char → Bool
  | [a, b] => a.isAlpha && (b == ':' || b == '|')
  | _ => false

/-- The directory above the one that `done` ends in; a drive letter is not
left. -/
def parent (done : List (List Char)) : List (List Char) :=
  match done.getLast? with
  | some l => if isDriveLetter l then done else done.dropLast
  | none => done

/-- Resolve the dot segments behind `done`. -/
def resolveDots (done : List (List Char)) : List (List Char) → List (List Char)
  | [] => done
  | [s] =>
    if isDoubleDot s then parent done ++ [[]]
    else if isDot s then done ++ [[]]
    else done ++ [s]
  | s :: t :: rest =>
    if isDoubleDot s then resolveDots (parent done) (t :: rest)
    else if isDot s then resolveDots done (t :: rest)
    else resolveDots (done ++ [s]) (t :: rest)

/-- The segments of a path behind its first slash. -/
def segments (special : Bool) (cs : List Char) : List (List Char) :=
  Text.splitAll '/' (if special then cs.map fun c => if c = '\\' then '/' else c else cs)

/-- The path of segments, each behind a slash. -/
def joinSegments (ss : List (List Char)) : List Char :=
  ss.flatMap fun s => '/' :: percentEncode inPath s

/-- Cut the slash that a path may start with. -/
def withoutSlash (special : Bool) : List Char → List Char
  | '/' :: cs => cs
  | '\\' :: cs => if special then cs else '\\' :: cs
  | cs => cs

/-- The normal form of a path that starts at the root. -/
def rootedPath (special : Bool) (cs : List Char) : List Char :=
  joinSegments (resolveDots [] (segments special (withoutSlash special cs)))

/-- The normal form of the path of a file: its empty segments at the front go,
and a drive letter is written with a colon. -/
def filePath (cs : List Char) : List Char :=
  let ss := (resolveDots [] (segments true (withoutSlash true cs))).dropWhile (· = [])
  match ss with
  | [] => ['/']
  | [a, b] :: rest => joinSegments ((if isDriveLetter [a, b] then [a, ':'] else [a, b]) :: rest)
  | ss => joinSegments ss

/-! ## the whole -/

/-- Split a text in front of its fragment, and that in front of its query. -/
def splitTail (cs : List Char) : List Char × Option (List Char) × Option (List Char) :=
  let (front, fragment) := match Text.splitOnce '#' cs with
    | some (a, f) => (a, some f)
    | none => (cs, none)
  match Text.splitOnce '?' front with
  | some (a, q) => (a, some q, fragment)
  | none => (front, none, fragment)

/-- The host of a file URL and the rest of its path. -/
def fileHost? (cs : List Char) : Except Fault (Host × List Char) :=
  let text := cs.takeWhile fun c => !endsAuthority true c
  if text = [] ∨ isDriveLetter text then pure (.domain [], cs)
  else do
    let host ← specialHost? text
    let host := if host = .domain "localhost".toList then .domain [] else host
    pure (host, cs.drop text.length)

/-- A URL whose scheme has been read. -/
def behindScheme (scheme cs : List Char) : Except Fault Url := do
  let kind := SchemeKind.of scheme
  let special := kind.isSpecial
  let isSlash := fun (c : Char) => c == '/' || (special && c == '\\')
  let (front, query, fragment) := splitTail cs
  let finish (name password : List Char) (host : Option Host) (port : Option Nat)
      (path : List Char) : Url :=
    { scheme, username := name, password, host, port, path
      query := query.map (percentEncode (inQuery special))
      fragment := fragment.map (percentEncode inFragment) }
  let withAuthority (cs : List Char) : Except Fault Url := do
    let authority := cs.takeWhile fun c => !endsAuthority special c
    let path := cs.drop authority.length
    let (name, password, rest) ← userInfo? authority
    let (host, port) ← hostAndPort? kind rest
    if host = .domain [] ∧ (name ≠ [] ∨ password ≠ []) then throw .emptyHost
    else
      let path := if !special && path = [] then [] else rootedPath special path
      pure (finish name password (some host) port path)
  match kind with
  | .special _ => withAuthority (front.dropWhile isSlash)
  | .file =>
    if (front.take 2).length = 2 ∧ (front.take 2).all isSlash then
      let (host, rest) ← fileHost? (front.drop 2)
      pure (finish [] [] (some host) none (filePath rest))
    else pure (finish [] [] (some (.domain [])) none (filePath front))
  | .other =>
    match front with
    | '/' :: '/' :: cs => withAuthority cs
    | '/' :: _ => pure (finish [] [] none none (rootedPath false front))
    | _ => pure (finish [] [] none none (percentEncode (fun _ => false) front))

/-- Read a URL. -/
def parse (text : String) : Except Fault Url :=
  match scheme? (cleaned text.toList) with
  | none => throw .noBase
  | some (scheme, rest) => behindScheme scheme rest

end HttpChain.Url
