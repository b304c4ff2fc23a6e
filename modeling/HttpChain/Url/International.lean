import HttpChain.Text.Category
import HttpChain.Text.Direction
import HttpChain.Text.Joining
import HttpChain.Url.Mapping
import HttpChain.Url.Punycode

/-!
# HttpChain.Url.International

Host names outside ASCII.  A name is mapped character by character, brought into
its composed form and cut into labels at points.  A label with characters
outside ASCII is written in Punycode behind `xn--`; one that is written so
already has to be what such a label would be written as.
-/

namespace HttpChain.Url.International

/-! ## mapping -/

/-- ASCII characters that no host name may hold. -/
def isForbidden (c : Char) : Bool :=
  c.toNat ≤ 0x20 || c.toNat == 0x7F ||
    c ∈ ['%', '#', '/', ':', '<', '>', '?', '@', '[', '\\', ']', '^', '|']

/-- Map the characters of a name. -/
def mapAll? : List Char → Option (List Char)
  | [] => some []
  | c :: cs => do
    let rest ← mapAll? cs
    match Mapping.of c with
    | .kept => some (c :: rest)
    | .dropped => some rest
    | .replaced ds => some (ds ++ rest)
    | .refused => none

/-- Characters outside ASCII. -/
def isForeign (c : Char) : Bool := 0x80 ≤ c.toNat

/-! ## joiners -/

/-- Whether a character that does not join stands between two that would: one
that joins to the right before it, and one that joins to the left behind it. -/
def betweenJoining (before after : List Char) : Bool :=
  let isTransparent := fun c => Text.Joining.of c == 'T'
  let joinsOn (cs : List Char) (side : Char) : Bool :=
    match cs.dropWhile isTransparent with
    | c :: _ => Text.Joining.of c == side || Text.Joining.of c == 'D'
    | [] => false
  joinsOn before 'L' && joinsOn after 'R'

/-- Whether joiners stand only where they make a difference; `before` is what
stands before, from the last. -/
def joinersFit (before : List Char) : List Char → Bool
  | [] => true
  | c :: cs =>
    let silenced := before.head?.any Text.Normalization.isVirama
    (if c = '\u200c' then silenced || betweenJoining before cs
      else if c = '\u200d' then silenced
      else true) && joinersFit (c :: before) cs

/-! ## directions -/

/-- Whether a label has characters that are written from the right. -/
def isRightToLeft (label : List Char) : Bool :=
  label.any fun c => Text.Direction.of c ∈ ['R', 'A', 'N']

/-- Whether the directions in a label fit together: it starts with a letter, holds
only what goes with that letter, and ends in a letter or a digit. -/
def directionsFit (label : List Char) : Bool :=
  let ds := label.map Text.Direction.of
  let ending := (ds.reverse.dropWhile (· == 'M')).head?
  match ds.head? with
  | none => true
  | some 'L' =>
    ds.all (fun d => d ∈ ['L', 'E', 'S', 'C', 'T', 'O', 'B', 'M']) && ending.any fun d => d ∈ ['L', 'E']
  | some d =>
    (d == 'R' || d == 'A') &&
      ds.all (fun d => d ∈ ['R', 'A', 'N', 'E', 'S', 'C', 'T', 'O', 'B', 'M']) &&
      (ending.any fun d => d ∈ ['R', 'A', 'E', 'N']) && !(ds.contains 'E' && ds.contains 'N')

/-! ## labels -/

/-- The start of a label in Punycode. -/
def asciiStart : List Char := "xn--".toList

/-- Whether a label outside ASCII is one that may be written. -/
def isWellFormed (label : List Char) : Bool :=
  let startsWithMark := match label.head? with
    | some c => match Text.Category.of c with
      | .nonspacingMark => true
      | .spacingMark => true
      | .enclosingMark => true
      | _ => false
    | none => false
  !startsWithMark && joinersFit [] label

/-- The characters of a label, which may be written in Punycode. -/
def characters? (label : List Char) : Option (List Char) :=
  match Text.after? asciiStart label with
  | none => if !label.any isForeign || isWellFormed label then some label else none
  | some encoded =>
    if label.any isForeign then none
    else match Punycode.decode? encoded with
      | none => none
      | some decoded =>
        if decoded.any isForeign && decoded.all (fun c => Mapping.of c = .kept) &&
            Text.Normalization.nfc decoded == decoded && isWellFormed decoded then
          some decoded
        else none

/-- The ASCII form of a label. -/
def asciiForm (label : List Char) : List Char :=
  if label.any isForeign then asciiStart ++ Punycode.encode label else label

/-- The ASCII form of a name. -/
def toAscii? (name : List Char) : Option (List Char) := do
  let mapped := Text.Normalization.nfc (← mapAll? name)
  if mapped.any isForbidden then none
  else
    let labels ← (Text.splitAll '.' mapped).mapM characters?
    if labels.any isRightToLeft && !labels.all directionsFit then none
    else pure (['.'].intercalate (labels.map asciiForm))

end HttpChain.Url.International
