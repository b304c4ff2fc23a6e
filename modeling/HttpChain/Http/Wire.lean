import HttpChain.Http.Transfer

/-!
# HttpChain.Http.Wire

Requests and responses as bytes on a connection.  A response is received byte by
byte, so that it does not matter how it is cut into packets
(`Receiver.feed_append`), and its head decides how its body ends: by a number of
bytes, by an empty chunk, or with the connection.
-/

namespace HttpChain

/-! ## requests -/

namespace Outgoing

/-- The end of a line. -/
def lineEnd : List UInt8 := [13, 10]

/-- The line of a field. -/
def fieldLine (f : Field) : List UInt8 := Text.bytes (f.name ++ ": ") ++ f.value ++ lineEnd

/-- The bytes of a request. -/
def message (o : Outgoing) : List UInt8 :=
  Text.bytes (o.method.name ++ " " ++ String.ofList o.url.resource ++ " HTTP/1.1") ++ lineEnd ++
    o.fields.flatMap fieldLine ++ lineEnd ++ o.content

end Outgoing

/-! ## responses -/

/-- The lines of a response. -/
inductive LineKind where
  | status
  | field
  | chunkSize
  | trailer
deriving DecidableEq

/-- What a receiver waits for: the rest of a line whose last byte is kept first,
a number of bytes, the end of a chunk, the end of the connection, or nothing,
when the response is whole, its body is broken, or it is no response. -/
inductive Awaited where
  | line (kind : LineKind) (read : List UInt8)
  | bytes (missing : Nat)
  | chunk (missing : Nat)
  | chunkEnd
  | connectionEnd
  | whole
  | brokenBody
  | noResponse
deriving DecidableEq

/-- A receiver: what it waits for, what it knows of the head, and the content
with its last byte first. -/
structure Receiver where
  method : Method
  awaited : Awaited
  status : Nat
  fields : List Field
  content : List UInt8
deriving DecidableEq

namespace Receiver

/-- A receiver that waits for the response to a method. -/
def start (m : Method) : Receiver := ⟨m, .line .status [], 0, [], []⟩

/-- Wait for something else. -/
def await (r : Receiver) (a : Awaited) : Receiver := { r with awaited := a }

/-- The characters of a line that is kept with its last byte first. -/
def lineText (read : List UInt8) : List Char :=
  let line := if read.head? = some 13 then read.tail else read
  line.reverse.map fun b => Char.ofNat b.toNat

/-- The status of a first line. -/
def status? (line : List Char) : Option Nat :=
  match line with
  | 'H' :: 'T' :: 'T' :: 'P' :: '/' :: '1' :: '.' :: _ :: ' ' :: a :: b :: c :: reason =>
    if a.isDigit ∧ b.isDigit ∧ c.isDigit ∧ (reason = [] ∨ reason.head? = some ' ') then
      (String.ofList [a, b, c]).toNat?
    else none
  | _ => none

/-- The value of a field without the spaces and tabs around it. -/
def fieldValue (cs : List Char) : List UInt8 :=
  let isSpace (c : Char) : Bool := c == ' ' || c == '\t'
  (((cs.dropWhile isSpace).reverse.dropWhile isSpace).reverse).map fun c => UInt8.ofNat c.toNat

/-- The field of a line. -/
def field? (line : List Char) : Option Field := do
  let (name, value) ← Text.splitOnce ':' line
  if Field.isName (String.ofList name) then
    some ⟨String.ofList (Text.foldCase name), fieldValue value⟩
  else none

/-- The number of bytes of a chunk. -/
def chunkSize? (line : List Char) : Option Nat :=
  match Text.trim (line.takeWhile (· ≠ ';')) with
  | [] => none
  | digits => digits.foldlM (fun n c => (Text.hexValue? c).map (16 * n + ·)) 0

/-- The value of a field of the head. -/
def value? (r : Receiver) (name : String) : Option String :=
  (r.fields.find? fun (f : Field) => f.name = name).bind Field.text?

/-- Whether the body comes in chunks. -/
def isChunked (r : Receiver) : Bool :=
  match r.value? "transfer-encoding" with
  | none => false
  | some v =>
    (Text.splitAll ',' v.toList).getLast?.any fun w =>
      Text.foldCase (Text.trim w) = "chunked".toList

/-- The response, so far, and whether it is all of it. -/
def response (r : Receiver) (complete : Bool) (duration : Nat) : Incoming :=
  ⟨r.status, r.fields, r.content.reverse, complete, duration⟩

/-- What is awaited behind the head: another head behind a provisional one, or
the body. -/
def behindHead (r : Receiver) : Receiver :=
  if r.status < 200 then { start r.method with status := r.status }
  else if !(r.response true 0).hasBody r.method then r.await .whole
  else if r.isChunked then r.await (.line .chunkSize [])
  else match r.value? "content-length" with
    | none => r.await .connectionEnd
    | some v => match v.toNat? with
      | none => r.await .noResponse
      | some 0 => r.await .whole
      | some n => r.await (.bytes n)

/-- Take in a line. -/
def takeLine (r : Receiver) (line : List Char) : LineKind → Receiver
  | .status =>
    match status? line with
    | some status => { r with awaited := .line .field [], status }
    | none => r.await .noResponse
  | .field =>
    if line = [] then r.behindHead
    else match field? line with
      | some f => { r with awaited := .line .field [], fields := r.fields ++ [f] }
      | none => r.await .noResponse
  | .chunkSize =>
    match chunkSize? line with
    | none => r.await .brokenBody
    | some 0 => r.await (.line .trailer [])
    | some n => r.await (.chunk n)
  | .trailer => r.await (if line = [] then .whole else .line .trailer [])

/-- Take in a byte. -/
def take (r : Receiver) (b : UInt8) : Receiver :=
  match r.awaited with
  | .line kind read =>
    if b = 10 then r.takeLine (lineText read) kind else r.await (.line kind (b :: read))
  | .bytes n =>
    { r with content := b :: r.content, awaited := if n ≤ 1 then .whole else .bytes (n - 1) }
  | .chunk n =>
    { r with content := b :: r.content, awaited := if n ≤ 1 then .chunkEnd else .chunk (n - 1) }
  | .chunkEnd => if b = 10 then r.await (.line .chunkSize []) else r
  | .connectionEnd => { r with content := b :: r.content }
  | .whole => r
  | .brokenBody => r
  | .noResponse => r

/-- Take in bytes. -/
def feed (r : Receiver) (bytes : List UInt8) : Receiver := bytes.foldl take r

theorem feed_append (r : Receiver) (bytes more : List UInt8) :
    r.feed (bytes ++ more) = (r.feed bytes).feed more := List.foldl_append

/-- Whether nothing is awaited. -/
def isSettled (r : Receiver) : Bool :=
  r.awaited = .whole || r.awaited = .brokenBody || r.awaited = .noResponse

/-- Whether the head is there. -/
def hasHead (r : Receiver) : Bool :=
  match r.awaited with
  | .line .status _ => false
  | .line .field _ => false
  | .noResponse => false
  | _ => true

/-- The response when its connection has ended, with the time until its head was
there. -/
def incoming? (r : Receiver) (duration : Nat) : Option Incoming :=
  if r.hasHead then
    some (r.response (r.awaited = .whole ∨ r.awaited = .connectionEnd) duration)
  else none

end Receiver

end HttpChain
