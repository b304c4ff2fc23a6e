import HttpChain.Http.Wire
import HttpChain.Program
import HttpChain.Usage
import Std.Async.DNS
import Std.Async.Signal
import Std.Async.System
import Std.Async.TCP
import Std.Async.Timer

/-!
# HttpChain.Main

The program on a real machine.  The program is a function of what is known of
the machine; it is evaluated again with each thing more that is known, and what
it has done beyond the evaluation before is then done in fact.  Connections are
unencrypted ones only, so requests to `https` stay unanswered.
-/

namespace HttpChain.Main

open Std.Async

/-! ## the network -/

/-- The address of a host, as it is looked up. -/
def hostName : Url.Host → String
  | .ipv6 groups => String.ofList (Url.showIpv6 groups)
  | host => String.ofList host.toChars

/-- The address of a connection. -/
def socketAddress (address : Std.Net.IPAddr) (port : UInt16) : Std.Net.SocketAddress :=
  match address with
  | .v4 a => .v4 ⟨a, port⟩
  | .v6 a => .v6 ⟨a, port⟩

/-- Connect to the first address that can be reached. -/
def connect (port : UInt16) : List Std.Net.IPAddr → Async (Option TCP.Socket.Client)
  | [] => pure none
  | address :: more => do
    let client ← TCP.Socket.Client.mk
    try
      client.connect (socketAddress address port)
      pure (some client)
    catch _ => connect port more

/-- Receive a response up to its end, with the time when its head was there. -/
partial def receive (client : TCP.Socket.Client) (start : Nat) (head : Option Nat) (r : Receiver) :
    Async Contact := do
  let now ← IO.monoNanosNow
  let head := if r.hasHead then some (head.getD now) else none
  let answer : Contact :=
    match r.incoming? ((head.getD start - start) / 1000) with
    | some i => .answered i
    | none => .unanswered
  if r.isSettled then pure answer
  else
    match ← client.recv? 65536 with
    | some bytes => receive client start head (r.feed bytes.toList)
    | none => pure answer

/-- Send a request and receive the response. -/
def converse (o : Outgoing) : Async Contact := do
  match o.url.scheme == "http".toList, o.url.host with
  | true, some host =>
    try
      let start ← IO.monoNanosNow
      let addresses ← DNS.getAddrInfo (hostName host) ""
      match ← connect (UInt16.ofNat (o.url.port.getD 80)) addresses.toList with
      | some client =>
        client.send o.message.toByteArray
        receive client start none (.start o.method)
      | none => pure .unanswered
    catch _ => pure .unanswered
  | _, _ => pure .unanswered

/-- Wait for the signal that interrupts the program. -/
def interruption : Async Contact := do
  let waiter ← Signal.Waiter.mk .sigint false
  let task ← waiter.wait
  discard (await task)
  pure .interrupted

/-- Wait for some seconds. -/
def impatience (seconds : Nat) : Async Contact := do
  sleep (.ofNat (1000 * seconds))
  pure .unanswered

/-- What becomes of a request within some seconds. -/
def contact (seconds : Nat) (o : Outgoing) : IO Contact :=
  Async.block (Async.raceAll #[converse o, impatience seconds, interruption])

/-! ## files -/

/-- What stands at a place, as far as it can be read. -/
def look (p : Place) : IO (Option Node) := do
  try
    let content ← IO.FS.readBinFile ("/" ++ "/".intercalate p)
    pure (some (.file content.toList))
  catch
    | .inappropriateType .. => pure (some .directory)
    | _ => pure none

/-- Add what stands on the way along paths. -/
def survey (t : FileTree) (paths : List String) : IO FileTree :=
  (paths.flatMap (Path.places t.workingDirectory)).foldlM (fun t p => do
    if (t.node? p).isSome then pure t
    else match ← look p with
      | some n => pure (t.set p n)
      | none => pure t) t

/-- Make the files on the disk those of another tree. -/
def store (disk files : FileTree) : IO Unit :=
  files.nodes.reverse.forM fun (p, n) =>
    if disk.node? p = some n then pure ()
    else
      let path := "/" ++ "/".intercalate p
      match n with
      | .directory => IO.FS.createDir path
      | .file content => IO.FS.writeBinFile path content.toByteArray

/-! ## the program -/

/-- What is known of the machine, and what has been done: the arguments, the
files as they were and as they are now, the paths looked at, the contacts, the
draws, and the lengths of the output and of the notes. -/
structure Course where
  arguments : List String
  environment : Environment
  colors : Bool
  keys : Option (List Key)
  files : FileTree
  disk : FileTree
  surveyed : List String
  contacts : Array Contact
  draws : Array (Nat × Nat)
  printed : Nat
  noted : Nat

namespace Course

/-- The machine, as far as it is known. -/
def machine (c : Course) : Machine :=
  { files := c.files
    environment := c.environment
    keys := c.keys
    network := fun i _ => c.contacts.getD i .pending
    draws := ⟨fun i => (c.draws.getD i (0, 0)).1, fun i => (c.draws.getD i (0, 0)).2, 0⟩
    colors := c.colors }

/-- The time now, as it is logged. -/
def timestamp : IO String := do
  let now ← Std.Time.Timestamp.now
  let time := (Std.Time.DateTime.ofTimestampWithZone now .UTC).toPlainDateTime
  pure (time.format "uuuu-MM-dd'T'HH:mm:ss.SSSSSS'Z'")

/-- Draw another value. -/
def draw (c : Course) : IO Course := do
  let now ← Std.Time.Timestamp.now
  let bytes ← IO.getRandomBytes 16
  let identifier := randomIdentifier (bytes.toList.foldl (fun n b => 256 * n + b.toNat) 0)
  pure { c with draws := c.draws.push (now.toSecondsSinceUnixEpoch.val.toNat, identifier) }

/-- Do what the program has done beyond what was done before. -/
def catchUp (c : Course) (e : Program.End) : IO Course := do
  let output ← IO.getStdout
  output.putStr (e.session.output.drop c.printed).toString
  output.flush
  let time ← timestamp
  (e.notes.drop c.noted).forM fun n => IO.eprintln (n.render time)
  store c.disk e.session.files
  pure { c with
    disk := e.session.files, printed := e.session.output.length, noted := e.notes.length }

/-- Ask for the answer to a question, a line of keys.  The terminal edits lines
itself, so a line that was refused is erased before the next one. -/
def ask (c : Course) (question : String) : IO Course := do
  IO.eprint (question ++ " ")
  let line ← (← IO.getStdin).getLine
  let keys := c.keys.getD []
  let erasing := (keys.reverse.tail.takeWhile (· ≠ .enter)).map fun _ => Key.backspace
  let typed := (line.toList.filter (· ≠ '\n')).map Key.ofChar
  let more := if line = "" then [Key.escape] else erasing ++ typed ++ [Key.enter]
  pure { c with keys := some (keys ++ more) }

/-- End the program. -/
def conclude (c : Course) (e : Program.End) : IO UInt32 := do
  match e.outcome with
  | .refused r =>
    let lines := r.lines
    lines.forM fun line => if e.outcome.code = 0 then IO.println line else IO.eprintln line
  | _ => (e.outcome.lines c.colors).forM fun line => IO.eprintln line
  pure (UInt32.ofNat e.outcome.code)

/-- Go on with the program up to its end. -/
partial def run (c : Course) : IO UInt32 := do
  let e := Program.onCommandLine c.machine c.arguments
  let s := e.session
  if c.draws.size < s.drawn then run (← c.draw)
  else match s.attached.filter (· ∉ c.surveyed) with
  | path :: paths =>
    let files ← survey c.files (path :: paths)
    run { c with files, surveyed := path :: paths ++ c.surveyed }
  | [] =>
    let c ← c.catchUp e
    match s.sent[c.contacts.size]?, e.outcome with
    | some o, _ => run { c with contacts := c.contacts.push (← contact s.patience o) }
    | none, .failed (.prompt (.unanswered question)) => run (← c.ask question)
    | none, _ => c.conclude e

end Course

/-- The names on the way to the working directory. -/
def workingDirectory : IO Place := do
  let path := toString (← IO.currentDir)
  pure ((Path.parts path.toList).filter (· ≠ []) |>.map String.ofList)

/-- The program as it begins. -/
def start (arguments : List String) : IO Course := do
  let environment ← System.getEnv
  let place ← workingDirectory
  let bare : FileTree := ⟨[], place, environment.get? "HOME"⟩
  let paths := match CommandLine.parse arguments with
    | .ok i => ConfigFile.candidates bare i.config i.bundle
    | .error _ => []
  let files ← survey bare paths
  let isTerminal ← (← IO.getStdin).isTty
  let colors := Program.showsStyles environment.get? (← (← IO.getStdout).isTty)
  pure { arguments, environment := environment.get?, colors
         keys := if isTerminal then some [] else none
         files, disk := files, surveyed := []
         contacts := #[], draws := #[], printed := 0, noted := 0 }

end HttpChain.Main

/-- Run the program with the arguments of its command line. -/
def main (arguments : List String) : IO UInt32 := do
  (← HttpChain.Main.start arguments).run
