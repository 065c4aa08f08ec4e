import Rolebook.Http.Exchange
import Rolebook.Program
import Rolebook.Settings.EnvFile
import Std.Async.DNS
import Std.Async.TCP
import Std.Async.Timer

/-!
# The command line

The program on a real network, with a real clock and environment. Requests go out over TCP, one
connection each; connections that would have to be encrypted are not made. Settings may also stand
in a file `.env` in the current directory or one above it.
-/

namespace Rolebook

open Std.Async (Async)
open Std.Async.TCP.Socket (Client)

/-! ## Sending requests -/

/-- The address of a socket. -/
def socketAddress (address : Std.Net.IPAddr) (port : UInt16) : Std.Net.SocketAddress :=
  match address with
  | .v4 addr => .v4 ⟨addr, port⟩
  | .v6 addr => .v6 ⟨addr, port⟩

/-- The host of a URL as it is looked up. -/
def lookupName : Url.Host → String
  | .ipv6 pieces => Url.Ipv6.text pieces
  | host => host.text

/-- The answer on a connection, from the bytes that have come so far. -/
partial def receive (client : Client) (heard : IO.Ref (List UInt8)) : Async Http.Reply := do
  let bytes ← heard.get
  match Http.Exchange.read? false bytes with
  | some reply => return reply
  | none =>
    match ← client.recv? 65536 with
    | some more =>
      heard.set (bytes ++ more.toList)
      receive client heard
    | none => return (Http.Exchange.read? true bytes).getD .dropped

/-- A request on a connection of its own to the first address that takes it. -/
def converse (r : Http.Request) (heard : IO.Ref (List UInt8)) (port : UInt16) :
    List Std.Net.IPAddr → Async Http.Reply
  | [] => return .dropped
  | address :: others => do
    let client ← Client.mk
    let connected ←
      try
        client.connect (socketAddress address port)
        pure true
      catch _ => pure false
    if connected then
      client.send ⟨(Http.Exchange.bytes r).toArray⟩
      receive client heard
    else converse r heard port others

/-- A request to the host that it names. What comes back is kept in `heard`. -/
def deliver (r : Http.Request) (heard : IO.Ref (List UInt8)) : Async Http.Reply := do
  match r.url.authority with
  | some authority =>
    if r.url.scheme = "http" then
      let port := authority.port.getD 80
      let addresses ← Std.Async.DNS.getAddrInfo (lookupName authority.host) (toString port)
      converse r heard port.toUInt16 addresses.toList
    else return .dropped
  | none => return .dropped

instance : Inhabited Http.Reply := ⟨.dropped⟩

/-- Requests over TCP that wait no longer than `patience` milliseconds for the end of their answer.
-/
def tcp (patience : Nat) : Http.Transport IO := fun r => do
  let heard ← IO.mkRef []
  let expire : Async Http.Reply := do
    Std.Async.sleep (.ofNat patience)
    return Http.Exchange.expired (← heard.get)
  try (Async.race (deliver r heard) expire).block
  catch _ => return .dropped

/-! ## Batches -/

/-- A membership call that fails if it takes too long. -/
def timed (call : RoleId → Operation → Attempt IO Unit) (limits : Limits) (role : RoleId)
    (o : Operation) : IO Outcome := do
  let start ← IO.monoMsNow
  let result ← (call role o).run
  let took := (← IO.monoMsNow) - start
  return ⟨o, if limits.timeout < took then .error (.overdue o role limits.timeout) else result⟩

/-- Carries out operations from a queue until it is empty. -/
partial def serve (queue : IO.Ref (List Operation)) (run : Operation → IO Outcome) :
    IO (List Outcome) := do
  let next? ← queue.modifyGet fun
    | [] => (none, [])
    | o :: os => (some o, os)
  match next? with
  | none => return []
  | some o => return (← run o) :: (← serve queue run)

/-- Carries out a batch with as many workers as may be at work at once. -/
def workers : Http.Dispatch IO := fun call limits role operations => do
  let queue ← IO.mkRef operations
  let count := min limits.effective.concurrency operations.length
  let tasks ← (List.replicate count ()).mapM fun () =>
    IO.asTask (serve queue (timed call limits role)) .dedicated
  let outcomes ← tasks.mapM fun task => IO.ofExcept task.get
  return outcomes.flatten

/-! ## Settings -/

/-- The text of the first of some files that can be read. -/
def firstFile : List String → IO String
  | [] => return ""
  | name :: names => do
    try IO.FS.readFile name
    catch _ => firstFile names

/-- The settings of the file `.env` in the current directory, or in the nearest one above it. -/
def fileSettings : IO (List (String × String)) := do
  let depth := ((← IO.currentDir).toString.toList.filter (· = '/')).length
  let names := (List.range (depth + 1)).map fun k => String.join (List.replicate k "../") ++ ".env"
  return Settings.settingsIn (← firstFile names)

/-- The environment's values of all settings. -/
def environment : IO Settings.Lookup := do
  let names := [Settings.baseUrlName, Settings.tokenName, Settings.tenantName,
    Settings.timeoutName, Settings.concurrencyName]
  let values ← names.mapM fun name => return (name, ← IO.getEnv name)
  return fun name => (values.lookup name).join

end Rolebook

open Rolebook in
/-- Runs the program on the words of a command line. -/
def main (arguments : List String) : IO UInt32 := do
  let lookup := Settings.withFile (← environment) (← fileSettings)
  let patience := (Settings.read lookup).toOption.elim 0 (·.limits.timeout)
  let ending ← Program.run (tcp patience) workers arguments lookup
  IO.print ending.output
  IO.eprint ending.errors
  return ending.code.toUInt32
