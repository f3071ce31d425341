-- The program itself. It looks at what there is around it, runs, and asks
-- the network for each reply that the run still needs.
import ResultGateway.CommandLine.Run
import ResultGateway.Http.Transfer
import Std.Async.DNS
import Std.Async.TCP
import Std.Time.DateTime.Timestamp

namespace ResultGateway.Program

open CommandLine

/-! ## Files -/

def faultOf : IO.Error → FileFault
  | .noFileOrDirectory .. => .missing
  | .permissionDenied .. => .denied
  | .inappropriateType _ 21 _ => .isDirectory
  | .inappropriateType .. => .notDirectory
  | e => .failed (toString e)

/-- Reads the files that a request may need. -/
def loadFiles (paths : List String) : IO Files := do
  let found ← paths.mapM fun (path : String) => do
    match ← (IO.FS.readBinFile path).toBaseIO with
    | .ok bytes => pure (path, Except.ok bytes.toList)
    | .error e => pure (path, Except.error (faultOf e))
  return fun path => ((found.find? fun file => file.1 == path).map Prod.snd).getD (.error .missing)

/-! ## The network -/

def addressOf (ip : Std.Net.IPAddr) (port : UInt16) : Std.Net.SocketAddress :=
  match ip with
  | .v4 addr => .v4 ⟨addr, port⟩
  | .v6 addr => .v6 ⟨addr, port⟩

partial def receive (client : Std.Async.TCP.Socket.Client) (taken : ByteArray) :
    Std.Async.Async ByteArray := do
  match ← client.recv? 65536 with
  | none => return taken
  | some bytes => receive client (taken ++ bytes)

def exchange (address : Std.Net.SocketAddress) (bytes : ByteArray) : IO ByteArray := do
  let client ← Std.Async.TCP.Socket.Client.mk
  (do client.connect address
      client.send bytes
      receive client .empty).block

/-- The reply to a request, from the first address of its host that answers, or why there is
none. -/
def ask (r : Http.Request) : IO (Except String Http.Reply) := do
  let port := UInt16.ofNat r.url.effectivePort
  let host := String.ofList (r.url.host.text.toList.filter fun c => c != '[' && c != ']')
  match ← (Std.Async.DNS.getAddrInfo host (toString port)).block.toBaseIO with
  | .error e => return .error (toString e)
  | .ok ips =>
    let mut why := "no address"
    for ip in ips do
      match ← (exchange (addressOf ip port) ⟨r.bytes.toArray⟩).toBaseIO with
      | .ok bytes => return (Http.Reply.ofBytes? bytes.toList).elim (.error "bad reply") .ok
      | .error e => why := toString e
    return .error why

/-- A network in which a call that gets no reply fails for a reason. -/
def failing (net : Http.Network) (why : String) : Http.Network :=
  { net with cause := fun call _ => .other (call.url.text ++ ": " ++ why) none }

/-- Runs the program, and runs it again with one more reply as long as the last request has
none. -/
partial def runAsking (w : World) (c : Console) (args : List String) : IO Answer := do
  let answer := CommandLine.run w c args
  if answer.requests.length ≤ w.replies.length then return answer
  match answer.requests.getLast? with
  | none => return answer
  | some request =>
    match ← ask request with
    | .error why => return CommandLine.run { w with network := failing w.network why } c args
    | .ok reply => runAsking { w with replies := w.replies ++ [reply] } c args

/-! ## All together -/

def world (args : List String) : IO World := do
  let paths := match Request.ofArguments args with
    | .ok request => request.paths
    | .error _ => []
  let now ← Std.Time.Timestamp.now
  return {
    environment := ⟨← IO.getEnv "GRAPHERY_API_URL", ← IO.getEnv "GRAPHERY_LOCAL_PORT"⟩
    files := ← loadFiles paths
    network := { reaches := fun url => url.scheme == .http, now := now.toSecondsSinceUnixEpoch.val }
    replies := []
    ids := .countingFrom (← IO.rand 0 (Nat.pow 2 122 - 1)) }

def console : IO Console := do
  return ⟨← (← IO.getStdout).isTty, ← (← IO.getStderr).isTty, ← IO.getEnv "RUST_LOG"⟩

def start (args : List String) : IO UInt32 := do
  let answer ← runAsking (← world args) (← console) args
  for record in answer.log do
    IO.eprintln record.line
  IO.eprint answer.stderr
  IO.print answer.stdout
  return UInt32.ofNat answer.exitCode

end ResultGateway.Program

def main (args : List String) : IO UInt32 := ResultGateway.Program.start args
