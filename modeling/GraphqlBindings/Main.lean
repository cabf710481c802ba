import Std.Async.DNS
import Std.Async.TCP
import Std.Internal.UV.System
import GraphqlBindings.CommandLine.Basic
import GraphqlBindings.Http.Message

/-!
The program: the command line on the files of this machine. Services are asked over plain
connections only; an address that wants an encrypted one gets no reply.
-/

namespace GraphqlBindings.Program

open Std.Async (Async)
open Std.Net (IPAddr SocketAddress)

def faultOf (e : IO.Error) : FileTree.Fault :=
  match e with
  | .noFileOrDirectory .. => .missing
  | .alreadyExists .. => .existing
  | .inappropriateType _ _ details =>
    if details = "is a directory" then .isDirectory else .notDirectory
  | _ => .other (toString e)

def attempt {α : Type} (action : IO α) : IO (Except FileTree.Fault α) := do
  match ← action.toBaseIO with
  | .ok a => return .ok a
  | .error e => return .error (faultOf e)

def readText (path : String) : IO (Except FileTree.Fault String) := do
  match ← attempt (IO.FS.readBinFile path) with
  | .error f => return .error f
  | .ok bytes =>
    match String.fromUTF8? bytes with
    | some text => return .ok text
    | none => return .error .notText

def attemptAt {α : Type} (path : String) (action : IO α) : ExceptT FileTree.WalkFault IO α :=
  ExceptT.mk do return (← attempt action).mapError (.atPath path)

partial def walk (trail : List (String × String)) (path : String) :
    ExceptT FileTree.WalkFault IO (List String) := do
  let file := System.mkFilePath [path]
  let isLink := (← attemptAt path file.symlinkMetadata).type == .symlink
  let metadata ← attemptAt path file.metadata
  if metadata.type == .file then return [path]
  if metadata.type != .dir then return []
  let place := toString (← attemptAt path (IO.FS.realPath file))
  match trail.lookup place with
  | some ancestor => if isLink then throw (.loop path ancestor)
  | none => pure ()
  let entries ← attemptAt path file.readDir
  let lists ← entries.toList.mapM fun e => walk ((place, path) :: trail) (Path.join path e.fileName)
  return lists.flatten

def socketAddress (address : IPAddr) (port : Nat) : SocketAddress :=
  match address with
  | .v4 addr => .v4 ⟨addr, port.toUInt16⟩
  | .v6 addr => .v6 ⟨addr, port.toUInt16⟩

partial def receive (socket : Std.Async.TCP.Socket.Client) (received : ByteArray) :
    Async ByteArray := do
  match ← socket.recv? 65536 with
  | some bytes => receive socket (received ++ bytes)
  | none => return received

def exchange (r : Http.Request) : Async (Option Http.Reply) := do
  let port := r.url.port.getD (Url.usualPort r.url.secure)
  let addresses ← Std.Async.DNS.getAddrInfo r.url.host.text (toString port)
  match addresses.toList with
  | [] => return none
  | address :: _ =>
    let socket ← Std.Async.TCP.Socket.Client.mk
    socket.connect (socketAddress address port)
    socket.send r.message.toUTF8
    let bytes ← receive socket .empty
    return Http.Reply.ofBytes? bytes.toList

def send (r : Http.Request) : IO (Option Http.Reply) := do
  if r.url.secure then return none
  match ← (exchange r).block.toBaseIO with
  | .ok reply => return reply
  | .error _ => return none

def workspace : Workspace IO where
  readText := readText
  filesBelow := fun root => (walk [] root).run
  makeDirectories := fun path => attempt (IO.FS.createDirAll path)
  writeText := fun path text => attempt (IO.FS.writeFile path text)
  send := send
  isCancelled := IO.checkCanceled

def environment : IO Project.Environment := do
  return (← Std.Internal.UV.System.osEnviron).toList

end GraphqlBindings.Program

def main (arguments : List String) : IO UInt32 := do
  let outcome ← GraphqlBindings.CommandLine.run GraphqlBindings.Program.workspace
    (← GraphqlBindings.Program.environment) arguments
  IO.print outcome.output
  outcome.complaints.forM (IO.eprintln ·)
  return outcome.exitCode.toUInt32
