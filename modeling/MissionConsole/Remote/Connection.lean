import MissionConsole.Remote.Gate
import MissionConsole.Remote.Shell

/-!
# A remote connection

A connection passes through stages: the transport is set up, a host key is loaded or made, the
server is started, a channel is accepted and served. Any stage may fail. Whatever happens, the
transport is closed if it was set up, the socket is closed, and the record of the connection's end
follows; a failure on the way leaves a record of its own.

## Main definitions

* `Stage` — the stages of a connection
* `Peer` — what a visitor does, and where things fail
* `Connection.attempt` — the stages up to the end of the shell
* `Connection.handle` — a whole connection
-/

namespace MissionConsole

/-- The stages of a connection. -/
inductive Stage where
  | transport
  | loadKey
  | generateKey
  | writeKey
  | addServerKey
  | startServer
  | accept
  | transportClose
  | socketClose
  deriving DecidableEq, Inhabited

/-- What a visitor does, and where things fail. -/
structure Peer where
  ip : String
  port : Int
  /-- The failures of stages. -/
  fault : Stage → Option Fault
  /-- Whether there is no host key yet. -/
  keyMissing : Bool
  /-- The user name and password that are tried. -/
  login : Option (String × String)
  /-- Whether a channel is opened at all. -/
  opensChannel : Bool
  input : RemoteInput

/-- What a connection leads to. -/
structure Connection where
  /-- The stages reached, in order. -/
  trace : List Stage
  sent : String
  channelClosed : Bool
  journal : List Journal.Entry
  deriving Inhabited

namespace Connection

/-- A connection at which nothing has happened. -/
def fresh : Connection := ⟨[], "", false, []⟩

/-- A part of a connection, which may fail; what has happened until then stays. -/
abbrev Attempt := ExceptT Fault (StateM Connection)

/-- Leaves entries in the journal. -/
def note (entries : List Journal.Entry) : Attempt Unit :=
  modify fun c => { c with journal := c.journal ++ entries }

/-- Reaches a stage, which may fail. -/
def reach (peer : Peer) (stage : Stage) : Attempt Unit := do
  modify fun c => { c with trace := c.trace ++ [stage] }
  match peer.fault stage with
  | some f => throw f
  | none => pure ()

/-- A record about the life of the connection. -/
def lifecycle (peer : Peer) (stage : String) (details : List (String × Json)) : Journal.Entry :=
  .record (.lifecycle stage peer.ip details)

/-- Loads the host key; a key that is missing is made and written. -/
def hostKey (peer : Peer) (path : String) : Attempt Unit := do
  let missing ← tryCatch
    (do
      reach peer .loadKey
      pure peer.keyMissing)
    fun f => if f.kind == .missingFile then pure true else throw f
  if missing then
    reach peer .generateKey
    reach peer .writeKey
    note [.keyGenerated path]

/-- Starts the server: the visitor passes the gate and asks for a shell. -/
def startServer (peer : Peer) (credentials : Credentials) : Attempt Unit := do
  reach peer .startServer
  match peer.login with
  | some (user, password) =>
    let (_, _, entries) := (Gate.new peer.ip credentials).checkPassword user password
    note entries
  | none => pure ()

/-- Serves the channel with a new overlay, and closes it. -/
def serveChannel {τ : Type} [Timescale τ] (console : Console) (now : τ) (id : String)
    (peer : Peer) : Attempt Unit := do
  let served := RemoteShell.serve console now (Overlay.new console id peer.ip) peer.input
  modify fun c => { c with sent := served.sent, journal := c.journal ++ served.journal }
  match served.escaped with
  | some f => throw f
  | none => modify fun c => { c with channelClosed := true }

/-- The stages after the transport is set up, up to the end of the shell. -/
def attempt {τ : Type} [Timescale τ] (console : Console) (now : τ) (id keyPath : String)
    (credentials : Credentials) (peer : Peer) : Attempt Unit := do
  hostKey peer keyPath
  reach peer .addServerKey
  startServer peer credentials
  reach peer .accept
  if peer.opensChannel then serveChannel console now id peer
  else note [lifecycle peer "NO_CHANNEL" []]

/-- A part of a connection carried out; an ordinary failure leaves a record. The failure that is
left is an order to stop. -/
def guarded (peer : Peer) (a : Attempt Unit) : StateM Connection (Option Fault) := do
  match ← a.run with
  | .ok () => pure none
  | .error f =>
    if f.isOrdinary then
      modify fun c =>
        { c with journal := c.journal ++ [lifecycle peer "ERROR" [("error", .str f.message)]] }
      pure none
    else pure (some f)

/-- Closes the socket and takes leave. Failures of the operating system do not matter any more. -/
def closeSocket (peer : Peer) : Attempt Unit := do
  tryCatch (reach peer .socketClose) fun f => if f.isSystem then pure () else throw f
  note [lifecycle peer "DISCONNECT" []]

/-- Closes what was opened. A failure to close the transport does not matter. -/
def cleanUp (peer : Peer) (transportUp : Bool) : Attempt Unit := do
  if transportUp then
    tryCatch (reach peer .transportClose) fun f => if f.isOrdinary then pure () else throw f
  closeSocket peer

/-- A whole connection. Gives the failure that nobody has dealt with, if there is one. -/
def handle {τ : Type} [Timescale τ] (console : Console) (now : τ) (id keyPath : String)
    (credentials : Credentials) (peer : Peer) : Connection × Option Fault :=
  let action : StateM Connection (Option Fault) := do
    modify fun c => { c with journal := [lifecycle peer "CONNECT" [("port", .int peer.port)]] }
    let transportUp := (peer.fault .transport).isNone
    let stopped ← guarded peer (do
      reach peer .transport
      attempt console now id keyPath credentials peer)
    match ← (cleanUp peer transportUp).run with
    | .ok () => pure stopped
    | .error f => pure (some f)
  let (escaped, c) := action.run fresh
  (c, escaped)

end Connection

end MissionConsole
