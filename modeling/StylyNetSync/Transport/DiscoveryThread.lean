import StylyNetSync.Transport.ServerDiscovery

/-!
# The discovery thread

`ServerDiscovery` of the source: `start`, `stop` and `discovery_loop` with what it calls. The thread
probes this host, then the server of the last time, and then asks on every interface until something
answers. The first reply that is one ends it. The host may call `stop` at any moment; the thread
looks at the flag between two attempts and before it waits for a datagram, but not before it
reports.

The operating system is represented by its answers. Two fields only observe: `trace` is what the
thread did and met since `start`, and `hadWriter` is whether there was a callback for the cache
then.
-/

namespace StylyNetSync

open JsonParser

/-- The size of the buffers that replies are received into. -/
def kReplyBuffer : ℕ := 1024

def kLocalhost : Bytes := ascii "127.0.0.1"

structure LocalInterface where
  address : Bytes
  broadcast : Bytes

/-- A server of which nothing is known, the value of `found` before anything was. -/
def DiscoveredServer.unset : DiscoveredServer where
  address := []
  ip := []
  controlPort := 0
  transformPort := 0
  subPort := 0
  restApiPort := 0
  serverName := []

/-! ### Probes -/

/-- What becomes of a non-blocking `connect`. -/
inductive ConnectAnswer
  | connected
  /-- `select` then says whether the socket got writable in time, and the socket whether with an
  error. -/
  | inProgress (writable error : Bool)
  | failed

def ConnectAnswer.succeeds : ConnectAnswer → Bool
  | .connected => true
  | .inProgress writable error => writable && !error
  | .failed => false

/-- The answers to one `probe_tcp`. -/
structure ProbeAnswers where
  socket : Bool
  addressParsed : Bool
  connect : ConnectAnswer
  sent : Bool
  /-- What the peer sends, nothing if `recv` fails. -/
  received : Bytes

/-- What `probe_tcp` receives, if it gets that far. -/
def ProbeAnswers.reply (a : ProbeAnswers) : Option Bytes :=
  if !a.socket then none
  else if !a.addressParsed then none
  else if !a.connect.succeeds then none
  else if !a.sent then none
  else if a.received.isEmpty then none
  else some (a.received.take kReplyBuffer)

/-- One synchronous TCP probe. -/
def probeTcp (a : ProbeAnswers) (ip : Bytes) (out : DiscoveredServer) : Bool × DiscoveredServer :=
  match a.reply with
  | none => (false, out)
  | some reply => parseDiscoveryResponse reply ip out

/-! ### The thread -/

/-- What the thread does and meets. -/
inductive DiscoveryEvent
  | log (text : String)
  /-- A probe of this host. -/
  | probedLocalhost (reply : Option Bytes)
  | cacheRead (ip : Bytes)
  | probedCached (ip : Bytes) (reply : Option Bytes)
  | request (broadcast : Bytes)
  | datagram (sender data : Bytes)
  | cacheWrite (ip : Bytes)
  | found (server : DiscoveredServer)

def DiscoveryEvent.isLog : DiscoveryEvent → Bool
  | .log _ => true
  | _ => false

/-- Where the discovery thread stands, from `start` to the join. -/
inductive DiscoveryStage
  /-- There is no thread to join. -/
  | absent
  | localhost
  | afterLocalhost
  | readingCache
  | probingCached (ip : Bytes)
  | afterCached
  | opening
  /-- At the head of the loop, with the sockets that could be bound. -/
  | looping (sockets : List LocalInterface)
  | requesting (sockets : List LocalInterface)
  /-- Waiting for datagrams, on the sockets still to come. -/
  | receiving (sockets left : List LocalInterface)
  /-- In `report`, before the flag is cleared. -/
  | reporting (server : DiscoveredServer) (cacheIp : Bool)
  /-- In `report`, before the callback. -/
  | telling (server : DiscoveredServer)
  | returned

/-- What the thread meets on its next step, whichever question it asks. -/
structure DiscoveryEncounter where
  probe : ProbeAnswers
  cached : Bytes
  /-- The interfaces, each with the answers whether a socket can be had and bound. -/
  interfaces : List (LocalInterface × Bool × Bool)
  /-- There is a socket for the fallback. -/
  fallback : Bool
  /-- Which broadcast addresses parse. -/
  broadcasts : List Bool
  /-- The next datagram, nothing if none comes in time. -/
  sender : Bytes
  data : Bytes

structure DiscoveryThread where
  /-- The callbacks for the cache are set. -/
  cacheReader : Bool := false
  cacheWriter : Bool := false
  discovering : Bool := false
  shouldStop : Bool := false
  stage : DiscoveryStage := .absent
  /-- The host waits in `stop`. -/
  stopping : Bool := false
  trace : List DiscoveryEvent := []
  hadWriter : Bool := false

/-- A step of the discovery thread, or of the host's. -/
inductive DiscoveryStep
  | thread (encounter : DiscoveryEncounter)
  | start
  | stopBegin
  | stopJoin
  /-- Callbacks are set while there is no thread that could use them. -/
  | setCache (reader writer : Bool)

namespace DiscoveryThread

/-- The loop that binds a socket on every interface. -/
def bindSockets (interfaces : List (LocalInterface × Bool × Bool)) : List LocalInterface :=
  (interfaces.filter fun item ↦ item.2.1 && item.2.2).map Prod.fst

/-- The sockets of the search: those that were bound, or one that is not. -/
def openSockets (encounter : DiscoveryEncounter) : List LocalInterface × List DiscoveryEvent :=
  let bound := bindSockets encounter.interfaces
  let logs := bound.map fun item ↦
    DiscoveryEvent.log ("discovery socket bound to " ++ logText item.address)
  if !bound.isEmpty then (bound, logs)
  else if !encounter.fallback then ([], logs)
  else
    ([{ address := ascii "0.0.0.0", broadcast := ascii "255.255.255.255" }],
      logs ++ [.log "using fallback unbound discovery socket"])

/-- The requests of a round, to the broadcast addresses that parse. -/
def requests (sockets : List LocalInterface) (parsed : List Bool) : List DiscoveryEvent :=
  ((sockets.zip parsed).filter Prod.snd).map fun item ↦ .request item.1.broadcast

/-- What follows a probe: the server is reported, or the search goes on. -/
def afterProbe (ip : Bytes) (encounter : DiscoveryEncounter) (cacheIp : Bool) (text : String)
    (next : DiscoveryStage) : List DiscoveryEvent × DiscoveryStage :=
  match probeTcp encounter.probe ip .unset with
  | (true, server) => ([.log text], .reporting server cacheIp)
  | (false, _) => ([], next)

/-- What follows a datagram. -/
def afterDatagram (sender data : Bytes) (next : DiscoveryStage) :
    List DiscoveryEvent × DiscoveryStage :=
  match parseDiscoveryResponse data sender .unset with
  | (true, server) =>
    ([.log ("discovered server '" ++ logText server.serverName ++ "' at " ++
      logText server.address)], .reporting server true)
  | (false, _) =>
    ([.log ("ignoring non-matching discovery response from " ++ logText sender)], next)

/-- What `report` hands to the cache. -/
def cacheWrites (cacheWriter cacheIp : Bool) (server : DiscoveredServer) : List DiscoveryEvent :=
  if cacheIp && cacheWriter && !server.ip.isEmpty then [.cacheWrite server.ip] else []

/-- A transition of `discovery_loop`. -/
def advance (encounter : DiscoveryEncounter) (d : DiscoveryThread) : DiscoveryThread :=
  match d.stage with
  | .absent => d
  | .returned => d
  | .localhost =>
    match afterProbe kLocalhost encounter false "server found on localhost" .afterLocalhost with
    | (events, stage) =>
      { d with
        trace :=
          d.trace ++ [.log "probing localhost over TCP", .probedLocalhost encounter.probe.reply] ++
            events
        stage := stage }
  | .afterLocalhost => { d with stage := if d.shouldStop then .returned else .readingCache }
  | .readingCache =>
    if !d.cacheReader then { d with stage := .afterCached }
    else
      { d with
        trace := d.trace ++ [.cacheRead encounter.cached]
        stage :=
          if encounter.cached.isEmpty then .afterCached else .probingCached encounter.cached }
  | .probingCached ip =>
    match afterProbe ip encounter true ("server found at cached address " ++ logText ip)
      .afterCached with
    | (events, stage) =>
      { d with
        trace :=
          d.trace ++ [.log ("probing cached server " ++ logText ip),
            .probedCached ip encounter.probe.reply] ++ events
        stage := stage }
  | .afterCached => { d with stage := if d.shouldStop then .returned else .opening }
  | .opening =>
    match openSockets encounter with
    | (sockets, events) => { d with trace := d.trace ++ events, stage := .looping sockets }
  | .looping sockets =>
    { d with stage := if !d.shouldStop && d.discovering then .requesting sockets else .returned }
  | .requesting sockets =>
    { d with
      trace := d.trace ++ requests sockets encounter.broadcasts
      stage := .receiving sockets sockets }
  | .receiving sockets [] => { d with stage := .looping sockets }
  | .receiving sockets (_ :: left) =>
    if d.shouldStop then { d with stage := .returned }
    else if encounter.data.isEmpty then { d with stage := .receiving sockets left }
    else
      let data := encounter.data.take kReplyBuffer
      match afterDatagram encounter.sender data (.receiving sockets left) with
      | (events, stage) =>
        { d with
          trace := d.trace ++ [.datagram encounter.sender data] ++ events
          stage := stage }
  | .reporting server cacheIp =>
    { d with
      trace := d.trace ++ cacheWrites d.cacheWriter cacheIp server
      discovering := false
      stage := .telling server }
  | .telling server => { d with trace := d.trace ++ [.found server], stage := .returned }

/-- `start`: refused while a search is under way, or its thread was not joined. -/
def start (d : DiscoveryThread) : Bool × DiscoveryThread :=
  match d.discovering, d.stage with
  | false, .absent =>
    (true,
      { d with
        shouldStop := false
        discovering := true
        stage := .localhost
        trace := []
        hadWriter := d.cacheWriter })
  | _, _ => (false, d)

/-- The first part of `stop`. Without a thread it is all there is to do. -/
def stopBegin (d : DiscoveryThread) : DiscoveryThread :=
  { d with
    shouldStop := true
    discovering := false
    stopping :=
      match d.stage with
      | .absent => false
      | _ => true }

/-- The join returns once the thread has. -/
def stopJoin (d : DiscoveryThread) : DiscoveryThread :=
  match d.stage with
  | .returned => { d with stage := .absent, stopping := false }
  | _ => d

def step (d : DiscoveryThread) : DiscoveryStep → DiscoveryThread
  | .thread encounter => d.advance encounter
  | .start => if d.stopping then d else d.start.2
  | .stopBegin => if d.stopping then d else d.stopBegin
  | .stopJoin => if d.stopping then d.stopJoin else d
  | .setCache reader writer =>
    match d.stage with
    | .absent => { d with cacheReader := reader, cacheWriter := writer }
    | _ => d

end DiscoveryThread

end StylyNetSync
