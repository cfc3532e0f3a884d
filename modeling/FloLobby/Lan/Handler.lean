import FloLobby.EState
import FloLobby.Lan.Packet

/-!
# The lobby handler

`LobbyHandler` as a state-and-error computation. The state holds the handler's fields, the
locals `run` keeps across its loop, and the trace of what the handler has done; an error keeps
the state it was raised in, as `?` leaves `&mut self` behind.
-/

namespace FloLobby.Lan

/-- `JoinPacketRecvState`. -/
structure JoinPacketRecvState where
  totalPlayers : Nat
  numProfile : Nat
  numSkins : Nat
  numUnk5 : Nat
  status : Option NodeGameStatus
  deriving DecidableEq, Repr

namespace JoinPacketRecvState

def new (initialGameState : Option NodeGameStatus) (totalPlayers : Nat) : JoinPacketRecvState :=
  ⟨totalPlayers, 0, 0, 0, initialGameState⟩

def isReady (s : JoinPacketRecvState) : Bool :=
  s.numProfile == s.totalPlayers && s.numSkins == 1 && s.numUnk5 == 1

/-- The statuses `should_start` accepts. -/
def startable : Option NodeGameStatus → Bool
  | some .loading => true
  | some .running => true
  | _ => false

def shouldStart (s : JoinPacketRecvState) : Bool := s.isReady && startable s.status

end JoinPacketRecvState

/-- `NodeStreamSender`; the lobby only reports slot status through it. -/
structure NodeStreamSender where
  deriving DecidableEq, Repr

/-- A `WeakSender<OutgoingMessage>`: `upgrade` succeeds while the channel has a live sender. -/
structure WeakSender where
  alive : Bool
  deriving DecidableEq, Repr

/-- The countdown `Notify`: how long after `send_start` starts waiting on it it is notified,
if ever. -/
structure Notify where
  notifiedAfter : Option Nat
  deriving DecidableEq, Repr

/-- The client's `W3GSStream`: its local address, and the outcome of its next writes (`true`
fails; past the end of the list every write goes through). -/
structure W3GSStream where
  localAddr : SocketAddr
  faults : List Bool
  deriving DecidableEq, Repr

/-- The handler's state. The first seven fields are `LobbyHandler`'s, the status watch reduced
to the value it holds; `joinState` and `reported` are the locals of `run`; `trace` is what the
handler has done, oldest first. -/
structure Lobby where
  info : LanGameInfo
  stream : W3GSStream
  nodeStream : Option NodeStreamSender
  statusRx : Option NodeGameStatus
  starting : Bool
  weakOutgoingTx : Option WeakSender
  lobbyCountdownNotify : Option Notify
  joinState : JoinPacketRecvState
  reported : Bool
  trace : List Effect
  deriving DecidableEq, Repr

/-- `LobbyHandler::new`. -/
def Lobby.new (info : LanGameInfo) (stream : W3GSStream) (nodeStream : Option NodeStreamSender)
    (statusRx : Option NodeGameStatus) (weakOutgoingTx : Option WeakSender)
    (lobbyCountdownNotify : Option Notify) : Lobby :=
  { info, stream, nodeStream, statusRx, starting := false, weakOutgoingTx, lobbyCountdownNotify,
    joinState := .new statusRx 0, reported := false, trace := [] }

abbrev LobbyM := EStateM Error Lobby

/-! ### Primitive effects -/

/-- One write to the client stream: it takes the next outcome and records `e` if the write
went through. -/
def write (e : Effect) : LobbyM Unit := fun s =>
  let stream := { s.stream with faults := s.stream.faults.tail }
  if s.stream.faults.headD false then .error (.w3gs .io) { s with stream }
  else .ok () { s with stream, trace := s.trace ++ [e] }

/-- `W3GSStream::send`. -/
def send (pkt : Packet) : LobbyM Unit := write (.send pkt)

/-- `W3GSStream::send_all`: one write of the whole batch. -/
def sendAll (pkts : List Packet) : LobbyM Unit := write (.sendAll pkts)

/-- Something the handler does that cannot fail: a sleep, or a notification whose failure it
ignores. -/
def record (e : Effect) : LobbyM Unit := modify fun s => { s with trace := s.trace ++ [e] }

/-- `Packet::simple(..)?`. -/
def simple (env : Env) (pkt : Packet) : LobbyM Packet := liftExcept (env.simple pkt)

def modifyJoinState (f : JoinPacketRecvState → JoinPacketRecvState) : LobbyM Unit :=
  modify fun s => { s with joinState := f s.joinState }

/-! ### `send_start` -/

/-- How long `send_start` waits after its first three seconds: until the countdown notifier
fires or six seconds pass, or three more seconds when there is no notifier. -/
def countdownWait : Option Notify → Nat
  | some notify => match notify.notifiedAfter with
    | some t => min t 6000
    | none => 6000
  | none => 3000

/-- `LobbyHandler::send_start`. -/
def sendStart (env : Env) : LobbyM Unit := do
  let s ← get
  if s.starting then return
  set { s with starting := true }
  send (← simple env (.slotInfo s.info.slotInfo.slotInfo))
  send (← simple env .countDownStart)
  record (.sleep 3000)
  record (.sleep (countdownWait s.lobbyCountdownNotify))
  send (← simple env .countDownEnd)

/-! ### `handle_packet` -/

/-- The three packet lists the `ReqJoin` arm fills. -/
structure JoinReplies where
  playerInfoPackets : List Packet
  playerSkinPackets : List Packet
  playerProfilePackets : List Packet
  deriving DecidableEq, Repr

/-- The `for info in &slot_info.player_infos` loop of the `ReqJoin` arm. -/
def pushPlayers (env : Env) (my : UInt8) (acc : JoinReplies) :
    List LanPlayerInfo → Except Error JoinReplies
  | [] => pure acc
  | info :: rest => do
    let acc ← if info.slotPlayerId ≠ my then do
        let pInfo ← env.simple (.playerInfo info.slotPlayerId info.name)
        let skin ← env.simple (.protoBufPayload (.new (.playerSkins info.slotPlayerId.toUInt32)))
        pure { acc with playerInfoPackets := acc.playerInfoPackets ++ [pInfo],
                        playerSkinPackets := acc.playerSkinPackets ++ [skin] }
      else pure acc
    let profile ← env.simple (.protoBufPayload (.new (.playerProfile info.slotPlayerId info.name)))
    pushPlayers env my { acc with playerProfilePackets := acc.playerProfilePackets ++ [profile] } rest

/-- The stream observer's packets, under the name `"FLO"`. -/
def pushObserver (env : Env) (acc : JoinReplies) : Option Nat → Except Error JoinReplies
  | some obSlot => do
    let obPlayerId := indexToPlayerId obSlot
    let pInfo ← env.simple (.playerInfo obPlayerId "FLO")
    let skin ← env.simple (.protoBufPayload (.new (.playerSkins obPlayerId.toUInt32)))
    let profile ← env.simple (.protoBufPayload (.new (.playerProfile obPlayerId "FLO")))
    pure ⟨acc.playerInfoPackets ++ [pInfo], acc.playerSkinPackets ++ [skin],
      acc.playerProfilePackets ++ [profile]⟩
  | none => pure acc

/-- The replies of the `ReqJoin` arm, in the order it pushes them. -/
def joinReplies (env : Env) (info : LanGameInfo) (addr : SockAddrV4) : Except Error (List Packet) := do
  let slotInfo := info.slotInfo
  let join ← env.simple (.slotInfoJoin slotInfo.slotInfo slotInfo.mySlotPlayerId addr)
  let slot ← env.simple (.slotInfo slotInfo.slotInfo)
  let acc ← pushPlayers env slotInfo.mySlotPlayerId ⟨[], [], []⟩ slotInfo.playerInfos
  let acc ← pushObserver env acc slotInfo.streamObSlot
  let check ← env.simple
    (.mapCheck info.mapChecksum.fileSize.toUInt32 info.mapChecksum.crc32 info.gameSettings)
  pure ([join, slot] ++ acc.playerInfoPackets ++ acc.playerSkinPackets ++
    acc.playerProfilePackets ++ [check])

/-- `pkt.decode_simple()?` for a payload that is only logged. -/
def decodeSimple (pkt : Packet) : LobbyM Unit :=
  if pkt.decodes then pure () else throw (.w3gs .decode)

/-- `pkt.decode_simple::<ProtoBufPayload>()?`. -/
def decodeProtoBuf : Packet → LobbyM ProtoBufPayload
  | .protoBufPayload payload => pure payload
  | _ => throw (.w3gs .decode)

/-- The decode of an echoed message for its log line: `#[cfg(debug_assertions)]` keeps it in a
debug build only, and as an argument of `tracing::debug!` it runs only when DEBUG events are
enabled; its `?` then fails on a body that does not decode. -/
def debugDecode (env : Env) (payload : ProtoBufPayload) : LobbyM Unit :=
  if env.debugAssertions && env.debugTracing && payload.message.isNone then throw (.w3gs .decode)
  else pure ()

/-- `LobbyHandler::handle_packet`. -/
def handlePacket (env : Env) (pkt : Packet) : LobbyM Unit := do
  let s ← get
  match pkt.typeId with
  | .reqJoin =>
    let addr ← match s.stream.localAddr with
      | .v4 addr => pure addr
      | .v6 => throw (.w3gs .ipv6NotSupported)
    sendAll (← liftExcept (joinReplies env s.info addr))
  | .mapSize => decodeSimple pkt
  | .chatToHost =>
    let my := s.info.slotInfo.mySlotPlayerId
    send (← simple env (.chatFromHost my [my] "Setting changes and chat are disabled."))
  | .pongToHost => decodeSimple pkt
  | .protoBufPayload =>
    let payload ← decodeProtoBuf pkt
    match payload.typeId with
    | .unknown2 => pure ()
    | .playerProfile =>
      modifyJoinState fun j => { j with numProfile := j.numProfile + 1 }
      debugDecode env payload
      send pkt
    | .playerSkins =>
      modifyJoinState fun j => { j with numSkins := j.numSkins + 1 }
      send pkt
      debugDecode env payload
    | .playerUnknown5 =>
      modifyJoinState fun j => { j with numUnk5 := j.numUnk5 + 1 }
      send pkt
      debugDecode env payload
    | .unknownValue _ => pure ()
  | .leaveReq => pure ()
  | _ => throw (.unexpectedW3GSPacket pkt)

/-! ### `run` -/

/-- `LobbyAction`. `leave` is declared but never returned. -/
inductive LobbyAction where
  | start
  | leave
  deriving DecidableEq, Repr

/-- The futures `run` selects over, as the event each one completes with. -/
inductive LobbyEvent where
  /-- `self.stream.recv()`: a packet, `Ok(None)` once the client has closed the stream, or an
  error. -/
  | recv (next : Except Error (Option Packet))
  /-- `ping_interval.tick()`, at the given milliseconds since `base_t`. -/
  | tick (elapsedMillis : UInt32)
  /-- `self.status_rx.changed()`: `Ok` with the value `borrow` then reads, or `Err` once the
  sender is dropped. -/
  | changed (next : Except Unit (Option NodeGameStatus))
  deriving Repr

/-- The readiness notifications of `run`: `SlotClientStatus::Joined` to the node stream and
`LanGameJoined` to the user-facing sink, each when there is somewhere to send it. -/
def reportJoined (env : Env) : LobbyM Unit := do
  let s ← get
  if s.nodeStream.isSome then record (.reportSlotStatus .joined)
  modify fun s => { s with reported := true }
  if (s.weakOutgoingTx.map (·.alive)).getD false then
    record (.outgoing (.lanGameJoined (s.info.lanGameNameOverride.getD
      (env.getLanGameName s.info.game.name s.info.game.playerId))))

/-- One pass of `run`'s loop; `some` is the action `run` returns with. -/
def step (env : Env) : LobbyEvent → LobbyM (Option LobbyAction)
  | .recv (.error e) => throw e
  | .recv (.ok none) => throw .streamClosed
  | .recv (.ok (some pkt)) => do
    if pkt.typeId = .leaveReq then return none
    handlePacket env pkt
    let s ← get
    if s.joinState.isReady then
      if !s.reported then reportJoined env
      if s.joinState.shouldStart then
        sendStart env
        return some .start
    return none
  | .tick elapsed => do
    send (← simple env (.pingFromHost elapsed))
    return none
  | .changed (.ok next) => do
    modify fun s => { s with statusRx := next }
    match next with
    | some status =>
      modifyJoinState fun j => { j with status := some status }
      if (← get).joinState.shouldStart then
        sendStart env
        return some .start
      return none
    | none => return none
  | .changed (.error ()) => throw (.taskCancelled "game status tx dropped")

/-- `run`'s loop over the events that reach it. -/
def runLoop (env : Env) : List LobbyEvent → LobbyM (Option LobbyAction)
  | [] => return none
  | event :: rest => do
    match ← step env event with
    | some action => return some action
    | none => runLoop env rest

/-- `LobbyHandler::run` fed `events`; `none` means it is still waiting when they run out. -/
def run (env : Env) (events : List LobbyEvent) : LobbyM (Option LobbyAction) := do
  modify fun s => { s with joinState := .new s.statusRx s.info.totalPlayers, reported := false }
  runLoop env events

end FloLobby.Lan
