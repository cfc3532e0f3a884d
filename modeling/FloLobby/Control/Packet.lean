import FloLobby.Proto

/-!
# Control-plane packets and messages

The frames the control-plane stream exchanges with the lobby server, the typed packets
`dispatch` decodes them to, the client types it unpacks them into, and the messages it sends to
the user-facing sink. `flo_net`, the ws message types and the crate's error type are not under
`src/`; their shapes follow the spec, with the fields `lobby.rs` reads.
-/

namespace FloLobby.Control

open FloLobby.Proto

/-! ### Frames -/

/-- Modelled from the spec: `flo_net::packet::PacketTypeId`. `other` is every id the worker and
`dispatch` have no arm for. -/
inductive PacketTypeId where
  | ping | pong
  | lobbyDisconnect | gameInfo | gamePlayerEnter | gamePlayerLeave | gameSlotUpdate
  | playerSessionUpdate | listNodes | gameSelectNode
  | gamePlayerPingMapUpdate | gamePlayerPingMapSnapshot
  | other (id : UInt8)
  deriving DecidableEq, Repr

/-- Modelled from the spec: `flo_net::packet::Frame`, a type id and the payload bytes. -/
structure Frame where
  typeId : PacketTypeId
  payload : List UInt8
  deriving DecidableEq, Repr

/-! ### Server packets -/

/-- The packets `dispatch` forwards to the sink as they are. -/
inductive Passthrough where
  | gamePlayerEnter | gamePlayerLeave | gameSlotUpdate
  | gamePlayerPingMapUpdate | gamePlayerPingMapSnapshot
  deriving DecidableEq, Repr

def Passthrough.typeId : Passthrough → PacketTypeId
  | .gamePlayerEnter => .gamePlayerEnter
  | .gamePlayerLeave => .gamePlayerLeave
  | .gameSlotUpdate => .gameSlotUpdate
  | .gamePlayerPingMapUpdate => .gamePlayerPingMapUpdate
  | .gamePlayerPingMapSnapshot => .gamePlayerPingMapSnapshot

/-- Modelled from the spec: the node of a `proto::Game`, of which `dispatch` reads the id. -/
structure ProtoGameNode where
  id : Option Int
  deriving DecidableEq, Repr

/-- Modelled from the spec: a `proto::Game`, its node and the rest of the message as its
encoding. -/
structure ProtoGame where
  node : Option ProtoGameNode
  body : List UInt8
  deriving DecidableEq, Repr

/-- Modelled from the spec: a node of `PacketListNodes`. -/
structure ProtoNode where
  id : Int
  name : String
  location : String
  countryId : String
  deriving DecidableEq, Repr

/-- Modelled from the spec: `PacketLobbyDisconnect`, with the reason as its wire value. -/
structure PacketLobbyDisconnect where
  reason : Int
  deriving DecidableEq, Repr

/-- Modelled from the spec: `PacketGameInfo`, the game the player is in. -/
structure PacketGameInfo where
  game : Option ProtoGame
  deriving DecidableEq, Repr

/-- Modelled from the spec: `PacketPlayerSessionUpdate`, a status as its wire value and the
game id. -/
structure PacketPlayerSessionUpdate where
  status : Int
  gameId : Option Int
  deriving DecidableEq, Repr

/-- Modelled from the spec: `PacketListNodes`, the nodes the server offers. -/
structure PacketListNodes where
  nodes : List ProtoNode
  deriving DecidableEq, Repr

/-- Modelled from the spec: `PacketGameSelectNode`, the node the game is played on. -/
structure PacketGameSelectNode where
  nodeId : Option Int
  deriving DecidableEq, Repr

/-- Modelled from the spec: the `flo_net` packets of `dispatch`'s arms, with the fields it
reads. -/
inductive ServerPacket where
  | lobbyDisconnect (p : PacketLobbyDisconnect)
  | gameInfo (p : PacketGameInfo)
  | passthrough (kind : Passthrough) (body : List UInt8)
  | playerSessionUpdate (p : PacketPlayerSessionUpdate)
  | listNodes (p : PacketListNodes)
  | gameSelectNode (p : PacketGameSelectNode)
  deriving DecidableEq, Repr

/-- The type id a packet is framed under. -/
def ServerPacket.typeId : ServerPacket → PacketTypeId
  | .lobbyDisconnect _ => .lobbyDisconnect
  | .gameInfo _ => .gameInfo
  | .passthrough kind _ => kind.typeId
  | .playerSessionUpdate _ => .playerSessionUpdate
  | .listNodes _ => .listNodes
  | .gameSelectNode _ => .gameSelectNode

/-- The ids `dispatch` has an arm for. -/
def PacketTypeId.dispatched : PacketTypeId → Bool
  | .ping | .pong | .other _ => false
  | _ => true

theorem ServerPacket.typeId_dispatched (p : ServerPacket) : p.typeId.dispatched = true := by
  rcases p with _ | _ | ⟨_ | _ | _ | _ | _, _⟩ | _ | _ | _ <;> rfl

/-! ### Client types -/

/-- `DisconnectReason`. -/
inductive DisconnectReason where
  | unknown | multi | maintenance
  deriving DecidableEq, Repr

/-- `PlayerStatus`. -/
inductive PlayerStatus where
  | idle | inGame
  deriving DecidableEq, Repr

/-- `PlayerSource`. -/
inductive PlayerSource where
  | test | bNet
  deriving DecidableEq, Repr

/-- `RejectReason`. -/
inductive RejectReason where
  | unknown | clientVersionTooOld | invalidToken
  deriving DecidableEq, Repr

def DisconnectReason.unpack : Int → Except ProtoError DisconnectReason :=
  unpackEnum [(0, .unknown), (1, .multi), (2, .maintenance)]

def PlayerStatus.unpack : Int → Except ProtoError PlayerStatus :=
  unpackEnum [(0, .idle), (1, .inGame)]

def PlayerSource.unpack : Int → Except ProtoError PlayerSource :=
  unpackEnum [(0, .test), (1, .bNet)]

def RejectReason.unpack : Int → Except ProtoError RejectReason :=
  unpackEnum [(0, .unknown), (1, .clientVersionTooOld), (2, .invalidToken)]

/-- Modelled from the spec: a `proto::PlayerInfo`. -/
structure ProtoPlayerInfo where
  id : Int
  name : String
  source : Int
  deriving DecidableEq, Repr

/-- Modelled from the spec: a `proto::Session`. -/
structure ProtoSession where
  player : Option ProtoPlayerInfo
  status : Int
  gameId : Option Int
  deriving DecidableEq, Repr

/-- `PlayerInfo`. -/
structure PlayerInfo where
  id : Int
  name : String
  source : PlayerSource
  deriving DecidableEq, Repr

/-- `PlayerSession`. -/
structure PlayerSession where
  player : PlayerInfo
  status : PlayerStatus
  gameId : Option Int
  deriving DecidableEq, Repr

/-- `PlayerSessionUpdate`. -/
structure PlayerSessionUpdate where
  status : PlayerStatus
  gameId : Option Int
  deriving DecidableEq, Repr

def PlayerInfo.unpack (p : ProtoPlayerInfo) : Except ProtoError PlayerInfo := do
  pure ⟨p.id, p.name, ← PlayerSource.unpack p.source⟩

def PlayerSession.unpack (p : ProtoSession) : Except ProtoError PlayerSession := do
  let player ← extractField "player" PlayerInfo.unpack p.player
  pure ⟨player, ← PlayerStatus.unpack p.status, p.gameId⟩

def PlayerSessionUpdate.unpack (p : PacketPlayerSessionUpdate) :
    Except ProtoError PlayerSessionUpdate := do
  pure ⟨← PlayerStatus.unpack p.status, p.gameId⟩

/-- Modelled from the spec: `crate::types::Game`, which the sink receives whole; kept as its
encoding. -/
structure Game where
  body : List UInt8
  deriving DecidableEq, Repr

/-! ### Messages to the sink -/

/-- `message::Disconnect`. -/
structure Disconnect where
  reason : DisconnectReason
  message : String
  deriving DecidableEq, Repr

/-- `message::Node`: a listed node with the ping the registry holds for it. -/
structure Node where
  id : Int
  name : String
  location : String
  countryId : String
  ping : Option UInt32
  deriving DecidableEq, Repr

/-- Modelled from the spec: `crate::ws::OutgoingMessage`, the variants the control plane sends. -/
inductive OutgoingMessage where
  | playerSession (session : PlayerSession)
  | disconnect (d : Disconnect)
  | currentGameInfo (game : Game)
  | passthrough (kind : Passthrough) (body : List UInt8)
  | playerSessionUpdate (update : PlayerSessionUpdate)
  | listNodes (nodes : List Node)
  | gameSelectNode (p : PacketGameSelectNode)
  deriving DecidableEq, Repr

def OutgoingMessage.isDisconnect : OutgoingMessage → Bool
  | .disconnect _ => true
  | _ => false

/-! ### Errors -/

/-- Modelled from the spec: the `flo_net::error::Error` variants of a frame stream. -/
inductive NetError where
  | unexpectedPacketTypeId (typeId : PacketTypeId)
  | decode
  | streamClosed
  | io
  deriving DecidableEq, Repr

/-- Modelled from the spec: `crate::error::Error`, the variants the control plane can return.
`invalidNodeId` is the node registry refusing to select a node it does not list; `sink` is the
user-facing sink refusing a message. -/
inductive Error where
  | net (e : NetError)
  | proto (e : ProtoError)
  | invalidNodeId (id : Int)
  | sink
  | connectionRequestRejected (reason : RejectReason)
  deriving DecidableEq, Repr

end FloLobby.Control
