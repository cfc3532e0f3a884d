import Mathlib.Data.List.Basic

/-!
# W3GS lobby packets

The packets the LAN lobby handler reads from the game client and writes back to it, the game
description it builds them from, and the errors it returns. A received packet is either one of
the typed payloads the handler knows, or `raw`: a packet whose body the handler has no typed
form for, because it does not decode as the type its id names or because the lobby never reads
that type.
-/

namespace FloLobby.Lan

/-- `flo_types::node::NodeGameStatus`. -/
inductive NodeGameStatus where
  | created | waiting | loading | running | ended | terminated
  deriving DecidableEq, Repr

/-- `flo_types::node::SlotClientStatus`. -/
inductive SlotClientStatus where
  | pending | connected | joined | loading | loaded | disconnected | left
  deriving DecidableEq, Repr

/-- `ProtoBufMessageTypeId`. -/
inductive ProtoBufMessageTypeId where
  | unknown2
  | playerProfile
  | playerSkins
  | playerUnknown5
  | unknownValue (id : UInt8)
  deriving DecidableEq, Repr

/-- The protobuf messages of the lobby. -/
inductive ProtoBufMessage where
  /-- `PlayerProfileMessage::new(player_id, name)`. -/
  | playerProfile (playerId : UInt8) (name : String)
  /-- `PlayerSkinsMessage { player_id, ..Default::default() }`. -/
  | playerSkins (playerId : UInt32)
  | playerUnknown5
  deriving DecidableEq, Repr

/-- The type id a message is sent under. -/
def ProtoBufMessage.typeId : ProtoBufMessage → ProtoBufMessageTypeId
  | .playerProfile _ _ => .playerProfile
  | .playerSkins _ => .playerSkins
  | .playerUnknown5 => .playerUnknown5

/-- `ProtoBufPayload`: a message type id and what its bytes decode to (`none` when
`decode_message` fails on them). -/
structure ProtoBufPayload where
  typeId : ProtoBufMessageTypeId
  message : Option ProtoBufMessage
  deriving DecidableEq, Repr

/-- `ProtoBufPayload::new`. -/
def ProtoBufPayload.new (m : ProtoBufMessage) : ProtoBufPayload := ⟨m.typeId, some m⟩

structure SockAddrV4 where
  ip : UInt32
  port : UInt16
  deriving DecidableEq, Repr

/-- `std::net::SocketAddr`; the lobby only needs to tell the two families apart. -/
inductive SocketAddr where
  | v4 (addr : SockAddrV4)
  | v6
  deriving DecidableEq, Repr

/-- The canonical slot table. The handler copies it whole into packets and reads none of its
fields, so it is kept as its encoding. -/
structure SlotInfo where
  table : List UInt8
  deriving DecidableEq, Repr

/-- `GameSettings`, the blob `MapCheck` carries unread. -/
structure GameSettings where
  data : List UInt8
  deriving DecidableEq, Repr

/-- W3GS type ids. `unknown` is every id the lobby has no name for. -/
inductive PacketTypeId where
  | reqJoin | slotInfoJoin | slotInfo | playerInfo | protoBufPayload | mapCheck | mapSize
  | chatToHost | chatFromHost | pingFromHost | pongToHost | countDownStart | countDownEnd
  | leaveReq
  | unknown (id : UInt8)
  deriving DecidableEq, Repr

/-- A W3GS packet. -/
inductive Packet where
  | reqJoin
  | slotInfoJoin (slotInfo : SlotInfo) (playerId : UInt8) (externalAddr : SockAddrV4)
  | slotInfo (slotInfo : SlotInfo)
  | playerInfo (playerId : UInt8) (name : String)
  | protoBufPayload (payload : ProtoBufPayload)
  | mapCheck (fileSize : UInt32) (crc32 : UInt32) (settings : GameSettings)
  | mapSize
  | chatToHost
  /-- `ChatFromHost::lobby(from, to, message)`. -/
  | chatFromHost (fromPlayer : UInt8) (toPlayers : List UInt8) (message : String)
  /-- `PingFromHost::with_payload_since(base_t)`: the milliseconds since `base_t`. -/
  | pingFromHost (elapsedMillis : UInt32)
  | pongToHost
  | countDownStart
  | countDownEnd
  | leaveReq
  | raw (typeId : PacketTypeId)
  deriving DecidableEq, Repr

/-- `Packet::type_id`. -/
def Packet.typeId : Packet → PacketTypeId
  | .reqJoin => .reqJoin
  | .slotInfoJoin .. => .slotInfoJoin
  | .slotInfo _ => .slotInfo
  | .playerInfo .. => .playerInfo
  | .protoBufPayload _ => .protoBufPayload
  | .mapCheck .. => .mapCheck
  | .mapSize => .mapSize
  | .chatToHost => .chatToHost
  | .chatFromHost .. => .chatFromHost
  | .pingFromHost _ => .pingFromHost
  | .pongToHost => .pongToHost
  | .countDownStart => .countDownStart
  | .countDownEnd => .countDownEnd
  | .leaveReq => .leaveReq
  | .raw t => t

/-- `decode_simple` succeeds on every typed payload and on no `raw` packet. -/
def Packet.decodes : Packet → Bool
  | .raw _ => false
  | _ => true

/-- The entries of `LanSlotInfo::player_infos`. -/
structure LanPlayerInfo where
  slotPlayerId : UInt8
  name : String
  deriving DecidableEq, Repr

/-- `LanSlotInfo`. -/
structure LanSlotInfo where
  slotInfo : SlotInfo
  playerInfos : List LanPlayerInfo
  mySlotPlayerId : UInt8
  streamObSlot : Option Nat
  deriving DecidableEq, Repr

/-- The fields of `LocalGameInfo` the lobby reads. -/
structure LocalGameInfo where
  name : String
  playerId : Int
  deriving DecidableEq, Repr

/-- `MapChecksum`: `file_size` is a `usize`, cast to `u32` for `MapCheck`. -/
structure MapChecksum where
  fileSize : UInt64
  crc32 : UInt32
  deriving DecidableEq, Repr

/-- `LanGameInfo`. -/
structure LanGameInfo where
  game : LocalGameInfo
  slotInfo : LanSlotInfo
  mapChecksum : MapChecksum
  gameSettings : GameSettings
  lanGameNameOverride : Option String
  deriving DecidableEq, Repr

/-- The number of players `run` waits for: every entry of `player_infos`, and the stream
observer when there is one. -/
def LanGameInfo.totalPlayers (info : LanGameInfo) : Nat :=
  info.slotInfo.playerInfos.length + if info.slotInfo.streamObSlot.isSome then 1 else 0

/-- Modelled from the spec: `slot::index_to_player_id`, which is not under `src/`. A slot's
player id is its index plus one. -/
def indexToPlayerId (index : Nat) : UInt8 := (index + 1).toUInt8

/-- `flo_w3gs::error::Error`, the variants the lobby can meet. -/
inductive W3GSError where
  | ipv6NotSupported
  | encode
  | decode
  | io
  deriving DecidableEq, Repr

/-- `crate::error::Error`, the variants the lobby can return. -/
inductive Error where
  | streamClosed
  | taskCancelled (why : String)
  | unexpectedW3GSPacket (pkt : Packet)
  | w3gs (e : W3GSError)
  deriving DecidableEq, Repr

/-- `crate::messages::OutgoingMessage`, the variant the lobby sends. -/
inductive OutgoingMessage where
  | lanGameJoined (lobbyName : String)
  deriving DecidableEq, Repr

/-- What the outside world sees the handler do: writes to the client stream that went
through, time passing in its sleeps, and the notifications it issues to the node stream and
the user-facing sink (whose failures it ignores). -/
inductive Effect where
  | send (pkt : Packet)
  | sendAll (pkts : List Packet)
  | sleep (ms : Nat)
  | reportSlotStatus (status : SlotClientStatus)
  | outgoing (msg : OutgoingMessage)
  deriving DecidableEq, Repr

/-- What the handler relies on from outside this repository: whether `Packet::simple` can
encode a payload (its only failure is a payload longer than a W3GS frame holds), the
`get_lan_game_name` naming rule, whether the build has `debug_assertions`, and whether the
subscriber enables DEBUG events at `handle_packet`'s callsites, so that `tracing::debug!`
evaluates its arguments. -/
structure Env where
  encodes : Packet → Bool
  getLanGameName : String → Int → String
  debugAssertions : Bool
  debugTracing : Bool

/-- `Packet::simple`. -/
def Env.simple (env : Env) (pkt : Packet) : Except Error Packet :=
  if env.encodes pkt then .ok pkt else .error (.w3gs .encode)

end FloLobby.Lan
