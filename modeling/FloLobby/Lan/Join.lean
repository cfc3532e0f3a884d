import FloLobby.Lan.Eval

/-!
# The reply to `ReqJoin`

The `ReqJoin` arm builds the whole lobby for the joining client and writes it with one
`send_all`. `joinBatch` is that batch as the lobby's description lists it; the arm's loop over
the players and its observer block build exactly it, or fail on the first packet that does not
encode, before anything is written.
-/

namespace FloLobby.Lan

/-- `PlayerSkinsMessage { player_id, ..Default::default() }` as a packet. -/
def skinsPacket (playerId : UInt32) : Packet := .protoBufPayload (.new (.playerSkins playerId))

/-- `PlayerProfileMessage::new(player_id, name)` as a packet. -/
def profilePacket (playerId : UInt8) (name : String) : Packet :=
  .protoBufPayload (.new (.playerProfile playerId name))

/-- The `ReqJoin` reply as described: the slot info for the joining client and the lobby's, the
other players' `PlayerInfo` then the observer's, their skins in the same order, every player's
profile then the observer's, and the map check. -/
def joinBatch (info : LanGameInfo) (addr : SockAddrV4) : List Packet :=
  let slotInfo := info.slotInfo
  let others := slotInfo.playerInfos.filter (·.slotPlayerId ≠ slotInfo.mySlotPlayerId)
  let observer := (slotInfo.streamObSlot.map indexToPlayerId).toList
  [.slotInfoJoin slotInfo.slotInfo slotInfo.mySlotPlayerId addr, .slotInfo slotInfo.slotInfo] ++
    others.map (fun p => .playerInfo p.slotPlayerId p.name) ++ observer.map (.playerInfo · "FLO") ++
    others.map (fun p => skinsPacket p.slotPlayerId.toUInt32) ++
    observer.map (fun id => skinsPacket id.toUInt32) ++
    slotInfo.playerInfos.map (fun p => profilePacket p.slotPlayerId p.name) ++
    observer.map (profilePacket · "FLO") ++
    [.mapCheck info.mapChecksum.fileSize.toUInt32 info.mapChecksum.crc32 info.gameSettings]

variable (env : Env)

theorem except_pure {α : Type} (a : α) : (pure a : Except Error α) = .ok a := rfl

theorem simple_bind {α : Type} (pkt : Packet) (f : Packet → Except Error α) :
    env.simple pkt >>= f = if env.encodes pkt then f pkt else .error (.w3gs .encode) := by
  unfold Env.simple
  split <;> rfl

/-- What the players' loop pushes: the other players' `PlayerInfo` and skins, and every
player's profile. -/
def playerReplies (my : UInt8) (players : List LanPlayerInfo) : JoinReplies :=
  ⟨(players.filter (·.slotPlayerId ≠ my)).map (fun p => .playerInfo p.slotPlayerId p.name),
    (players.filter (·.slotPlayerId ≠ my)).map (fun p => skinsPacket p.slotPlayerId.toUInt32),
    players.map (fun p => profilePacket p.slotPlayerId p.name)⟩

/-- The three lists of `acc` extended by those of `r`. -/
def JoinReplies.append (acc r : JoinReplies) : JoinReplies :=
  ⟨acc.playerInfoPackets ++ r.playerInfoPackets, acc.playerSkinPackets ++ r.playerSkinPackets,
    acc.playerProfilePackets ++ r.playerProfilePackets⟩

/-- Whether every packet of `r` encodes. -/
def JoinReplies.encode (r : JoinReplies) : Bool :=
  (r.playerInfoPackets ++ r.playerSkinPackets ++ r.playerProfilePackets).all env.encodes

theorem JoinReplies.encode_append (acc r : JoinReplies) :
    (acc.append r).encode env = (acc.encode env && r.encode env) := by
  simp only [JoinReplies.encode, JoinReplies.append, List.all_append]
  cases acc.playerInfoPackets.all env.encodes <;> cases acc.playerSkinPackets.all env.encodes <;>
    cases acc.playerProfilePackets.all env.encodes <;> simp

theorem JoinReplies.append_assoc (a b c : JoinReplies) :
    (a.append b).append c = a.append (b.append c) := by
  simp [JoinReplies.append]

theorem playerReplies_cons (my : UInt8) (p : LanPlayerInfo) (rest : List LanPlayerInfo) :
    playerReplies my (p :: rest) = JoinReplies.append
      (if p.slotPlayerId ≠ my then
        ⟨[.playerInfo p.slotPlayerId p.name], [skinsPacket p.slotPlayerId.toUInt32],
          [profilePacket p.slotPlayerId p.name]⟩
      else ⟨[], [], [profilePacket p.slotPlayerId p.name]⟩) (playerReplies my rest) := by
  by_cases mine : p.slotPlayerId = my <;> simp [playerReplies, JoinReplies.append, mine]

/-- The players' loop pushes `playerReplies`, or fails if one of its packets does not encode. -/
theorem pushPlayers_eq (my : UInt8) (acc : JoinReplies) (players : List LanPlayerInfo) :
    pushPlayers env my acc players = if (playerReplies my players).encode env
      then .ok (acc.append (playerReplies my players)) else .error (.w3gs .encode) := by
  induction players generalizing acc with
  | nil => simp [pushPlayers, playerReplies, JoinReplies.append, JoinReplies.encode, except_pure]
  | cons p rest ih =>
    rw [playerReplies_cons, ← JoinReplies.append_assoc]
    simp only [JoinReplies.encode_append]
    by_cases mine : p.slotPlayerId = my
    · simp only [pushPlayers, mine, ne_eq, not_true_eq_false, if_false, pure_bind, simple_bind, ih]
      by_cases profile : env.encodes (.protoBufPayload (.new (.playerProfile my p.name))) <;>
        simp [profile, JoinReplies.encode, JoinReplies.append, profilePacket]
    · simp only [pushPlayers, mine, ne_eq, not_false_eq_true, if_true, simple_bind, ih]
      by_cases info : env.encodes (.playerInfo p.slotPlayerId p.name) <;>
      by_cases skins : env.encodes (.protoBufPayload (.new (.playerSkins p.slotPlayerId.toUInt32))) <;>
      by_cases profile : env.encodes (.protoBufPayload (.new (.playerProfile p.slotPlayerId p.name))) <;>
        simp [mine, info, skins, profile, JoinReplies.encode, JoinReplies.append, profilePacket,
          skinsPacket]

/-- What the observer block pushes: the observer's `PlayerInfo`, skins and profile under the
name `"FLO"`, when there is an observer slot. -/
def observerReplies : Option Nat → JoinReplies
  | some obSlot => ⟨[.playerInfo (indexToPlayerId obSlot) "FLO"],
      [skinsPacket (indexToPlayerId obSlot).toUInt32], [profilePacket (indexToPlayerId obSlot) "FLO"]⟩
  | none => ⟨[], [], []⟩

theorem pushObserver_eq (acc : JoinReplies) (obSlot : Option Nat) :
    pushObserver env acc obSlot = if (observerReplies obSlot).encode env
      then .ok (acc.append (observerReplies obSlot)) else .error (.w3gs .encode) := by
  cases obSlot with
  | none => simp [pushObserver, observerReplies, JoinReplies.encode, JoinReplies.append, except_pure]
  | some obSlot =>
    simp only [pushObserver, observerReplies, simple_bind]
    by_cases info : env.encodes (.playerInfo (indexToPlayerId obSlot) "FLO") <;>
    by_cases skins : env.encodes (skinsPacket (indexToPlayerId obSlot).toUInt32) <;>
    by_cases profile : env.encodes (profilePacket (indexToPlayerId obSlot) "FLO") <;>
      simp_all [JoinReplies.encode, JoinReplies.append, skinsPacket, profilePacket, except_pure]

/-- The described batch is the two slot packets, what the loop and the observer block push, and
the map check. -/
theorem joinBatch_eq (info : LanGameInfo) (addr : SockAddrV4) :
    joinBatch info addr =
      let replies := (playerReplies info.slotInfo.mySlotPlayerId info.slotInfo.playerInfos).append
        (observerReplies info.slotInfo.streamObSlot)
      [.slotInfoJoin info.slotInfo.slotInfo info.slotInfo.mySlotPlayerId addr,
        .slotInfo info.slotInfo.slotInfo] ++ replies.playerInfoPackets ++ replies.playerSkinPackets ++
        replies.playerProfilePackets ++
        [.mapCheck info.mapChecksum.fileSize.toUInt32 info.mapChecksum.crc32 info.gameSettings] := by
  cases obSlot : info.slotInfo.streamObSlot <;>
    simp [joinBatch, playerReplies, observerReplies, JoinReplies.append, obSlot]

/-- The `ReqJoin` arm's replies are the described batch, or an encoding error. -/
theorem joinReplies_eq (info : LanGameInfo) (addr : SockAddrV4) :
    joinReplies env info addr = if (joinBatch info addr).all env.encodes
      then .ok (joinBatch info addr) else .error (.w3gs .encode) := by
  have all_split : ∀ (l : List Packet) (r : JoinReplies) (check : Packet),
      (l ++ r.playerInfoPackets ++ r.playerSkinPackets ++ r.playerProfilePackets ++ [check]).all
        env.encodes = (l.all env.encodes && r.encode env && env.encodes check) := by
    intro l r check
    simp only [JoinReplies.encode, List.all_append, List.all_cons, List.all_nil, Bool.and_true,
      Bool.and_assoc]
  rw [joinBatch_eq]
  simp only [joinReplies, simple_bind, pushPlayers_eq, pushObserver_eq, all_split,
    JoinReplies.encode_append, List.all_cons, List.all_nil, Bool.and_true]
  generalize (playerReplies _ _).encode env = players
  generalize (observerReplies _).encode env = observer
  cases env.encodes (.slotInfoJoin info.slotInfo.slotInfo info.slotInfo.mySlotPlayerId addr) <;>
  cases env.encodes (.slotInfo info.slotInfo.slotInfo) <;> cases players <;> cases observer <;>
  cases env.encodes (.mapCheck info.mapChecksum.fileSize.toUInt32 info.mapChecksum.crc32
    info.gameSettings) <;> rfl

/-- Whether a packet carries a `PlayerProfile` message. -/
def Packet.isProfile : Packet → Bool
  | .protoBufPayload payload => payload.typeId == .playerProfile
  | _ => false

theorem joinBatch_profiles (info : LanGameInfo) (addr : SockAddrV4) :
    (joinBatch info addr).countP Packet.isProfile = info.totalPlayers := by
  cases obSlot : info.slotInfo.streamObSlot <;>
    simp [joinBatch, LanGameInfo.totalPlayers, obSlot, List.countP_append, List.countP_map,
      Function.comp_def, Packet.isProfile, skinsPacket, profilePacket, ProtoBufPayload.new,
      ProtoBufMessage.typeId]

/-- On an IPv4 stream `handle_packet` answers `ReqJoin` with one `send_all` of the described
batch, or fails before writing anything when a packet of it does not encode; on an IPv6 stream
it fails before writing anything. Either way the join state is left as it was, and the batch
carries the profiles of all the `total_players` players that `run` waits for. -/
theorem reqJoin_reply (s : Lobby) :
    (∀ addr, s.stream.localAddr = .v4 addr →
      handlePacket env .reqJoin s = if (joinBatch s.info addr).all env.encodes
        then sendAll (joinBatch s.info addr) s else .error (.w3gs .encode) s) ∧
    (s.stream.localAddr = .v6 → handlePacket env .reqJoin s = .error (.w3gs .ipv6NotSupported) s) ∧
    ∀ addr, (joinBatch s.info addr).countP Packet.isProfile = s.info.totalPlayers := by
  refine ⟨fun addr v4 => ?_, fun v6 => ?_, fun addr => joinBatch_profiles s.info addr⟩
  · simp only [handlePacket, Packet.typeId, bind_apply, get_apply, andThen_ok, v4, pure_apply,
      joinReplies_eq]
    split <;> simp [liftExcept]
  · exact handlePacket_v6 env s v6

end FloLobby.Lan
