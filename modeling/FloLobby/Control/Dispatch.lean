import FloLobby.EState
import FloLobby.Control.Node

/-!
# The control-plane stream and its dispatch

`LobbyStream::connect` and `LobbyStream::dispatch` as state-and-error computations. The state
holds the shared `current_game_id` cell, the node registry, and what has gone out on the
user-facing sink and on the server stream; an error keeps the state it was raised in, since the
cell and the registry are shared and `?` does not roll them back.
-/

namespace FloLobby.Control

open FloLobby.Proto

/-- A sink whose sends can fail: what has gone through, and the outcome of the next sends
(`true` fails; past the end of the list every send goes through). -/
structure Outbox (α : Type) where
  delivered : List α
  faults : List Bool
  deriving DecidableEq, Repr

/-- One send: whether it went through, and the outbox with its outcome used up. -/
def Outbox.push {α : Type} (o : Outbox α) (x : α) : Bool × Outbox α :=
  if o.faults.headD false then (false, { o with faults := o.faults.tail })
  else (true, ⟨o.delivered ++ [x], o.faults.tail⟩)

theorem Outbox.push_cases {α : Type} (o : Outbox α) (x : α) :
    o.push x = (true, ⟨o.delivered ++ [x], o.faults.tail⟩) ∨
      o.push x = (false, ⟨o.delivered, o.faults.tail⟩) := by
  unfold Outbox.push
  split <;> simp

/-- The control plane's state: the `current_game_id` cell, the node registry, the ws sender and
the server stream. -/
structure ControlState where
  currentGameId : Option Int
  nodes : NodeRegistry
  ws : Outbox OutgoingMessage
  stream : Outbox Frame

abbrev ControlM := EStateM Error ControlState

/-- What the control plane relies on from outside this repository: `flo_net`'s decoding of a
frame as the packet type its id names, the unpacking of a `proto::Game`, and the `Display` of
the errors the worker reports. -/
structure Env where
  decode : Frame → Option ServerPacket
  decode_typeId : ∀ frame p, decode frame = some p → p.typeId = frame.typeId
  unpackGame : ProtoGame → Except ProtoError Game
  display : Error → String
  displayNet : NetError → String

variable (env : Env)

/-! ### Operations -/

/-- `?` on an `s2_grpc_utils` result. -/
def liftProto {α : Type} (x : Except ProtoError α) : ControlM α := liftExcept (x.mapError .proto)

/-- `LobbyStream::send_message`: the sink's refusal is returned to the caller. -/
def sendMessage (msg : OutgoingMessage) : ControlM Unit := fun s =>
  match s.ws.push msg with
  | (true, ws) => .ok () { s with ws }
  | (false, ws) => .error .sink { s with ws }

/-- `nodes.set_selected_node(id)?`. -/
def setSelectedNode (id : Option Int) : ControlM Unit := fun s =>
  match s.nodes.setSelectedNode id with
  | .ok nodes => .ok () { s with nodes }
  | .error e => .error e s

/-- Modelled from the spec: `flo_net::match_packet!` over `dispatch`'s arms. A frame whose id
has no arm is an error, and so is one whose payload does not decode. -/
def matchPacket (frame : Frame) : Except Error ServerPacket :=
  if frame.typeId.dispatched then
    match env.decode frame with
    | some p => .ok p
    | none => .error (.net .decode)
  else .error (.net (.unexpectedPacketTypeId frame.typeId))

/-- The node a `GameInfo` selects: its game's node's id, if it has both. -/
def PacketGameInfo.selectedNode (p : PacketGameInfo) : Option Int :=
  p.game.bind fun g => g.node.bind (·.id)

/-- The arms of `dispatch`: the writes each makes, then the message it builds. -/
def dispatchPacket : ServerPacket → ControlM OutgoingMessage
  | .lobbyDisconnect p => do
    let reason ← liftProto (DisconnectReason.unpack p.reason)
    pure (.disconnect ⟨reason, "Server closed the connection"⟩)
  | .gameInfo p => do
    setSelectedNode p.selectedNode
    let game ← liftProto (extractField "game" env.unpackGame p.game)
    pure (.currentGameInfo game)
  | .passthrough kind body => pure (.passthrough kind body)
  | .playerSessionUpdate p => do
    if p.gameId.isNone then setSelectedNode none
    modify fun s => { s with currentGameId := p.gameId }
    let update ← liftProto (PlayerSessionUpdate.unpack p)
    pure (.playerSessionUpdate update)
  | .listNodes p => do
    modify fun s => { s with nodes := s.nodes.updateNodes p.nodes }
    let s ← get
    pure (.listNodes (p.nodes.map fun n =>
      ⟨n.id, n.name, n.location, n.countryId, s.nodes.getCurrentPing n.id⟩))
  | .gameSelectNode p => do
    setSelectedNode p.nodeId
    pure (.gameSelectNode p)

/-- `LobbyStream::dispatch`. -/
def dispatch (frame : Frame) : ControlM Unit := do
  let p ← liftExcept (matchPacket env frame)
  let msg ← dispatchPacket env p
  sendMessage msg

/-- The server's reply to `ConnectLobby`. -/
inductive ConnectReply where
  | accept (session : Option ProtoSession)
  | reject (reason : Int)
  deriving DecidableEq, Repr

/-- `LobbyStream::connect` from the server's reply on: the state the worker is spawned with, or
the error `connect` returns, in which case no worker runs. -/
def connect (reply : ConnectReply) (nodes : NodeRegistry) (ws : Outbox OutgoingMessage)
    (stream : Outbox Frame) : Except Error ControlState := do
  let session ← match reply with
    | .accept session => (extractField "session" PlayerSession.unpack session).mapError .proto
    | .reject reason => do
      let reason ← (RejectReason.unpack reason).mapError .proto
      throw (.connectionRequestRejected reason)
  match ws.push (.playerSession session) with
  | (true, ws) => pure ⟨session.gameId, nodes, ws, stream⟩
  | (false, _) => throw .sink

/-! ### Equations for the control plane's operations -/

section
variable {α : Type} (s : ControlState)

@[simp] theorem liftProto_apply (x : Except ProtoError α) :
    liftProto x s = match x with
      | .ok a => .ok a s
      | .error e => .error (.proto e) s := by
  cases x <;> rfl

@[simp] theorem setSelectedNode_apply (id : Option Int) :
    setSelectedNode id s = match s.nodes.setSelectedNode id with
      | .ok nodes => .ok () { s with nodes }
      | .error e => .error e s := rfl

end

theorem sendMessage_cases (msg : OutgoingMessage) (s : ControlState) :
    sendMessage msg s = .ok () { s with ws := ⟨s.ws.delivered ++ [msg], s.ws.faults.tail⟩ } ∨
      sendMessage msg s = .error .sink { s with ws := ⟨s.ws.delivered, s.ws.faults.tail⟩ } := by
  unfold sendMessage
  rcases s.ws.push_cases msg with pushed | pushed <;> simp [pushed]

@[simp] theorem stateOf_sendMessage (msg : OutgoingMessage) (s : ControlState) :
    stateOf (sendMessage msg s) = { s with ws := (s.ws.push msg).2 } := by
  unfold sendMessage
  rcases s.ws.push_cases msg with pushed | pushed <;> simp [pushed]

/-- Every packet `flo_net` decodes has an arm, so `matchPacket` only refuses what does not
decode. -/
theorem matchPacket_eq_ok_iff {frame : Frame} {p : ServerPacket} :
    matchPacket env frame = .ok p ↔ env.decode frame = some p := by
  unfold matchPacket
  split
  · split <;> simp_all
  · refine ⟨fun refused => (by cases refused), fun decoded => ?_⟩
    have dispatched := (env.decode_typeId _ _ decoded) ▸ ServerPacket.typeId_dispatched p
    simp_all

theorem matchPacket_typeId {frame : Frame} {p : ServerPacket}
    (decoded : matchPacket env frame = .ok p) : p.typeId = frame.typeId :=
  env.decode_typeId _ _ ((matchPacket_eq_ok_iff env).mp decoded)

/-! ### What `dispatch` can do -/

theorem dispatchPacket_cases (p : ServerPacket) (s : ControlState) :
    (stateOf (dispatchPacket env p s)).ws = s.ws ∧
    (stateOf (dispatchPacket env p s)).stream = s.stream ∧
    ((stateOf (dispatchPacket env p s)).currentGameId = s.currentGameId ∨
      p.typeId = .playerSessionUpdate) ∧
    ((stateOf (dispatchPacket env p s)).nodes.selectedNodeId = none ∨
      (stateOf (dispatchPacket env p s)).nodes.selectedNodeId = s.nodes.selectedNodeId ∨
      p.typeId = .gameInfo ∨ p.typeId = .gameSelectNode) ∧
    ∀ d t, dispatchPacket env p s = .ok (.disconnect d) t →
      p.typeId = .lobbyDisconnect ∧ d.message = "Server closed the connection" := by
  cases p with
  | lobbyDisconnect q =>
    simp only [dispatchPacket, bind_apply, liftProto_apply]
    cases DisconnectReason.unpack q.reason <;> simp [ServerPacket.typeId]
  | gameInfo q =>
    simp only [dispatchPacket, bind_apply, setSelectedNode_apply]
    cases s.nodes.setSelectedNode q.selectedNode <;>
      cases extractField "game" env.unpackGame q.game <;> simp [ServerPacket.typeId]
  | passthrough kind body => simp [dispatchPacket]
  | playerSessionUpdate q =>
    simp only [dispatchPacket]
    split <;> cases PlayerSessionUpdate.unpack q <;> simp [ServerPacket.typeId]
  | listNodes q =>
    simpa [dispatchPacket, ServerPacket.typeId] using s.nodes.updateNodes_selectedNodeId q.nodes
  | gameSelectNode q =>
    simp only [dispatchPacket, bind_apply, setSelectedNode_apply]
    cases s.nodes.setSelectedNode q.nodeId <;> simp [ServerPacket.typeId]

/-- A message `dispatch` builds from `frame`: the frame decodes to a packet whose arm, run from
some state, returns the message. -/
def Dispatched (frame : Frame) (msg : OutgoingMessage) : Prop :=
  ∃ p s t, matchPacket env frame = .ok p ∧ dispatchPacket env p s = .ok msg t

/-- The only `Disconnect` dispatch builds answers a `LobbyDisconnect` frame, with the server's
text. -/
theorem Dispatched.disconnect {frame : Frame} {d : Disconnect}
    (built : Dispatched env frame (.disconnect d)) :
    frame.typeId = .lobbyDisconnect ∧ d.message = "Server closed the connection" := by
  obtain ⟨p, s, t, decoded, arm⟩ := built
  obtain ⟨-, -, -, -, disconnects⟩ := dispatchPacket_cases env p s
  rw [← matchPacket_typeId env decoded]
  exact disconnects d t arm

/-- Everything one `dispatch` can do: it forwards at most one message, one it built from the
frame, and only when nothing failed; it writes nothing to the server; it moves the game id only
for a `PlayerSessionUpdate`, and the selection only by clearing it, but for a `GameInfo` or a
`GameSelectNode`. -/
theorem dispatch_cases (frame : Frame) (s : ControlState) :
    ∃ l, (stateOf (dispatch env frame s)).ws.delivered = s.ws.delivered ++ l ∧
      (stateOf (dispatch env frame s)).stream = s.stream ∧
      ((stateOf (dispatch env frame s)).currentGameId = s.currentGameId ∨
        frame.typeId = .playerSessionUpdate) ∧
      ((stateOf (dispatch env frame s)).nodes.selectedNodeId = none ∨
        (stateOf (dispatch env frame s)).nodes.selectedNodeId = s.nodes.selectedNodeId ∨
        frame.typeId = .gameInfo ∨ frame.typeId = .gameSelectNode) ∧
      (∀ e t, dispatch env frame s = .error e t → l = []) ∧
      (l = [] ∨ ∃ msg, l = [msg] ∧ Dispatched env frame msg) := by
  cases decoded : matchPacket env frame with
  | error e => exact ⟨[], by simp [dispatch, decoded]⟩
  | ok p =>
    have typeId := matchPacket_typeId env decoded
    obtain ⟨ws, stream, game, selection, -⟩ := dispatchPacket_cases env p s
    simp only [dispatch, bind_apply, liftExcept_apply, decoded, andThen_ok, ← typeId]
    cases arm : dispatchPacket env p s with
    | error e t =>
      simp only [arm, stateOf_error, andThen_error] at ws stream game selection ⊢
      exact ⟨[], by simp [ws], stream, game, selection, by simp⟩
    | ok msg t =>
      simp only [arm, stateOf_ok, andThen_ok] at ws stream game selection ⊢
      rcases sendMessage_cases msg t with sent | sent <;>
        simp only [sent, stateOf_ok, stateOf_error]
      · exact ⟨[msg], by simp [ws], stream, game, selection, by simp,
          .inr ⟨msg, rfl, p, s, t, decoded, arm⟩⟩
      · exact ⟨[], by simp [ws], stream, game, selection, by simp⟩

/-- A server that only ever frames `p`: a frame under `p`'s id decodes to it. -/
def Env.serving (p : ServerPacket) : Env where
  decode frame := if frame.typeId = p.typeId then some p else none
  decode_typeId frame q decoded := by
    by_cases h : frame.typeId = p.typeId <;> simp_all
  unpackGame _ := .error (.fieldValueNotPresent "node")
  display _ := "error"
  displayNet _ := "error"

def nodeSeven : ProtoNode := ⟨7, "node", "here", "XX"⟩

/-- A registry listing node 7, pinged at 42 ms and selected. -/
def sevenSelected : NodeRegistry := ⟨[⟨nodeSeven, some 42⟩], some 7, by simp [nodeSeven]⟩

/-- A client in game 3 with node 7 selected; `faults` are the outcomes of its sink's sends. -/
def inGame (faults : List Bool) : ControlState := ⟨some 3, sevenSelected, ⟨[], faults⟩, ⟨[], []⟩⟩

/-! ### Failed unpacking -/

theorem dispatch_unpack_failure (frame : Frame) (s : ControlState) :
    (∀ q e, matchPacket env frame = .ok (.lobbyDisconnect q) →
      DisconnectReason.unpack q.reason = .error e → dispatch env frame s = .error (.proto e) s) ∧
    (∀ q e, matchPacket env frame = .ok (.playerSessionUpdate q) →
      PlayerSessionUpdate.unpack q = .error e →
      ∃ t, dispatch env frame s = .error (.proto e) t ∧ t.currentGameId = q.gameId ∧
        t.nodes.selectedNodeId = (if q.gameId = none then none else s.nodes.selectedNodeId) ∧
        t.nodes.entries = s.nodes.entries ∧ t.ws = s.ws ∧ t.stream = s.stream) ∧
    (∀ q e, matchPacket env frame = .ok (.gameInfo q) →
      extractField "game" env.unpackGame q.game = .error e →
      (∃ t, dispatch env frame s = .error (.proto e) t ∧ t.nodes.selectedNodeId = q.selectedNode ∧
        t.nodes.entries = s.nodes.entries ∧ t.currentGameId = s.currentGameId ∧ t.ws = s.ws ∧
        t.stream = s.stream) ∨
      ∃ n, q.selectedNode = some n ∧ n ∉ s.nodes.entries.map (·.node.id) ∧
        dispatch env frame s = .error (.invalidNodeId n) s) := by
  refine ⟨fun q e decoded fails => ?_, fun q e decoded fails => ?_, fun q e decoded fails => ?_⟩
  · simp [dispatch, decoded, dispatchPacket, fails]
  · by_cases noGame : q.gameId = none <;>
      simp [dispatch, decoded, dispatchPacket, fails, noGame]
  · rcases s.nodes.setSelectedNode_cases q.selectedNode with
      ⟨r, chosen, entries, selected⟩ | ⟨n, target, unlisted, refused⟩
    · left
      simp [dispatch, decoded, dispatchPacket, fails, chosen, entries, selected]
    · right
      exact ⟨n, target, unlisted, by simp [dispatch, decoded, dispatchPacket, refused]⟩

theorem failed_update_moves_game_id :
    matchPacket (.serving (.playerSessionUpdate ⟨7, none⟩)) ⟨.playerSessionUpdate, []⟩ =
      .ok (.playerSessionUpdate ⟨7, none⟩) ∧
    PlayerSessionUpdate.unpack ⟨7, none⟩ = .error (.unknownEnumValue 7) ∧
    ∃ t, dispatch (.serving (.playerSessionUpdate ⟨7, none⟩)) ⟨.playerSessionUpdate, []⟩
        (inGame []) =
      .error (.proto (.unknownEnumValue 7)) t ∧
      (inGame []).currentGameId = some 3 ∧ t.currentGameId = none ∧
      (inGame []).nodes.selectedNodeId = some 7 ∧ t.nodes.selectedNodeId = none :=
  ⟨rfl, rfl, _, rfl, rfl, rfl, rfl, rfl⟩

/-! ### The handshake -/

/-- `connect` hands the worker a state only after an accepted, well-formed session that the
sink took. -/
theorem connect_ok {reply : ConnectReply} {nodes : NodeRegistry} {ws : Outbox OutgoingMessage}
    {stream : Outbox Frame} {t : ControlState} (spawned : connect reply nodes ws stream = .ok t) :
    ∃ session p, reply = .accept session ∧
      extractField "session" PlayerSession.unpack session = .ok p ∧
      t = ⟨p.gameId, nodes, ⟨ws.delivered ++ [.playerSession p], ws.faults.tail⟩, stream⟩ := by
  cases reply with
  | reject reason =>
    simp only [connect, bind, Except.bind, Except.mapError, throw, throwThe,
      MonadExceptOf.throw] at spawned
    split at spawned <;> cases spawned
  | accept session =>
    cases unpacked : extractField "session" PlayerSession.unpack session with
    | error e => simp [connect, unpacked, bind, Except.bind, Except.mapError] at spawned
    | ok p =>
      refine ⟨session, p, rfl, unpacked, ?_⟩
      rcases ws.push_cases (.playerSession p) with pushed | pushed <;>
        simp [connect, unpacked, pushed, bind, Except.bind, Except.mapError, pure, Except.pure,
          throw, throwThe, MonadExceptOf.throw] at spawned
      exact spawned.symm

end FloLobby.Control
