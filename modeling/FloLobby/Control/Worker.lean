import FloLobby.Control.Dispatch

/-!
# The control-plane worker

The task `LobbyStream::connect` spawns. Each pass of its loop takes whichever of two futures
completes first: a frame queued on the outbound channel, or a frame (or an error) from the
server. Any interleaving of the two is a list of events, and the worker is run over it until it
breaks out of the loop.
-/

namespace FloLobby.Control

open FloLobby.Proto

/-- What completes a pass of the worker's `select!`. -/
inductive WorkerEvent where
  /-- `frame_r.next()`: a queued frame, or `None` once every sender is dropped. -/
  | nextSend (next : Option Frame)
  /-- `stream.recv_frame()`. -/
  | recv (next : Except NetError Frame)
  deriving Repr

variable (env : Env)

/-- `stream.send_frame(frame)`: the loop goes on if the write went through. -/
def sendFrame (frame : Frame) (s : ControlState) : ControlState × Bool :=
  ({ s with stream := (s.stream.push frame).2 }, (s.stream.push frame).1)

/-- One pass of the worker's loop: the state after it, and whether the loop goes on. -/
def workerStep : WorkerEvent → ControlState → ControlState × Bool
  | .nextSend (some frame), s => sendFrame frame s
  | .nextSend none, s => (s, false)
  | .recv (.ok frame), s =>
    if frame.typeId = .ping then sendFrame { frame with typeId := .pong } s
    else match dispatch env frame s with
      | .ok () t => (t, true)
      | .error e t =>
        (stateOf (sendMessage (.disconnect ⟨.unknown, "dispatch: " ++ env.display e⟩) t), false)
  | .recv (.error e), s =>
    (stateOf (sendMessage (.disconnect ⟨.unknown, "recv: " ++ env.displayNet e⟩) s), false)

/-- The worker over the events that reach it: the state it leaves, and whether it is still
looping when they run out (`false` once it has broken out). -/
def worker : List WorkerEvent → ControlState → ControlState × Bool
  | [], s => (s, true)
  | e :: rest, s =>
    match workerStep env e s with
    | (t, true) => worker rest t
    | (t, false) => (t, false)

/-! ### What one pass can do -/

/-- The type id of the frame an event brings from the server. -/
def WorkerEvent.frameType : WorkerEvent → Option PacketTypeId
  | .recv (.ok frame) => some frame.typeId
  | _ => none

/-- The frame a pass writes to the server when nothing fails: the queued frame, or the `Pong`
answering a `Ping`. -/
def WorkerEvent.outbound : WorkerEvent → Option Frame
  | .nextSend (some frame) => some frame
  | .recv (.ok frame) => if frame.typeId = .ping then some { frame with typeId := .pong } else none
  | _ => none

/-- The frame a pass hands to `dispatch`: a received frame other than a `Ping`. -/
def WorkerEvent.dispatchedFrame : WorkerEvent → Option Frame
  | .recv (.ok frame) => if frame.typeId = .ping then none else some frame
  | _ => none

/-- Whether a pass can reach the sink: a received frame other than a `Ping`, or a receive
error. -/
def WorkerEvent.reachesSink : WorkerEvent → Bool
  | .recv (.ok frame) => frame.typeId != .ping
  | .recv (.error _) => true
  | .nextSend _ => false

/-- The text of the `Disconnect` the worker sends on its way out of the loop. -/
def ExitText (msg : String) : Prop :=
  (∃ e, msg = "dispatch: " ++ env.display e) ∨ ∃ e, msg = "recv: " ++ env.displayNet e

theorem sendFrame_cases (frame : Frame) (s : ControlState) :
    ((sendFrame frame s).2 = true ∧
      (sendFrame frame s).1.stream.delivered = s.stream.delivered ++ [frame]) ∨
    ((sendFrame frame s).2 = false ∧
      (sendFrame frame s).1.stream.delivered = s.stream.delivered) := by
  rcases s.stream.push_cases frame with pushed | pushed <;> simp [sendFrame, pushed]

/-- What a pass that goes on sends to the sink: nothing, or one message `dispatch` built from the
frame the pass handed it. -/
def Forwarded (e : WorkerEvent) (l : List OutgoingMessage) : Prop :=
  l = [] ∨ ∃ frame msg, e.dispatchedFrame = some frame ∧ l = [msg] ∧ Dispatched env frame msg

/-- What one pass from `s` to `t` did, `going` saying whether the loop goes on. It sent `l` to
the sink and `out` to the server: at most one message, and only for a received frame or a receive
error; it changed the game id only for a `PlayerSessionUpdate`, and the selected node only by
clearing it, but for a `GameInfo` or a `GameSelectNode`. A pass that goes on wrote the frame it
owed and forwarded what `dispatch` built; a pass that ends the loop may have lost its write, and
sent at most the exit notice. -/
def PassEffects (e : WorkerEvent) (s t : ControlState) (going : Bool) : Prop :=
  ∃ l out, t.ws.delivered = s.ws.delivered ++ l ∧ t.stream.delivered = s.stream.delivered ++ out ∧
    l.length ≤ [e].countP WorkerEvent.reachesSink ∧
    (t.currentGameId = s.currentGameId ∨ e.frameType = some .playerSessionUpdate) ∧
    (t.nodes.selectedNodeId = none ∨ t.nodes.selectedNodeId = s.nodes.selectedNodeId ∨
      e.frameType = some .gameInfo ∨ e.frameType = some .gameSelectNode) ∧
    ((going = true ∧ out = e.outbound.toList ∧ Forwarded env e l) ∨
      (going = false ∧ out <+: e.outbound.toList ∧
        (l = [] ∨ ∃ msg, l = [.disconnect ⟨.unknown, msg⟩] ∧ ExitText env msg)))

/-- A pass that only writes the frame it owes the server. -/
theorem sendFrame_pass {e : WorkerEvent} {frame : Frame} (owed : e.outbound = some frame)
    (s : ControlState) : PassEffects env e s (sendFrame frame s).1 (sendFrame frame s).2 := by
  rcases sendFrame_cases frame s with ⟨going, wrote⟩ | ⟨stopped, kept⟩
  · exact ⟨[], [frame], by simp [sendFrame], wrote, by simp, .inl rfl, .inr (.inl rfl),
      .inl ⟨going, by simp [owed], .inl rfl⟩⟩
  · exact ⟨[], [], by simp [sendFrame], by simpa using kept, by simp, .inl rfl, .inr (.inl rfl),
      .inr ⟨stopped, List.nil_prefix, .inl rfl⟩⟩

/-- A pass that ends the loop with the exit notice, sent from a state `t` in which it has sent
nothing yet. -/
theorem notice_pass {e : WorkerEvent} {msg : String} (exit : ExitText env msg)
    (reaches : e.reachesSink = true) (silent : e.outbound = none) {s t : ControlState}
    (sink : t.ws.delivered = s.ws.delivered) (stream : t.stream = s.stream)
    (game : t.currentGameId = s.currentGameId ∨ e.frameType = some .playerSessionUpdate)
    (selection : t.nodes.selectedNodeId = none ∨ t.nodes.selectedNodeId = s.nodes.selectedNodeId ∨
      e.frameType = some .gameInfo ∨ e.frameType = some .gameSelectNode) :
    PassEffects env e s (stateOf (sendMessage (.disconnect ⟨.unknown, msg⟩) t)) false := by
  have once : [e].countP WorkerEvent.reachesSink = 1 := by simp [reaches]
  rcases t.ws.push_cases (.disconnect ⟨.unknown, msg⟩) with pushed | pushed
  · exact ⟨_, [], by simp [pushed, sink], by simp [stream], by simp [once], by simpa using game,
      by simpa using selection, .inr ⟨rfl, by simp [silent], .inr ⟨msg, rfl, exit⟩⟩⟩
  · exact ⟨[], [], by simp [pushed, sink], by simp [stream], by simp, by simpa using game,
      by simpa using selection, .inr ⟨rfl, by simp [silent], .inl rfl⟩⟩

/-- Everything one pass of the loop can do. -/
theorem workerStep_cases (e : WorkerEvent) (s : ControlState) :
    PassEffects env e s (workerStep env e s).1 (workerStep env e s).2 := by
  rcases e with (_ | frame) | (err | frame)
  · exact ⟨[], [], by simp [workerStep], by simp [workerStep], by simp, .inl rfl, .inr (.inl rfl),
      .inr ⟨rfl, by simp [WorkerEvent.outbound], .inl rfl⟩⟩
  · exact sendFrame_pass env (e := .nextSend (some frame)) rfl s
  · exact notice_pass env (e := .recv (.error err)) (.inr ⟨err, rfl⟩) rfl rfl rfl rfl (.inl rfl)
      (.inr (.inl rfl))
  · by_cases ping : frame.typeId = .ping
    · simp only [workerStep, ping, ite_true]
      exact sendFrame_pass env (by simp [WorkerEvent.outbound, ping]) s
    obtain ⟨l, sent, stream, game, selection, failed, built⟩ := dispatch_cases env frame s
    have reaches : (WorkerEvent.recv (.ok frame)).reachesSink = true := by
      simp [WorkerEvent.reachesSink, ping]
    have silent : (WorkerEvent.recv (.ok frame)).outbound = none := by
      simp [WorkerEvent.outbound, ping]
    cases run : dispatch env frame s with
    | ok _ t =>
      simp only [run, stateOf_ok] at sent stream game selection
      simp only [workerStep, ping, run, ite_false]
      refine ⟨l, [], sent, by simp [stream], ?_, by simpa [WorkerEvent.frameType] using game,
        by simpa [WorkerEvent.frameType] using selection, .inl ⟨rfl, by simp [silent], ?_⟩⟩
      · rcases built with rfl | ⟨msg, rfl, -⟩ <;> simp [reaches]
      · exact built.imp_right fun ⟨msg, single, made⟩ =>
          ⟨frame, msg, by simp [WorkerEvent.dispatchedFrame, ping], single, made⟩
    | error e t =>
      cases failed e t run
      simp only [run, stateOf_error, List.append_nil] at sent stream game selection
      simp only [workerStep, ping, run, ite_false]
      exact notice_pass env (.inl ⟨e, rfl⟩) reaches silent sent stream
        (by simpa [WorkerEvent.frameType] using game)
        (by simpa [WorkerEvent.frameType] using selection)

/-! ### Whole runs -/

theorem worker_cons (e : WorkerEvent) (rest : List WorkerEvent) (s : ControlState) :
    worker env (e :: rest) s = if (workerStep env e s).2
      then worker env rest (workerStep env e s).1 else ((workerStep env e s).1, false) := by
  rcases step : workerStep env e s with ⟨t, _ | _⟩ <;> simp [worker, step]

/-- Once the worker has broken out of its loop, later events change nothing. -/
theorem worker_stopped (events : List WorkerEvent) (s : ControlState)
    (stopped : (worker env events s).2 = false) (more : List WorkerEvent) :
    worker env (events ++ more) s = worker env events s := by
  induction events generalizing s with
  | nil => simp [worker] at stopped
  | cons e rest ih =>
    rw [List.cons_append, worker_cons, worker_cons] at *
    split at stopped <;> simp_all

theorem WorkerEvent.frameType_of_dispatchedFrame {e : WorkerEvent} {frame : Frame}
    (handed : e.dispatchedFrame = some frame) : e.frameType = some frame.typeId := by
  rcases e with _ | (_ | f) <;> simp [WorkerEvent.dispatchedFrame] at handed
  obtain ⟨-, rfl⟩ := handed
  rfl

/-- A pass forwards a `Disconnect` only for a `LobbyDisconnect` frame. -/
theorem disconnects_le {e : WorkerEvent} {l : List OutgoingMessage} (forwarded : Forwarded env e l) :
    l.countP OutgoingMessage.isDisconnect ≤ [e].countP (·.frameType == some .lobbyDisconnect) := by
  rcases forwarded with rfl | ⟨frame, msg, handed, rfl, made⟩
  · simp
  · cases msg with
    | disconnect d =>
      simp [OutgoingMessage.isDisconnect, e.frameType_of_dispatchedFrame handed,
        (Dispatched.disconnect env made).1]
    | _ => simp [OutgoingMessage.isDisconnect]

/-- Every `Disconnect` among messages dispatched from frames carries the server's text. -/
theorem disconnect_text_of_dispatched {frames : List Frame} {body : List OutgoingMessage}
    (related : List.Forall₂ (Dispatched env) frames body) {d : Disconnect}
    (mem : .disconnect d ∈ body) : d.message = "Server closed the connection" := by
  induction related with
  | nil => cases mem
  | cons made _ ih =>
    rcases List.mem_cons.mp mem with rfl | later
    · exact (Dispatched.disconnect env made).2
    · exact ih later

/-- What a run sends to the sink: a body of messages `dispatch` built, in order, from received
frames, each frame at most once, then at most the exit notice, sent only when the loop has ended.
Each message answers a received frame or a receive error, and there are no more `Disconnect`s
in the body than `LobbyDisconnect` frames. -/
theorem worker_sink (events : List WorkerEvent) (s : ControlState) :
    ∃ body tail, (worker env events s).1.ws.delivered = s.ws.delivered ++ body ++ tail ∧
      body.length + tail.length ≤ events.countP WorkerEvent.reachesSink ∧
      (∃ frames, frames.Sublist (events.filterMap WorkerEvent.dispatchedFrame) ∧
        List.Forall₂ (Dispatched env) frames body) ∧
      body.countP OutgoingMessage.isDisconnect ≤
        events.countP (·.frameType == some .lobbyDisconnect) ∧
      (tail = [] ∨ (worker env events s).2 = false ∧
        ∃ msg, tail = [.disconnect ⟨.unknown, msg⟩] ∧ ExitText env msg) := by
  induction events generalizing s with
  | nil => exact ⟨[], [], by simp [worker], by simp, ⟨[], by simp, .nil⟩, by simp, .inl rfl⟩
  | cons e rest ih =>
    obtain ⟨l, out, sent, -, short, -, -, step⟩ := workerStep_cases env e s
    rw [worker_cons]
    rcases step with ⟨going, -, forwarded⟩ | ⟨stopped, -, exit⟩
    · obtain ⟨body, tail, sent', bound, ⟨frames, within, related⟩, counted, last⟩ :=
        ih (workerStep env e s).1
      simp only [going, ite_true]
      refine ⟨l ++ body, tail, by simp [sent', sent], ?_, ?_, ?_, last⟩
      · rw [← List.singleton_append, List.countP_append, List.length_append]
        omega
      · rcases forwarded with rfl | ⟨frame, msg, handed, rfl, made⟩
        · exact ⟨frames, within.trans ((List.sublist_cons_self e rest).filterMap _), related⟩
        · exact ⟨frame :: frames, by simpa [List.filterMap_cons, handed] using within.cons₂ frame,
            .cons made related⟩
      · have := disconnects_le env forwarded
        rw [List.countP_append, ← List.singleton_append, List.countP_append]
        omega
    · simp only [stopped, Bool.false_eq_true, ite_false]
      refine ⟨[], l, by simp [sent], ?_, ⟨[], List.nil_sublist _, .nil⟩, by simp, ?_⟩
      · have := List.countP_le_length (p := WorkerEvent.reachesSink) (l := rest)
        rw [← List.singleton_append, List.countP_append, List.length_nil, Nat.zero_add]
        omega
      · rcases exit with rfl | exit
        · exact .inl rfl
        · exact .inr ⟨trivial, exit⟩

/-- What a run writes to the server: the queued frames and the `Pong`s answering `Ping`s, in
the order their events came, up to the first write that fails. -/
theorem worker_stream (events : List WorkerEvent) (s : ControlState) :
    ∃ out, (worker env events s).1.stream.delivered = s.stream.delivered ++ out ∧
      out <+: events.filterMap WorkerEvent.outbound ∧
      ((worker env events s).2 = true → out = events.filterMap WorkerEvent.outbound) := by
  induction events generalizing s with
  | nil => exact ⟨[], by simp [worker], by simp, fun _ => rfl⟩
  | cons e rest ih =>
    obtain ⟨_, out, -, wrote, -, -, -, step⟩ := workerStep_cases env e s
    have split : (e :: rest).filterMap WorkerEvent.outbound =
        e.outbound.toList ++ rest.filterMap WorkerEvent.outbound := by
      cases h : e.outbound <;> simp [List.filterMap_cons, h]
    rw [worker_cons, split]
    rcases step with ⟨going, rfl, -⟩ | ⟨stopped, cut, -⟩
    · obtain ⟨out', wrote', within, all⟩ := ih (workerStep env e s).1
      simp only [going, ite_true]
      exact ⟨_, by rw [wrote', wrote, List.append_assoc],
        (List.prefix_append_right_inj _).mpr within,
        fun running => by rw [all running]⟩
    · simp only [stopped, Bool.false_eq_true, ite_false]
      exact ⟨out, wrote, cut.trans (List.prefix_append _ _), fun running => nomatch running⟩

/-- Only a received `PlayerSessionUpdate` frame can change the shared game id. -/
theorem worker_gameId (events : List WorkerEvent) (s : ControlState) :
    (worker env events s).1.currentGameId = s.currentGameId ∨
      ∃ e ∈ events, e.frameType = some .playerSessionUpdate := by
  induction events generalizing s with
  | nil => exact .inl rfl
  | cons e rest ih =>
    obtain ⟨_, _, -, -, -, game, -, -⟩ := workerStep_cases env e s
    rw [worker_cons]
    split
    · rcases ih (workerStep env e s).1 with same | ⟨e', mem, update⟩
      · rcases game with kept | update
        · exact .inl (same.trans kept)
        · exact .inr ⟨e, List.mem_cons_self _ _, update⟩
      · exact .inr ⟨e', List.mem_cons_of_mem _ mem, update⟩
    · rcases game with kept | update
      · exact .inl kept
      · exact .inr ⟨e, List.mem_cons_self _ _, update⟩

theorem worker_disconnects (events : List WorkerEvent) (s : ControlState) :
    ∃ body tail, (worker env events s).1.ws.delivered = s.ws.delivered ++ body ++ tail ∧
      (∀ d, .disconnect d ∈ body → d.message = "Server closed the connection") ∧
      body.countP OutgoingMessage.isDisconnect ≤
        events.countP (·.frameType == some .lobbyDisconnect) ∧
      (tail = [] ∨ (worker env events s).2 = false ∧
        ∃ msg, tail = [.disconnect ⟨.unknown, msg⟩] ∧ ExitText env msg) ∧
      ((worker env events s).2 = false →
        ∀ more, worker env (events ++ more) s = worker env events s) := by
  obtain ⟨body, tail, sent, -, ⟨_, -, related⟩, counted, last⟩ := worker_sink env events s
  exact ⟨body, tail, sent, fun d mem => disconnect_text_of_dispatched env related mem, counted,
    last, worker_stopped env events s⟩

theorem server_disconnects_twice :
    (worker (.serving (.lobbyDisconnect ⟨0⟩))
      [.recv (.ok ⟨.lobbyDisconnect, []⟩), .recv (.ok ⟨.lobbyDisconnect, []⟩)]
      (inGame [])).1.ws.delivered =
      [.disconnect ⟨.unknown, "Server closed the connection"⟩,
        .disconnect ⟨.unknown, "Server closed the connection"⟩] ∧
    (worker (.serving (.lobbyDisconnect ⟨0⟩))
      [.recv (.ok ⟨.lobbyDisconnect, []⟩), .recv (.ok ⟨.lobbyDisconnect, []⟩)]
      (inGame [])).2 = true :=
  ⟨rfl, rfl⟩

theorem pings_answered_not_dispatched (events : List WorkerEvent) (s : ControlState) :
    (∃ out, (worker env events s).1.stream.delivered = s.stream.delivered ++ out ∧
      out <+: events.filterMap WorkerEvent.outbound ∧
      ((worker env events s).2 = true → out = events.filterMap WorkerEvent.outbound)) ∧
    ∃ msgs, (worker env events s).1.ws.delivered = s.ws.delivered ++ msgs ∧
      msgs.length ≤ events.countP WorkerEvent.reachesSink := by
  obtain ⟨body, tail, sent, bound, -⟩ := worker_sink env events s
  exact ⟨worker_stream env events s, body ++ tail, by rw [sent, List.append_assoc],
    by rw [List.length_append]; exact bound⟩

theorem game_id_needs_session_update (events : List WorkerEvent) (s : ControlState)
    (noUpdate : ∀ e ∈ events, e.frameType ≠ some .playerSessionUpdate) :
    (worker env events s).1.currentGameId = s.currentGameId :=
  (worker_gameId env events s).resolve_right fun ⟨e, mem, update⟩ => noUpdate e mem update

theorem disconnect_keeps_game_id :
    (∀ e ∈ [WorkerEvent.recv (.ok ⟨.lobbyDisconnect, []⟩)],
      e.frameType ≠ some .playerSessionUpdate) ∧
    (worker (.serving (.lobbyDisconnect ⟨0⟩)) [.recv (.ok ⟨.lobbyDisconnect, []⟩)]
      (inGame [])).1.currentGameId = (inGame []).currentGameId :=
  ⟨by simp [WorkerEvent.frameType],
    game_id_needs_session_update _ _ _ (by simp [WorkerEvent.frameType])⟩

/-! ### Session updates and node lists over a run -/

/-- A whole control-plane session: `connect` announces the session to the sink first and seeds
the game id from it; the worker then sends messages `dispatch` built, in order, from frames it
received, no more than the events that reach the sink and no more `Disconnect`s than
`LobbyDisconnect` frames, all with the server's text; last comes at most the exit notice, once
the loop has ended. The game id keeps the session's value unless a `PlayerSessionUpdate` frame
arrives. -/
theorem session_announced_first {reply : ConnectReply} {nodes : NodeRegistry}
    {ws : Outbox OutgoingMessage} {stream : Outbox Frame} {t : ControlState}
    (spawned : connect reply nodes ws stream = .ok t) (events : List WorkerEvent) :
    ∃ session p body tail, reply = .accept session ∧
      extractField "session" PlayerSession.unpack session = .ok p ∧
      (worker env events t).1.ws.delivered = ws.delivered ++ .playerSession p :: (body ++ tail) ∧
      body.length + tail.length ≤ events.countP WorkerEvent.reachesSink ∧
      (∃ frames, frames.Sublist (events.filterMap WorkerEvent.dispatchedFrame) ∧
        List.Forall₂ (Dispatched env) frames body) ∧
      (∀ d, .disconnect d ∈ body → d.message = "Server closed the connection") ∧
      body.countP OutgoingMessage.isDisconnect ≤
        events.countP (·.frameType == some .lobbyDisconnect) ∧
      (tail = [] ∨ (worker env events t).2 = false ∧
        ∃ msg, tail = [.disconnect ⟨.unknown, msg⟩] ∧ ExitText env msg) ∧
      ((worker env events t).1.currentGameId = p.gameId ∨
        ∃ e ∈ events, e.frameType = some .playerSessionUpdate) := by
  obtain ⟨session, p, accepted, unpacked, seeded⟩ := connect_ok spawned
  obtain ⟨body, tail, sent, bound, ⟨frames, within, related⟩, counted, last⟩ :=
    worker_sink env events t
  refine ⟨session, p, body, tail, accepted, unpacked, by rw [sent, seeded]; simp, bound,
    ⟨frames, within, related⟩, fun d mem => disconnect_text_of_dispatched env related mem,
    counted, last, ?_⟩
  simpa [seeded] using worker_gameId env events t

/-- A player in game 3 connects, and the server then closes the connection for maintenance. -/
theorem session_then_server_close :
    connect (.accept (some ⟨some ⟨5, "me", 1⟩, 1, some 3⟩)) sevenSelected ⟨[], []⟩ ⟨[], []⟩ =
      .ok ⟨some 3, sevenSelected, ⟨[.playerSession ⟨⟨5, "me", .bNet⟩, .inGame, some 3⟩], []⟩,
        ⟨[], []⟩⟩ ∧
    ∃ session p body tail,
      ConnectReply.accept (some ⟨some ⟨5, "me", 1⟩, 1, some 3⟩) = .accept session ∧
      extractField "session" PlayerSession.unpack session = .ok p ∧
      (worker (.serving (.lobbyDisconnect ⟨2⟩)) [.recv (.ok ⟨.lobbyDisconnect, []⟩)]
        ⟨some 3, sevenSelected, ⟨[.playerSession ⟨⟨5, "me", .bNet⟩, .inGame, some 3⟩], []⟩,
          ⟨[], []⟩⟩).1.ws.delivered = [] ++ .playerSession p :: (body ++ tail) ∧
      body.length + tail.length ≤
        [WorkerEvent.recv (.ok ⟨.lobbyDisconnect, []⟩)].countP WorkerEvent.reachesSink ∧
      (∃ frames, frames.Sublist ([WorkerEvent.recv (.ok ⟨.lobbyDisconnect, []⟩)].filterMap
          WorkerEvent.dispatchedFrame) ∧
        List.Forall₂ (Dispatched (.serving (.lobbyDisconnect ⟨2⟩))) frames body) ∧
      (∀ d, .disconnect d ∈ body → d.message = "Server closed the connection") ∧
      body.countP OutgoingMessage.isDisconnect ≤
        [WorkerEvent.recv (.ok ⟨.lobbyDisconnect, []⟩)].countP
          (·.frameType == some .lobbyDisconnect) ∧
      (tail = [] ∨ (worker (.serving (.lobbyDisconnect ⟨2⟩)) [.recv (.ok ⟨.lobbyDisconnect, []⟩)]
          ⟨some 3, sevenSelected, ⟨[.playerSession ⟨⟨5, "me", .bNet⟩, .inGame, some 3⟩], []⟩,
            ⟨[], []⟩⟩).2 = false ∧
        ∃ msg, tail = [.disconnect ⟨.unknown, msg⟩] ∧
          ExitText (.serving (.lobbyDisconnect ⟨2⟩)) msg) ∧
      ((worker (.serving (.lobbyDisconnect ⟨2⟩)) [.recv (.ok ⟨.lobbyDisconnect, []⟩)]
        ⟨some 3, sevenSelected, ⟨[.playerSession ⟨⟨5, "me", .bNet⟩, .inGame, some 3⟩], []⟩,
          ⟨[], []⟩⟩).1.currentGameId = p.gameId ∨
        ∃ e ∈ [WorkerEvent.recv (.ok ⟨.lobbyDisconnect, []⟩)],
          e.frameType = some .playerSessionUpdate) :=
  ⟨rfl, @session_announced_first (.serving (.lobbyDisconnect ⟨2⟩))
    (.accept (some ⟨some ⟨5, "me", 1⟩, 1, some 3⟩)) sevenSelected ⟨[], []⟩ ⟨[], []⟩ _ rfl _⟩

end FloLobby.Control
