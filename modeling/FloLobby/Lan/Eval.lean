import FloLobby.Lan.Handler

/-!
# What each operation of the handler can do

Equations for the handler's primitive operations, and one lemma per operation that says
everything it can do to the state: which fields it touches, and what it appends to the trace. The invariants of
the later modules are derived from these and never unfold the operations again.
-/

namespace FloLobby.Lan

/-! ### Primitive operations -/

@[simp] theorem simple_apply (env : Env) (pkt : Packet) (s : Lobby) :
    simple env pkt s = if env.encodes pkt then .ok pkt s else .error (.w3gs .encode) s := by
  simp only [simple, Env.simple]
  split <;> rfl

theorem write_apply (e : Effect) (s : Lobby) :
    write e s = if s.stream.faults.headD false
      then .error (.w3gs .io) { s with stream := { s.stream with faults := s.stream.faults.tail } }
      else .ok () { s with stream := { s.stream with faults := s.stream.faults.tail },
                           trace := s.trace ++ [e] } := rfl

/-! ### Kinds of effect -/

/-- A write of a packet other than `CountDownStart`. -/
def Effect.plainWrite : Effect → Bool
  | .send pkt => pkt != .countDownStart
  | .sendAll _ => true
  | _ => false

/-- The readiness notifications `run` issues for a handler: the node report when there is a
node stream, and `LanGameJoined` when the weak sender upgrades. -/
def announcements (env : Env) (s : Lobby) : List Effect :=
  (if s.nodeStream.isSome then [.reportSlotStatus .joined] else []) ++
  (if (s.weakOutgoingTx.map (·.alive)).getD false then
    [.outgoing (.lanGameJoined (s.info.lanGameNameOverride.getD
      (env.getLanGameName s.info.game.name s.info.game.playerId)))] else [])

/-- What a handled packet does to the join counters. -/
def JoinPacketRecvState.count (j : JoinPacketRecvState) : Packet → JoinPacketRecvState
  | .protoBufPayload payload => match payload.typeId with
    | .playerProfile => { j with numProfile := j.numProfile + 1 }
    | .playerSkins => { j with numSkins := j.numSkins + 1 }
    | .playerUnknown5 => { j with numUnk5 := j.numUnk5 + 1 }
    | _ => j
  | _ => j

/-! ### Computations that only append to the trace -/

/-- The state after a computation that only consumed the outcomes of `n` writes and appended `l`. -/
def Lobby.extend (s : Lobby) (n : Nat) (l : List Effect) : Lobby :=
  { s with stream := { s.stream with faults := s.stream.faults.drop n }, trace := s.trace ++ l }

section
variable (s : Lobby) (n m : Nat) (l l' : List Effect)

@[simp] theorem Lobby.extend_extend : (s.extend n l).extend m l' = s.extend (n + m) (l ++ l') := by
  simp [Lobby.extend, List.drop_drop, Nat.add_comm]

@[simp] theorem Lobby.extend_self : s.extend 0 [] = s := by
  simp [Lobby.extend]

@[simp] theorem Lobby.extend_trace : (s.extend n l).trace = s.trace ++ l := rfl
@[simp] theorem Lobby.extend_info : (s.extend n l).info = s.info := rfl
@[simp] theorem Lobby.extend_nodeStream : (s.extend n l).nodeStream = s.nodeStream := rfl
@[simp] theorem Lobby.extend_statusRx : (s.extend n l).statusRx = s.statusRx := rfl
@[simp] theorem Lobby.extend_starting : (s.extend n l).starting = s.starting := rfl
@[simp] theorem Lobby.extend_weakOutgoingTx : (s.extend n l).weakOutgoingTx = s.weakOutgoingTx := rfl
@[simp] theorem Lobby.extend_lobbyCountdownNotify :
    (s.extend n l).lobbyCountdownNotify = s.lobbyCountdownNotify := rfl
@[simp] theorem Lobby.extend_joinState : (s.extend n l).joinState = s.joinState := rfl
@[simp] theorem Lobby.extend_reported : (s.extend n l).reported = s.reported := rfl
@[simp] theorem Lobby.extend_localAddr : (s.extend n l).stream.localAddr = s.stream.localAddr := rfl
@[simp] theorem Lobby.extend_faults : (s.extend n l).stream.faults = s.stream.faults.drop n := rfl

end

/-- `x` only consumes write outcomes and appends a prefix of `l` to the trace, all of `l`
when it returns. -/
def Appends {α : Type} (x : LobbyM α) (l : List Effect) : Prop :=
  ∀ s, ∃ n l', stateOf (x s) = s.extend n l' ∧ l' <+: l ∧ ∀ a t, x s = .ok a t → l' = l

section
variable {α β : Type} {x : LobbyM α} {f : α → LobbyM β} {l₁ l₂ : List Effect}

theorem appends_pure (a : α) : Appends (pure a : LobbyM α) [] :=
  fun s => ⟨0, [], (Lobby.extend_self s).symm, List.nil_prefix, fun _ _ _ => rfl⟩

theorem appends_throw (e : Error) : Appends (throw e : LobbyM α) [] :=
  fun s => ⟨0, [], (Lobby.extend_self s).symm, List.nil_prefix, fun _ _ h => nomatch h⟩

theorem appends_write (e : Effect) : Appends (write e) [e] := by
  intro s
  simp only [write]
  split
  · exact ⟨1, [], by simp [Lobby.extend], List.nil_prefix, fun _ _ h => nomatch h⟩
  · exact ⟨1, [e], by simp [Lobby.extend], List.prefix_refl _, fun _ _ _ => rfl⟩

theorem appends_bind (hx : Appends x l₁) (hf : ∀ a, Appends (f a) l₂) :
    Appends (x >>= f) (l₁ ++ l₂) := by
  intro s
  obtain ⟨n, l, sx, pre, full⟩ := hx s
  rw [bind_apply]
  cases run : x s with
  | ok a t =>
    obtain ⟨m, l', sf, pre', full'⟩ := hf a t
    have t_eq : t = s.extend n l₁ := by simpa [run, full a t run] using sx
    subst t_eq
    refine ⟨n + m, l₁ ++ l', by simp [sf], (List.prefix_append_right_inj l₁).mpr pre', ?_⟩
    intro b u ok
    rw [full' b u ok]
  | error e t =>
    refine ⟨n, l, by simpa [run] using sx, pre.trans (List.prefix_append _ _), ?_⟩
    intro _ _ h
    cases h

/-- `Packet::simple(p)?` returns `p` itself or fails before any effect. -/
theorem appends_simple_bind (env : Env) (pkt : Packet) {f : Packet → LobbyM β} (hf : Appends (f pkt) l₁) :
    Appends (simple env pkt >>= f) l₁ := by
  intro s
  by_cases enc : env.encodes pkt
  · simpa [enc] using hf s
  · exact ⟨0, [], by simp [enc], List.nil_prefix, by simp [enc]⟩

/-- `x` only consumes write outcomes and appends effects that satisfy `P`. -/
def Writes (x : LobbyM α) (P : Effect → Prop) : Prop :=
  ∀ s, ∃ n l, stateOf (x s) = s.extend n l ∧ ∀ e ∈ l, P e

theorem Appends.writes {P : Effect → Prop} (h : Appends x l₁) (hl : ∀ e ∈ l₁, P e) : Writes x P := by
  intro s
  obtain ⟨n, l, sx, pre, -⟩ := h s
  exact ⟨n, l, sx, fun e mem => hl e (pre.subset mem)⟩

theorem writes_bind {P : Effect → Prop} (hx : Writes x P) (hf : ∀ a, Writes (f a) P) :
    Writes (x >>= f) P := by
  intro s
  obtain ⟨n, l, sx, hl⟩ := hx s
  rw [bind_apply]
  cases run : x s with
  | ok a t =>
    have t_eq : t = s.extend n l := by simpa [run] using sx
    subst t_eq
    obtain ⟨m, l', sf, hl'⟩ := hf a (s.extend n l)
    exact ⟨n + m, l ++ l', by simp [sf], fun e mem => (List.mem_append.mp mem).elim (hl e) (hl' e)⟩
  | error e t => exact ⟨n, l, by simpa [run] using sx, hl⟩

theorem appends_liftExcept (r : Except Error α) : Appends (liftExcept r) [] := by
  cases r
  · exact appends_throw _
  · exact appends_pure _

theorem appends_decodeSimple (pkt : Packet) : Appends (decodeSimple pkt) [] := by
  unfold decodeSimple
  split
  · exact appends_pure _
  · exact appends_throw _

theorem appends_debugDecode (env : Env) (payload : ProtoBufPayload) :
    Appends (debugDecode env payload) [] := by
  unfold debugDecode
  split
  · exact appends_throw _
  · exact appends_pure _

end

/-! ### The operations -/

variable (env : Env) (s : Lobby)

theorem JoinPacketRecvState.count_of_typeId {pkt : Packet} (j : JoinPacketRecvState)
    (h : pkt.typeId ≠ .protoBufPayload) : j.count pkt = j := by
  cases pkt <;> simp_all [JoinPacketRecvState.count, Packet.typeId]

/-- `handle_packet` counts the join packets before anything can fail, and otherwise only
writes replies: never `CountDownStart`, never a notification. -/
theorem handlePacket_shape (pkt : Packet) :
    ∃ n l, stateOf (handlePacket env pkt s) =
        ({ s with joinState := s.joinState.count pkt } : Lobby).extend n l ∧
      ∀ e ∈ l, e.plainWrite := by
  have plain : ∀ {x : LobbyM Unit} {l : List Effect}, Appends x l → (∀ e ∈ l, e.plainWrite) →
      ∀ t, ∃ n l, stateOf (x t) = t.extend n l ∧ ∀ e ∈ l, e.plainWrite :=
    fun h hl => h.writes (P := (Effect.plainWrite · = true)) hl
  by_cases pb : pkt.typeId = .protoBufPayload
  · cases pkt with
    | raw t =>
      simp only [Packet.typeId] at pb
      subst pb
      exact ⟨0, [], by simp [handlePacket, Packet.typeId, get_bind, decodeProtoBuf,
        JoinPacketRecvState.count], by simp⟩
    | protoBufPayload payload =>
      have echo := appends_bind (appends_write (.send (.protoBufPayload payload))) fun _ =>
        appends_debugDecode env payload
      cases typeId : payload.typeId <;>
        simp only [handlePacket, Packet.typeId, decodeProtoBuf, modifyJoinState, typeId, get_bind,
          pure_bind_apply, modify_bind, JoinPacketRecvState.count]
      · exact plain (appends_pure _) (by simp) _
      · exact plain (appends_bind (appends_debugDecode env payload) fun _ => appends_write _)
          (by simp [Effect.plainWrite]) _
      · exact plain echo (by simp [Effect.plainWrite]) _
      · exact plain echo (by simp [Effect.plainWrite]) _
      · exact plain (appends_pure _) (by simp) _
    | _ => simp [Packet.typeId] at pb
  · rw [JoinPacketRecvState.count_of_typeId _ pb]
    cases typeId : pkt.typeId with
    | reqJoin =>
      have reply : ∀ addr, Writes (liftExcept (joinReplies env s.info addr) >>= sendAll)
          (Effect.plainWrite · = true) := fun addr =>
        writes_bind ((appends_liftExcept _).writes (by simp)) fun replies =>
          (appends_write (.sendAll replies)).writes (by simp [Effect.plainWrite])
      simp only [handlePacket, typeId, get_bind]
      cases s.stream.localAddr
      · exact writes_bind ((appends_pure _).writes (by simp)) reply s
      · exact writes_bind ((appends_throw _).writes (by simp)) reply s
    | chatToHost =>
      simp only [handlePacket, typeId, get_bind]
      exact plain (appends_simple_bind env _ (appends_write _)) (by simp [Effect.plainWrite]) s
    | mapSize | pongToHost =>
      simp only [handlePacket, typeId, get_bind]
      exact plain (appends_decodeSimple _) (by simp) s
    | leaveReq =>
      simp only [handlePacket, typeId, get_bind]
      exact plain (appends_pure _) (by simp) s
    | protoBufPayload => exact absurd typeId pb
    | _ =>
      simp only [handlePacket, typeId, get_bind]
      exact plain (appends_throw _) (by simp) s

/-- The join packets: the three message types `handle_packet` counts. -/
def ProtoBufMessageTypeId.counted : ProtoBufMessageTypeId → Bool
  | .playerProfile | .playerSkins | .playerUnknown5 => true
  | _ => false

/-- The packet types `handle_packet` has an arm for. -/
def PacketTypeId.handled : PacketTypeId → Bool
  | .reqJoin | .mapSize | .chatToHost | .pongToHost | .protoBufPayload | .leaveReq => true
  | _ => false

theorem handlePacket_v6 (v6 : s.stream.localAddr = .v6) :
    handlePacket env .reqJoin s = .error (.w3gs .ipv6NotSupported) s := by
  simp [handlePacket, Packet.typeId, get_bind, v6]

theorem reportJoined_apply :
    reportJoined env s = .ok () { s with reported := true, trace := s.trace ++ announcements env s } := by
  simp only [reportJoined, announcements, record, bind_apply, get_apply, modify_apply]
  cases node : s.nodeStream <;> rcases weak : s.weakOutgoingTx with _ | ⟨_ | _⟩ <;> simp [node, weak]

/-- The value the status watch holds after an event. -/
def LobbyEvent.watch : LobbyEvent → Option NodeGameStatus → Option NodeGameStatus
  | .changed (.ok next), _ => next
  | _, rx => rx

/-- What an event does to the join state when the loop handles it. -/
def JoinPacketRecvState.observe (j : JoinPacketRecvState) : LobbyEvent → JoinPacketRecvState
  | .recv (.ok (some pkt)) => j.count pkt
  | .changed (.ok (some status)) => { j with status := some status }
  | _ => j

/-- Whether the loop reports readiness after handling the event (a packet other than
`LeaveReq`). -/
def LobbyEvent.reports : LobbyEvent → Bool
  | .recv (.ok (some pkt)) => pkt.typeId != .leaveReq
  | _ => false

/-- Whether the loop tests `should_start` after handling the event: a packet other than
`LeaveReq`, or a status change to a status. -/
def LobbyEvent.checks : LobbyEvent → Bool
  | .recv (.ok (some pkt)) => pkt.typeId != .leaveReq
  | .changed (.ok (some _)) => true
  | _ => false

/-- The state after the readiness notifications, when the pass issues them. -/
def Lobby.announce (env : Env) (e : LobbyEvent) (s : Lobby) : Lobby :=
  if e.reports && s.joinState.isReady && !s.reported then
    { s with reported := true, trace := s.trace ++ announcements env s }
  else s

@[simp] theorem Lobby.announce_joinState (e : LobbyEvent) :
    (s.announce env e).joinState = s.joinState := by
  unfold Lobby.announce; split <;> rfl

/-- The state after a pass has handled `e`, consuming `n` write outcomes and writing `l`. -/
def Lobby.handled (s : Lobby) (e : LobbyEvent) (n : Nat) (l : List Effect) : Lobby :=
  ({ s with statusRx := e.watch s.statusRx, joinState := s.joinState.observe e } : Lobby).extend n l

/-- The end of a pass that tests `should_start` on `t`: `send_start` and then `Start`, or
waiting on. -/
def startIf (t : Lobby) : EStateM.Result Error Lobby (Option LobbyAction) :=
  if t.joinState.shouldStart then andThen (sendStart env t) fun _ u => .ok (some .start) u
  else .ok none t

/-- The packet path of the loop. -/
theorem step_recv {pkt : Packet} (leave : pkt.typeId ≠ .leaveReq) :
    step env (.recv (.ok (some pkt))) s = andThen (handlePacket env pkt s) fun _ t =>
      startIf env (t.announce env (.recv (.ok (some pkt)))) := by
  simp only [step, leave, if_false, bind_apply, pure_apply, andThen_ok, get_apply]
  rcases result_cases (handlePacket env pkt s) with ⟨err, run⟩ | ⟨a, run⟩ <;> rw [run]
  · rfl
  · generalize stateOf (handlePacket env pkt s) = t
    have reports : (LobbyEvent.recv (.ok (some pkt))).reports = true := by
      simp [LobbyEvent.reports, leave]
    by_cases start : t.joinState.shouldStart
    · have ready : t.joinState.isReady := by simp_all [JoinPacketRecvState.shouldStart]
      cases rep : t.reported <;>
        simp [startIf, Lobby.announce, reports, ready, rep, start, reportJoined_apply]
    · cases ready : t.joinState.isReady <;> cases rep : t.reported <;>
        simp [startIf, Lobby.announce, reports, ready, rep, start, reportJoined_apply]

/-- The status path of the loop. -/
theorem step_changed (status : NodeGameStatus) :
    step env (.changed (.ok (some status))) s =
      startIf env { s with statusRx := some status, joinState := { s.joinState with status := some status } } := by
  by_cases start : ({ s.joinState with status := some status } : JoinPacketRecvState).shouldStart <;>
    simp [step, startIf, start, modifyJoinState]

/-- Everything one pass of `run`'s loop can do. It handles the event, which only writes
replies and records the event in the watch and the join state, and may fail there; then, if it
tests `should_start`, it may issue the readiness notifications and start. -/
theorem step_cases (e : LobbyEvent) :
    ∃ n l, (∀ x ∈ l, x.plainWrite) ∧
      ((∃ err, step env e s = .error err (s.handled e n l)) ∨
        step env e s = if e.checks then startIf env ((s.handled e n l).announce env e)
          else .ok none (s.handled e n l)) := by
  rcases e with (err | _ | pkt) | elapsed | (_ | _ | status)
  · exact ⟨0, [], by simp, .inl ⟨err, by simp [Lobby.handled, step, LobbyEvent.watch,
      JoinPacketRecvState.observe]⟩⟩
  · exact ⟨0, [], by simp, .inl ⟨.streamClosed, by simp [Lobby.handled, step, LobbyEvent.watch,
      JoinPacketRecvState.observe]⟩⟩
  · by_cases leave : pkt.typeId = .leaveReq
    · refine ⟨0, [], by simp, .inr ?_⟩
      simp [Lobby.handled, step, leave, LobbyEvent.checks, LobbyEvent.watch, JoinPacketRecvState.observe,
        JoinPacketRecvState.count_of_typeId]
    · obtain ⟨n, l, hs, hl⟩ := handlePacket_shape env s pkt
      refine ⟨n, l, hl, ?_⟩
      rw [step_recv env s leave]
      rcases result_cases (handlePacket env pkt s) with ⟨err, run⟩ | ⟨a, run⟩ <;> rw [run, hs]
      · exact .inl ⟨err, rfl⟩
      · exact .inr (by simp [Lobby.handled, LobbyEvent.checks, leave, LobbyEvent.watch, JoinPacketRecvState.observe])
  · by_cases enc : env.encodes (.pingFromHost elapsed)
    · by_cases fault : s.stream.faults.head?.getD false
      · exact ⟨1, [], by simp, .inl ⟨.w3gs .io, by
          simp [Lobby.handled, step, enc, fault, send, write_apply, Lobby.extend, LobbyEvent.watch,
            JoinPacketRecvState.observe]⟩⟩
      · refine ⟨1, [.send (.pingFromHost elapsed)], by simp [Effect.plainWrite], .inr ?_⟩
        simp [Lobby.handled, step, enc, fault, send, write_apply, Lobby.extend, LobbyEvent.watch,
            JoinPacketRecvState.observe, LobbyEvent.checks]
    · exact ⟨0, [], by simp, .inl ⟨.w3gs .encode, by
        simp [Lobby.handled, step, enc, LobbyEvent.watch, JoinPacketRecvState.observe]⟩⟩
  · exact ⟨0, [], by simp, .inl ⟨.taskCancelled "game status tx dropped",
      by simp [Lobby.handled, step, LobbyEvent.watch, JoinPacketRecvState.observe]⟩⟩
  · refine ⟨0, [], by simp, .inr ?_⟩
    simp [Lobby.handled, step, Lobby.extend, LobbyEvent.watch, JoinPacketRecvState.observe, LobbyEvent.checks]
  · refine ⟨0, [], by simp, .inr ?_⟩
    simp [Lobby.handled, step_changed, LobbyEvent.checks, LobbyEvent.watch, JoinPacketRecvState.observe,
      Lobby.announce, LobbyEvent.reports]

end FloLobby.Lan
