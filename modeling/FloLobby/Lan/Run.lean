import FloLobby.Lan.Eval

/-!
# Runs of the lobby loop

`run` enters its loop with fresh join counters and passes the events to `step` one by one
until a pass returns an action or fails. While it waits, the join state is a function of the
events received so far, the readiness notifications have gone out if readiness was reached,
and nothing has written `CountDownStart`. The results of this module follow from that
invariant and from what the pass that ends the loop can do.
-/

namespace FloLobby.Lan

/-! ### What the events of a run carry -/

/-- The ProtoBuf message type an event delivers, if it is a ProtoBuf packet. -/
def LobbyEvent.protoBufType : LobbyEvent → Option ProtoBufMessageTypeId
  | .recv (.ok (some (.protoBufPayload payload))) => some payload.typeId
  | _ => none

/-- The status a change to `Some` carries. -/
def LobbyEvent.newStatus : LobbyEvent → Option NodeGameStatus
  | .changed (.ok (some status)) => some status
  | _ => none

/-- How many ProtoBuf packets of type `t` the events deliver. -/
def received (t : ProtoBufMessageTypeId) (events : List LobbyEvent) : Nat :=
  events.countP (·.protoBufType == some t)

/-- The latest `Some` status the events carry, `init` when none does. -/
def latestStatus (init : Option NodeGameStatus) (events : List LobbyEvent) : Option NodeGameStatus :=
  events.foldl (fun status e => e.newStatus.or status) init

/-- The readiness condition over the events received so far: the profiles of all `total`
players, one skins and one unknown-5 message, and a latest status of `Loading` or `Running`. -/
def JoinComplete (total : Nat) (init : Option NodeGameStatus) (events : List LobbyEvent) : Prop :=
  received .playerProfile events = total ∧ received .playerSkins events = 1 ∧
    received .playerUnknown5 events = 1 ∧ latestStatus init events ∈ [some .loading, some .running]

instance (total : Nat) (init : Option NodeGameStatus) : DecidablePred (JoinComplete total init) :=
  fun _ => inferInstanceAs (Decidable (_ ∧ _ ∧ _ ∧ _))

/-- The join state after handling `events` one by one. -/
def JoinPacketRecvState.observeAll (j : JoinPacketRecvState) (events : List LobbyEvent) :
    JoinPacketRecvState :=
  events.foldl JoinPacketRecvState.observe j

theorem JoinPacketRecvState.observe_eq (j : JoinPacketRecvState) (e : LobbyEvent) :
    j.observe e = { j with numProfile := j.numProfile + received .playerProfile [e],
                           numSkins := j.numSkins + received .playerSkins [e],
                           numUnk5 := j.numUnk5 + received .playerUnknown5 [e],
                           status := e.newStatus.or j.status } := by
  rcases e with (_ | _ | pkt) | _ | (_ | _ | status)
  case recv.ok.some =>
    cases pkt
    case protoBufPayload p =>
      rcases p with ⟨typeId, message⟩
      cases typeId <;> rfl
    all_goals rfl
  all_goals rfl

theorem JoinPacketRecvState.observeAll_eq (j : JoinPacketRecvState) (events : List LobbyEvent) :
    j.observeAll events = { j with numProfile := j.numProfile + received .playerProfile events,
                                   numSkins := j.numSkins + received .playerSkins events,
                                   numUnk5 := j.numUnk5 + received .playerUnknown5 events,
                                   status := latestStatus j.status events } := by
  induction events generalizing j with
  | nil => simp [observeAll, received, latestStatus]
  | cons e rest ih =>
    simp only [observeAll, List.foldl_cons] at ih ⊢
    rw [ih, observe_eq]
    simp only [received, List.countP_cons, List.countP_nil, latestStatus, List.foldl_cons, mk.injEq,
      true_and]
    refine ⟨?_, ?_, ?_, trivial⟩ <;> omega

theorem JoinPacketRecvState.startable_iff (status : Option NodeGameStatus) :
    startable status ↔ status ∈ [some .loading, some .running] := by
  rcases status with _ | (_ | _ | _ | _ | _ | _) <;> simp [startable]

/-- The join counters `run` starts from reach `should_start` exactly when the events satisfy
the readiness condition. -/
theorem shouldStart_observeAll_iff (total : Nat) (init : Option NodeGameStatus)
    (events : List LobbyEvent) :
    ((JoinPacketRecvState.new init total).observeAll events).shouldStart ↔
      JoinComplete total init events := by
  simp [JoinPacketRecvState.observeAll_eq, JoinPacketRecvState.new, JoinPacketRecvState.shouldStart,
    JoinPacketRecvState.isReady, JoinPacketRecvState.startable_iff, JoinComplete, and_assoc]

/-! ### The loop -/

variable (env : Env)

/-- The state `run` enters its loop in. -/
def Lobby.enterRun (s : Lobby) : Lobby :=
  { s with joinState := .new s.statusRx s.info.totalPlayers, reported := false }

theorem run_eq (events : List LobbyEvent) (s : Lobby) :
    run env events s = runLoop env events s.enterRun := rfl

/-- The handler after `run` was called on each batch of events in turn, whatever each call
returned. -/
def runs : List (List LobbyEvent) → Lobby → Lobby
  | [], s => s
  | events :: later, s => runs later (stateOf (run env events s))

section
variable {e : LobbyEvent} {rest : List LobbyEvent} {t u : Lobby}

theorem runLoop_of_some {a : LobbyAction} (h : step env e t = .ok (some a) u) :
    runLoop env (e :: rest) t = .ok (some a) u := by
  simp [runLoop, h]

theorem runLoop_of_none (h : step env e t = .ok none u) :
    runLoop env (e :: rest) t = runLoop env rest u := by
  simp [runLoop, h]

theorem runLoop_of_error {err : Error} (h : step env e t = .error err u) :
    runLoop env (e :: rest) t = .error err u := by
  simp [runLoop, h]

/-- A loop that waits after its first event waited after the pass that handled it. -/
theorem runLoop_cons_none (h : runLoop env (e :: rest) t = .ok none u) :
    ∃ v, step env e t = .ok none v ∧ runLoop env rest v = .ok none u := by
  rcases result_cases (step env e t) with ⟨err, run⟩ | ⟨a, run⟩
  · rw [runLoop_of_error env run] at h; cases h
  · cases a with
    | none => exact ⟨_, run, by rwa [runLoop_of_none env run] at h⟩
    | some a => rw [runLoop_of_some env run] at h; cases h

end

/-- A loop that waits after `pre` goes on from where it is. -/
theorem runLoop_append {pre : List LobbyEvent} {s t : Lobby} (h : runLoop env pre s = .ok none t)
    (rest : List LobbyEvent) : runLoop env (pre ++ rest) s = runLoop env rest t := by
  induction pre generalizing s with
  | nil => cases h; rfl
  | cons e pre ih =>
    obtain ⟨v, first, later⟩ := runLoop_cons_none env h
    rw [List.cons_append, runLoop_of_none env first, ih later]

/-- A loop waits through all its events, or stops at a first pass that does not return
`none`, with what that pass returns. -/
theorem runLoop_stops (events : List LobbyEvent) (s : Lobby) :
    (∃ t, runLoop env events s = .ok none t) ∨
      ∃ pre e post t, events = pre ++ e :: post ∧ runLoop env pre s = .ok none t ∧
        (∀ u, step env e t ≠ .ok none u) ∧ runLoop env events s = step env e t := by
  induction events generalizing s with
  | nil => exact .inl ⟨s, rfl⟩
  | cons e rest ih =>
    rcases result_cases (step env e s) with ⟨err, run⟩ | ⟨a, run⟩ <;>
      generalize stateOf (step env e s) = v at run
    · exact .inr ⟨[], e, rest, s, rfl, rfl, by simp [run], by rw [runLoop_of_error env run, ← run]⟩
    · cases a with
      | some a =>
        exact .inr ⟨[], e, rest, s, rfl, rfl, by simp [run], by rw [runLoop_of_some env run, ← run]⟩
      | none =>
        rcases ih v with ⟨t, waits⟩ | ⟨pre, e', post, t, split, waits, stops, eq⟩
        · exact .inl ⟨t, by rw [runLoop_of_none env run, waits]⟩
        · refine .inr ⟨e :: pre, e', post, t, by simp [split], ?_, stops, ?_⟩
          · rw [runLoop_of_none env run, waits]
          · rw [runLoop_of_none env run, eq]

/-! ### While the loop waits -/

/-- The readiness notifications among effects. -/
def Effect.notification : Effect → Bool
  | .reportSlotStatus _ | .outgoing _ => true
  | _ => false

theorem Effect.notification_of_plainWrite {x : Effect} (h : x.plainWrite) : x.notification = false := by
  cases x <;> simp_all [Effect.plainWrite, Effect.notification]

theorem filter_announcements (s : Lobby) :
    (announcements env s).filter Effect.notification = announcements env s := by
  unfold announcements; split <;> split <;> simp [Effect.notification]

theorem countDownStart_not_mem_announcements (s : Lobby) :
    .send .countDownStart ∉ announcements env s := by
  unfold announcements; split <;> split <;> simp

theorem Lobby.announce_eq (e : LobbyEvent) (s : Lobby) :
    s.announce env e =
      { s with reported := s.reported || (e.reports && s.joinState.isReady && !s.reported),
               trace := s.trace ++ if e.reports && s.joinState.isReady && !s.reported
                 then announcements env s else [] } := by
  cases s
  unfold Lobby.announce
  split <;> simp_all

theorem JoinPacketRecvState.isReady_observe {e : LobbyEvent} (h : e.reports = false)
    (j : JoinPacketRecvState) : (j.observe e).isReady = j.isReady := by
  rcases e with (_ | _ | pkt) | _ | (_ | _ | status) <;> simp_all [observe, LobbyEvent.reports, isReady]
  rw [@count_of_typeId pkt j (by simp [h])]

theorem JoinPacketRecvState.observe_of_not_checks {e : LobbyEvent} (h : e.checks = false)
    (j : JoinPacketRecvState) : j.observe e = j := by
  rcases e with (_ | _ | pkt) | _ | (_ | _ | status) <;> simp_all [observe, LobbyEvent.checks]
  exact @count_of_typeId pkt j (by simp [h])

theorem filter_notification_of_plain {l : List Effect} (plain : ∀ x ∈ l, x.plainWrite) :
    l.filter Effect.notification = [] :=
  List.filter_eq_nil_iff.mpr fun x mem => by simp [Effect.notification_of_plainWrite (plain x mem)]

theorem countDownStart_not_mem_of_plain {l : List Effect} (plain : ∀ x ∈ l, x.plainWrite) :
    .send .countDownStart ∉ l :=
  fun mem => by simpa [Effect.plainWrite] using plain _ mem

/-- What holds of the state a pass leaves behind, `done` handled since the loop was entered at
`s₀`: only the loop's own fields have changed, the join state has counted the events, readiness
has been notified once it was reached, and nothing has written `CountDownStart`. -/
structure Handled (s₀ : Lobby) (done : List LobbyEvent) (t : Lobby) : Prop where
  info : t.info = s₀.info
  nodeStream : t.nodeStream = s₀.nodeStream
  weakOutgoingTx : t.weakOutgoingTx = s₀.weakOutgoingTx
  lobbyCountdownNotify : t.lobbyCountdownNotify = s₀.lobbyCountdownNotify
  starting : t.starting = s₀.starting
  faults : ∃ n, t.stream.faults = s₀.stream.faults.drop n
  localAddr : t.stream.localAddr = s₀.stream.localAddr
  joinState : t.joinState = s₀.joinState.observeAll done
  ready : t.joinState.isReady → t.reported
  trace : ∃ mid, t.trace = s₀.trace ++ mid ∧ .send .countDownStart ∉ mid ∧
    mid.filter Effect.notification = if t.reported then announcements env s₀ else []

section
variable {s₀ t : Lobby} {done : List LobbyEvent}

theorem Handled.announcements_eq (h : Handled env s₀ done t) :
    announcements env t = announcements env s₀ := by
  simp [announcements, h.info, h.nodeStream, h.weakOutgoingTx]

/-- A pass handles its event, writing replies only, and notifies readiness when it is time;
the state it reaches before any `send_start` keeps the invariant. -/
theorem Handled.announce (h : Handled env s₀ done t) (e : LobbyEvent) {n : Nat} {l : List Effect}
    (plain : ∀ x ∈ l, x.plainWrite) :
    Handled env s₀ (done ++ [e]) ((t.handled e n l).announce env e) := by
  obtain ⟨m, faults⟩ := h.faults
  obtain ⟨mid, trace, cds, notified⟩ := h.trace
  have ann : announcements env (t.handled e n l) = announcements env s₀ := h.announcements_eq
  have reported : (t.handled e n l).reported = t.reported := rfl
  have joinState : (t.handled e n l).joinState = t.joinState.observe e := rfl
  have traceEq : (t.handled e n l).trace = t.trace ++ l := rfl
  rw [Lobby.announce_eq, ann, reported, joinState, traceEq]
  constructor
  · simp [Lobby.handled, h.info]
  · simp [Lobby.handled, h.nodeStream]
  · simp [Lobby.handled, h.weakOutgoingTx]
  · simp [Lobby.handled, h.lobbyCountdownNotify]
  · simp [Lobby.handled, h.starting]
  · exact ⟨m + n, by simp [Lobby.handled, faults, List.drop_drop, Nat.add_comm]⟩
  · simp [Lobby.handled, h.localAddr]
  · simp [h.joinState, JoinPacketRecvState.observeAll]
  · cases reports : e.reports
    · simpa [JoinPacketRecvState.isReady_observe reports] using h.ready
    · cases t.reported <;> simp
  · generalize hc : (e.reports && (t.joinState.observe e).isReady && !t.reported) = c
    refine ⟨mid ++ l ++ if c then announcements env s₀ else [], by simp [trace], ?_, ?_⟩
    · have := countDownStart_not_mem_announcements env s₀
      have := countDownStart_not_mem_of_plain plain
      split <;> simp_all
    · rw [List.filter_append, List.filter_append, notified, filter_notification_of_plain plain]
      cases hr : t.reported <;> cases c <;> simp_all [filter_announcements]


/-- While the loop waits, moreover, `should_start` has held after no prefix of the events. -/
structure Waiting (s₀ : Lobby) (done : List LobbyEvent) (t : Lobby) extends Handled env s₀ done t :
    Prop where
  never : ∀ pre, pre <+: done → (s₀.joinState.observeAll pre).shouldStart = false

theorem LobbyEvent.checks_of_reports {e : LobbyEvent} (h : e.reports) : e.checks := by
  rcases e with (_ | _ | pkt) | _ | (_ | _ | status) <;> simp_all [LobbyEvent.reports, LobbyEvent.checks]

theorem Lobby.announce_of_not_reports {e : LobbyEvent} (h : e.reports = false) (s : Lobby) :
    s.announce env e = s := by
  simp [Lobby.announce, h]

theorem startIf_none {t u : Lobby} (h : startIf env t = .ok none u) :
    u = t ∧ t.joinState.shouldStart = false := by
  unfold startIf at h
  split at h
  · rcases result_cases (sendStart env t) with ⟨err, r⟩ | ⟨a, r⟩ <;>
      generalize stateOf (sendStart env t) = v at r <;> simp [r] at h
  · cases h
    exact ⟨rfl, by simpa using ‹¬t.joinState.shouldStart = true›⟩

/-- A pass after which the loop waits on keeps the invariant: `should_start` failed, or the
pass did not test it and left the join state as it was. -/
theorem Waiting.step_none (w : Waiting env s₀ done t) {e : LobbyEvent} {u : Lobby}
    (h : step env e t = .ok none u) : Waiting env s₀ (done ++ [e]) u := by
  obtain ⟨n, l, plain, outcome⟩ := step_cases env t e
  rcases outcome with ⟨err, fails⟩ | next
  · rw [fails] at h; cases h
  have handled := w.toHandled.announce env e (n := n) plain
  have quiet : (s₀.joinState.observeAll (done ++ [e])).shouldStart = false := by
    have counted : s₀.joinState.observeAll (done ++ [e]) = t.joinState.observe e := by
      simp [w.joinState, JoinPacketRecvState.observeAll]
    rw [counted]
    cases checks : e.checks
    · simpa [JoinPacketRecvState.observe_of_not_checks checks, w.joinState] using
        w.never done (List.prefix_refl _)
    · simp only [next, checks, if_true] at h
      simpa [Lobby.handled] using (startIf_none env h).2
  have reached : u = (t.handled e n l).announce env e := by
    rw [next] at h
    cases checks : e.checks
    · have reports : e.reports = false := by
        cases r : e.reports
        · rfl
        · simpa [checks] using LobbyEvent.checks_of_reports r
      simp only [checks] at h
      cases h
      rw [Lobby.announce_of_not_reports env reports]
    · simp only [checks, if_true] at h
      exact (startIf_none env h).1
  subst reached
  refine ⟨handled, fun pre isPre => ?_⟩
  rcases List.prefix_concat_iff.mp isPre with rfl | earlier
  · exact quiet
  · exact w.never pre earlier

theorem waiting_enterRun (s : Lobby) : Waiting env s.enterRun [] s.enterRun where
  info := rfl
  nodeStream := rfl
  weakOutgoingTx := rfl
  lobbyCountdownNotify := rfl
  starting := rfl
  faults := ⟨0, rfl⟩
  localAddr := rfl
  joinState := rfl
  ready := by simp [Lobby.enterRun, JoinPacketRecvState.new, JoinPacketRecvState.isReady]
  trace := ⟨[], by simp, by simp, by simp [Lobby.enterRun]⟩
  never pre isPre := by
    rw [List.prefix_nil.mp isPre]
    simp [Lobby.enterRun, JoinPacketRecvState.observeAll, JoinPacketRecvState.new,
      JoinPacketRecvState.shouldStart, JoinPacketRecvState.isReady]

theorem Waiting.runLoop (w : Waiting env s₀ done t) {rest : List LobbyEvent} {u : Lobby}
    (h : runLoop env rest t = .ok none u) : Waiting env s₀ (done ++ rest) u := by
  induction rest generalizing done t with
  | nil => cases h; simpa using w
  | cons e rest ih =>
    obtain ⟨v, first, later⟩ := runLoop_cons_none env h
    simpa using ih (w.step_none env first) later

/-- While `run` waits, its state keeps the invariant for the events it was fed. -/
theorem waiting_of_run {events : List LobbyEvent} {s t : Lobby} (h : run env events s = .ok none t) :
    Waiting env s.enterRun events t := by
  simpa using (waiting_enterRun env s).runLoop env h


/-- A pass that returns an action tested `should_start` after handling its event, and found it
holding. -/
theorem step_some {e : LobbyEvent} {t u : Lobby} {a : LobbyAction}
    (h : step env e t = .ok (some a) u) : e.checks ∧ (t.joinState.observe e).shouldStart := by
  obtain ⟨n, l, -, outcome⟩ := step_cases env t e
  rcases outcome with ⟨err, fails⟩ | next
  · rw [fails] at h; cases h
  rw [next] at h
  cases checks : e.checks
  · simp [checks] at h
  · simp only [checks, if_true, startIf] at h
    split at h
    next start => simpa [Lobby.handled] using start
    next => cases h

/-- The join state of a waiting run, through the readiness condition. -/
theorem Waiting.shouldStart_iff {s : Lobby} {done : List LobbyEvent} {t : Lobby}
    (w : Waiting env s.enterRun done t) (e : LobbyEvent) :
    (t.joinState.observe e).shouldStart ↔ JoinComplete s.info.totalPlayers s.statusRx (done ++ [e]) := by
  rw [← shouldStart_observeAll_iff, w.joinState]
  simp [Lobby.enterRun, JoinPacketRecvState.observeAll]

/-! ### A one-player lobby -/

/-- A game with one player, the local one, and no observer. -/
def soloGame : LanGameInfo where
  game := ⟨"solo", 1⟩
  slotInfo := ⟨⟨[]⟩, [⟨1, "me"⟩], 1, none⟩
  mapChecksum := ⟨0, 0⟩
  gameSettings := ⟨[]⟩
  lanGameNameOverride := none

/-- A handler for which every packet encodes; `debug` is a debug build logging at DEBUG, so
that its debug decode runs. -/
def testEnv (debug : Bool) : Env := ⟨fun _ => true, fun name _ => name, debug, debug⟩

/-- A new handler of the one-player game, on a stream whose writes fail as `faults` says. -/
def soloLobby (faults : List Bool) : Lobby :=
  Lobby.new soloGame ⟨.v4 ⟨0, 6112⟩, faults⟩ none none none none

/-- The player's three join messages; the last carries `unk5` as its decoded body. -/
def joinMessages (unk5 : Option ProtoBufMessage) : List LobbyEvent :=
  [.recv (.ok (some (.protoBufPayload (.new (.playerProfile 1 "me"))))),
   .recv (.ok (some (.protoBufPayload (.new (.playerSkins 1))))),
   .recv (.ok (some (.protoBufPayload ⟨.playerUnknown5, unk5⟩)))]

/-- A `Loading` status, then the join messages: a run of `soloLobby` that starts the game. -/
def startingBatch : List LobbyEvent := .changed (.ok (some .loading)) :: joinMessages (some .playerUnknown5)

/-- The join counters of `run` are the numbers of join messages received so far, without bound:
a client that sends one more than the lobby waits for pushes its counter past the target, and
from then on no event of the run starts the game. -/
theorem join_counts_exact (events : List LobbyEvent) (s t : Lobby)
    (waiting : run env events s = .ok none t) :
    t.joinState = ⟨s.info.totalPlayers, received .playerProfile events, received .playerSkins events,
      received .playerUnknown5 events, latestStatus s.statusRx events⟩ ∧
    (s.info.totalPlayers < received .playerProfile events ∨ 1 < received .playerSkins events ∨
        1 < received .playerUnknown5 events →
      ∀ rest u, run env (events ++ rest) s ≠ .ok (some .start) u) := by
  have w := waiting_of_run env waiting
  refine ⟨by simp [w.joinState, JoinPacketRecvState.observeAll_eq, Lobby.enterRun,
    JoinPacketRecvState.new], fun over rest u => ?_⟩
  have loop : runLoop env events s.enterRun = .ok none t := waiting
  rw [run_eq, runLoop_append env loop]
  rcases runLoop_stops env rest t with ⟨v, waits⟩ | ⟨pre, e, post, t', rfl, waits, -, stops⟩
  · rw [waits]; simp
  · rw [stops]
    intro start
    have complete := ((w.runLoop env waits).shouldStart_iff env e).mp (step_some env start).2
    simp only [JoinComplete, received, List.countP_append] at complete over
    omega


/-- The player's join messages and a second `PlayerSkins`: the counters hold one profile, two
skins and one unknown-5, and the skins counter is past its target, so no continuation starts. -/
theorem solo_join_counts :
    run (testEnv false) (joinMessages (some .playerUnknown5) ++
        [.recv (.ok (some (.protoBufPayload (.new (.playerSkins 1)))))]) (soloLobby []) =
      .ok none (runs (testEnv false) [joinMessages (some .playerUnknown5) ++
        [.recv (.ok (some (.protoBufPayload (.new (.playerSkins 1)))))]] (soloLobby [])) ∧
    1 < received .playerSkins (joinMessages (some .playerUnknown5) ++
        [.recv (.ok (some (.protoBufPayload (.new (.playerSkins 1)))))]) ∧
    ((runs (testEnv false) [joinMessages (some .playerUnknown5) ++
        [.recv (.ok (some (.protoBufPayload (.new (.playerSkins 1)))))]] (soloLobby [])).joinState =
        ⟨(soloLobby []).info.totalPlayers,
          received .playerProfile (joinMessages (some .playerUnknown5) ++
            [.recv (.ok (some (.protoBufPayload (.new (.playerSkins 1)))))]),
          received .playerSkins (joinMessages (some .playerUnknown5) ++
            [.recv (.ok (some (.protoBufPayload (.new (.playerSkins 1)))))]),
          received .playerUnknown5 (joinMessages (some .playerUnknown5) ++
            [.recv (.ok (some (.protoBufPayload (.new (.playerSkins 1)))))]),
          latestStatus (soloLobby []).statusRx (joinMessages (some .playerUnknown5) ++
            [.recv (.ok (some (.protoBufPayload (.new (.playerSkins 1)))))])⟩ ∧
      ((soloLobby []).info.totalPlayers < received .playerProfile (joinMessages (some .playerUnknown5) ++
            [.recv (.ok (some (.protoBufPayload (.new (.playerSkins 1)))))]) ∨
          1 < received .playerSkins (joinMessages (some .playerUnknown5) ++
            [.recv (.ok (some (.protoBufPayload (.new (.playerSkins 1)))))]) ∨
          1 < received .playerUnknown5 (joinMessages (some .playerUnknown5) ++
            [.recv (.ok (some (.protoBufPayload (.new (.playerSkins 1)))))]) →
        ∀ rest u, run (testEnv false) (joinMessages (some .playerUnknown5) ++
            [.recv (.ok (some (.protoBufPayload (.new (.playerSkins 1)))))] ++ rest) (soloLobby []) ≠
          .ok (some .start) u)) := by
  have waiting : run (testEnv false) (joinMessages (some .playerUnknown5) ++
      [.recv (.ok (some (.protoBufPayload (.new (.playerSkins 1)))))]) (soloLobby []) =
      .ok none (runs (testEnv false) [joinMessages (some .playerUnknown5) ++
        [.recv (.ok (some (.protoBufPayload (.new (.playerSkins 1)))))]] (soloLobby [])) := rfl
  exact ⟨waiting, by decide, join_counts_exact _ _ _ _ waiting⟩

/-- A second `PlayerSkins` after readiness pushes its counter to two: readiness is lost, and a
`Loading` status that follows does not start the game. -/
theorem repeated_skins_exceed_bound :
    run (testEnv false) (joinMessages (some .playerUnknown5)) (soloLobby []) =
      .ok none (runs (testEnv false) [joinMessages (some .playerUnknown5)] (soloLobby [])) ∧
    (runs (testEnv false) [joinMessages (some .playerUnknown5)] (soloLobby [])).joinState.isReady ∧
    run (testEnv false) (joinMessages (some .playerUnknown5) ++
        [.recv (.ok (some (.protoBufPayload (.new (.playerSkins 1))))), .changed (.ok (some .loading))])
        (soloLobby []) =
      .ok none (runs (testEnv false) [joinMessages (some .playerUnknown5) ++
        [.recv (.ok (some (.protoBufPayload (.new (.playerSkins 1))))), .changed (.ok (some .loading))]]
        (soloLobby [])) ∧
    (runs (testEnv false) [joinMessages (some .playerUnknown5) ++
        [.recv (.ok (some (.protoBufPayload (.new (.playerSkins 1))))), .changed (.ok (some .loading))]]
        (soloLobby [])).joinState.numSkins = 2 :=
  ⟨rfl, rfl, rfl, rfl⟩

end

/-! ### Packets the lobby cannot handle -/

section
variable (env : Env)

/-- `run` drops a `LeaveReq` before it reaches `handle_packet`: inserted anywhere into a run, it
changes neither what the run returns nor the state it ends in. -/
theorem run_ignores_leaveReq (pre post : List LobbyEvent) (s : Lobby) {pkt : Packet}
    (leave : pkt.typeId = .leaveReq) :
    run env (pre ++ .recv (.ok (some pkt)) :: post) s = run env (pre ++ post) s := by
  rw [run_eq, run_eq]
  generalize s.enterRun = t
  induction pre generalizing t with
  | nil => exact runLoop_of_none env (by simp [step, leave])
  | cons e pre ih =>
    rcases result_cases (step env e t) with ⟨err, first⟩ | ⟨a, first⟩
    · simp only [List.cons_append, runLoop_of_error env first]
    · cases a with
      | none => simp only [List.cons_append, runLoop_of_none env first, ih]
      | some a => simp only [List.cons_append, runLoop_of_some env first]

/-- A `LeaveReq` ahead of the batch that starts the game. -/
theorem leave_before_start_ignored :
    Packet.leaveReq.typeId = .leaveReq ∧
    run (testEnv false) ([] ++ .recv (.ok (some .leaveReq)) :: startingBatch) (soloLobby []) =
      run (testEnv false) ([] ++ startingBatch) (soloLobby []) :=
  ⟨rfl, run_ignores_leaveReq (testEnv false) [] startingBatch (soloLobby []) rfl⟩

end

end FloLobby.Lan
