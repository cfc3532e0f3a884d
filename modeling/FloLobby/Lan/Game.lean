import FloLobby.Lan.Packet

/-!
# The LAN game and its advertiser

`LanGame` (`lan/game/mod.rs`). `create` builds the record the mDNS advertiser publishes for the
game client, starts the proxy the client connects to, and spawns the advertiser.
`update_game_status` and `update_player_status` forward to the proxy; the first also tells the
advertiser to shut down once the node game has left the lobby statuses. Dropping the game leaves
its scope. The advertiser is a task of its own: it waits for either signal, then holds the record
one more second before it drops the publisher.

A run is any interleaving of the owner's calls with the runtime's polls of the advertiser and the
passing of time, as a list of `GameEvent`s. `flo_lan`, the slot planner and the proxy are not under
`src/`: `GameEnv` gives what they return.
-/

namespace FloLobby.Lan

/-! ### The advertised record and `create` -/

/-- Modelled from the spec: `flo_lan::GameInfo`, the record the advertiser publishes, with the
game settings `flo_lan` derives for the map. -/
structure GameInfo where
  gameId : Int
  gameName : String
  mapPath : String
  mapSha1 : List UInt8
  mapChecksum : UInt32
  port : UInt16
  settings : GameSettings
  deriving DecidableEq, Repr

/-- `GameInfo::set_port`. -/
def GameInfo.setPort (info : GameInfo) (port : UInt16) : GameInfo := { info with port }

/-- The fields of `LocalGameInfo` that `create` reads beside the lobby's (`LocalGameInfo`): the
record's, and the seed and slots it hands to the slot planner, each slot as its encoding. -/
structure LocalGameFields where
  gameId : Int
  mapPath : String
  mapSha1 : List UInt8
  mapChecksum : UInt32
  randomSeed : Int
  slots : List (List UInt8)
  deriving DecidableEq, Repr

/-- Modelled from the spec: `NodeConnectToken`, the token the proxy presents to the node. -/
structure NodeConnectToken where
  bytes : List UInt8
  deriving DecidableEq, Repr

/-- `crate::error::Error`, the variants `create` can return: its own check of the node token,
and the failure of a call it makes, named by the call's crate. -/
inductive GameError where
  | invalidNodeToken
  | lan
  | slot
  | proxy
  deriving DecidableEq, Repr

/-- What `create` relies on from outside this repository: the naming rule, `flo_lan`'s record
and publisher, the token's parser, the slot planner and the proxy, which answers with the port
its listener bound. `worker` is the crate's `worker` feature. -/
structure GameEnv where
  worker : Bool
  getLanGameName : Int → Int → String
  gameSettings : Int → String → String → List UInt8 → UInt32 → Except GameError GameSettings
  tokenFromVec : List UInt8 → Option NodeConnectToken
  buildPlayerSlotInfo : Int → Int → List (List UInt8) → Except GameError LanSlotInfo
  proxyStart : LanGameInfo → NodeConnectToken → Except GameError UInt16
  publisherStart : GameInfo → Except GameError Unit

variable (env : GameEnv)

/-- Modelled from the spec: `GameInfo::new`, a record of the given fields with no port yet, or
`flo_lan`'s refusal. -/
def GameEnv.gameInfoNew (gameId : Int) (gameName mapPath : String) (mapSha1 : List UInt8)
    (mapChecksum : UInt32) : Except GameError GameInfo :=
  (env.gameSettings gameId gameName mapPath mapSha1 mapChecksum).map
    (⟨gameId, gameName, mapPath, mapSha1, mapChecksum, 0, ·⟩)

/-- `map_path.replace("\\", "/")`. The pattern is one character, so this maps the characters. -/
def normalizeMapPath (path : String) : String :=
  ⟨path.data.map fun c => if c = '\\' then '/' else c⟩

theorem normalizeMapPath_no_backslash (path : String) : '\\' ∉ (normalizeMapPath path).data := by
  simp only [normalizeMapPath, List.mem_map, not_exists, not_and]
  intro c _
  split <;> simp_all

/-- The advertiser task: in its `select!`, in the one-second `delay_for` with the milliseconds
left, or returned, its publisher dropped and the record withdrawn. -/
inductive Advertiser where
  | waiting
  | draining (remaining : Nat)
  | exited
  deriving DecidableEq, Repr

/-- What `LanGame` hands to the proxy: `dispatch_game_status_change`,
`dispatch_player_event(PlayerStatusChange)` and `shutdown`. -/
inductive ProxyEvent where
  | gameStatusChange (status : NodeGameStatus)
  | playerStatusChange (playerId : Int) (status : SlotClientStatus)
  | shutdown
  deriving DecidableEq, Repr

/-- `LanGame`, with the tasks it spawned. `notified` is the permit `mdns_shutdown_notify` holds once
notified; only the advertiser's `select!` waits on it, so whether that consumes the permit is never
observed, and the model keeps it. `scopeLeft` is the game's scope having been dropped. -/
structure LanGame where
  gameId : Int
  myPlayerId : Int
  record : GameInfo
  proxyInfo : LanGameInfo
  notified : Bool
  scopeLeft : Bool
  advertiser : Advertiser
  dispatched : List ProxyEvent
  deriving DecidableEq, Repr

/-- The `game_name` of `create`: the game's name and the player's id under the `worker` feature,
`get_lan_game_name` otherwise. -/
def GameEnv.gameName (myPlayerId : Int) (game : LocalGameInfo) (fields : LocalGameFields) :
    String :=
  if env.worker then game.name ++ "-" ++ toString myPlayerId
  else env.getLanGameName fields.gameId myPlayerId

/-- `LanGame::create`. The lobby's `LanGameInfo` of this version has no name override. -/
def create (myPlayerId : Int) (playerToken : List UInt8) (game : LocalGameInfo)
    (fields : LocalGameFields) (mapChecksum : MapChecksum) : Except GameError LanGame := do
  let gameName := env.gameName myPlayerId game fields
  let gameInfo ← env.gameInfoNew fields.gameId gameName (normalizeMapPath fields.mapPath)
    fields.mapSha1 fields.mapChecksum
  let token ← match env.tokenFromVec playerToken with
    | some token => pure token
    | none => throw .invalidNodeToken
  let slotInfo ← env.buildPlayerSlotInfo myPlayerId fields.randomSeed fields.slots
  let proxyInfo : LanGameInfo := ⟨game, slotInfo, mapChecksum, gameInfo.settings, none⟩
  let port ← env.proxyStart proxyInfo token
  let gameInfo := gameInfo.setPort port
  env.publisherStart gameInfo
  pure ⟨fields.gameId, myPlayerId, gameInfo, proxyInfo, false, false, .waiting, []⟩

theorem except_bind_eq_ok {ε α β : Type} {x : Except ε α} {f : α → Except ε β} {b : β} :
    x >>= f = .ok b ↔ ∃ a, x = .ok a ∧ f a = .ok b := by
  cases x <;> simp [bind, Except.bind]

theorem GameEnv.gameInfoNew_ok {gameId : Int} {gameName mapPath : String} {mapSha1 : List UInt8}
    {mapChecksum : UInt32} {info : GameInfo}
    (made : env.gameInfoNew gameId gameName mapPath mapSha1 mapChecksum = .ok info) :
    ∃ settings, env.gameSettings gameId gameName mapPath mapSha1 mapChecksum = .ok settings ∧
      info = ⟨gameId, gameName, mapPath, mapSha1, mapChecksum, 0, settings⟩ := by
  unfold GameEnv.gameInfoNew at made
  cases derived : env.gameSettings gameId gameName mapPath mapSha1 mapChecksum <;>
    simp [derived, Except.map] at made
  exact ⟨_, rfl, made.symm⟩

section Create

variable {myPlayerId : Int} {playerToken : List UInt8} {game : LocalGameInfo}
  {fields : LocalGameFields} {mapChecksum : MapChecksum} {g : LanGame}

/-- `create` returns a game only when every call it makes succeeds; the game then holds the
record, with the port the proxy bound, that the publisher was started with. -/
theorem create_ok (created : create env myPlayerId playerToken game fields mapChecksum = .ok g) :
    ∃ settings token slotInfo port,
      env.gameSettings fields.gameId (env.gameName myPlayerId game fields)
        (normalizeMapPath fields.mapPath) fields.mapSha1 fields.mapChecksum = .ok settings ∧
      env.tokenFromVec playerToken = some token ∧
      env.buildPlayerSlotInfo myPlayerId fields.randomSeed fields.slots = .ok slotInfo ∧
      env.proxyStart ⟨game, slotInfo, mapChecksum, settings, none⟩ token = .ok port ∧
      g = ⟨fields.gameId, myPlayerId, ⟨fields.gameId, env.gameName myPlayerId game fields,
        normalizeMapPath fields.mapPath, fields.mapSha1, fields.mapChecksum, port, settings⟩,
        ⟨game, slotInfo, mapChecksum, settings, none⟩, false, false, .waiting, []⟩ ∧
      env.publisherStart g.record = .ok () := by
  simp only [create, except_bind_eq_ok] at created
  obtain ⟨info, infoOk, created⟩ := created
  obtain ⟨settings, settingsOk, rfl⟩ := env.gameInfoNew_ok infoOk
  cases tokenOk : env.tokenFromVec playerToken with
  | none => simp [tokenOk, except_bind_eq_ok, throw, throwThe, MonadExceptOf.throw] at created
  | some token =>
    simp only [tokenOk, except_bind_eq_ok] at created
    obtain ⟨_, ⟨⟩, slotInfo, slotOk, port, portOk, _, published, ⟨⟩⟩ := created
    exact ⟨settings, token, slotInfo, port, settingsOk, rfl, slotOk, portOk, rfl, published⟩

end Create

/-- A build without the `worker` feature in which every call of `create` succeeds and the proxy
binds port 6112. -/
def GameEnv.accepting : GameEnv where
  worker := false
  getLanGameName _ _ := "solo lobby"
  gameSettings _ _ _ _ _ := .ok ⟨[]⟩
  tokenFromVec bytes := some ⟨bytes⟩
  buildPlayerSlotInfo _ _ _ := .ok ⟨⟨[]⟩, [], 1, none⟩
  proxyStart _ _ := .ok 6112
  publisherStart _ := .ok ()

/-- Game 7's map, under a path written with backslashes. -/
def soloFields : LocalGameFields := ⟨7, "Maps\\Download\\solo.w3x", [], 0, 0, []⟩

/-! ### The owner's calls and the advertiser -/

/-- The statuses `update_game_status` leaves the advertiser up in. -/
def lobbyStatuses : List NodeGameStatus := [.created, .waiting, .loading]

namespace LanGame

/-- `LanGame::update_game_status`. -/
def updateGameStatus (g : LanGame) (status : NodeGameStatus) : LanGame :=
  { g with
    notified := g.notified || !lobbyStatuses.contains status
    dispatched := g.dispatched ++ [.gameStatusChange status] }

/-- `LanGame::update_player_status`. -/
def updatePlayerStatus (g : LanGame) (playerId : Int) (status : SlotClientStatus) : LanGame :=
  { g with dispatched := g.dispatched ++ [.playerStatusChange playerId status] }

/-- `LanGame::is_same_game`. -/
def isSameGame (g : LanGame) (gameId myPlayerId : Int) : Bool :=
  g.gameId == gameId && g.myPlayerId == myPlayerId

/-- One poll of the advertiser: its `select!` completes once the scope is left or the notifier
holds a permit, and the delay once its second is up. -/
def pollAdvertiser (g : LanGame) : LanGame :=
  match g.advertiser with
  | .waiting => if g.scopeLeft || g.notified then { g with advertiser := .draining 1000 } else g
  | .draining 0 => { g with advertiser := .exited }
  | _ => g

/-- Time passing: only the advertiser's delay reads the clock. -/
def elapse (g : LanGame) (millis : Nat) : LanGame :=
  match g.advertiser with
  | .draining remaining => { g with advertiser := .draining (remaining - millis) }
  | _ => g

end LanGame

/-- What can happen to a game: a call of its owner, the owner dropping it (or `shutdown`, which
first shuts the proxy down), a poll of the advertiser task, or time passing. -/
inductive GameEvent where
  | updateGameStatus (status : NodeGameStatus)
  | updatePlayerStatus (playerId : Int) (status : SlotClientStatus)
  | drop
  | shutdown
  | poll
  | elapse (millis : Nat)
  deriving DecidableEq, Repr

namespace LanGame

def step (g : LanGame) : GameEvent → LanGame
  | .updateGameStatus status => g.updateGameStatus status
  | .updatePlayerStatus playerId status => g.updatePlayerStatus playerId status
  | .drop => { g with scopeLeft := true }
  | .shutdown => { g with dispatched := g.dispatched ++ [.shutdown], scopeLeft := true }
  | .poll => g.pollAdvertiser
  | .elapse millis => g.elapse millis

def run (g : LanGame) : List GameEvent → LanGame
  | [] => g
  | e :: rest => (g.step e).run rest

/-- Whether the advertiser has been asked to stop: the scope left, or the notifier's permit. -/
def shutdownRequested (g : LanGame) : Bool := g.scopeLeft || g.notified

end LanGame

/-! ### What one event does -/

namespace GameEvent

/-- Whether the event notifies `mdns_shutdown_notify`. -/
def notifies : GameEvent → Bool
  | .updateGameStatus status => !lobbyStatuses.contains status
  | _ => false

/-- Whether the event leaves the game's scope. -/
def leavesScope : GameEvent → Bool
  | .drop | .shutdown => true
  | _ => false

/-- The events that ask the advertiser to stop. -/
def triggers (e : GameEvent) : Bool := e.notifies || e.leavesScope

/-- What the event hands to the proxy. -/
def forwarded : GameEvent → List ProxyEvent
  | .updateGameStatus status => [.gameStatusChange status]
  | .updatePlayerStatus playerId status => [.playerStatusChange playerId status]
  | .shutdown => [.shutdown]
  | _ => []

/-- The time the event lets pass. -/
def millis : GameEvent → Nat
  | .elapse millis => millis
  | _ => 0

end GameEvent

/-- What one event does to the advertiser, given whether its shutdown has been asked for. -/
def Advertiser.next (requested : Bool) : Advertiser → GameEvent → Advertiser
  | .waiting, .poll => if requested then .draining 1000 else .waiting
  | .draining 0, .poll => .exited
  | .draining remaining, .elapse millis => .draining (remaining - millis)
  | a, _ => a

namespace LanGame

theorem step_eq (g : LanGame) (e : GameEvent) :
    g.step e = { g with
      notified := g.notified || e.notifies
      scopeLeft := g.scopeLeft || e.leavesScope
      advertiser := g.advertiser.next g.shutdownRequested e
      dispatched := g.dispatched ++ e.forwarded } := by
  rcases g with ⟨_, _, _, _, notified, scopeLeft, advertiser, _⟩
  cases e <;> rcases advertiser with _ | (_ | _) | _ <;>
    simp only [step, updateGameStatus, updatePlayerStatus, pollAdvertiser, elapse,
      Advertiser.next, shutdownRequested, GameEvent.notifies, GameEvent.leavesScope,
      GameEvent.forwarded, Bool.or_false, Bool.or_true, List.append_nil]
  all_goals split <;> rfl

@[simp] theorem step_advertiser (g : LanGame) (e : GameEvent) :
    (g.step e).advertiser = g.advertiser.next g.shutdownRequested e := by
  rw [step_eq]

@[simp] theorem step_shutdownRequested (g : LanGame) (e : GameEvent) :
    (g.step e).shutdownRequested = (g.shutdownRequested || e.triggers) := by
  simp only [step_eq, shutdownRequested, GameEvent.triggers]
  cases g.scopeLeft <;> cases g.notified <;> simp [Bool.or_comm]

theorem run_append (g : LanGame) (pre post : List GameEvent) :
    g.run (pre ++ post) = (g.run pre).run post := by
  induction pre generalizing g with
  | nil => rfl
  | cons e pre ih => exact ih (g.step e)

theorem run_concat (g : LanGame) (events : List GameEvent) (e : GameEvent) :
    g.run (events ++ [e]) = (g.run events).step e := by
  rw [run_append]; rfl

/-- A shutdown, once asked for, stays asked for. -/
theorem run_shutdownRequested (g : LanGame) (events : List GameEvent) :
    (g.run events).shutdownRequested = (g.shutdownRequested || events.any GameEvent.triggers) := by
  induction events generalizing g with
  | nil => simp [run]
  | cons e events ih => simp [run, ih, Bool.or_assoc]

end LanGame

/-! ### The advertiser over a run -/

/-- The time a run lets pass. -/
def elapsed : List GameEvent → Nat
  | [] => 0
  | e :: rest => e.millis + elapsed rest

@[simp] theorem elapsed_append (pre post : List GameEvent) :
    elapsed (pre ++ post) = elapsed pre + elapsed post := by
  induction pre with
  | nil => simp [elapsed]
  | cons e pre ih => simp [elapsed, ih]; omega

/-- The run ends with a part that starts at a poll finding a shutdown asked for and lets pass at
least a second, less `remaining`. -/
def DrainedFor (g : LanGame) (events : List GameEvent) (remaining : Nat) : Prop :=
  ∃ pre post, events = pre ++ post ∧ (g.run pre).shutdownRequested ∧ 1000 ≤ remaining + elapsed post

theorem DrainedFor.snoc {g : LanGame} {events : List GameEvent} {remaining : Nat}
    (h : DrainedFor g events remaining) (e : GameEvent) :
    DrainedFor g (events ++ [e]) (remaining - e.millis) := by
  obtain ⟨pre, post, rfl, requested, time⟩ := h
  refine ⟨pre, post ++ [e], by simp, requested, ?_⟩
  simp only [elapsed_append, elapsed]
  omega

/-- What the advertiser's state says of the run that led to it: a delay has at most its second
left and has counted down the time since it began; an exited task has waited its whole second. -/
def Accounted (g : LanGame) (events : List GameEvent) : Advertiser → Prop
  | .waiting => True
  | .draining remaining => remaining ≤ 1000 ∧ DrainedFor g events remaining
  | .exited => DrainedFor g events 0

theorem Advertiser.next_cases (requested : Bool) (a : Advertiser) (e : GameEvent) :
    (a = .waiting ∧ a.next requested e = .waiting) ∨
    (a = .waiting ∧ requested ∧ e = .poll ∧ a.next requested e = .draining 1000) ∨
    (∃ remaining, a = .draining remaining ∧ a.next requested e = .draining (remaining - e.millis)) ∨
    (a = .draining 0 ∧ e = .poll ∧ a.next requested e = .exited) ∨
    (a = .exited ∧ a.next requested e = .exited) := by
  rcases a with _ | (_ | remaining) | _
  · cases e
    case poll =>
      cases requested
      · exact .inl ⟨rfl, rfl⟩
      · exact .inr (.inl ⟨rfl, rfl, rfl, rfl⟩)
    all_goals exact .inl ⟨rfl, rfl⟩
  · cases e
    case poll => exact .inr (.inr (.inr (.inl ⟨rfl, rfl, rfl⟩)))
    all_goals exact .inr (.inr (.inl ⟨0, rfl, rfl⟩))
  · exact .inr (.inr (.inl ⟨_, rfl, by cases e <;> rfl⟩))
  · exact .inr (.inr (.inr (.inr ⟨rfl, by cases e <;> rfl⟩)))

theorem accounted_step {g : LanGame} {events : List GameEvent} {a : Advertiser}
    (h : Accounted g events a) (e : GameEvent) :
    Accounted g (events ++ [e]) (a.next (g.run events).shutdownRequested e) := by
  rcases Advertiser.next_cases (g.run events).shutdownRequested a e with
    ⟨rfl, next⟩ | ⟨rfl, requested, rfl, next⟩ | ⟨remaining, rfl, next⟩ | ⟨rfl, rfl, next⟩ |
      ⟨rfl, next⟩ <;> rw [next]
  · trivial
  · exact ⟨le_refl _, events, [.poll], rfl, requested, by simp [elapsed, GameEvent.millis]⟩
  · exact ⟨Nat.le_trans (Nat.sub_le _ _) h.1, h.2.snoc e⟩
  · exact h.2.snoc .poll
  · simpa using h.snoc e

/-- Over every run from the `select!`, the advertiser's state accounts for the run. -/
theorem accounted_run (g : LanGame) (start : g.advertiser = .waiting) (events : List GameEvent) :
    Accounted g events (g.run events).advertiser := by
  induction events using List.reverseRecOn with
  | nil => simp [LanGame.run, start, Accounted]
  | append_singleton events e ih =>
    rw [LanGame.run_concat, LanGame.step_advertiser]
    exact accounted_step ih e

@[simp] theorem Advertiser.next_exited (requested : Bool) (e : GameEvent) :
    Advertiser.exited.next requested e = .exited := by
  cases e <;> rfl

theorem run_exited (g : LanGame) (exited : g.advertiser = .exited) (events : List GameEvent) :
    (g.run events).advertiser = .exited := by
  induction events generalizing g with
  | nil => exact exited
  | cons e events ih => exact ih _ (by simp [exited])

/-- Once a shutdown is asked for, a poll, a second and a poll see the advertiser out, from any
state whose delay has at most its second left. -/
theorem release_after_second (g : LanGame) (requested : g.shutdownRequested = true)
    (bounded : ∀ remaining, g.advertiser = .draining remaining → remaining ≤ 1000) :
    (g.run [.poll, .elapse 1000, .poll]).advertiser = .exited := by
  simp only [LanGame.run, LanGame.step_advertiser, LanGame.step_shutdownRequested, requested,
    Bool.true_or]
  rcases h : g.advertiser with _ | (_ | remaining) | _
  · simp [Advertiser.next]
  · simp [Advertiser.next]
  · have le := bounded _ h
    simp [Advertiser.next, Nat.sub_eq_zero_of_le (by omega : remaining + 1 ≤ 1000)]
  · simp

section Advertiser

variable {myPlayerId : Int} {playerToken : List UInt8} {game : LocalGameInfo}
  {fields : LocalGameFields} {mapChecksum : MapChecksum} {g : LanGame}

theorem create_fresh (created : create env myPlayerId playerToken game fields mapChecksum = .ok g) :
    g.advertiser = .waiting ∧ g.shutdownRequested = false := by
  obtain ⟨_, _, _, _, _, _, _, _, rfl, _⟩ := create_ok env created
  exact ⟨rfl, rfl⟩

/-- Over every run of a created game, the record is withdrawn only a full second after a
shutdown was asked for, and stays published for as long as none is. -/
theorem advertiser_never_early
    (created : create env myPlayerId playerToken game fields mapChecksum = .ok g)
    (events : List GameEvent) :
    ((g.run events).advertiser = .exited →
      ∃ pre post, events = pre ++ post ∧ pre.any GameEvent.triggers ∧ 1000 ≤ elapsed post) ∧
    (events.any GameEvent.triggers = false → (g.run events).advertiser = .waiting) := by
  obtain ⟨start, fresh⟩ := create_fresh env created
  have accounted := accounted_run g start events
  have requested (pre : List GameEvent) :
      (g.run pre).shutdownRequested = pre.any GameEvent.triggers := by
    simp [LanGame.run_shutdownRequested, fresh]
  refine ⟨fun exited => ?_, fun quiet => ?_⟩
  · rw [exited] at accounted
    obtain ⟨pre, post, split, asked, time⟩ := accounted
    exact ⟨pre, post, split, requested pre ▸ asked, by simpa using time⟩
  · have drained : ∀ remaining, ¬ DrainedFor g events remaining := by
      rintro _ ⟨pre, post, rfl, asked, -⟩
      simp [List.any_append, ← requested pre, asked] at quiet
    cases h : (g.run events).advertiser <;> simp only [h, Accounted] at accounted
    · rfl
    · exact (drained _ accounted.2).elim
    · exact (drained _ accounted).elim

/-- Two runs of the solo game. In the first its node game goes from `Loading` to `Running`: the
record is withdrawn a second after the advertiser sees `Running`. In the second it goes from
`Loading` back to `Waiting`: nothing asks for a shutdown, and the record stays up through five
seconds and every poll. -/
theorem solo_record_held_a_second :
    ∃ g, create .accepting 1 [16] ⟨"solo", 1⟩ soloFields ⟨0, 0⟩ = .ok g ∧
      (g.run [.updateGameStatus .loading, .poll, .updateGameStatus .running, .poll, .elapse 400,
          .elapse 600, .poll]).advertiser = .exited ∧
      (((g.run [.updateGameStatus .loading, .poll, .updateGameStatus .running, .poll, .elapse 400,
          .elapse 600, .poll]).advertiser = .exited →
        ∃ pre post, [.updateGameStatus .loading, .poll, .updateGameStatus .running, .poll,
            .elapse 400, .elapse 600, .poll] = pre ++ post ∧ pre.any GameEvent.triggers ∧
          1000 ≤ elapsed post) ∧
      ([GameEvent.updateGameStatus .loading, .poll, .updateGameStatus .running, .poll, .elapse 400,
          .elapse 600, .poll].any GameEvent.triggers = false →
        (g.run [.updateGameStatus .loading, .poll, .updateGameStatus .running, .poll, .elapse 400,
          .elapse 600, .poll]).advertiser = .waiting)) ∧
      [GameEvent.updateGameStatus .loading, .poll, .updateGameStatus .waiting, .elapse 5000,
          .poll].any GameEvent.triggers = false ∧
      (((g.run [.updateGameStatus .loading, .poll, .updateGameStatus .waiting, .elapse 5000,
          .poll]).advertiser = .exited →
        ∃ pre post, [.updateGameStatus .loading, .poll, .updateGameStatus .waiting, .elapse 5000,
            .poll] = pre ++ post ∧ pre.any GameEvent.triggers ∧ 1000 ≤ elapsed post) ∧
      ([GameEvent.updateGameStatus .loading, .poll, .updateGameStatus .waiting, .elapse 5000,
          .poll].any GameEvent.triggers = false →
        (g.run [.updateGameStatus .loading, .poll, .updateGameStatus .waiting, .elapse 5000,
          .poll]).advertiser = .waiting)) :=
  ⟨_, rfl, rfl, @advertiser_never_early .accepting 1 [16] ⟨"solo", 1⟩ soloFields ⟨0, 0⟩ _ rfl _, rfl,
    @advertiser_never_early .accepting 1 [16] ⟨"solo", 1⟩ soloFields ⟨0, 0⟩ _ rfl _⟩

/-- Over every run of a created game, once a shutdown has been asked for, a poll of the advertiser,
a second and another poll withdraw the record for good. -/
theorem advertiser_releases
    (created : create env myPlayerId playerToken game fields mapChecksum = .ok g)
    (events : List GameEvent) (asked : events.any GameEvent.triggers = true)
    (more : List GameEvent) :
    (g.run (events ++ [.poll, .elapse 1000, .poll] ++ more)).advertiser = .exited := by
  have accounted := accounted_run g (create_fresh env created).1 events
  rw [LanGame.run_append, LanGame.run_append]
  refine run_exited _ (release_after_second _ (by simp [LanGame.run_shutdownRequested, asked])
    fun remaining h => ?_) more
  rw [h] at accounted
  exact accounted.1

/-- The game is dropped while its node game is `Waiting`. -/
theorem dropped_solo_withdrawn :
    ∃ g, create .accepting 1 [16] ⟨"solo", 1⟩ soloFields ⟨0, 0⟩ = .ok g ∧
      [GameEvent.updateGameStatus .waiting, .drop].any GameEvent.triggers = true ∧
      (g.run ([.updateGameStatus .waiting, .drop] ++ [.poll, .elapse 1000, .poll] ++
        [.updateGameStatus .ended])).advertiser = .exited :=
  ⟨_, rfl, rfl, @advertiser_releases .accepting 1 [16] ⟨"solo", 1⟩ soloFields ⟨0, 0⟩ _ rfl
    [.updateGameStatus .waiting, .drop] rfl _⟩

end Advertiser

end FloLobby.Lan
