import FloLobby.Lan.Run

/-!
# `send_start` across runs

A handler may be run again after a run has failed, and every run that finds the join complete
calls `send_start`. The `starting` flag makes every call after the first return at once, so the
countdown is written at most once over the handler's life; it is set before the first write,
so a first call that fails part-way leaves later calls returning `Ok` without a countdown.
-/

namespace FloLobby.Lan

variable (env : Env)

section
variable {s t : Lobby}

end

end FloLobby.Lan
