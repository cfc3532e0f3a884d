import FloLobby.EState
import FloLobby.Proto
import FloLobby.Map.Sha1
import FloLobby.Lan.Packet
import FloLobby.Lan.Handler
import FloLobby.Lan.Eval
import FloLobby.Lan.Run
import FloLobby.Lan.Start
import FloLobby.Lan.Join
import FloLobby.Control.Packet
import FloLobby.Control.Node
import FloLobby.Control.Dispatch
import FloLobby.Control.Worker
import FloLobby.Lan.Game
