import FloLobby.Control.Packet

/-!
# The node registry

Modelled from the spec: `crate::net::node::NodeRegistry` is not under `src/`. The spec gives it
a list of nodes with their pings and one selected node id, which must name a listed node; the
selection is validated in the same critical section that changes it. The registry below carries
that invariant as a field, so every registry the control plane can reach satisfies it.
-/

namespace FloLobby.Control

/-- Modelled from the spec: a listed node and the ping last measured to it. -/
structure NodeEntry where
  node : ProtoNode
  ping : Option UInt32
  deriving DecidableEq, Repr

/-- Modelled from the spec: `NodeRegistry`, whose selected node is always one it lists. -/
structure NodeRegistry where
  entries : List NodeEntry
  selectedNodeId : Option Int
  selected_mem : ∀ id ∈ selectedNodeId, id ∈ entries.map (·.node.id)

namespace NodeRegistry

/-- Modelled from the spec: `get_current_ping`, the ping held for the node with this id. -/
def getCurrentPing (r : NodeRegistry) (id : Int) : Option UInt32 :=
  (r.entries.find? (·.node.id == id)).bind (·.ping)

/-- Modelled from the spec: `set_selected_node`. `None` clears the selection; an id is selected
only when the registry lists it. -/
def setSelectedNode (r : NodeRegistry) : Option Int → Except Error NodeRegistry
  | none => .ok ⟨r.entries, none, by simp⟩
  | some id =>
    if listed : id ∈ r.entries.map (·.node.id) then
      .ok ⟨r.entries, some id, by simpa using listed⟩
    else .error (.invalidNodeId id)

/-- Modelled from the spec: `update_nodes`. The server's list replaces the registry's, a node
still listed keeps its ping, and the selection survives only if its node is still listed. -/
def updateNodes (r : NodeRegistry) (nodes : List ProtoNode) : NodeRegistry where
  entries := nodes.map fun n => ⟨n, r.getCurrentPing n.id⟩
  selectedNodeId := r.selectedNodeId.filter fun id => (nodes.map (·.id)).contains id
  selected_mem := by
    intro id selected
    simp only [Option.mem_def, Option.filter_eq_some, List.elem_eq_mem, decide_eq_true_eq]
      at selected
    simpa [Function.comp_def] using selected.2

theorem setSelectedNode_cases (r : NodeRegistry) (id : Option Int) :
    (∃ r', r.setSelectedNode id = .ok r' ∧ r'.entries = r.entries ∧ r'.selectedNodeId = id) ∨
      ∃ n, id = some n ∧ n ∉ r.entries.map (·.node.id) ∧
        r.setSelectedNode id = .error (.invalidNodeId n) := by
  rcases id with _ | n
  · exact .inl ⟨_, rfl, rfl, rfl⟩
  · by_cases listed : n ∈ r.entries.map (·.node.id)
    · exact .inl ⟨_, dif_pos listed, rfl, rfl⟩
    · exact .inr ⟨n, rfl, listed, dif_neg listed⟩

@[simp] theorem setSelectedNode_none (r : NodeRegistry) :
    r.setSelectedNode none = .ok ⟨r.entries, none, by simp⟩ := rfl

@[simp] theorem updateNodes_entries (r : NodeRegistry) (nodes : List ProtoNode) :
    (r.updateNodes nodes).entries = nodes.map fun n => ⟨n, r.getCurrentPing n.id⟩ := rfl

/-- An update keeps the selection or clears it; it never selects another node. -/
theorem updateNodes_selectedNodeId (r : NodeRegistry) (nodes : List ProtoNode) :
    (r.updateNodes nodes).selectedNodeId = none ∨
      (r.updateNodes nodes).selectedNodeId = r.selectedNodeId := by
  cases selected : r.selectedNodeId with
  | none => simp [updateNodes, selected]
  | some id =>
    simp only [updateNodes, selected, Option.filter]
    split <;> simp

end NodeRegistry

end FloLobby.Control
