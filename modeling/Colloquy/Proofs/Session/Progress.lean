import Colloquy.Preview
import Colloquy.Proofs.Session.Presentable
import Colloquy.Proofs.Session.Staging

/-!
# Progress

The visited ids stay when their nodes are removed, so their number is one of all nodes only as long
as not too many of them are missing.

* `Session.lost`, `Session.unvisited`: visited ids without a node, nodes that were not visited;
* `Session.size_visited_add`: how the numbers of ids hang together;
* `Session.IsMeasured`: when the progress of a session is a share of the nodes;
* `Staged.measured`: it is so at every point, whatever happened to the session and to the tree.
-/

namespace Colloquy

namespace Session

variable {s : Session} {tree : Tree} {happened : List Happening} {taken : String → Prop}

/-- The visited ids without a node. -/
def lost (s : Session) (tree : Tree) : List String :=
  s.visited.keys.filter fun id => !tree.has id

/-- The ids of the nodes that have not been visited. -/
def unvisited (s : Session) (tree : Tree) : List String :=
  tree.nodes.keys.filter fun id => !s.visited.contains id

/-- Both the visited ids and the nodes are the visited nodes and the others. -/
theorem size_visited_add (s : Session) (tree : Tree) :
    s.visited.size + (s.unvisited tree).length = tree.nodes.size + (s.lost tree).length := by
  have hcommon :
      (s.visited.keys.filter tree.has).Perm (tree.nodes.keys.filter s.visited.contains) := by
    refine (List.perm_ext_iff_of_nodup (s.visited.nodup_keys.filter _)
      (tree.nodes.nodup_keys.filter _)).mpr fun id => ?_
    rw [List.mem_filter, List.mem_filter, Roster.contains_iff, Tree.has, Roster.contains_iff,
      and_comm]
  have hvisited := List.length_eq_length_filter_add (l := s.visited.keys) tree.has
  have hnodes := List.length_eq_length_filter_add (l := tree.nodes.keys) s.visited.contains
  have hlength := hcommon.length_eq
  rw [Roster.length_keys] at hvisited hnodes
  simp only [lost, unvisited]
  omega

/-- What the visited ids say about the nodes, if some of them were taken out. -/
structure IsMeasured (s : Session) (tree : Tree) (taken : String → Prop) : Prop where
  /-- A visited id without a node is that of a node which was taken out. -/
  removed : ∀ id ∈ s.lost tree, taken id
  /-- The nodes are outnumbered exactly if more visited ones are missing than are to be visited. -/
  outnumbered_iff : tree.nodes.size < s.visited.size ↔
    (s.unvisited tree).length < (s.lost tree).length
  /-- They are not as long as no visited node is taken out. -/
  kept : (∀ id ∈ s.visited.keys, ¬ taken id) → s.visited.size ≤ tree.nodes.size
  share : s.visited.size ≤ tree.nodes.size ∨ tree.nodes.size = 0 → (s.progress tree).IsShare
  /-- A preview of the session shows a percentage then. -/
  shown : s.visited.size ≤ tree.nodes.size ∨ tree.nodes.size = 0 →
    ∀ preview : Preview, preview.session = s → preview.tree = tree →
      ∃ percent : Nat, percent ≤ 100 ∧ preview.handleLine "/progress" =
        preview.ok s!"Visited {s.visited.size} of {tree.nodes.size} nodes ({percent}%)."

/-- A session is measured if the log tells what has become of its nodes. -/
theorem IsTraced.isMeasured (h : s.IsTraced tree happened taken) : s.IsMeasured tree taken := by
  have hremoved : ∀ id ∈ s.lost tree, taken id := fun id hid => by
    obtain ⟨visited, gone⟩ := List.mem_filter.mp hid
    exact (h.visited id visited).resolve_left (by simpa using gone)
  have hsize := s.size_visited_add tree
  refine ⟨hremoved, by omega, fun kept => ?_, isShare_progress, fun bound preview hs ht => ?_⟩
  · have hnone : s.lost tree = [] := List.eq_nil_iff_forall_not_mem.mpr fun id hid =>
      kept id (List.mem_filter.mp hid).1 (hremoved id hid)
    rw [hnone, List.length_nil] at hsize
    omega
  · subst hs ht
    obtain ⟨percent, hpercent, hle⟩ := (isShare_progress bound).exists_percent
    refine ⟨percent, hle, ?_⟩
    have hline : preview.handleLine "/progress" = preview.handleProgress := rfl
    rw [hline, Preview.handleProgress, hpercent]
    rfl

end Session

/-- **Visited ids outnumber the nodes only where visited nodes were taken out**, and the progress is
a share of the nodes otherwise, whatever was done to the sessions and to the tree that they
share. -/
theorem Staged.measured {stage : Stage} {log : List Happening} (h : Staged stage log)
    (name : String) :
    (stage.sessions name).IsMeasured stage.tree (TakenOut name · stage log) :=
  (h.isTraced name).isMeasured

/-- A guest passes from the hall to the gate, and the hall is removed. -/
def leftBehind : List Happening :=
  [.operation "guest" .start, .operation "guest" (.advance none), .edit (.removeNode "hall")]

/-- The stage at the gate after a log while nothing happens outside. -/
def gateStage (log : List Happening) : Stage :=
  gateTree.stageAfter { chance := fun _ => .zero, clock := .steady .zero } log

/-- The missing hall makes up for the garden, which the guest has not visited. -/
theorem measured_leftBehind :
    let stage := gateStage leftBehind
    Staged stage leftBehind ∧
      (stage.sessions "guest").lost stage.tree = ["hall"] ∧
      (stage.sessions "guest").unvisited stage.tree = ["garden"] ∧
      (stage.sessions "guest").IsMeasured stage.tree (TakenOut "guest" · stage leftBehind) :=
  ⟨staged_stageAfter _ _ _, by decide +kernel, by decide +kernel,
    Staged.measured (staged_stageAfter _ _ _) "guest"⟩

/-- Once the garden is removed as well, the guest has visited two nodes of one. -/
theorem outnumbered_at_gate :
    let log := leftBehind ++ [.edit (.removeNode "garden")]
    let stage := gateStage log
    let session := stage.sessions "guest"
    let preview : Preview :=
      { tree := stage.tree, characters := [], forDevelopers := false, session
        sources := { chance := fun _ => .zero, clock := .steady .zero } }
    Staged stage log ∧ stage.tree.nodes.size = 1 ∧ session.visited.size = 2 ∧
      (∃ rank, session.progress stage.tree = .finite false rank ∧ 1 < Double.magnitude rank) ∧
      (preview.handleLine "/progress").2 = .ok ⟨.ok, "Visited 2 of 1 nodes (200%)."⟩ := by
  refine ⟨staged_stageAfter _ _ _, ?_, ?_, ⟨⟨1024 * Double.octave, by decide⟩, ?_, ?_⟩, ?_⟩
  all_goals decide +kernel

end Colloquy
