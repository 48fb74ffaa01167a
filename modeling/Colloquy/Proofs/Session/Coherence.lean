import Colloquy.Proofs.Session.Run
import Colloquy.Tree.Edit

/-!
# Coherence

A session keeps three records of where it has been, its place, its history and its visited nodes,
beside a status.  They agree with one another at every point, whatever happens to the tree
meanwhile: the node of a session may be removed, become one of another kind or come back.

* `Session.IsCoherent`: the records of a session agree;
* `IsCoherent.apply`: every operation in any tree keeps them so;
* `Session.GrowsTo`: a history is extended by at most one entry;
* `Stage`, `Stage.IsReachable`: sessions that share a tree which is edited between their operations;
* `Stage.IsReachable.coherent`: each of its sessions is coherent at every point.
-/

namespace Colloquy

/-- The records of a session agree. -/
structure Session.IsCoherent (s : Session) : Prop where
  history_iff : s.history = [] ↔ s.current = none
  visited_iff : s.visited.isEmpty = true ↔ s.current = none
  status_iff : s.status = .idle ∨ s.status = .noNodes ↔ s.current = none
  place : ∀ e, s.history.getLast? = some e → s.current = some e.nodeId
  visited : ∀ id, s.visited.contains id = true ↔ ∃ e ∈ s.history, e.nodeId = id

/-- The history of a session stays as it is or has one more entry behind it. -/
def Session.GrowsTo (s s' : Session) : Prop :=
  s'.history = s.history ∨ ∃ e, s'.history = s.history ++ [e]

section

variable {tree : Tree} {s : Session} {node : Node}

theorem Tree.away_arrival (tree : Tree) (node : Node) :
    ¬ ((tree.arrival node).1 = .idle ∨ (tree.arrival node).1 = .noNodes) := by
  unfold arrival
  repeat' split
  all_goals simp

namespace Session

@[simp] theorem visited_moveTo (s : Session) (tree : Tree) (node : Node) (text : Option String)
    (sources : Sources) :
    (s.moveTo tree node text sources).1.visited = s.visited.put node.id := rfl

/-- It is enough that the place is that of the last entry, that the nodes of the history have been
visited and that the status tells whether there is a place. -/
theorem isCoherent_of_atLast (place : s.AtLast)
    (visited : ∀ id, s.visited.contains id = true ↔ ∃ e ∈ s.history, e.nodeId = id)
    (status : s.status = .idle ∨ s.status = .noNodes ↔ s.current = none) : s.IsCoherent where
  history_iff := by rw [place, Option.map_eq_none_iff, List.getLast?_eq_none_iff]
  visited_iff := by
    rw [place, Option.map_eq_none_iff, List.getLast?_eq_none_iff]
    constructor
    · intro hempty
      rw [Roster.isEmpty, List.isEmpty_iff] at hempty
      refine List.eq_nil_iff_forall_not_mem.mpr fun e he => ?_
      have hvisited := (visited e.nodeId).mpr ⟨e, he, rfl⟩
      simp [Roster.contains, Roster.find?, hempty] at hvisited
    · intro hnil
      rw [Roster.isEmpty, List.isEmpty_iff]
      refine List.eq_nil_iff_forall_not_mem.mpr fun id hid => ?_
      have hcontains := (Roster.contains_iff s.visited id).mpr (List.mem_map_of_mem hid)
      simpa [hnil] using (visited id).mp hcontains
  status_iff := status
  place e he := by rw [place, he, Option.map_some]
  visited := visited

/-- The place of a coherent session is that of its last entry. -/
theorem IsCoherent.atLast (h : s.IsCoherent) : s.AtLast := by
  unfold AtLast
  cases hlast : s.history.getLast? with
  | none => exact h.history_iff.mp (List.getLast?_eq_none_iff.mp hlast)
  | some e => exact h.place e hlast

theorem isCoherent_fresh : ({} : Session).IsCoherent :=
  isCoherent_of_atLast rfl (by simp [Roster.contains]) (by simp)

/-! ### Operations -/

theorem IsCoherent.withStore (h : s.IsCoherent) (store : Store) : (s.withStore store).IsCoherent :=
  ⟨h.history_iff, h.visited_iff, h.status_iff, h.place, h.visited⟩

/-- A session that is somewhere stays coherent when it gets the status of such a one. -/
theorem IsCoherent.withStatus (h : s.IsCoherent) (here : s.current ≠ none) {status : Status}
    (away : ¬ (status = .idle ∨ status = .noNodes)) (message : Option String) :
    ({ s with status, message } : Session).IsCoherent :=
  ⟨h.history_iff, h.visited_iff, by simp [here, away], h.place, h.visited⟩

theorem IsCoherent.moveTo (h : s.IsCoherent) (tree : Tree) (node : Node) (text : Option String)
    (sources : Sources) : (s.moveTo tree node text sources).1.IsCoherent := by
  refine isCoherent_of_atLast (atLast_moveTo _ _ _ _ _) (fun id => ?_) ?_
  · have hold := h.visited id
    rw [Roster.contains_iff] at hold
    rw [visited_moveTo, Roster.contains_iff, Roster.mem_keys_put, hold, history_moveTo]
    simp only [List.mem_append, List.mem_singleton, or_and_right, exists_or, exists_eq_left, id_eq]
    rw [or_comm, eq_comm]
  · simp [tree.away_arrival node]

theorem isCoherent_start (tree : Tree) (sources : Sources) : (start tree sources).1.IsCoherent := by
  unfold start
  split
  · exact isCoherent_fresh.moveTo _ _ _ _
  · exact isCoherent_of_atLast rfl (by simp [Roster.contains]) (by simp)

/-- A session that is under way is somewhere. -/
theorem IsCoherent.current_ne_none (h : s.IsCoherent) (running : s.isRunning = true) :
    s.current ≠ none := by
  intro hnone
  rw [isRunning_iff] at running
  have haway := h.status_iff.mpr hnone
  grind

theorem IsCoherent.advance (h : s.IsCoherent) (tree : Tree) (selection : Option Int)
    (sources : Sources) : (s.advance tree selection sources).session.IsCoherent := by
  have honward := onward_advance tree s selection sources
  generalize s.advance tree selection sources = turn at honward ⊢
  cases honward with
  | asleep => exact h
  | refused => exact h
  | broken => exact h.withStore _
  | moved => exact (h.withStore _).moveTo _ _ _ _
  | lost running => exact h.withStatus (h.current_ne_none running) (by simp) _
  | ended here => exact h.withStatus (h.current_ne_none here.running) (by simp) _
  | deadEnd here => exact h.withStatus (h.current_ne_none here.running) (by simp) _
  | branchless here => exact h.withStatus (h.current_ne_none here.running) (by simp) _

theorem IsCoherent.goto (h : s.IsCoherent) (tree : Tree) (id : String) (sources : Sources) :
    (s.goto tree id sources).2.1.IsCoherent := by
  unfold Session.goto
  split
  · exact h.moveTo _ _ _ _
  · exact h

/-- Every operation, in whatever tree, keeps a session coherent. -/
theorem IsCoherent.apply (h : s.IsCoherent) (operation : Operation) (tree : Tree)
    (sources : Sources) : (operation.apply tree s sources).session.IsCoherent := by
  cases operation with
  | start | restart => exact isCoherent_start tree sources
  | stop => exact isCoherent_fresh
  | advance selection => exact h.advance tree selection sources
  | goto id => exact h.goto tree id sources
  | setVariable name value => exact h.withStore _

/-! ### Growth -/

/-- Going on extends the history by at most one entry. -/
theorem growsTo_advance (s : Session) (tree : Tree) (selection : Option Int) (sources : Sources) :
    s.GrowsTo (s.advance tree selection sources).session := by
  have honward := onward_advance tree s selection sources
  generalize s.advance tree selection sources = turn at honward ⊢
  cases honward with
  | moved => exact .inr ⟨_, rfl⟩
  | _ => exact .inl rfl

/-- A jump extends the history by at most one entry. -/
theorem growsTo_goto (s : Session) (tree : Tree) (id : String) (sources : Sources) :
    s.GrowsTo (s.goto tree id sources).2.1 := by
  unfold goto
  split
  · exact .inr ⟨_, rfl⟩
  · exact .inl rfl

end Session

end

/-! ### Sessions that share a tree -/

/-- A tree and the sessions that walk through it, each under a name of its own. -/
structure Stage where
  tree : Tree
  sessions : String → Session

namespace Stage

/-- Carry out an operation on one of the sessions. -/
def operate (stage : Stage) (name : String) (operation : Operation) (sources : Sources) : Stage :=
  let after := (operation.apply stage.tree (stage.sessions name) sources).session
  { stage with sessions := fun other => if other = name then after else stage.sessions other }

/-- Carry out an edit on the tree; the sessions stay as they are. -/
def edit (stage : Stage) (edit : Edit) (sources : Sources) : Stage :=
  { stage with tree := (edit.apply stage.tree sources).tree }

/-- The stages that operations on sessions, edits and any other changes of the tree lead to, in any
order. -/
inductive IsReachable : Stage → Prop
  | opening (tree : Tree) : IsReachable { tree, sessions := fun _ => {} }
  | operated {stage : Stage} (name : String) (operation : Operation) (sources : Sources)
      (reached : IsReachable stage) : IsReachable (stage.operate name operation sources)
  | edited {stage : Stage} (edit : Edit) (sources : Sources) (reached : IsReachable stage) :
      IsReachable (stage.edit edit sources)
  | changed {stage : Stage} (tree : Tree) (reached : IsReachable stage) :
      IsReachable { stage with tree }

variable {stage : Stage}

theorem IsReachable.isCoherent (h : stage.IsReachable) (name : String) :
    (stage.sessions name).IsCoherent := by
  induction h with
  | opening => exact Session.isCoherent_fresh
  | @operated stage name' operation sources _ ih =>
    by_cases hname : name = name'
    · simp only [operate, hname, if_true]
      exact (hname ▸ ih).apply operation stage.tree sources
    · simp only [operate, hname, if_false]
      exact ih
  | edited _ _ _ ih => exact ih
  | changed _ _ ih => exact ih

/-- **The records of every session agree**, whatever was done to the sessions and to the tree that
they share, and going on and jumping extend a history by at most one entry. -/
theorem IsReachable.coherent (h : stage.IsReachable) (name : String) :
    let s := stage.sessions name
    s.IsCoherent ∧
      (∀ selection sources, s.GrowsTo (s.advance stage.tree selection sources).session) ∧
      ∀ id sources, s.GrowsTo (s.goto stage.tree id sources).2.1 :=
  ⟨h.isCoherent name, fun selection sources => Session.growsTo_advance _ _ selection sources,
    fun id sources => Session.growsTo_goto _ _ id sources⟩

/-- A guest enters the hall, which is then removed, and wants to go on. -/
def deserted : Stage :=
  let outside : Sources := { chance := fun _ => .zero, clock := .steady .zero }
  (((Stage.mk gateTree fun _ => {}).operate "guest" .start outside).edit (.removeNode "hall")
    outside).operate "guest" (.advance none) outside

theorem isReachable_deserted : deserted.IsReachable :=
  .operated _ _ _ (.edited _ _ (.operated _ _ _ (.opening gateTree)))

/-- The guest is stuck at a node that no longer exists, and the records still agree. -/
theorem coherent_deserted :
    deserted.IsReachable ∧
      (deserted.sessions "guest").message = some "Node 'hall' no longer exists." ∧
      (deserted.sessions "guest").IsCoherent :=
  ⟨isReachable_deserted, by decide +kernel,
    (IsReachable.coherent isReachable_deserted "guest").1⟩

end Stage

end Colloquy
