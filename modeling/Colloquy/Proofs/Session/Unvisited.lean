import Colloquy.Proofs.Session.Coherence
import Colloquy.Proofs.Session.Trail
import Colloquy.Proofs.Tree.Reports

/-!
# Unvisited nodes

What the advice says about reaching nodes and leaving them holds in play.  A conversation that does
not jump comes only to its start and to where connections between existing nodes lead, so it never
comes to a reported orphan; and no session goes on from a reported dead end.

* `Walked`: the sessions of conversations without jumps;
* `Tree.IsEntered`: a node is the start or has a connection from an existing node;
* `Session.KeepsToPaths`: a session has been at entered nodes only;
* `KeepsToPaths.apply`, `Walked.keepsToPaths`: one operation keeps to the paths, and so does a walk;
* `history_advance_of_deadEnd`: no session goes on from a dead end;
* `Tree.reports_hold`: the reports hold.
-/

namespace Colloquy

/-- The sessions that operations other than jumps lead to, from one that is not started.  Each
operation meets sources of its own, and the variables may become any others in between. -/
inductive Walked (tree : Tree) : Session → Prop
  | fresh : Walked tree {}
  | next {s : Session} (operation : Operation) (sources : Sources)
      (walks : ∀ id, operation ≠ .goto id) (walked : Walked tree s) :
      Walked tree (operation.apply tree s sources).session
  | vary {s : Session} (store : Store) (walked : Walked tree s) : Walked tree (s.withStore store)

/-- An id is that of the start, or a connection leads to it from an existing node. -/
inductive Tree.IsEntered (tree : Tree) : String → Prop
  | start {node : Node} (starts : tree.startNode? = some node) : IsEntered tree node.id
  | connection {c : Connection} (mem : c ∈ tree.connections) (source : tree.has c.source = true) :
      IsEntered tree c.target

/-- A session is and has been only where its tree is entered. -/
structure Session.KeepsToPaths (s : Session) (tree : Tree) : Prop where
  current : ∀ id, s.current = some id → tree.IsEntered id
  visited : ∀ id, s.visited.contains id = true → tree.IsEntered id

variable {tree : Tree} {s : Session} {node : Node}

/-! ### Walks -/

namespace Session

theorem keepsToPaths_fresh (tree : Tree) : ({} : Session).KeepsToPaths tree where
  current := nofun
  visited := nofun

/-- Only the place and what has been visited matter. -/
theorem KeepsToPaths.congr {s' : Session} (h : s.KeepsToPaths tree)
    (current : s'.current = s.current) (visited : s'.visited = s.visited) :
    s'.KeepsToPaths tree :=
  ⟨fun id hid => h.current id (current ▸ hid), fun id hid => h.visited id (visited ▸ hid)⟩

theorem KeepsToPaths.moveTo (h : s.KeepsToPaths tree) (entered : tree.IsEntered node.id)
    (text : Option String) (sources : Sources) :
    (s.moveTo tree node text sources).1.KeepsToPaths tree where
  current id hid := by
    cases hid
    exact entered
  visited id hid := by
    rw [visited_moveTo, Roster.contains_iff, Roster.mem_keys_put, ← Roster.contains_iff] at hid
    rcases hid with rfl | hid
    · exact entered
    · exact h.visited id hid

theorem keepsToPaths_start (tree : Tree) (sources : Sources) :
    (start tree sources).1.KeepsToPaths tree := by
  unfold start
  split
  · next node hstart => exact (keepsToPaths_fresh tree).moveTo (.start hstart) none sources
  · exact (keepsToPaths_fresh tree).congr rfl rfl

/-- A session that goes on comes to where a connection of its own node leads. -/
theorem KeepsToPaths.advance (h : s.KeepsToPaths tree) (selection : Option Int)
    (sources : Sources) : (s.advance tree selection sources).session.KeepsToPaths tree := by
  have honward := onward_advance tree s selection sources
  generalize s.advance tree selection sources = turn at honward ⊢
  cases honward with
  | @moved node target text c x drawn here passage reaches =>
    obtain ⟨hmem, hsource⟩ := Tree.mem_outgoing.mp passage.mem_outgoing
    have hexists : tree.has c.source = true :=
      Tree.has_iff.mpr ⟨node, by rw [hsource]; exact find?_of_node? here.here⟩
    have entered : tree.IsEntered target.id := by
      rw [Tree.id_of_find? reaches]
      exact .connection hmem hexists
    have hleft : (s.withStore x.store).KeepsToPaths tree := h.congr rfl rfl
    exact hleft.moveTo entered text x.sources
  | _ => exact h.congr rfl rfl

theorem KeepsToPaths.apply (h : s.KeepsToPaths tree) {operation : Operation}
    (walks : ∀ id, operation ≠ .goto id) (sources : Sources) :
    (operation.apply tree s sources).session.KeepsToPaths tree := by
  cases operation with
  | start | restart => exact keepsToPaths_start tree sources
  | stop => exact keepsToPaths_fresh tree
  | advance selection => exact h.advance selection sources
  | goto id => exact absurd rfl (walks id)
  | setVariable => exact h.congr rfl rfl

end Session

/-- A walk keeps to the paths. -/
theorem Walked.keepsToPaths (h : Walked tree s) : s.KeepsToPaths tree := by
  induction h with
  | fresh => exact Session.keepsToPaths_fresh tree
  | next operation sources walks _ ih => exact ih.apply walks sources
  | vary store _ ih => exact ih.congr rfl rfl

/-! ### Reported nodes -/

theorem Tree.startNode?_of_startNodeId {start : String} (hstart : tree.startNodeId = some start)
    (hne : start ≠ "") (given : tree.has start = true) :
    ∃ node, tree.startNode? = some node ∧ node.id = start := by
  obtain ⟨node, hnode⟩ := Tree.has_iff.mp given
  have hgiven : nonempty? tree.startNodeId = some start := nonempty?_eq_some_iff.mpr ⟨hstart, hne⟩
  exact ⟨node, by simp [startNode?, hgiven, hnode], id_of_find? hnode⟩

/-- No connection leads to an orphan from an existing node, and it is not the start. -/
theorem Tree.not_isEntered_of_mem_orphans {start : String}
    (hstart : tree.startNodeId = some start) (hne : start ≠ "") (given : tree.has start = true)
    (orphan : node ∈ tree.orphans) : ¬ tree.IsEntered node.id := by
  obtain ⟨first, hfirst, rfl⟩ := startNode?_of_startNodeId hstart hne given
  obtain ⟨start, hstart', -, -, hother, hnone⟩ := mem_orphans_iff.mp orphan
  rw [hstart] at hstart'
  cases hstart'
  intro entered
  generalize hid : node.id = id at entered
  cases entered with
  | start starts =>
    rw [hfirst] at starts
    cases starts
    exact hother hid
  | connection mem source => exact Bool.false_ne_true ((hnone _ mem hid.symm).symm.trans source)

/-- No session goes on from a dead end, however it stands. -/
theorem history_advance_of_deadEnd (deadEnd : node ∈ tree.deadEnds)
    (here : s.current = some node.id) (selection : Option Int) (sources : Sources) :
    (s.advance tree selection sources).session.history = s.history := by
  simp only [Tree.deadEnds, List.mem_filter, Bool.and_eq_true, List.isEmpty_iff] at deadEnd
  have honward := onward_advance tree s selection sources
  generalize s.advance tree selection sources = turn at honward ⊢
  cases honward with
  | @moved there target text c x drawn under passage =>
    -- a passage would need a connection of the node
    have hid : there.id = node.id := by
      obtain ⟨id, hid, hthere⟩ := Option.bind_eq_some_iff.mp under.here
      rw [here] at hid
      cases hid
      exact Tree.id_of_find? hthere
    have hpassage := passage.mem_outgoing
    rw [hid, deadEnd.2.2] at hpassage
    cases hpassage
  | _ => rfl

/-- What the advice about a tree says about reaching and leaving nodes holds in play. -/
structure Tree.ReportsHold (tree : Tree) : Prop where
  /-- The reports are those about the orphans and the dead ends, at the end of the advice. -/
  reported : ∀ issues, tree.issues = .ok issues →
    ∃ others, (∀ issue ∈ others, issue.isReport = false) ∧
      issues = others ++ tree.orphans.map (fun node => .unreachable node.label)
        ++ tree.deadEnds.map fun node => .deadEnd node.label
  unvisited : ∀ start, tree.startNodeId = some start → start ≠ "" → tree.has start = true →
    ∀ node ∈ tree.orphans, ∀ s, Walked tree s →
      s.current ≠ some node.id ∧ s.visited.contains node.id = false
  unmoved : ∀ node ∈ tree.deadEnds, ∀ s : Session, s.current = some node.id →
    ∀ selection sources, (s.advance tree selection sources).session.history = s.history

/-- **The reports about reaching and leaving nodes hold.**  Without jumps no conversation comes to a
node that is reported as unreachable, if the tree names its start; and no session, wherever it comes
from, goes on from a node that is reported as a dead end. -/
theorem Tree.reports_hold (tree : Tree) : tree.ReportsHold where
  reported _ := issues_eq_reports
  unvisited start hstart hne given node orphan s walked := by
    have hnot := not_isEntered_of_mem_orphans hstart hne given orphan
    have hpaths := walked.keepsToPaths
    refine ⟨fun here => hnot (hpaths.current _ here), ?_⟩
    rw [← Bool.not_eq_true]
    exact fun visited => hnot (hpaths.visited _ visited)
  unmoved _ deadEnd _ here selection sources :=
    history_advance_of_deadEnd deadEnd here selection sources

/-- The gate with a cellar to which only a passage from nowhere leads, and none out of it. -/
def cellarTree : Tree :=
  { gateTree with
    nodes := gateTree.nodes.put
      { id := "cellar", kind := .conditional, title := "Cellar", content := some "gold > 3" }
    connections := { id := "up", source := "well", target := "cellar" } :: gateTree.connections }

/-- The cellar is reported in both ways: no conversation comes to it, and none would leave it. -/
theorem reports_hold_of_cellar :
    ∃ cellar, cellar.id = "cellar" ∧ cellar ∈ cellarTree.orphans ∧ cellar ∈ cellarTree.deadEnds ∧
      (∀ s, Walked cellarTree s →
        s.current ≠ some "cellar" ∧ s.visited.contains "cellar" = false) ∧
      ∀ s : Session, s.current = some "cellar" → ∀ selection sources,
        (s.advance cellarTree selection sources).session.history = s.history := by
  let cellar : Node :=
    { id := "cellar", kind := .conditional, title := "Cellar", content := some "gold > 3" }
  have orphan : cellar ∈ cellarTree.orphans := by
    have horphans : cellarTree.orphans = [cellar] := rfl
    exact horphans ▸ List.mem_singleton_self cellar
  have deadEnd : cellar ∈ cellarTree.deadEnds := by
    have hdeadEnds : cellarTree.deadEnds = [cellar] := rfl
    exact hdeadEnds ▸ List.mem_singleton_self cellar
  have hold := Tree.reports_hold cellarTree
  exact ⟨cellar, rfl, orphan, deadEnd,
    fun s => hold.unvisited "hall" rfl (by decide) (by decide) cellar orphan s,
    fun s => hold.unmoved cellar deadEnd s⟩

end Colloquy
