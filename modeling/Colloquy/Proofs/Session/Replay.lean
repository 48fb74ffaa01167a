import Colloquy.Proofs.Session.Run

/-!
# Replays

The variables of a session can be told from its history: they come from the scripts of the nodes
that it has left, executed once for each time that it left them.

* `Tree.carryOut`, `Tree.replay`: the scripts of a history, executed in order;
* `Session.Replays`: the variables of a session are those of its replay;
* `Session.Replays.advance`: going on keeps them so while the clock goes on as at the replay.
-/

namespace Colloquy

/-- The variables after the node of an entry has been left. -/
def Tree.carryOut (tree : Tree) (sources : Sources) (store : Store) (entry : HistoryEntry) :
    Store :=
  match tree.find? entry.nodeId with
  | some node =>
    if node.kind = .action then (executeScript node.body store sources).store else store
  | none => store

/-- The variables that a history leaves: the nodes of all its entries but the last have been
left. -/
def Tree.replay (tree : Tree) (sources : Sources) (history : List HistoryEntry) : Store :=
  history.dropLast.foldl (tree.carryOut sources) .empty

/-- The variables of a session are those of its replay. -/
structure Session.Replays (s : Session) (tree : Tree) (sources : Sources) : Prop where
  place : s.AtLast
  store : s.store = tree.replay sources s.history

section

variable {tree : Tree} {s : Session} {node : Node} {sources now : Sources}

theorem Tree.carryOut_of_find? {d : HistoryEntry} (hnode : tree.find? d.nodeId = some node) :
    tree.carryOut sources s.store d = (s.leave node sources).store := by
  unfold carryOut Session.leave
  rw [hnode]
  dsimp only
  split <;> rfl

/-- Of all sources only the clock matters to the variables that leaving a node gives. -/
theorem Session.leave_congr (h : now.clock.Agrees sources.clock) :
    (s.leave node now).store = (s.leave node sources).store := by
  unfold leave
  split
  · exact (executeScript_congr h _ _).1
  · rfl

/-- One entry more carries out the entry that was the last. -/
theorem Tree.replay_concat (tree : Tree) (sources : Sources) (before : List HistoryEntry)
    (d e : HistoryEntry) :
    tree.replay sources (before ++ [d] ++ [e]) =
      tree.carryOut sources (tree.replay sources (before ++ [d])) d := by
  simp only [replay, List.dropLast_concat, List.foldl_append, List.foldl_cons, List.foldl_nil]

theorem replays_stop (tree : Tree) (sources : Sources) : Session.stop.Replays tree sources :=
  ⟨rfl, rfl⟩

theorem replays_start (tree : Tree) (sources now : Sources) :
    (Session.start tree now).1.Replays tree sources := by
  refine ⟨atLast_start tree now, ?_⟩
  unfold Session.start
  split <;> rfl

/-- Going on keeps the variables those of the replay while the clock goes on as at the replay, and
keeps a time. -/
theorem Session.Replays.advance (h : s.Replays tree sources) (time : KeepsTime now.clock)
    (hclock : now.clock.Agrees sources.clock) (selection : Option Int) :
    (s.advance tree selection now).session.Replays tree sources := by
  refine ⟨h.place.advance tree selection now, ?_⟩
  have honward := onward_advance tree s selection now
  generalize s.advance tree selection now = turn at honward ⊢
  cases honward with
  | @broken node x e here left fault =>
    have hfault : (s.leave node now).fault ≠ none := by
      rw [← left, fault]
      exact Option.some_ne_none e
    have hbreaks := (Session.fault_leave_iff.mp hfault).2
    exact absurd hbreaks (not_breaksOff_of_keepsTime time)
  | @moved node target text c x drawn here _ _ left hdrawn =>
    obtain ⟨before, d, hlast, -, hnode⟩ := h.place.exists_last_at here.here
    -- the entry that was the last is that of the node which is left
    have hleave : x.store = tree.carryOut sources s.store d := by
      rw [Tree.carryOut_of_find? hnode, left]
      exact Session.leave_congr (hdrawn ▸ hclock)
    show x.store = tree.replay sources (s.history ++ _)
    rw [hleave, h.store, hlast, Tree.replay_concat]
  | _ => exact h.store

end

end Colloquy
