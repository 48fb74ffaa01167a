import Colloquy.Proofs.Number.Share
import Colloquy.Proofs.Script.Short
import Colloquy.Proofs.Session.Coherence

/-!
# Sessions that can be presented

What a preview shows of a session can be shown at every point of a run: its integers are short, its
progress is a share of the nodes, and without nodes it says so.

* `Session.IsPresentable`;
* `IsPresentable.withStore`, `moveTo`, `advance`, `goto`: it stays so;
* `isShare_progress`, `exists_progress`: its progress is a share and has a percentage.
-/

namespace Colloquy

/-- What the message of a session says in a tree without nodes. -/
def noNodesMessage : String := "This dialog tree has no nodes."

/-- A session that can be presented. -/
structure Session.IsPresentable (s : Session) (tree : Tree) : Prop where
  short : Store.IsShort s.store
  visited : ∀ id ∈ s.visited.keys, tree.has id = true
  told : s.status = .noNodes → s.message = some noNodesMessage

namespace Session

variable {s : Session} {tree : Tree} {node : Node}

theorem isPresentable_fresh (tree : Tree) : ({} : Session).IsPresentable tree :=
  ⟨Store.isShort_empty, nofun, nofun⟩

theorem IsPresentable.withStore (h : s.IsPresentable tree) {store : Store}
    (short : Store.IsShort store) : (s.withStore store).IsPresentable tree :=
  ⟨short, h.visited, h.told⟩

/-- A session that is somewhere has been told nothing about a tree without nodes. -/
theorem IsPresentable.withStatus (h : s.IsPresentable tree) {status : Status}
    (hstatus : status ≠ .noNodes) (message : Option String) :
    ({ s with status, message } : Session).IsPresentable tree :=
  ⟨h.short, h.visited, fun hnone => absurd hnone hstatus⟩

theorem IsPresentable.moveTo (h : s.IsPresentable tree) (found : tree.find? node.id = some node)
    (text : Option String) (sources : Sources) :
    (s.moveTo tree node text sources).1.IsPresentable tree where
  short := h.short
  visited id hid := by
    rw [visited_moveTo, Roster.mem_keys_put] at hid
    rcases hid with rfl | hid
    · exact Tree.has_iff.mpr ⟨node, found⟩
    · exact h.visited id hid
  told hstatus := absurd (.inr hstatus) (tree.away_arrival node)

theorem isPresentable_start (tree : Tree) (sources : Sources) :
    (start tree sources).1.IsPresentable tree := by
  unfold start
  split
  · next node hstart =>
    exact (isPresentable_fresh tree).moveTo (Tree.find?_of_startNode? hstart) none sources
  · exact ⟨Store.isShort_empty, nofun, fun _ => rfl⟩

theorem isShort_leave (h : s.IsPresentable tree) (node : Node) (sources : Sources) :
    Store.IsShort (s.leave node sources).store := by
  unfold leave
  split
  · exact isShort_executeScript h.short node.body sources
  · exact h.short

theorem IsPresentable.advance (h : s.IsPresentable tree) (selection : Option Int)
    (sources : Sources) : (s.advance tree selection sources).session.IsPresentable tree := by
  have honward := onward_advance tree s selection sources
  generalize s.advance tree selection sources = turn at honward ⊢
  cases honward with
  | asleep => exact h
  | refused => exact h
  | lost | ended | deadEnd | branchless => exact h.withStatus (by decide) _
  | broken _ left =>
    rw [left]
    exact h.withStore (isShort_leave h _ sources)
  | moved _ _ reaches left =>
    rw [left]
    have hid := Tree.id_of_find? reaches
    exact (h.withStore (isShort_leave h _ _)).moveTo (by rwa [hid]) _ _

theorem IsPresentable.goto (h : s.IsPresentable tree) (id : String) (sources : Sources) :
    (s.goto tree id sources).2.1.IsPresentable tree := by
  unfold Session.goto
  split
  · next node _ hnode _ =>
    have hid := Tree.id_of_find? hnode
    exact h.moveTo (by rwa [hid]) _ _
  · exact h

/-! ### What is shown -/

/-- No more nodes have been visited than there are. -/
theorem IsPresentable.size_visited_le (h : s.IsPresentable tree) :
    s.visited.size ≤ tree.nodes.size := by
  rw [← Roster.length_keys, ← Roster.length_keys]
  refine (s.visited.nodup_keys.subperm fun id hid => ?_).length_le
  exact (Roster.contains_iff tree.nodes id).mp (h.visited id hid)

/-- The progress is a share as long as the nodes are not outnumbered, and without nodes. -/
theorem isShare_progress (h : s.visited.size ≤ tree.nodes.size ∨ tree.nodes.size = 0) :
    (s.progress tree).IsShare := by
  unfold progress
  split
  · exact Double.isShare_zero
  · next some =>
    refine Double.isShare_ofRat (h.resolve_right fun hzero => some ?_)
    simpa [Roster.isEmpty, Roster.size] using hzero

/-- The progress has a percentage. -/
theorem IsPresentable.exists_progress (h : s.IsPresentable tree) :
    ∃ percent, ((s.progress tree).mul (.ofRat 100)).toInt = .ok percent := by
  obtain ⟨percent, hpercent, -⟩ := (isShare_progress (.inl h.size_visited_le)).exists_percent
  exact ⟨percent, hpercent⟩

end Session

end Colloquy
