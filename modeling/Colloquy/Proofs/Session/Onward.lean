import Colloquy.Proofs.Script.Record
import Colloquy.Proofs.Tree.Passage

/-!
# Going on

All that can happen when a session goes on, said once.

* `Session.IsAt`: a session is under way at a node;
* `Session.leave`: what becomes of the variables on leaving a node;
* `Onward`: the ways of going on, each with the conditions under which it happens;
* `onward_advance`: there are no others;
* `Session.goto_cases`: what a jump does.
-/

namespace Colloquy

namespace Session

/-- A session is under way at a node of a tree. -/
structure IsAt (session : Session) (tree : Tree) (node : Node) : Prop where
  running : session.isRunning = true
  here : session.node? tree = some node

/-- What becomes of the variables on leaving a node: only a script changes them. -/
def leave (session : Session) (node : Node) (sources : Sources) : Execution :=
  if node.kind = .action then executeScript node.body session.store sources
  else { store := session.store, sources }

/-- The session with the variables as an execution left them. -/
def withStore (session : Session) (store : Store) : Session := { session with store }

end Session

/-- The ways in which a session goes on, with or without a selection. -/
inductive Onward (tree : Tree) (s : Session) (selection : Option Int) (sources : Sources) :
    Turn → Prop
  /-- A session that is not under way stays as it is. -/
  | asleep (still : s.isRunning = false) : Onward tree s selection sources { session := s, sources }
  /-- The node of the session no longer exists. -/
  | lost (running : s.isRunning = true) (gone : s.node? tree = none) :
      Onward tree s selection sources
        (s.stick ("Node '" ++ s.current.getD "None" ++ "' no longer exists.") sources)
  /-- The session is at an ending. -/
  | ended {node : Node} (here : s.IsAt tree node) (kind : node.kind = .ending) :
      Onward tree s selection sources { session := { s with status := .ended }, sources }
  /-- No response is selected, or one that leads nowhere. -/
  | refused {node : Node} {rest : Sources} (here : s.IsAt tree node)
      (kind : node.kind = .playerChoice)
      (nowhere : (Session.selected? (tree.responses node) selection).bind Response.target = none)
      (clock : rest.clock = sources.clock) :
      Onward tree s selection sources { session := s, sources := rest }
  /-- A spoken line or a script leads nowhere. -/
  | deadEnd {node : Node} (here : s.IsAt tree node) (kind : node.kind = .npc ∨ node.kind = .action)
      (nowhere : tree.firstTarget? (tree.outgoing node.id) = none) :
      Onward tree s selection sources (s.stick (Tree.noConnectionMessage node) sources)
  /-- A condition has no branch for its verdict. -/
  | branchless {node : Node} {verdict : Bool} {rest : Sources} (here : s.IsAt tree node)
      (kind : node.kind = .conditional)
      (nowhere : tree.firstTarget? (tree.outgoingFrom node.id (branchHandle verdict)) = none)
      (clock : rest.clock = sources.clock) :
      Onward tree s selection sources (s.stick (Session.noBranchMessage node verdict) rest)
  /-- A script breaks off. -/
  | broken {node : Node} {x : Execution} {e : NumberError} (here : s.IsAt tree node)
      (left : x = s.leave node sources) (fault : x.fault = some e) :
      Onward tree s selection sources
        { session := s.withStore x.store, sources := x.sources, fault := some e }
  /-- The session leaves its node along a passage. -/
  | moved {node target : Node} {text : Option String} {c : Connection} {x : Execution}
      {drawn : Sources} (here : s.IsAt tree node) (passage : tree.Passage node text c)
      (reaches : tree.find? c.target = some target) (left : x = s.leave node drawn)
      (clock : drawn.clock = sources.clock) (whole : x.fault = none) :
      Onward tree s selection sources ((s.withStore x.store).turnTo tree target text x.sources)

section

variable {tree : Tree} {s : Session} {node : Node} {selection : Option Int} {sources : Sources}

/-- Leaving a node reads the clock some times. -/
theorem Session.exists_clock_leave (s : Session) (node : Node) (sources : Sources) :
    ∃ n, (s.leave node sources).sources.clock = sources.clock.after n := by
  unfold leave
  split
  · exact exists_clock_executeScript _ _ _
  · exact ⟨0, rfl⟩

/-- What is left behind is whole unless a script breaks off. -/
theorem Session.fault_leave_iff :
    (s.leave node sources).fault ≠ none ↔
      node.kind = .action ∧ BreaksOff node.body s.store sources := by
  by_cases kind : node.kind = .action
  · simp only [leave, kind, if_true, true_and]
    exact fault_executeScript_iff
  · simp [leave, kind]

/-- A spoken line or a script with a target is left for it, unless the script breaks off. -/
theorem Session.advanceLinear_of_target {target : Node}
    (htarget : tree.firstTarget? (tree.outgoing node.id) = some target) :
    s.advanceLinear tree node sources =
      let x := s.leave node sources
      match x.fault with
      | some e => { session := s.withStore x.store, sources := x.sources, fault := some e }
      | none => (s.withStore x.store).turnTo tree target none x.sources := by
  by_cases kind : node.kind = .action <;>
    simp only [advanceLinear, htarget, leave, kind, if_true, if_false] <;> rfl

/-- A script with a target that breaks off is not left: the session keeps what was done. -/
theorem Session.advanceLinear_of_breaksOff {target : Node}
    (htarget : tree.firstTarget? (tree.outgoing node.id) = some target)
    (kind : node.kind = .action) (breaks : BreaksOff node.body s.store sources) :
    (s.advanceLinear tree node sources).fault ≠ none ∧
      (s.advanceLinear tree node sources).session =
        s.withStore (executeScript node.body s.store sources).store := by
  have hleave : s.leave node sources = executeScript node.body s.store sources := if_pos kind
  obtain ⟨e, he⟩ := Option.ne_none_iff_exists'.mp (fault_executeScript_iff.mpr breaks)
  rw [advanceLinear_of_target htarget, hleave]
  dsimp only
  rw [he]
  exact ⟨Option.some_ne_none e, rfl⟩

theorem onward_advanceLinear (here : s.IsAt tree node)
    (kind : node.kind = .npc ∨ node.kind = .action) :
    Onward tree s selection sources (s.advanceLinear tree node sources) := by
  cases htarget : tree.firstTarget? (tree.outgoing node.id) with
  | none =>
    have hstick : s.advanceLinear tree node sources =
        s.stick (Tree.noConnectionMessage node) sources := by
      simp [Session.advanceLinear, htarget]
    rw [hstick]
    exact .deadEnd here kind htarget
  | some target =>
    obtain ⟨c, hfirst, hc⟩ := Tree.firstTarget?_outgoing_iff.mp htarget
    rw [Session.advanceLinear_of_target htarget]
    dsimp only
    split
    · next hfault => exact .broken here rfl hfault
    · next hfault => exact .moved here (.onward kind hfirst) hc rfl rfl hfault

theorem onward_advanceChoice (here : s.IsAt tree node) (kind : node.kind = .playerChoice) :
    Onward tree s selection sources (s.advanceChoice tree node selection sources) := by
  unfold Session.advanceChoice
  dsimp only
  cases hselected : Session.selected? (tree.responses node) selection with
  | none =>
    have nowhere :
        (Session.selected? (tree.responses node) selection).bind Response.target = none := by
      rw [hselected, Option.bind_none]
    exact .refused here kind nowhere rfl
  | some r =>
    dsimp only
    cases htarget : r.target with
    | none =>
      have nowhere :
          (Session.selected? (tree.responses node) selection).bind Response.target = none := by
        rw [hselected, Option.bind_some, htarget]
      exact .refused here kind nowhere rfl
    | some target =>
      obtain ⟨c, hpassage, hc⟩ :=
        Tree.passage_of_mem_responses kind (Session.mem_of_selected? hselected) htarget
      have hleave : s.leave node sources = { store := s.store, sources } := by
        simp [Session.leave, kind]
      exact .moved here hpassage hc hleave.symm rfl rfl

theorem onward_advanceConditional (here : s.IsAt tree node) (kind : node.kind = .conditional) :
    Onward tree s selection sources (s.advanceConditional tree node sources) := by
  unfold Session.advanceConditional
  have hclock := clock_evaluateCondition node.body s.store sources
  generalize evaluateCondition node.body s.store sources = decided at hclock ⊢
  obtain ⟨verdict, rest⟩ := decided
  dsimp only at hclock ⊢
  cases htarget : tree.firstTarget? (tree.outgoingFrom node.id (branchHandle verdict)) with
  | none => exact .branchless here kind htarget hclock
  | some target =>
    obtain ⟨c, hfirst, hc⟩ := Tree.firstTarget?_outgoingFrom_iff.mp htarget
    have hleave : s.leave node rest = { store := s.store, sources := rest } := by
      simp [Session.leave, kind]
    cases verdict with
    | true => exact .moved here (.whenTrue kind hfirst) hc hleave.symm hclock rfl
    | false => exact .moved here (.whenFalse kind hfirst) hc hleave.symm hclock rfl

/-- A session goes on in one of the ways of going on. -/
theorem onward_advance (tree : Tree) (s : Session) (selection : Option Int) (sources : Sources) :
    Onward tree s selection sources (s.advance tree selection sources) := by
  unfold Session.advance
  by_cases hrunning : s.isRunning = true
  · simp only [hrunning, Bool.not_true, Bool.false_eq_true, if_false]
    cases hnode : s.node? tree with
    | none => exact .lost hrunning hnode
    | some node =>
      have here : s.IsAt tree node := ⟨hrunning, hnode⟩
      cases hkind : node.kind with
      | ending => simp only [hkind]; exact .ended here hkind
      | npc => simp only [hkind]; exact onward_advanceLinear here (.inl hkind)
      | action => simp only [hkind]; exact onward_advanceLinear here (.inr hkind)
      | playerChoice => simp only [hkind]; exact onward_advanceChoice here hkind
      | conditional => simp only [hkind]; exact onward_advanceConditional here hkind
  · simp only [hrunning, Bool.not_false, if_true]
    exact .asleep (by simpa using hrunning)

/-- A jump brings a session to a node of the tree, or leaves it as it is. -/
theorem Session.goto_cases (tree : Tree) (s : Session) (id : String) (sources : Sources) :
    (∃ node, tree.find? node.id = some node ∧
      s.goto tree id sources = (true, s.moveTo tree node none sources)) ∨
        s.goto tree id sources = (false, s, sources) := by
  unfold goto
  split
  · next node _ hnode _ =>
    rw [← Tree.id_of_find? hnode] at hnode
    exact .inl ⟨node, hnode, rfl⟩
  · exact .inr rfl

/-- Going on reads the clock some times. -/
theorem Session.exists_clock_advance (tree : Tree) (s : Session) (selection : Option Int)
    (sources : Sources) :
    ∃ n, (s.advance tree selection sources).sources.clock = sources.clock.after n := by
  have honward := onward_advance tree s selection sources
  generalize s.advance tree selection sources = turn at honward ⊢
  cases honward with
  | asleep | lost | ended | deadEnd => exact ⟨0, rfl⟩
  | refused _ _ _ clock => exact ⟨0, clock⟩
  | branchless _ _ _ clock => exact ⟨0, clock⟩
  | @broken node x _ _ left =>
    subst left
    exact s.exists_clock_leave node sources
  | @moved node _ _ _ x drawn _ _ _ left clock =>
    subst left
    rw [clock_turnTo, ← clock]
    exact s.exists_clock_leave node drawn

end

end Colloquy
