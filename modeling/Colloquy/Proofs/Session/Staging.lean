import Colloquy.Proofs.Session.Coherence
import Colloquy.Proofs.Tree.Built
import Mathlib.Data.List.Induction

/-!
# Staging

Sessions play a tree while it is edited, and what happened is kept in a log.  The nodes that a
session has visited stay unless they are removed, and a node at which a session waits becomes an
ending only if it is removed or its kind is changed.

* `Happening`, `Stage.after`, `Staged`: stages with the log of what led to them;
* `Tree.stageAfter`: the stage that a given log leads to;
* `Happening.Touches`: all that can become of the nodes of a tree;
* `since`: what has happened since a session was last started;
* `TakenOut`: the nodes that were taken out after a session had visited them;
* `Session.IsTraced`: the log tells what has become of the nodes of a session;
* `Staged.isTraced`: it does so at every point.
-/

namespace Colloquy

/-! ### Logs -/

/-- Whether an operation begins anew or ends what was. -/
def Operation.startsAnew : Operation → Bool
  | .start | .restart | .stop => true
  | _ => false

/-- What happens on a stage. -/
inductive Happening
  /-- An operation on the session with a name. -/
  | operation (name : String) (operation : Operation)
  | edit (edit : Edit)
  /-- A node is added, unless its id is taken. -/
  | addition (node : Node)

/-- Whether the session with a name begins anew. -/
def Happening.restarts (name : String) : Happening → Bool
  | .operation other done => other = name && done.startsAnew
  | _ => false

/-- What has happened since the session with a name was last started. -/
def since (name : String) (log : List Happening) : List Happening :=
  log.foldl (fun kept happening => if happening.restarts name then [] else kept ++ [happening]) []

/-- The stage after something has happened. -/
def Stage.after (stage : Stage) (sources : Sources) : Happening → Stage
  | .operation name operation => stage.operate name operation sources
  | .edit edit => stage.edit edit sources
  | .addition node =>
    match stage.tree.addNode node with
    | .ok tree => { stage with tree }
    | .error _ => stage

/-- The stages that operations and edits lead to in any order, each with the log of them. -/
inductive Staged : Stage → List Happening → Prop
  | opening (tree : Tree) : Staged { tree, sessions := fun _ => {} } []
  | next {stage : Stage} {log : List Happening} (happening : Happening) (sources : Sources)
      (staged : Staged stage log) : Staged (stage.after sources happening) (log ++ [happening])

/-- The stage after a log at a tree; all that happens meets the same sources. -/
def Tree.stageAfter (tree : Tree) (sources : Sources) (log : List Happening) : Stage :=
  log.foldl (fun stage happening => stage.after sources happening) { tree, sessions := fun _ => {} }

theorem staged_stageAfter (tree : Tree) (sources : Sources) (log : List Happening) :
    Staged (tree.stageAfter sources log) log := by
  induction log using List.reverseRecOn with
  | nil => exact .opening tree
  | append_singleton log happening ih =>
    rw [Tree.stageAfter, List.foldl_append]
    exact .next happening sources ih

theorem since_append (name : String) (log : List Happening) (happening : Happening) :
    since name (log ++ [happening]) =
      if happening.restarts name then [] else since name log ++ [happening] := by
  simp only [since, List.foldl_append, List.foldl_cons, List.foldl_nil]

/-- A node was taken out after the session with a name had visited it, and the session has not begun
anew. -/
inductive TakenOut (name id : String) : Stage → List Happening → Prop
  | now {stage : Stage} {log : List Happening} (sources : Sources) (staged : Staged stage log)
      (there : stage.tree.has id = true) (visited : id ∈ (stage.sessions name).visited.keys) :
      TakenOut name id (stage.after sources (.edit (.removeNode id)))
        (log ++ [.edit (.removeNode id)])
  | later {stage : Stage} {log : List Happening} {happening : Happening} (sources : Sources)
      (goesOn : happening.restarts name = false) (taken : TakenOut name id stage log) :
      TakenOut name id (stage.after sources happening) (log ++ [happening])

/-- The log tells of the removal. -/
theorem TakenOut.mem_since {name id : String} {stage : Stage} {log : List Happening}
    (h : TakenOut name id stage log) : .edit (.removeNode id) ∈ since name log := by
  induction h with
  | now => simp [since_append, Happening.restarts]
  | later _ goesOn _ ih =>
    rw [since_append, goesOn]
    exact List.mem_append_left _ ih

/-! ### What becomes of nodes -/

/-- The nodes of a tree after something has happened. -/
inductive Happening.Touches (tree : Tree) (happening : Happening) : Roster Node.id → Prop
  | nothing : Touches tree happening tree.nodes
  /-- A node with a new id is added. -/
  | added {node : Node} (free : tree.has node.id = false) :
      Touches tree happening (tree.nodes.put node)
  /-- A node takes the place of the one with its id, of the same kind unless that is changed. -/
  | replaced {old node : Node} (found : tree.find? node.id = some old)
      (kind : node.kind = old.kind ∨ ∃ name, happening = .edit (.setKind node.id name)) :
      Touches tree happening (tree.nodes.put node)
  | removed {id : String} (removal : happening = .edit (.removeNode id)) :
      Touches tree happening (tree.nodes.erase id)

section Nodes

variable {tree changed : Tree} {edit : Edit} {happening : Happening} {nodes : Roster Node.id}
  {old node : Node} {id : String}

/-- A node stays unless it is removed. -/
theorem Happening.Touches.contains (h : happening.Touches tree nodes)
    (present : tree.has id = true) :
    nodes.contains id = true ∨ happening = .edit (.removeNode id) := by
  cases h with
  | nothing => exact .inl present
  | added | replaced =>
    refine .inl ((Roster.contains_iff _ _).mpr ((Roster.mem_keys_put _ _ _).mpr (.inr ?_)))
    exact (Roster.contains_iff _ _).mp present
  | @removed other removal =>
    by_cases hid : other = id
    · exact .inr (hid ▸ removal)
    · refine .inl ?_
      rw [Roster.contains, Roster.find?_erase, if_neg hid]
      exact present

/-- A node keeps its kind unless that is changed. -/
theorem Happening.Touches.kind_eq (h : happening.Touches tree nodes)
    (before : tree.find? id = some old) (now : nodes.find? id = some node) :
    node.kind = old.kind ∨ ∃ name, happening = .edit (.setKind id name) := by
  cases h with
  | nothing =>
    cases before.symm.trans now
    exact .inl rfl
  | @added new free =>
    rw [Roster.find?_put] at now
    split at now
    · next hid =>
      rw [hid, Tree.has_eq, before] at free
      cases free
    · cases before.symm.trans now
      exact .inl rfl
  | @replaced _ new found kind =>
    rw [Roster.find?_put] at now
    split at now
    · next hid =>
      cases now
      subst hid
      cases before.symm.trans found
      exact kind
    · cases before.symm.trans now
      exact .inl rfl
  | @removed other removal =>
    rw [Roster.find?_erase] at now
    split at now
    · cases now
    · cases before.symm.trans now
      exact .inl rfl

theorem touches_addNode (h : tree.addNode node = .ok changed) :
    happening.Touches tree changed.nodes := by
  unfold Tree.addNode at h
  split at h
  · cases h
  · next free =>
    cases h
    exact .added (by simpa using free)

theorem touches_changeNode {change : Node → Node} (h : tree.changeNode id change = .ok changed)
    (kind : ∀ node, (change node).kind = node.kind ∨
      ∃ name, happening = .edit (.setKind id name)) :
    happening.Touches tree changed.nodes := by
  unfold Tree.changeNode Tree.node at h
  split at h
  · next old found =>
    cases h
    have hid := Tree.id_of_find? found
    rw [← hid] at found kind
    exact .replaced found (kind old)
  · cases h

/-- What an edit that succeeds does to the nodes. -/
theorem touches_of_attempt {sources rest : Sources} {answer : EditAnswer}
    (h : edit.attempt tree sources = (.ok (answer, changed), rest)) :
    (Happening.edit edit).Touches tree changed.nodes := by
  have hsilent {result : Except EditError Tree}
      (hresult : Edit.silently sources result = (.ok (answer, changed), rest)) :
      result = .ok changed := by
    cases result with
    | error e => cases hresult
    | ok tree =>
      cases hresult
      rfl
  cases edit with
  | createNode name draft =>
    simp only [Edit.attempt] at h
    split at h
    · cases h
    · next kind _ =>
      cases hadd : tree.addNode (draft.build kind sources).1 with
      | error e => simp [hadd, Except.map] at h
      | ok grown =>
        simp only [hadd, Except.map, Prod.mk.injEq, Except.ok.injEq] at h
        obtain ⟨⟨-, rfl⟩, -⟩ := h
        exact touches_addNode hadd
  | removeNode id =>
    cases h
    unfold Tree.removeNode
    split
    · exact .removed rfl
    · exact .nothing
  | connect | removeConnection | setStart =>
    cases h
    exact .nothing
  | addChoice id text =>
    simp only [Edit.attempt, Tree.node] at h
    cases found : tree.find? id with
    | none => simp [found] at h
    | some node =>
      simp only [found] at h
      split at h
      · cases h
        rw [← Tree.id_of_find? found] at found
        exact .replaced found (.inl rfl)
      · cases h
  | setChoices | setTitle | setContent | setCharacter =>
    exact touches_changeNode (hsilent h) fun _ => .inl rfl
  | setKind id name =>
    simp only [Edit.attempt] at h
    split at h
    · cases h
    · exact touches_changeNode (hsilent h) fun _ => .inr ⟨name, rfl⟩

theorem touches_after (stage : Stage) (sources : Sources) (happening : Happening) :
    happening.Touches stage.tree (stage.after sources happening).tree.nodes := by
  cases happening with
  | operation => exact .nothing
  | edit edit =>
    simp only [Stage.after, Stage.edit, Edit.apply]
    split
    · next h => exact touches_of_attempt h
    · exact .nothing
  | addition node =>
    simp only [Stage.after]
    split
    · next h => exact touches_addNode h
    · exact .nothing

end Nodes

/-! ### Traces -/

/-- What has happened, and what was taken out then, tell what has become of the nodes of a
session. -/
structure Session.IsTraced (s : Session) (tree : Tree) (happened : List Happening)
    (taken : String → Prop) : Prop where
  /-- A visited node that does not exist was taken out. -/
  visited : ∀ id ∈ s.visited.keys, tree.has id = true ∨ taken id
  /-- A session is under way at an ending only if its node was removed or is of a new kind. -/
  upright : ∀ node, s.IsAt tree node → node.kind = .ending →
    .edit (.removeNode node.id) ∈ happened ∨ ∃ name, .edit (.setKind node.id name) ∈ happened

namespace Session

variable {s : Session} {tree tree' : Tree} {node : Node} {happening : Happening}
  {happened : List Happening} {taken taken' : String → Prop}

theorem isTraced_fresh (tree : Tree) (happened : List Happening) (taken : String → Prop) :
    ({} : Session).IsTraced tree happened taken :=
  ⟨nofun, fun _ here => absurd here.here (by simp [node?])⟩

theorem IsTraced.mono (h : s.IsTraced tree happened taken) (happening : Happening)
    (still : ∀ id, taken id → taken' id) : s.IsTraced tree (happened ++ [happening]) taken' where
  visited id hid := (h.visited id hid).imp_right (still id)
  upright node here kind := (h.upright node here kind).imp (List.mem_append_left _)
    fun ⟨name, hname⟩ => ⟨name, List.mem_append_left _ hname⟩

/-- A session that is somewhere has visited the node. -/
theorem IsCoherent.mem_visited (h : s.IsCoherent) {id : String} (here : s.current = some id) :
    id ∈ s.visited.keys := by
  have hsome : s.history ≠ [] := fun hnil => by
    rw [h.history_iff, here] at hnil
    cases hnil
  have hlast := List.getLast?_eq_some_getLast hsome
  have hid : s.current = some (s.history.getLast hsome).nodeId := h.place _ hlast
  rw [here, Option.some.injEq] at hid
  rw [← Roster.contains_iff, h.visited]
  exact ⟨_, List.getLast_mem hsome, hid.symm⟩

/-- Whatever happens to the tree, the log tells it. -/
theorem IsTraced.touched (h : s.IsTraced tree happened taken) (coherent : s.IsCoherent)
    (touches : happening.Touches tree tree'.nodes)
    (logged : ∀ id, taken id → .edit (.removeNode id) ∈ happened)
    (still : ∀ id, taken id → taken' id)
    (now : ∀ id ∈ s.visited.keys, tree.has id = true → happening = .edit (.removeNode id) →
      taken' id) : s.IsTraced tree' (happened ++ [happening]) taken' where
  visited id hid := by
    rcases h.visited id hid with present | before
    · exact (touches.contains present).imp_right (now id hid present)
    · exact .inr (still id before)
  upright node here kind := by
    obtain ⟨id, hcurrent, hnode⟩ := Option.bind_eq_some_iff.mp here.here
    obtain rfl := Tree.id_of_find? hnode
    rcases h.visited _ (coherent.mem_visited hcurrent) with present | before
    · obtain ⟨old, hold⟩ := Tree.has_iff.mp present
      rcases touches.kind_eq hold hnode with hkind | ⟨name, hname⟩
      · have hid := Tree.id_of_find? hold
        have hthere : s.IsAt tree old :=
          ⟨here.running, by rw [node?, hcurrent]; exact hold⟩
        have hupright := (h.mono happening still).upright old hthere (hkind.symm.trans kind)
        rwa [hid] at hupright
      · exact .inr ⟨name, by simp [hname]⟩
    · exact .inl (List.mem_append_left _ (logged _ before))

/-! ### Operations -/

theorem IsTraced.withStore (h : s.IsTraced tree happened taken) (store : Store) :
    (s.withStore store).IsTraced tree happened taken :=
  ⟨h.visited, fun node here => h.upright node ⟨here.running, here.here⟩⟩

/-- A session is traced when it gets a status with which it is not under way at an ending. -/
theorem IsTraced.withStatus (h : s.IsTraced tree happened taken) {status : Status}
    {message : Option String}
    (away : ∀ node, ({ s with status, message } : Session).IsAt tree node → node.kind ≠ .ending) :
    ({ s with status, message } : Session).IsTraced tree happened taken :=
  ⟨h.visited, fun node here kind => absurd kind (away node here)⟩

/-- An ending ends a session on its arrival. -/
theorem kind_ne_ending_of_moveTo {text : Option String} {sources : Sources} {there : Node}
    (found : tree.find? node.id = some node)
    (here : (s.moveTo tree node text sources).1.IsAt tree there) : there.kind ≠ .ending := by
  obtain ⟨running, hnode⟩ := here
  rw [node?, current_moveTo] at hnode
  cases found.symm.trans hnode
  intro kind
  rw [isRunning_iff, status_moveTo] at running
  simp [Tree.arrival, kind] at running

theorem IsTraced.moveTo (h : s.IsTraced tree happened taken)
    (found : tree.find? node.id = some node) (text : Option String) (sources : Sources) :
    (s.moveTo tree node text sources).1.IsTraced tree happened taken where
  visited id hid := by
    rw [visited_moveTo, Roster.mem_keys_put] at hid
    rcases hid with rfl | hid
    · exact .inl (Tree.has_iff.mpr ⟨node, found⟩)
    · exact h.visited id hid
  upright there here kind := absurd kind (kind_ne_ending_of_moveTo found here)

theorem isTraced_start (tree : Tree) (sources : Sources) (happened : List Happening)
    (taken : String → Prop) : (start tree sources).1.IsTraced tree happened taken := by
  unfold start
  split
  · next node hstart =>
    exact (isTraced_fresh tree happened taken).moveTo (Tree.find?_of_startNode? hstart) none
      sources
  · exact ⟨nofun, fun _ here => absurd here.here (by simp [node?])⟩

theorem IsTraced.advance (h : s.IsTraced tree happened taken) (selection : Option Int)
    (sources : Sources) :
    (s.advance tree selection sources).session.IsTraced tree happened taken := by
  have honward := onward_advance tree s selection sources
  generalize s.advance tree selection sources = turn at honward ⊢
  have hstick {message : String} (away : ∀ node, s.node? tree = some node → node.kind ≠ .ending) :
      (s.stick message sources).session.IsTraced tree happened taken :=
    h.withStatus fun node here => away node here.here
  cases honward with
  | asleep => exact h
  | refused => exact h
  | lost _ gone => exact hstick fun node here => by simp [gone] at here
  | ended => exact h.withStatus fun node here => by simpa [isRunning] using here.running
  | deadEnd here kind =>
    exact hstick fun node hnode => by
      cases here.here.symm.trans hnode
      rcases kind with kind | kind <;> simp [kind]
  | branchless here kind =>
    refine h.withStatus fun node hnode => ?_
    cases here.here.symm.trans hnode.here
    simp [kind]
  | broken => exact h.withStore _
  | moved _ _ reaches =>
    have hid := Tree.id_of_find? reaches
    exact (h.withStore _).moveTo (by rwa [hid]) _ _

theorem IsTraced.goto (h : s.IsTraced tree happened taken) (id : String) (sources : Sources) :
    (s.goto tree id sources).2.1.IsTraced tree happened taken := by
  rcases goto_cases tree s id sources with ⟨node, found, hgoto⟩ | hgoto <;> rw [hgoto]
  · exact h.moveTo found none sources
  · exact h

/-- Operations keep a session traced; one that begins anew needs no log. -/
theorem IsTraced.apply (operation : Operation) (sources : Sources)
    (h : operation.startsAnew = true ∨ s.IsTraced tree happened taken) :
    (operation.apply tree s sources).session.IsTraced tree happened taken := by
  cases operation with
  | start | restart => exact isTraced_start tree sources happened taken
  | stop => exact isTraced_fresh tree happened taken
  | advance selection => exact (h.resolve_left nofun).advance selection sources
  | goto id => exact (h.resolve_left nofun).goto id sources
  | setVariable name value => exact (h.resolve_left nofun).withStore _

end Session

/-! ### Stages -/

namespace Staged

variable {stage : Stage} {log : List Happening}

theorem isReachable (h : Staged stage log) : stage.IsReachable := by
  induction h with
  | opening tree => exact .opening tree
  | @next stage log happening sources _ ih =>
    cases happening with
    | operation name operation => exact .operated name operation sources ih
    | edit edit => exact .edited edit sources ih
    | addition node =>
      simp only [Stage.after]
      split
      · exact .changed _ ih
      · exact ih

/-- The log of a stage tells what has become of the nodes of every session. -/
theorem isTraced (h : Staged stage log) (name : String) :
    (stage.sessions name).IsTraced stage.tree (since name log) (TakenOut name · stage log) := by
  induction h with
  | opening tree => exact Session.isTraced_fresh tree _ _
  | @next stage log happening sources staged ih =>
    have hstill (goesOn : happening.restarts name = false) (id : String)
        (taken : TakenOut name id stage log) :
        TakenOut name id (stage.after sources happening) (log ++ [happening]) :=
      .later sources goesOn taken
    have htouched (goesOn : happening.restarts name = false) :
        (stage.sessions name).IsTraced (stage.after sources happening).tree
          (since name log ++ [happening])
          (TakenOut name · (stage.after sources happening) (log ++ [happening])) :=
      ih.touched (staged.isReachable.isCoherent name) (touches_after stage sources happening)
        (fun _ => TakenOut.mem_since) (hstill goesOn) fun id visited there removal => by
          subst removal
          exact .now sources staged there visited
    rw [since_append]
    cases happening with
    | operation other operation =>
      by_cases hother : name = other
      · subst hother
        simp only [Stage.after, Stage.operate, if_true, Happening.restarts, decide_true,
          Bool.true_and]
        split
        · next anew => exact Session.IsTraced.apply operation sources (.inl anew)
        · next goesOn =>
          refine Session.IsTraced.apply operation sources (.inr (ih.mono _ (hstill ?_)))
          simpa [Happening.restarts] using goesOn
      · have hnot : Happening.restarts name (.operation other operation) = false := by
          simp [Happening.restarts, Ne.symm hother]
        have hsession : (stage.after sources (.operation other operation)).sessions name =
            stage.sessions name := by
          simp only [Stage.after, Stage.operate, hother, if_false]
        rw [hnot, hsession]
        exact htouched hnot
    | edit edit => exact htouched rfl
    | addition node =>
      have hsession : ((stage.after sources (.addition node)).sessions name) =
          stage.sessions name := by
        simp only [Stage.after]
        split <;> rfl
      rw [hsession]
      exact htouched rfl

end Staged

end Colloquy
