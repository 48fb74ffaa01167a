import Colloquy.Proofs.Session.Run

/-!
# Standings

The status of a session is exact: at every point of a run it tells where the session is and whether
it can go on.

* `Standing`: the three ways in which a session can stand, the invariant of all runs;
* `Reachable.standing`: it holds at every point of a run;
* `Session.IsExact`: what each status says about the current node;
* `Session.GoesOn`: what each status says about the next step.
-/

namespace Colloquy

/-- How a session stands in a tree. -/
inductive Standing (tree : Tree) (s : Session) : Prop
  /-- It is nowhere. -/
  | away (nowhere : s.current = none)
      (status : s.status = .idle ∨ s.status = .noNodes ∧ tree.nodes.toList = [])
  /-- It stands as on its arrival. -/
  | arrived {node : Node} (here : s.node? tree = some node)
      (status : s.status = (tree.arrival node).1) (message : s.message = (tree.arrival node).2)
  /-- It has found no branch for a verdict. -/
  | branchless {node : Node} {verdict : Bool} (here : s.node? tree = some node)
      (kind : node.kind = .conditional)
      (nowhere : tree.firstTarget? (tree.outgoingFrom node.id (branchHandle verdict)) = none)
      (status : s.status = .stuck)
      (message : s.message = some (Session.noBranchMessage node verdict))

section

variable {tree : Tree} {s : Session} {node : Node}

theorem Tree.arrival_ending (tree : Tree) (kind : node.kind = .ending) :
    tree.arrival node = (.ended, some (closingMessage node)) := by
  simp [arrival, kind]

theorem Tree.arrival_conditional (tree : Tree) (kind : node.kind = .conditional) :
    tree.arrival node = (.running, none) := by
  simp [arrival, kind]

theorem Tree.arrival_linear (tree : Tree) (kind : node.kind = .npc ∨ node.kind = .action) :
    tree.arrival node =
      if tree.firstTarget? (tree.outgoing node.id) = none then
        (.stuck, some (noConnectionMessage node))
      else (.running, none) := by
  rcases kind with kind | kind <;>
    simp [arrival, kind, firstTarget?_eq_none_iff, List.isEmpty_iff]

theorem Tree.arrival_playerChoice (tree : Tree) (kind : node.kind = .playerChoice) :
    tree.arrival node =
      if ∃ r ∈ tree.responses node, r.isEnabled = true then (.running, none)
      else (.stuck, some ("'" ++ node.title ++ "' has no connected choices.")) := by
  simp [arrival, kind]

theorem Standing.withStore (h : Standing tree s) (store : Store) :
    Standing tree (s.withStore store) := by
  cases h with
  | away nowhere status => exact .away nowhere status
  | arrived here status message => exact .arrived here status message
  | branchless here kind nowhere status message =>
    exact .branchless here kind nowhere status message

theorem standing_moveTo (found : tree.find? node.id = some node) (text : Option String)
    (sources : Sources) : Standing tree (s.moveTo tree node text sources).1 :=
  .arrived (by simpa [Session.node?] using found) (by simp) (by simp)

theorem standing_start (tree : Tree) (sources : Sources) :
    Standing tree (Session.start tree sources).1 := by
  unfold Session.start
  split
  · next node hstart => exact standing_moveTo (Tree.find?_of_startNode? hstart) _ _
  · next hstart => exact .away rfl (.inr ⟨rfl, Tree.startNode?_eq_none_iff.mp hstart⟩)

/-- A session that is under way stands at a node of the tree. -/
theorem Standing.exists_node (h : Standing tree s) (running : s.isRunning = true) :
    ∃ node, s.node? tree = some node := by
  cases h with
  | away nowhere status =>
    rw [Session.isRunning_iff] at running
    rcases status with status | ⟨status, -⟩ <;> simp [status] at running
  | arrived here => exact ⟨_, here⟩
  | branchless here => exact ⟨_, here⟩

/-- A session that is under way is not at an ending. -/
theorem Standing.not_ending (h : Standing tree s) (here : s.IsAt tree node) :
    node.kind ≠ .ending := by
  obtain ⟨running, hnode⟩ := here
  intro kind
  -- an ending ends a session on its arrival, and only conditions lack branches
  cases h with
  | away nowhere => simp [Session.node?, nowhere] at hnode
  | arrived here status =>
    cases hnode.symm.trans here
    rw [tree.arrival_ending kind] at status
    rw [Session.isRunning_iff, status] at running
    simp at running
  | branchless here kind' =>
    cases hnode.symm.trans here
    rw [kind] at kind'
    cases kind'

theorem Standing.advance (h : Standing tree s) (selection : Option Int) (sources : Sources) :
    Standing tree (s.advance tree selection sources).session := by
  have honward := onward_advance tree s selection sources
  generalize s.advance tree selection sources = turn at honward ⊢
  -- the next step agrees with what was seen on arrival: both ask for the same targets
  cases honward with
  | asleep => exact h
  | refused => exact h
  | lost running gone =>
    obtain ⟨node, here⟩ := h.exists_node running
    rw [gone] at here
    cases here
  | ended here kind => exact absurd kind (h.not_ending here)
  | deadEnd here kind nowhere =>
    have harrival := tree.arrival_linear kind
    rw [if_pos nowhere] at harrival
    exact .arrived here.here (by rw [harrival]; rfl) (by rw [harrival]; rfl)
  | branchless here kind nowhere => exact .branchless here.here kind nowhere rfl rfl
  | broken => exact h.withStore _
  | moved _ _ reaches =>
    have hid := Tree.id_of_find? reaches
    exact standing_moveTo (by rwa [hid]) _ _

/-- Every operation keeps a session standing. -/
theorem Standing.apply (h : Standing tree s) (operation : Operation) (sources : Sources) :
    Standing tree (operation.apply tree s sources).session := by
  cases operation with
  | start => exact standing_start tree sources
  | restart => exact standing_start tree sources
  | stop => exact .away rfl (.inl rfl)
  | advance selection => exact h.advance selection sources
  | goto id =>
    simp only [Operation.apply, Session.goto]
    split
    · next node _ hnode _ =>
      have hid := Tree.id_of_find? hnode
      exact standing_moveTo (by rwa [hid]) _ _
    · exact h
  | setVariable name value => exact h.withStore _

theorem Reachable.standing (h : Reachable tree s) : Standing tree s := by
  induction h with
  | fresh => exact .away rfl (.inl rfl)
  | next operation sources _ ih => exact ih.apply operation sources

/-! ### What a status says about the node -/

/-- Nothing leads on from a node, or from one of its branches. -/
inductive Tree.Stranded (tree : Tree) (node : Node) : Prop
  /-- No connection of a spoken line or a script leads to an existing node. -/
  | line (kind : node.kind = .npc ∨ node.kind = .action)
      (nowhere : ∀ c ∈ tree.connections, c.source = node.id → tree.has c.target = false)
  /-- No response is enabled. -/
  | responses (kind : node.kind = .playerChoice)
      (nowhere : ∀ r ∈ tree.responses node, r.isEnabled = false)
  /-- No connection at one of the two branches leads to an existing node. -/
  | branch {verdict : Bool} (kind : node.kind = .conditional)
      (nowhere : ∀ c ∈ tree.connections, c.source = node.id →
        c.sourceHandle = some (branchHandle verdict) → tree.has c.target = false)

/-- The status of a session tells where the session is. -/
structure Session.IsExact (tree : Tree) (s : Session) : Prop where
  away_iff : s.status = .idle ∨ s.status = .noNodes ↔ s.current = none
  no_nodes : s.status = .noNodes → tree.nodes.toList = []
  ended_iff : s.status = .ended ↔ ∃ node, s.node? tree = some node ∧ node.kind = .ending
  closing : ∀ node, s.status = .ended → s.node? tree = some node →
    s.message = some (if node.body = "" then "This conversation has ended." else node.body)
  running : s.status = .running → s.message = none ∧
    ∃ node, s.node? tree = some node ∧ node.kind ≠ .ending ∧
      (node.kind = .npc ∨ node.kind = .action →
        ∃ c ∈ tree.connections, c.source = node.id ∧ tree.has c.target = true) ∧
      (node.kind = .playerChoice → ∃ r ∈ tree.responses node, r.isEnabled = true)
  stuck : s.status = .stuck →
    ∃ message, s.message = some message ∧ message ≠ "" ∧
      ∃ node, s.node? tree = some node ∧ tree.Stranded node

theorem Tree.closingMessage_eq (node : Node) :
    closingMessage node =
      if node.body = "" then "This conversation has ended." else node.body := by
  cases hcontent : node.content with
  | none => simp [closingMessage, Node.body, hcontent]
  | some text =>
    by_cases htext : text = "" <;>
      simp [closingMessage, Node.body, hcontent, nonempty?, Option.filter, htext]

theorem Tree.stranded_of_nowhere (kind : node.kind = .npc ∨ node.kind = .action)
    (nowhere : tree.firstTarget? (tree.outgoing node.id) = none) : tree.Stranded node := by
  rw [firstTarget?_eq_none_iff, targets_eq_nil_iff] at nowhere
  exact .line kind fun c hc hsource => nowhere c (mem_outgoing.mpr ⟨hc, hsource⟩)

theorem Tree.stranded_of_branchless {verdict : Bool} (kind : node.kind = .conditional)
    (nowhere : tree.firstTarget? (tree.outgoingFrom node.id (branchHandle verdict)) = none) :
    tree.Stranded node := by
  rw [firstTarget?_eq_none_iff, targets_eq_nil_iff] at nowhere
  exact .branch kind fun c hc hsource hhandle =>
    nowhere c (mem_outgoingFrom.mpr ⟨hc, hsource, hhandle⟩)

theorem Tree.Stranded.not_ending (h : tree.Stranded node) : node.kind ≠ .ending := by
  intro kind
  cases h <;> simp_all

theorem Session.current_ne_none (here : s.node? tree = some node) : s.current ≠ none := by
  intro hcurrent
  simp [Session.node?, hcurrent] at here

theorem Session.isExact_of_away (nowhere : s.current = none)
    (status : s.status = .idle ∨ s.status = .noNodes ∧ tree.nodes.toList = []) :
    s.IsExact tree := by
  have hnode : s.node? tree = none := by simp [Session.node?, nowhere]
  rcases status with status | ⟨status, hempty⟩ <;>
    constructor <;> simp_all

theorem Session.isExact_of_ended (here : s.node? tree = some node) (kind : node.kind = .ending)
    (status : s.status = .ended) (message : s.message = some (Tree.closingMessage node)) :
    s.IsExact tree := by
  have hcurrent := Session.current_ne_none here
  have hclosing := Tree.closingMessage_eq node
  constructor <;> simp_all

theorem Session.isExact_of_running (here : s.node? tree = some node) (kind : node.kind ≠ .ending)
    (status : s.status = .running) (message : s.message = none)
    (line : node.kind = .npc ∨ node.kind = .action →
      tree.firstTarget? (tree.outgoing node.id) ≠ none)
    (responses : node.kind = .playerChoice → ∃ r ∈ tree.responses node, r.isEnabled = true) :
    s.IsExact tree := by
  have hcurrent := Session.current_ne_none here
  have hline (hkind : node.kind = .npc ∨ node.kind = .action) :
      ∃ c ∈ tree.connections, c.source = node.id ∧ tree.has c.target = true := by
    have hsome := Option.isSome_iff_ne_none.mpr (line hkind)
    simpa only [Tree.isSome_firstTarget?_iff, Tree.mem_outgoing, and_assoc] using hsome
  constructor
  case running => exact fun _ => ⟨message, node, here, kind, hline, responses⟩
  all_goals simp_all

theorem Session.isExact_of_stuck {text : String} (here : s.node? tree = some node)
    (status : s.status = .stuck) (message : s.message = some text) (told : text ≠ "")
    (stranded : tree.Stranded node) : s.IsExact tree := by
  have hcurrent := Session.current_ne_none here
  have hkind := stranded.not_ending
  constructor
  case stuck => exact fun _ => ⟨text, message, told, node, here, stranded⟩
  all_goals simp_all

theorem append_ne_empty {a b : String} (h : b ≠ "") : a ++ b ≠ "" := by
  intro hab
  exact h (String.append_eq_empty_iff.mp hab).2

/-- A session that stands as on its arrival has an exact status. -/
theorem Session.isExact_of_arrived (here : s.node? tree = some node)
    (status : s.status = (tree.arrival node).1) (message : s.message = (tree.arrival node).2) :
    s.IsExact tree := by
  have hline (kind : node.kind = .npc ∨ node.kind = .action) : s.IsExact tree := by
    rw [tree.arrival_linear kind] at status message
    by_cases nowhere : tree.firstTarget? (tree.outgoing node.id) = none
    · rw [if_pos nowhere] at status message
      exact isExact_of_stuck here status message (append_ne_empty (by decide))
        (Tree.stranded_of_nowhere kind nowhere)
    · rw [if_neg nowhere] at status message
      exact isExact_of_running here (by grind) status message (fun _ => nowhere) (by grind)
  cases kind : node.kind with
  | npc => exact hline (.inl kind)
  | action => exact hline (.inr kind)
  | ending =>
    rw [tree.arrival_ending kind] at status message
    exact isExact_of_ended here kind status message
  | conditional =>
    rw [tree.arrival_conditional kind] at status message
    exact isExact_of_running here (by simp [kind]) status message (by simp [kind]) (by simp [kind])
  | playerChoice =>
    rw [tree.arrival_playerChoice kind] at status message
    by_cases henabled : ∃ r ∈ tree.responses node, r.isEnabled = true
    · rw [if_pos henabled] at status message
      exact isExact_of_running here (by simp [kind]) status message (by simp [kind])
        fun _ => henabled
    · rw [if_neg henabled] at status message
      have hdisabled : ∀ r ∈ tree.responses node, r.isEnabled = false := by simpa using henabled
      exact isExact_of_stuck here status message (append_ne_empty (by decide))
        (.responses kind hdisabled)

theorem Standing.isExact (h : Standing tree s) : s.IsExact tree := by
  cases h with
  | away nowhere status => exact Session.isExact_of_away nowhere status
  | arrived here status message => exact Session.isExact_of_arrived here status message
  | branchless here kind nowhere status message =>
    exact Session.isExact_of_stuck here status message (append_ne_empty (by decide))
      (Tree.stranded_of_branchless kind nowhere)

/-! ### What a status says about the next step -/

/-- The status of a session tells whether the session goes on. -/
structure Session.GoesOn (tree : Tree) (s : Session) : Prop where
  /-- A session that runs at a spoken line or a script takes one step, unless the script breaks
  off. -/
  line : ∀ node, s.status = .running → s.node? tree = some node →
    node.kind = .npc ∨ node.kind = .action → ∀ selection sources,
    ¬ (node.kind = .action ∧ BreaksOff node.body s.store sources) →
      ∃ entry, (s.advance tree selection sources).session.history = s.history ++ [entry]
  /-- A script that breaks off keeps the session where it is, with what was done. -/
  broken : ∀ node, s.status = .running → s.node? tree = some node → node.kind = .action →
    ∀ selection sources, BreaksOff node.body s.store sources →
      (s.advance tree selection sources).fault ≠ none ∧
        (s.advance tree selection sources).session =
          s.withStore (executeScript node.body s.store sources).store
  /-- A session that runs at a player choice node takes one step for some selection. -/
  choice : ∀ node, s.status = .running → s.node? tree = some node → node.kind = .playerChoice →
    ∃ selection, ∀ sources,
      ∃ entry, (s.advance tree selection sources).session.history = s.history ++ [entry]
  /-- A session that is stuck elsewhere than at a condition stays as it is. -/
  stuck : ∀ node, s.status = .stuck → s.node? tree = some node → node.kind ≠ .conditional →
    ∀ selection sources, (s.advance tree selection sources).session = s

theorem Session.advance_of_line (here : s.IsAt tree node)
    (kind : node.kind = .npc ∨ node.kind = .action) (selection : Option Int) (sources : Sources) :
    s.advance tree selection sources = s.advanceLinear tree node sources := by
  rcases kind with kind | kind <;> simp [Session.advance, here.running, here.here, kind]

/-- Going on fails exactly at a script that leads on and breaks off. -/
theorem Session.fault_advance_iff {selection : Option Int} {sources : Sources} :
    (s.advance tree selection sources).fault ≠ none ↔
      ∃ node target, s.IsAt tree node ∧ node.kind = .action ∧
        tree.firstTarget? (tree.outgoing node.id) = some target ∧
        BreaksOff node.body s.store sources := by
  constructor
  · intro fault
    have honward := onward_advance tree s selection sources
    generalize hturn : s.advance tree selection sources = turn at honward fault
    cases honward with
    | @broken node x e here left hfault =>
      obtain ⟨kind, breaks⟩ := fault_leave_iff.mp (by rw [← left, hfault]; nofun)
      rw [advance_of_line here (.inr kind)] at hturn
      cases htarget : tree.firstTarget? (tree.outgoing node.id) with
      | some target => exact ⟨node, target, here, kind, htarget, breaks⟩
      | none =>
        have hstick := congrArg Turn.fault hturn
        simp only [advanceLinear, htarget] at hstick
        cases hstick
    | _ => exact absurd rfl fault
  · rintro ⟨node, target, here, kind, htarget, breaks⟩
    rw [advance_of_line here (.inr kind)]
    exact (advanceLinear_of_breaksOff htarget kind breaks).1

theorem Session.advance_of_playerChoice (here : s.IsAt tree node)
    (kind : node.kind = .playerChoice) (selection : Option Int) (sources : Sources) :
    s.advance tree selection sources = s.advanceChoice tree node selection sources := by
  simp [Session.advance, here.running, here.here, kind]

theorem Session.isAt_of_status (status : s.status = .running ∨ s.status = .stuck)
    (here : s.node? tree = some node) : s.IsAt tree node :=
  ⟨(s.isRunning_iff).mpr status, here⟩

/-- A spoken line or a script where a session runs has a target. -/
theorem Standing.exists_target (h : Standing tree s) (status : s.status = .running)
    (here : s.node? tree = some node) (kind : node.kind = .npc ∨ node.kind = .action) :
    ∃ target, tree.firstTarget? (tree.outgoing node.id) = some target := by
  obtain ⟨-, node', here', -, hline, -⟩ := h.isExact.running status
  cases here.symm.trans here'
  obtain ⟨c, hc, hsource, htarget⟩ := hline kind
  exact Option.isSome_iff_exists.mp
    (Tree.isSome_firstTarget?_iff.mpr ⟨c, Tree.mem_outgoing.mpr ⟨hc, hsource⟩, htarget⟩)

theorem Session.session_stick_self {message : String} (status : s.status = .stuck)
    (told : s.message = some message) (sources : Sources) :
    (s.stick message sources).session = s := by
  cases s
  cases status
  cases told
  rfl

theorem Session.selected?_getElem {α : Type} (items : List α) {i : Nat} (h : i < items.length) :
    selected? items (some i) = some items[i] := by
  simp [selected?, h]

/-- A session that runs at a spoken line or a script takes one step if it can leave its node. -/
theorem Standing.advance_line (h : Standing tree s) (status : s.status = .running)
    (here : s.node? tree = some node) (kind : node.kind = .npc ∨ node.kind = .action)
    {sources : Sources} (whole : (s.leave node sources).fault = none) (selection : Option Int) :
    ∃ entry, (s.advance tree selection sources).session.history = s.history ++ [entry] := by
  obtain ⟨target, htarget⟩ := h.exists_target status here kind
  rw [Session.advance_of_line (Session.isAt_of_status (.inl status) here) kind,
    Session.advanceLinear_of_target htarget]
  simp only [whole]
  exact ⟨_, rfl⟩

/-- A session whose script breaks off stays at its node. -/
theorem Standing.advance_broken (h : Standing tree s) (status : s.status = .running)
    (here : s.node? tree = some node) (kind : node.kind = .action) {sources : Sources}
    (breaks : BreaksOff node.body s.store sources) (selection : Option Int) :
    (s.advance tree selection sources).fault ≠ none ∧
      (s.advance tree selection sources).session =
        s.withStore (executeScript node.body s.store sources).store := by
  obtain ⟨target, htarget⟩ := h.exists_target status here (.inr kind)
  rw [Session.advance_of_line (Session.isAt_of_status (.inl status) here) (.inr kind)]
  exact Session.advanceLinear_of_breaksOff htarget kind breaks

/-- A session that runs at a player choice node takes one step with an enabled response. -/
theorem Standing.advance_choice (h : Standing tree s) (status : s.status = .running)
    (here : s.node? tree = some node) (kind : node.kind = .playerChoice) :
    ∃ selection, ∀ sources,
      ∃ entry, (s.advance tree selection sources).session.history = s.history ++ [entry] := by
  obtain ⟨-, node', here', -, -, hresponses⟩ := h.isExact.running status
  cases here.symm.trans here'
  -- the index of any enabled response is a selection that is taken
  obtain ⟨r, hr, henabled⟩ := hresponses kind
  obtain ⟨i, hi, rfl⟩ := List.mem_iff_getElem.mp hr
  obtain ⟨target, htarget⟩ := Option.isSome_iff_exists.mp henabled
  refine ⟨some i, fun sources => ?_⟩
  rw [Session.advance_of_playerChoice (Session.isAt_of_status (.inl status) here) kind]
  simp only [Session.advanceChoice, Session.selected?_getElem _ hi, htarget]
  exact ⟨_, rfl⟩

/-- A session that is stuck at a spoken line or a script stays as it is. -/
theorem Session.advance_of_deadEnd (here : s.node? tree = some node) (status : s.status = .stuck)
    (kind : node.kind = .npc ∨ node.kind = .action)
    (arrival : (tree.arrival node).1 = .stuck) (message : s.message = (tree.arrival node).2)
    (selection : Option Int) (sources : Sources) :
    (s.advance tree selection sources).session = s := by
  rw [tree.arrival_linear kind] at arrival message
  split at arrival
  · next nowhere =>
    rw [if_pos nowhere] at message
    rw [Session.advance_of_line (Session.isAt_of_status (.inr status) here) kind]
    simp only [Session.advanceLinear, nowhere]
    exact Session.session_stick_self status message sources
  · cases arrival

/-- A session without an enabled response stays as it is. -/
theorem Session.advance_of_disabled (here : s.IsAt tree node) (kind : node.kind = .playerChoice)
    (disabled : ∀ r ∈ tree.responses node, r.isEnabled = false) (selection : Option Int)
    (sources : Sources) : (s.advance tree selection sources).session = s := by
  rw [Session.advance_of_playerChoice here kind]
  simp only [Session.advanceChoice]
  split
  · rfl
  · next r hselected =>
    have htarget : r.target = none := by
      simpa [Response.isEnabled] using disabled r (Session.mem_of_selected? hselected)
    rw [htarget]

theorem Standing.advance_stuck (h : Standing tree s) (status : s.status = .stuck)
    (here : s.node? tree = some node) (kind : node.kind ≠ .conditional) (selection : Option Int)
    (sources : Sources) : (s.advance tree selection sources).session = s := by
  cases h with
  | away nowhere => exact absurd nowhere (Session.current_ne_none here)
  | branchless here' kind' =>
    cases here.symm.trans here'
    exact absurd kind' kind
  | arrived here' status' message =>
    cases here.symm.trans here'
    have arrival : (tree.arrival node).1 = .stuck := status'.symm.trans status
    cases kind' : node.kind with
    | npc => exact Session.advance_of_deadEnd here status (.inl kind') arrival message _ _
    | action => exact Session.advance_of_deadEnd here status (.inr kind') arrival message _ _
    | conditional => exact absurd kind' kind
    | ending =>
      rw [tree.arrival_ending kind'] at arrival
      cases arrival
    | playerChoice =>
      have disabled : ∀ r ∈ tree.responses node, r.isEnabled = false := by
        rw [tree.arrival_playerChoice kind'] at arrival
        split at arrival
        · cases arrival
        · next hnone => simpa using hnone
      exact Session.advance_of_disabled (Session.isAt_of_status (.inr status) here) kind' disabled
        _ _

theorem Standing.goesOn (h : Standing tree s) : s.GoesOn tree where
  line node status here kind selection sources hwhole := by
    have whole : (s.leave node sources).fault = none := by
      simpa using mt Session.fault_leave_iff.mp hwhole
    exact h.advance_line status here kind whole selection
  broken node status here kind selection sources breaks :=
    h.advance_broken status here kind breaks selection
  choice node status here kind := h.advance_choice status here kind
  stuck node status here kind selection sources :=
    h.advance_stuck status here kind selection sources

/-- **The status of a session is exact.**  At every point of a run it tells where the session is and
whether it goes on; only a script that has to be recorded at no time keeps a session that runs
where it is. -/
theorem Reachable.status_exact (h : Reachable tree s) : s.IsExact tree ∧ s.GoesOn tree :=
  ⟨h.standing.isExact, h.standing.goesOn⟩

/-- Without the key a session is stuck at the gate, and its status is exact. -/
theorem status_exact_of_keyless :
    Reachable gateTree keyless ∧ keyless.status = .stuck ∧ keyless.IsExact gateTree ∧
      keyless.GoesOn gateTree :=
  ⟨reachable_keyless, by decide +kernel, Reachable.status_exact reachable_keyless⟩

end

end Colloquy
