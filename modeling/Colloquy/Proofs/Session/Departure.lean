import Colloquy.Proofs.Session.Coherence
import Colloquy.Proofs.Session.Standing

/-!
# Departures

Whether and where a session goes on, told from its node, its variables and the connections of the
tree.  The session may be any one, reachable or not.

* `Tree.LeadsTo`: where a node leads, with a selection and a verdict;
* `Session.Departs`: a session is under way at a node that leads somewhere;
* `HasMoved`, `HasStayed`: what a step changes;
* `advance_of_departs`, `hasStayed_advance`: a session that departs moves, any other one stays;
* `Session.step_decided`: all of it, and that the message and being stuck play no role.
-/

namespace Colloquy

/-- A node leads to another one with a selection and a verdict, and the history keeps the text. -/
inductive Tree.LeadsTo (tree : Tree) (node : Node) (selection : Option Int) (verdict : Bool) :
    Option String → Node → Prop
  /-- A spoken line or a script leads on along its first connection. -/
  | onward {c : Connection} {target : Node} (kind : node.kind = .npc ∨ node.kind = .action)
      (first : tree.IsFirst node (fun _ => true) c) (reaches : tree.find? c.target = some target) :
      LeadsTo tree node selection verdict none target
  /-- The choice with the selected index leads on along its first connection. -/
  | response {i : Nat} {choice : Choice} {c : Connection} {target : Node}
      (kind : node.kind = .playerChoice) (selected : selection = some (i : Int))
      (offered : node.choices[i]? = some choice)
      (first : tree.IsFirst node (·.sourceHandle == some choice.id) c)
      (reaches : tree.find? c.target = some target) :
      LeadsTo tree node selection verdict (some choice.text) target
  /-- A condition leads on along the first branch of the verdict. -/
  | branch {c : Connection} {target : Node} (kind : node.kind = .conditional)
      (first : tree.IsFirst node (·.sourceHandle == some (branchHandle verdict)) c)
      (reaches : tree.find? c.target = some target) :
      LeadsTo tree node selection verdict (some ("Condition: " ++ Session.verdictName verdict))
        target

namespace Session

/-- A session is under way at a node that leads to a target. -/
structure Departs (s : Session) (tree : Tree) (selection : Option Int) (sources : Sources)
    (node : Node) (text : Option String) (target : Node) : Prop where
  here : s.IsAt tree node
  leads : tree.LeadsTo node selection (evaluateCondition node.body s.store sources).1 text target

/-- The script of a node breaks off when a session leaves it. -/
def IsHeld (s : Session) (node : Node) (sources : Sources) : Prop :=
  node.kind = .action ∧ BreaksOff node.body s.store sources

/-- A session has kept its place, what it has visited, its variables and its history. -/
structure HasStayed (s after : Session) : Prop where
  current_eq : after.current = s.current
  visited_eq : after.visited = s.visited
  store_eq : after.store = s.store
  history_eq : after.history = s.history

/-- A session has gone from a node to a target of a tree.  Only a script has changed variables. -/
structure HasMoved (s after : Session) (tree : Tree) (sources : Sources) (node : Node)
    (text : Option String) (target : Node) : Prop where
  reaches : tree.find? target.id = some target
  current_eq : after.current = some target.id
  visited_iff : ∀ id,
    after.visited.contains id = true ↔ id = target.id ∨ s.visited.contains id = true
  history_eq : ∃ moment, after.history = s.history ++ [⟨target.id, text, moment⟩]
  store_eq : after.store =
    if node.kind = .action then (executeScript node.body s.store sources).store else s.store

/-- What is left of the sources once a condition has its verdict. -/
def heard (s : Session) (node : Node) (sources : Sources) : Sources :=
  if node.kind = .conditional then (evaluateCondition node.body s.store sources).2 else sources

section

variable {tree : Tree} {s : Session} {node target : Node} {text : Option String}
  {selection : Option Int} {verdict : Bool} {sources : Sources}

/-! ### Where a node leads -/

theorem leadsTo_line_iff (kind : node.kind = .npc ∨ node.kind = .action) :
    tree.LeadsTo node selection verdict text target ↔
      text = none ∧ tree.firstTarget? (tree.outgoing node.id) = some target := by
  rw [Tree.firstTarget?_outgoing_iff]
  constructor
  · rintro (⟨-, first, reaches⟩ | ⟨kind', -, -, -⟩ | ⟨kind', -, -⟩)
    · exact ⟨rfl, _, first, reaches⟩
    · simp [kind'] at kind
    · simp [kind'] at kind
  · rintro ⟨rfl, c, first, reaches⟩
    exact .onward kind first reaches

theorem leadsTo_conditional_iff (kind : node.kind = .conditional) :
    tree.LeadsTo node selection verdict text target ↔
      text = some ("Condition: " ++ verdictName verdict) ∧
        tree.firstTarget? (tree.outgoingFrom node.id (branchHandle verdict)) = some target := by
  rw [Tree.firstTarget?_outgoingFrom_iff]
  constructor
  · rintro (⟨kind', -, -⟩ | ⟨kind', -, -, -⟩ | ⟨-, first, reaches⟩)
    · simp [kind] at kind'
    · simp [kind] at kind'
    · exact ⟨rfl, _, first, reaches⟩
  · rintro ⟨rfl, c, first, reaches⟩
    exact .branch kind first reaches

/-- The selected response is that of the choice with the selected index. -/
theorem selected?_responses_iff (kind : node.kind = .playerChoice) {r : Response} :
    selected? (tree.responses node) selection = some r ↔
      ∃ i : Nat, ∃ choice, selection = some (i : Int) ∧ node.choices[i]? = some choice ∧
        tree.response node i choice = r := by
  simp only [selected?, Tree.responses, if_pos kind, Option.bind_eq_some_iff]
  constructor
  · rintro ⟨index, rfl, h⟩
    split at h
    · next nonneg =>
      rw [List.getElem?_mapIdx, Option.map_eq_some_iff] at h
      obtain ⟨choice, hchoice, hr⟩ := h
      exact ⟨index.toNat, choice, by rw [Int.toNat_of_nonneg nonneg], hchoice, hr⟩
    · cases h
  · rintro ⟨i, choice, rfl, hchoice, rfl⟩
    refine ⟨i, rfl, ?_⟩
    rw [if_pos (Int.natCast_nonneg i), Int.toNat_natCast, List.getElem?_mapIdx, hchoice,
      Option.map_some]

theorem leadsTo_choice_iff (kind : node.kind = .playerChoice) :
    tree.LeadsTo node selection verdict text target ↔
      ∃ r, selected? (tree.responses node) selection = some r ∧ r.target = some target ∧
        text = some r.choice.text := by
  simp only [selected?_responses_iff kind]
  constructor
  · rintro (⟨kind', -, -⟩ | ⟨-, selected, offered, first, reaches⟩ | ⟨kind', -, -⟩)
    · simp [kind] at kind'
    · exact ⟨_, ⟨_, _, selected, offered, rfl⟩,
        Tree.firstTarget?_outgoingFrom_iff.mpr ⟨_, first, reaches⟩, rfl⟩
    · simp [kind] at kind'
  · rintro ⟨_, ⟨i, choice, selected, offered, rfl⟩, htarget, rfl⟩
    obtain ⟨c, first, reaches⟩ := Tree.firstTarget?_outgoingFrom_iff.mp htarget
    exact .response kind selected offered first reaches

/-- An ending leads nowhere. -/
theorem not_leadsTo_of_ending (kind : node.kind = .ending) :
    ¬ tree.LeadsTo node selection verdict text target := by
  rintro (⟨kind', -, -⟩ | ⟨kind', -, -, -⟩ | ⟨kind', -, -⟩) <;> simp [kind] at kind'

/-- The target exists. -/
theorem find?_of_leadsTo (h : tree.LeadsTo node selection verdict text target) :
    tree.find? target.id = some target := by
  cases h with
  | onward _ _ reaches | response _ _ _ _ reaches | branch _ _ reaches =>
    rwa [Tree.id_of_find? reaches]

/-! ### Sessions that depart -/

theorem fault_leave_heard_iff :
    (s.leave node (s.heard node sources)).fault ≠ none ↔ s.IsHeld node sources := by
  rw [fault_leave_iff]
  refine and_congr_right fun kind => ?_
  rw [heard, kind, if_neg (by decide)]

/-- A session that departs leaves its node for the target, unless a script holds it. -/
theorem advance_of_departs (h : s.Departs tree selection sources node text target) :
    s.advance tree selection sources =
      let x := s.leave node (s.heard node sources)
      match x.fault with
      | some e => { session := s.withStore x.store, sources := x.sources, fault := some e }
      | none => (s.withStore x.store).turnTo tree target text x.sources := by
  obtain ⟨here, leads⟩ := h
  have hline (kind : node.kind = .npc ∨ node.kind = .action) : s.heard node sources = sources := by
    rw [heard, if_neg (by rcases kind with kind | kind <;> simp [kind])]
  cases kind : node.kind with
  | npc =>
    obtain ⟨rfl, htarget⟩ := (leadsTo_line_iff (.inl kind)).mp leads
    rw [advance_of_line here (.inl kind), hline (.inl kind)]
    exact advanceLinear_of_target htarget
  | action =>
    obtain ⟨rfl, htarget⟩ := (leadsTo_line_iff (.inr kind)).mp leads
    rw [advance_of_line here (.inr kind), hline (.inr kind)]
    exact advanceLinear_of_target htarget
  | playerChoice =>
    obtain ⟨r, hselected, htarget, rfl⟩ := (leadsTo_choice_iff kind).mp leads
    rw [advance_of_playerChoice here kind]
    simp only [advanceChoice, hselected, htarget, leave, heard, kind]
    rfl
  | conditional =>
    obtain ⟨rfl, htarget⟩ := (leadsTo_conditional_iff kind).mp leads
    simp only [advance, here.running, here.here, kind, advanceConditional, htarget, leave, heard]
    rfl
  | ending => exact absurd leads (not_leadsTo_of_ending kind)

theorem hasMoved_advance (h : s.Departs tree selection sources node text target)
    (free : ¬ s.IsHeld node sources) :
    (s.advance tree selection sources).fault = none ∧
      s.HasMoved (s.advance tree selection sources).session tree sources node text target := by
  have hwhole : (s.leave node (s.heard node sources)).fault = none := by
    simpa using mt fault_leave_heard_iff.mp free
  rw [advance_of_departs h]
  simp only [hwhole]
  refine ⟨rfl, find?_of_leadsTo h.leads, rfl, fun id => ?_, ⟨_, rfl⟩, ?_⟩
  · rw [session_turnTo, visited_moveTo, Roster.contains_iff, Roster.mem_keys_put,
      ← Roster.contains_iff]
    rfl
  · rw [session_turnTo, store_moveTo]
    by_cases kind : node.kind = .action
    · simp only [withStore, leave, heard, kind, if_true]
      rfl
    · simp only [withStore, leave, kind, if_false]

theorem advance_of_isHeld (h : s.Departs tree selection sources node text target)
    (held : s.IsHeld node sources) :
    (s.advance tree selection sources).fault ≠ none ∧
      (s.advance tree selection sources).session =
        s.withStore (executeScript node.body s.store sources).store := by
  obtain ⟨e, hfault⟩ := Option.ne_none_iff_exists'.mp (fault_leave_heard_iff.mpr held)
  rw [advance_of_departs h]
  simp only [hfault]
  refine ⟨Option.some_ne_none e, ?_⟩
  simp only [leave, heard, held.1, if_true]
  rfl

/-! ### Sessions that stay -/

theorem hasStayed_self (s : Session) : s.HasStayed s := ⟨rfl, rfl, rfl, rfl⟩

theorem hasStayed_stick (s : Session) (message : String) (sources : Sources) :
    s.HasStayed (s.stick message sources).session := ⟨rfl, rfl, rfl, rfl⟩

theorem hasStayed_advanceLinear (sources : Sources)
    (nowhere : tree.firstTarget? (tree.outgoing node.id) = none) :
    (s.advanceLinear tree node sources).fault = none ∧
      s.HasStayed (s.advanceLinear tree node sources).session := by
  simp only [advanceLinear, nowhere]
  exact ⟨rfl, hasStayed_stick _ _ _⟩

theorem hasStayed_advanceChoice (sources : Sources)
    (nowhere : ∀ r, selected? (tree.responses node) selection = some r → r.target = none) :
    (s.advanceChoice tree node selection sources).fault = none ∧
      s.HasStayed (s.advanceChoice tree node selection sources).session := by
  unfold advanceChoice
  dsimp only
  split
  · exact ⟨rfl, hasStayed_self s⟩
  · next r hselected =>
    rw [nowhere r hselected]
    exact ⟨rfl, hasStayed_self s⟩

theorem hasStayed_advanceConditional
    (nowhere : tree.firstTarget? (tree.outgoingFrom node.id
      (branchHandle (evaluateCondition node.body s.store sources).1)) = none) :
    (s.advanceConditional tree node sources).fault = none ∧
      s.HasStayed (s.advanceConditional tree node sources).session := by
  simp only [advanceConditional, nowhere]
  exact ⟨rfl, hasStayed_stick _ _ _⟩

/-- A session that does not depart stays. -/
theorem hasStayed_advance
    (stranded : ∀ node text target, ¬ s.Departs tree selection sources node text target) :
    (s.advance tree selection sources).fault = none ∧
      s.HasStayed (s.advance tree selection sources).session := by
  unfold advance
  by_cases hrunning : s.isRunning = true
  case neg =>
    rw [if_pos (by simpa using hrunning)]
    exact ⟨rfl, hasStayed_self s⟩
  rw [if_neg (by simpa using hrunning)]
  cases hnode : s.node? tree with
  | none => exact ⟨rfl, hasStayed_stick _ _ _⟩
  | some node =>
    have nowhere (text : Option String) (target : Node) :
        ¬ tree.LeadsTo node selection (evaluateCondition node.body s.store sources).1 text target :=
      fun leads => stranded node text target ⟨⟨hrunning, hnode⟩, leads⟩
    have hline (kind : node.kind = .npc ∨ node.kind = .action) :
        tree.firstTarget? (tree.outgoing node.id) = none :=
      Option.eq_none_iff_forall_ne_some.mpr fun target htarget =>
        nowhere none target ((leadsTo_line_iff kind).mpr ⟨rfl, htarget⟩)
    cases kind : node.kind with
    | npc => simpa only [kind] using hasStayed_advanceLinear sources (hline (.inl kind))
    | action => simpa only [kind] using hasStayed_advanceLinear sources (hline (.inr kind))
    | playerChoice =>
      simp only [kind]
      refine hasStayed_advanceChoice sources fun r hselected => ?_
      exact Option.eq_none_iff_forall_ne_some.mpr fun target htarget =>
        nowhere _ target ((leadsTo_choice_iff kind).mpr ⟨r, hselected, htarget, rfl⟩)
    | conditional =>
      simp only [kind]
      refine hasStayed_advanceConditional ?_
      exact Option.eq_none_iff_forall_ne_some.mpr fun target htarget =>
        nowhere _ target ((leadsTo_conditional_iff kind).mpr ⟨rfl, htarget⟩)
    | ending =>
      simp only [kind]
      exact ⟨trivial, rfl, rfl, rfl, rfl⟩

/-! ### Decisions -/

/-- Being stuck or running, and any message, play no role for a departure. -/
theorem departs_withStatus_iff {status : Status} {message : Option String}
    (running : ({ s with status, message } : Session).isRunning = s.isRunning) :
    ({ s with status, message } : Session).Departs tree selection sources node text target ↔
      s.Departs tree selection sources node text target := by
  constructor
  · rintro ⟨⟨hrunning, hnode⟩, leads⟩
    exact ⟨⟨running ▸ hrunning, hnode⟩, leads⟩
  · rintro ⟨⟨hrunning, hnode⟩, leads⟩
    exact ⟨⟨running ▸ hrunning, hnode⟩, leads⟩

/-- A session moves exactly if it departs and no script holds it. -/
theorem history_advance_ne_iff :
    (s.advance tree selection sources).session.history ≠ s.history ↔
      ∃ node text target,
        s.Departs tree selection sources node text target ∧ ¬ s.IsHeld node sources := by
  constructor
  · intro moves
    by_cases hdeparts : ∃ node text target, s.Departs tree selection sources node text target
    · obtain ⟨node, text, target, departs⟩ := hdeparts
      refine ⟨node, text, target, departs, fun held => moves ?_⟩
      rw [(advance_of_isHeld departs held).2]
      rfl
    · have stranded : ∀ node text target, ¬ s.Departs tree selection sources node text target :=
        fun node text target departs => hdeparts ⟨node, text, target, departs⟩
      exact absurd (hasStayed_advance stranded).2.history_eq moves
  · rintro ⟨node, text, target, departs, free⟩
    obtain ⟨moment, hhistory⟩ := (hasMoved_advance departs free).2.history_eq
    simp [hhistory]

/-- A session that moves does so whatever its message, and stuck or running alike. -/
theorem advance_withStatus {status : Status} {message : Option String}
    (running : ({ s with status, message } : Session).isRunning = s.isRunning)
    (moves : (s.advance tree selection sources).session.history ≠ s.history) :
    ({ s with status, message } : Session).advance tree selection sources =
      s.advance tree selection sources := by
  obtain ⟨node, text, target, departs, free⟩ := history_advance_ne_iff.mp moves
  have hwhole : (s.leave node (s.heard node sources)).fault = none := by
    simpa using mt fault_leave_heard_iff.mp free
  have hother :
      (({ s with status, message } : Session).leave node
        (({ s with status, message } : Session).heard node sources)).fault = none := hwhole
  rw [advance_of_departs departs, advance_of_departs ((departs_withStatus_iff running).mpr departs)]
  simp only [hwhole, hother]
  rfl

/-- What becomes of a session that is to go on is decided by its node, its variables and the
connections of the tree. -/
structure IsDecided (s : Session) (tree : Tree) (selection : Option Int) (sources : Sources) :
    Prop where
  /-- It moves exactly if it is under way at a node that leads somewhere and no script holds it. -/
  moves_iff : (s.advance tree selection sources).session.history ≠ s.history ↔
    ∃ node text target,
      s.Departs tree selection sources node text target ∧ ¬ s.IsHeld node sources
  moved : ∀ node text target, s.Departs tree selection sources node text target →
    ¬ s.IsHeld node sources →
      (s.advance tree selection sources).fault = none ∧
        s.HasMoved (s.advance tree selection sources).session tree sources node text target
  stayed : (∀ node text target, ¬ s.Departs tree selection sources node text target) →
    (s.advance tree selection sources).fault = none ∧
      s.HasStayed (s.advance tree selection sources).session
  /-- A script that breaks off holds the session, with the variables as they are by then. -/
  held : ∀ node text target, s.Departs tree selection sources node text target →
    s.IsHeld node sources →
      (s.advance tree selection sources).fault ≠ none ∧
        (s.advance tree selection sources).session =
          s.withStore (executeScript node.body s.store sources).store
  /-- The message plays no role, nor does being stuck instead of running. -/
  standing : ∀ status message,
    ({ s with status, message } : Session).isRunning = s.isRunning →
      ((({ s with status, message } : Session).advance tree selection sources).session.history ≠
          s.history ↔ (s.advance tree selection sources).session.history ≠ s.history) ∧
        ((s.advance tree selection sources).session.history ≠ s.history →
          ({ s with status, message } : Session).advance tree selection sources =
            s.advance tree selection sources)

/-- **Whether and where a session goes on is decided**, in every tree, from every session and with
every selection. -/
theorem step_decided (s : Session) (tree : Tree) (selection : Option Int) (sources : Sources) :
    s.IsDecided tree selection sources where
  moves_iff := history_advance_ne_iff
  moved _ _ _ departs free := hasMoved_advance departs free
  stayed stranded := hasStayed_advance stranded
  held _ _ _ departs held := advance_of_isHeld departs held
  standing status message running := by
    refine ⟨?_, fun moves => advance_withStatus running moves⟩
    have hother := @history_advance_ne_iff tree { s with status, message } selection sources
    simp only [departs_withStatus_iff running] at hother
    exact hother.trans history_advance_ne_iff.symm

/-- Who is stuck at the gate and gets the key comes to the garden. -/
example :
    let outside : Sources := { chance := fun _ => .zero, clock := .steady .zero }
    let admitted := keyless.withStore (Store.set keyless.store "item_key" (.flag true))
    keyless.status = .stuck ∧
      (admitted.advance gateTree none outside).session.current = some "garden" := by
  decide +kernel

end

end Session

end Colloquy
