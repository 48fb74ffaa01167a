import Colloquy.Proofs.Script.Possession
import Colloquy.Proofs.Session.Departure
import Colloquy.Proofs.Tree.Branches

/-!
# Repeated branches in play

The advice says of a branch with several connections that the first one is used.  A session passes
over connections that lead nowhere, and then it may be another one.

* `Session.Follows`: a session that moves comes to where a connection leads;
* `Tree.PassesOver`: the first of some connections leads nowhere, but a later one does not;
* `moves_along_branch`, `hasStayed_of_branch`: where a condition leads with a verdict;
* `follows_first_iff`: the first connection is used exactly if it is not passed over;
* `Tree.repeated_branches_played`: so it is for every reported branch.
-/

namespace Colloquy

/-- If a session has moved, it has come to where a connection leads. -/
def Session.Follows (s after : Session) (c : Connection) : Prop :=
  after.history ≠ s.history → after.current = some c.target

/-- The first of some connections leads nowhere, and one behind it leads to an existing node. -/
def Tree.PassesOver (tree : Tree) (first : Connection) (others : List Connection) : Prop :=
  tree.has first.target = false ∧ ∃ c ∈ others, tree.has c.target = true

namespace Session

variable {tree : Tree} {s : Session} {node : Node} {verdict : Bool} {sources : Sources}

section

variable (here : s.IsAt tree node) (kind : node.kind = .conditional)
  (decides : (evaluateCondition node.body s.store sources).1 = verdict)
include here kind decides

/-- A condition leads along the first connection of its verdict that leads anywhere. -/
theorem moves_along_branch (selection : Option Int) {c : Connection}
    (first : (tree.outgoingFrom node.id (branchHandle verdict)).find? (fun d => tree.has d.target) =
      some c) :
    (s.advance tree selection sources).session.current = some c.target ∧
      ∃ moment, (s.advance tree selection sources).session.history =
        s.history ++ [⟨c.target, some ("Condition: " ++ verdictName verdict), moment⟩] := by
  have found : tree.has c.target = true := by simpa using List.find?_some first
  obtain ⟨target, reaches⟩ := Tree.has_iff.mp found
  have leads : tree.LeadsTo node selection (evaluateCondition node.body s.store sources).1
      (some ("Condition: " ++ verdictName verdict)) target := by
    rw [decides]
    exact (leadsTo_conditional_iff kind).mpr
      ⟨rfl, Tree.firstTarget?_eq_some_iff.mpr ⟨c, first, reaches⟩⟩
  have free : ¬ s.IsHeld node sources := fun held => by
    rw [held.1] at kind
    cases kind
  have moved := (hasMoved_advance ⟨here, leads⟩ free).2
  rw [← Tree.id_of_find? reaches]
  exact ⟨moved.current_eq, moved.history_eq⟩

/-- A condition leads nowhere if no connection of its verdict leads anywhere. -/
theorem hasStayed_of_branch (selection : Option Int)
    (nowhere : ∀ c ∈ tree.outgoingFrom node.id (branchHandle verdict),
      tree.has c.target = false) :
    s.HasStayed (s.advance tree selection sources).session := by
  refine (hasStayed_advance fun other text target departs => ?_).2
  obtain ⟨⟨-, hother⟩, leads⟩ := departs
  rw [here.here] at hother
  cases hother
  rw [decides, leadsTo_conditional_iff kind,
    Tree.firstTarget?_eq_none_iff.mpr (Tree.targets_eq_nil_iff.mpr nowhere)] at leads
  cases leads.2

end

/-- The first connection of a verdict is used, unless it is passed over. -/
theorem follows_first_iff (selection : Option Int) {first : Connection} {others : List Connection}
    (here : s.node? tree = some node) (kind : node.kind = .conditional)
    (decides : (evaluateCondition node.body s.store sources).1 = verdict)
    (branch : tree.outgoingFrom node.id (branchHandle verdict) = first :: others) :
    s.Follows (s.advance tree selection sources).session first ↔
      ¬ (s.isRunning = true ∧ tree.PassesOver first others) := by
  by_cases running : s.isRunning = true
  case neg =>
    have still : (s.advance tree selection sources).session = s := by
      rw [advance, if_pos (by simpa using running)]
    rw [still]
    exact ⟨fun _ passed => running passed.1, fun _ moves => absurd rfl moves⟩
  have under : s.IsAt tree node := ⟨running, here⟩
  cases hfirst : tree.has first.target with
  | true =>
    have hfind : (tree.outgoingFrom node.id (branchHandle verdict)).find?
        (fun d => tree.has d.target) = some first := by
      rw [branch, List.find?_cons, hfirst]
    have hcurrent := (moves_along_branch under kind decides selection hfind).1
    exact ⟨fun _ passed => by simp [Tree.PassesOver, hfirst] at passed, fun _ _ => hcurrent⟩
  | false =>
    cases hother : others.find? (fun d => tree.has d.target) with
    | some c =>
      have hfind : (tree.outgoingFrom node.id (branchHandle verdict)).find?
          (fun d => tree.has d.target) = some c := by
        rw [branch, List.find?_cons, hfirst]
        exact hother
      have found : tree.has c.target = true := by simpa using List.find?_some hother
      obtain ⟨hcurrent, moment, hhistory⟩ :=
        moves_along_branch under kind decides selection hfind
      have passed : tree.PassesOver first others := ⟨hfirst, c, List.mem_of_find?_eq_some hother,
        found⟩
      refine ⟨fun follows => ?_, fun kept => absurd ⟨running, passed⟩ kept⟩
      -- the session has come to a node that exists, and the first connection leads to none
      have hsame := follows (by simp [hhistory])
      rw [hcurrent] at hsame
      rw [Option.some.inj hsame, hfirst] at found
      cases found
    | none =>
      have hnone : ∀ c ∈ others, tree.has c.target = false := by
        simpa using List.find?_eq_none.mp hother
      have nowhere : ∀ c ∈ tree.outgoingFrom node.id (branchHandle verdict),
          tree.has c.target = false := by
        rw [branch]
        exact List.forall_mem_cons.mpr ⟨hfirst, hnone⟩
      have stays := hasStayed_of_branch under kind decides selection nowhere
      refine ⟨?_, fun _ moves => absurd stays.history_eq moves⟩
      rintro - ⟨-, -, c, hc, found⟩
      rw [hnone c hc] at found
      cases found

end Session

/-! ### Reported branches in play -/

/-- What a session does with a branch of a node that the advice reports. -/
structure Tree.PlaysBranch (tree : Tree) (node : Node) (verdict : Bool) (first : Connection)
    (others : List Connection) (s : Session) (selection : Option Int) (sources : Sources) :
    Prop where
  /-- The first connection is used exactly if the session does not pass over it. -/
  follows_iff : s.Follows (s.advance tree selection sources).session first ↔
    ¬ (s.isRunning = true ∧ tree.PassesOver first others)
  /-- The session takes the first connection that leads to an existing node. -/
  moves : s.isRunning = true → ∀ c,
    (first :: others).find? (fun d => tree.has d.target) = some c →
      (s.advance tree selection sources).session.current = some c.target ∧
        ∃ moment, (s.advance tree selection sources).session.history =
          s.history ++ [⟨c.target, some ("Condition: " ++ Session.verdictName verdict), moment⟩]
  stays : (∀ c ∈ first :: others, tree.has c.target = false) →
    s.HasStayed (s.advance tree selection sources).session

theorem Tree.playsBranch {tree : Tree} {node : Node} {verdict : Bool} {first : Connection}
    {others : List Connection} {s : Session} (selection : Option Int) {sources : Sources}
    (here : s.node? tree = some node) (kind : node.kind = .conditional)
    (decides : (evaluateCondition node.body s.store sources).1 = verdict)
    (branch : tree.outgoingFrom node.id (branchHandle verdict) = first :: others) :
    tree.PlaysBranch node verdict first others s selection sources where
  follows_iff := Session.follows_first_iff selection here kind decides branch
  moves running c hc :=
    Session.moves_along_branch ⟨running, here⟩ kind decides selection (by rwa [branch])
  stays nowhere := by
    by_cases running : s.isRunning = true
    · exact Session.hasStayed_of_branch ⟨running, here⟩ kind decides selection (by rwa [branch])
    · rw [Session.advance, if_pos (by simpa using running)]
      exact ⟨rfl, rfl, rfl, rfl⟩

/-- What the advice says about repeated branches, and what sessions do with them. -/
structure Tree.RepeatedBranchesPlayed (tree : Tree) : Prop where
  reported : tree.connectionIssues.filter Issue.isRepeatedBranch =
    tree.repeatedBranches.map tree.branchIssue
  /-- The reported branches are those of conditional nodes with several connections. -/
  repeated : ∀ b, b ∈ tree.repeatedBranches ↔
    ∃ node verdict, tree.find? node.id = some node ∧ node.kind = .conditional ∧
      b = (node.id, branchHandle verdict) ∧
      1 < (tree.outgoingFrom node.id (branchHandle verdict)).length
  /-- They are played alike in all sessions at their nodes, with the connections in their order. -/
  played : ∀ node verdict, tree.find? node.id = some node →
    (node.id, branchHandle verdict) ∈ tree.repeatedBranches →
      ∃ first second others,
        tree.outgoingFrom node.id (branchHandle verdict) = first :: second :: others ∧
        ∀ (s : Session) (selection : Option Int) (sources : Sources), s.node? tree = some node →
          (evaluateCondition node.body s.store sources).1 = verdict →
            tree.PlaysBranch node verdict first (second :: others) s selection sources

/-- **The advice is right about which branches are repeated, and their first connection is used
unless it leads nowhere while a later one leads somewhere.**  In that case a session passes over
it. -/
theorem Tree.repeated_branches_played (tree : Tree) : tree.RepeatedBranchesPlayed where
  reported := tree.repeated_connectionIssues
  repeated _ := mem_repeatedBranches_iff
  played node verdict found reported := by
    obtain ⟨other, _, hother, hkind, hb, several⟩ := mem_repeatedBranches_iff.mp reported
    obtain ⟨hid, hverdict⟩ := Prod.mk.inj hb
    rw [← hid, found] at hother
    cases hother
    rw [← hverdict] at several
    match hbranch : tree.outgoingFrom node.id (branchHandle verdict) with
    | [] | [_] => simp [hbranch] at several
    | first :: second :: others =>
      exact ⟨first, second, others, rfl, fun s selection sources here decides =>
        playsBranch selection here hkind decides hbranch⟩

/-- A gate where who has no key is sent to a well that is gone, and then to the garden. -/
def detourTree : Tree where
  id := "detour"
  name := "Detour"
  startNodeId := some "gate"
  nodes := .ofList
    [{ id := "gate", kind := .conditional, title := "Gate", content := some "hasItem('key')" },
      { id := "garden", kind := .ending, title := "Garden" }]
  connections :=
    [{ id := "down", source := "gate", target := "well", sourceHandle := some "false" },
      { id := "by", source := "gate", target := "garden", sourceHandle := some "false" }]

/-- The branch at the gate is reported, and a session that begins there passes over its first
connection. -/
theorem repeated_branches_played_on_detour :
    ∃ gate first other,
      detourTree.find? "gate" = some gate ∧
      detourTree.outgoingFrom "gate" "false" = [first, other] ∧
      Issue.repeatedBranch "Gate" "false" ∈ detourTree.connectionIssues ∧
      ∃ s : Session, Reachable detourTree s ∧ s.IsAt detourTree gate ∧
        ∀ sources, (s.advance detourTree none sources).session.current = some "garden" ∧
          ¬ s.Follows (s.advance detourTree none sources).session first := by
  let gate : Node :=
    { id := "gate", kind := .conditional, title := "Gate", content := some "hasItem('key')" }
  let begun : Sources := { chance := fun _ => .zero, clock := .steady .zero }
  let s : Session := (Session.start detourTree begun).1
  have found : detourTree.find? gate.id = some gate := rfl
  have under : s.IsAt detourTree gate := ⟨rfl, rfl⟩
  have hold := Tree.repeated_branches_played detourTree
  have again : (gate.id, branchHandle false) ∈ detourTree.repeatedBranches := by decide
  obtain ⟨first, second, others, branch, played⟩ := hold.played gate false found again
  cases branch
  have reported : detourTree.branchIssue (gate.id, branchHandle false) ∈
      detourTree.connectionIssues.filter Issue.isRepeatedBranch :=
    hold.reported ▸ List.mem_map_of_mem again
  refine ⟨gate, _, _, found, rfl, (List.mem_filter.mp reported).1, s, ?_, under,
    fun sources => ?_⟩
  · exact (played_play _ _ [.start]).reachable
  · have hbody : gate.body = "hasItem" ++ "(" ++ Text.between '\'' "key" ++ ")" := by decide
    have reading : Condition.read gate.body = .ok (.predicate "hasItem" "key") := by
      rw [hbody]
      exact Condition.read_predicate (by decide) (by decide) (by decide)
    have decides : (evaluateCondition gate.body s.store sources).1 = false := by
      rw [evaluateCondition, reading]
      rfl
    have plays := played s none sources under.here decides
    refine ⟨(plays.moves under.running _ rfl).1, fun follows => ?_⟩
    exact plays.follows_iff.mp follows ⟨under.running, by decide, _, List.mem_singleton_self _, rfl⟩

end Colloquy
