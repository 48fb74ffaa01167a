import Colloquy.Tree.Issues

/-!
# Repeated branches

The branches of conditional nodes that the advice about a tree calls repeated.  The advice goes
through the connections with the branches that it has seen, so a branch is reported once for each
connection that takes it, except for the first one.

* `Tree.branchOf?`: the branch that a connection takes;
* `repeatedAfter`, `count_repeatedAfter`: what comes again in a list;
* `Tree.repeatedBranches`, `repeated_connectionIssues`: the reported branches are those that come
  again;
* `mem_repeatedBranches_iff`: they are the branches of conditional nodes with more than one
  connection.
-/

namespace Colloquy

/-- Whether an issue is about a branch that has several connections. -/
def Issue.isRepeatedBranch : Issue → Bool
  | .repeatedBranch _ _ => true
  | _ => false

namespace Tree

/-- The branch that a connection of a tree takes from an existing node, if it takes one. -/
def branchOf? (tree : Tree) (c : Connection) : Option Branch :=
  (tree.find? c.source).bind fun node => branch? node c

/-- The items of a list that have been seen before it or earlier in it, once for each time that they
come again. -/
def repeatedAfter (seen : List Branch) : List Branch → List Branch
  | [] => []
  | b :: rest =>
    if b ∈ seen then b :: repeatedAfter (b :: seen) rest else repeatedAfter (b :: seen) rest

/-- The branches that connections of a tree take again. -/
def repeatedBranches (tree : Tree) : List Branch :=
  repeatedAfter [] (tree.connections.filterMap tree.branchOf?)

/-- The issue that a branch of a node is repeated. -/
def branchIssue (tree : Tree) (b : Branch) : Issue :=
  .repeatedBranch (((tree.find? b.1).map Node.label).getD b.1) b.2

variable {tree : Tree} {node : Node} {c : Connection} {b : Branch} {verdict : Bool}

/-! ### Branches that come again -/

theorem count_repeatedAfter (b : Branch) (seen branches : List Branch) :
    (repeatedAfter seen branches).count b =
      if b ∈ seen then branches.count b else branches.count b - 1 := by
  -- what has been seen grows along the list, so it varies in the induction
  induction branches generalizing seen with
  | nil => simp [repeatedAfter]
  | cons a rest ih =>
    unfold repeatedAfter
    by_cases hab : a = b
    · subst hab
      by_cases hseen : a ∈ seen <;> simp [hseen, ih]
    · have hmem : b ∈ a :: seen ↔ b ∈ seen := by simp [Ne.symm hab]
      by_cases hseen : a ∈ seen <;> simp [hseen, ih, hmem, List.count_cons_of_ne hab]

/-- What comes more than once comes again. -/
theorem mem_repeatedAfter_nil_iff {branches : List Branch} :
    b ∈ repeatedAfter [] branches ↔ 1 < branches.count b := by
  rw [← List.count_pos_iff, count_repeatedAfter, if_neg List.not_mem_nil]
  omega

/-! ### Reports -/

theorem isRepeatedBranch_issueIf {found : Bool} {issue : Issue}
    (h : issue.isRepeatedBranch = false) :
    (issueIf found issue).filter Issue.isRepeatedBranch = [] := by
  cases found <;> simp [h]

/-- What a connection takes and what is found about it. -/
theorem repeated_departureIssues (seen : List Branch) (found : tree.find? c.source = some node) :
    (departureIssues seen node c).filter Issue.isRepeatedBranch =
      ((branch? node c).toList.filter (· ∈ seen)).map tree.branchIssue := by
  cases kind : node.kind with
  | conditional =>
    simp only [departureIssues, kind]
    cases hbranch : branch? node c with
    | none => rfl
    | some b =>
      have hid : tree.find? b.1 = some node := by
        simp only [branch?, kind, true_and] at hbranch
        split at hbranch
        · obtain ⟨handle, -, rfl⟩ := Option.map_eq_some_iff.mp hbranch
          rwa [id_of_find? found]
        · cases hbranch
      have hissue : tree.branchIssue b = .repeatedBranch node.label b.2 := by
        rw [branchIssue, hid, Option.map_some, Option.getD_some]
      by_cases hseen : b ∈ seen <;> simp [hseen, hissue, Issue.isRepeatedBranch]
  | playerChoice =>
    have hbranch : branch? node c = none := by simp [branch?, kind]
    simp only [departureIssues, kind, hbranch]
    exact isRepeatedBranch_issueIf rfl
  | npc | action | ending =>
    have hbranch : branch? node c = none := by simp [branch?, kind]
    simp only [departureIssues, kind, hbranch]
    rfl

theorem repeated_issuesOfConnections (tree : Tree) (seen : List Branch)
    (connections : List Connection) :
    (tree.issuesOfConnections seen connections).filter Issue.isRepeatedBranch =
      (repeatedAfter seen (connections.filterMap tree.branchOf?)).map tree.branchIssue := by
  induction connections generalizing seen with
  | nil => rfl
  | cons c rest ih =>
    rw [issuesOfConnections]
    cases found : tree.find? c.source with
    | none =>
      have hbranch : tree.branchOf? c = none := by rw [branchOf?, found, Option.bind_none]
      rw [List.filterMap_cons_none hbranch]
      exact ih seen
    | some node =>
      have hbranch : tree.branchOf? c = branch? node c := by rw [branchOf?, found, Option.bind_some]
      have htarget :
          (issueIf (!tree.has c.target) (.targetMissing c.id node.label c.target)).filter
            Issue.isRepeatedBranch = [] := isRepeatedBranch_issueIf rfl
      simp only [List.filter_append, repeated_departureIssues seen found, ih, htarget,
        List.nil_append]
      cases hc : branch? node c with
      | none => rw [List.filterMap_cons_none (hbranch.trans hc)]; rfl
      | some b =>
        rw [List.filterMap_cons_some (hbranch.trans hc), repeatedAfter]
        by_cases hseen : b ∈ seen <;> simp [hseen]

/-- The reports about branches are those about the branches that are taken again. -/
theorem repeated_connectionIssues (tree : Tree) :
    tree.connectionIssues.filter Issue.isRepeatedBranch =
      tree.repeatedBranches.map tree.branchIssue :=
  tree.repeated_issuesOfConnections [] tree.connections

/-! ### Reported branches -/

theorem isBranchHandle_iff {handle : Option String} :
    isBranchHandle handle = true ↔ ∃ verdict, handle = some (branchHandle verdict) := by
  rw [isBranchHandle, Bool.or_eq_true, beq_iff_eq, beq_iff_eq, Bool.exists_bool, or_comm]

/-- A connection takes the branch of its handle from the conditional node where it starts. -/
theorem branchOf?_eq_some_iff :
    tree.branchOf? c = some b ↔
      ∃ node verdict, tree.find? node.id = some node ∧ node.kind = .conditional ∧
        b = (node.id, branchHandle verdict) ∧ c.source = node.id ∧
        c.sourceHandle = some (branchHandle verdict) := by
  constructor
  · intro h
    obtain ⟨node, found, hbranch⟩ := Option.bind_eq_some_iff.mp h
    unfold branch? at hbranch
    split at hbranch
    · next hnode =>
      obtain ⟨kind, hhandle⟩ := hnode
      obtain ⟨verdict, hverdict⟩ := isBranchHandle_iff.mp hhandle
      rw [hverdict, Option.map_some] at hbranch
      have hid := id_of_find? found
      exact ⟨node, verdict, hid ▸ found, kind, (Option.some.inj hbranch).symm, hid.symm, hverdict⟩
    · cases hbranch
  · rintro ⟨node, verdict, found, kind, rfl, hsource, hverdict⟩
    have hhandle := isBranchHandle_iff.mpr ⟨verdict, hverdict⟩
    rw [branchOf?, hsource, found, Option.bind_some, branch?, if_pos ⟨kind, hhandle⟩, hverdict,
      Option.map_some]

/-- As many connections take a branch of a conditional node as start at its handle. -/
theorem count_branches (found : tree.find? node.id = some node) (kind : node.kind = .conditional)
    (verdict : Bool) :
    (tree.connections.filterMap tree.branchOf?).count (node.id, branchHandle verdict) =
      (tree.outgoingFrom node.id (branchHandle verdict)).length := by
  rw [List.count_eq_countP, List.countP_filterMap, outgoingFrom, outgoing, List.filter_filter,
    ← List.countP_eq_length_filter]
  refine List.countP_congr fun c _ => ?_
  have htakes : tree.branchOf? c = some (node.id, branchHandle verdict) ↔
      c.source = node.id ∧ c.sourceHandle = some (branchHandle verdict) := by
    rw [branchOf?_eq_some_iff]
    constructor
    · rintro ⟨other, verdict', -, -, hb, hsource, hhandle⟩
      obtain ⟨hid, hverdict⟩ := Prod.mk.inj hb
      rw [hid, hverdict]
      exact ⟨hsource, hhandle⟩
    · rintro ⟨hsource, hhandle⟩
      exact ⟨node, verdict, found, kind, rfl, hsource, hhandle⟩
  rw [Bool.and_eq_true, beq_iff_eq, beq_iff_eq, and_comm, ← htakes]
  cases tree.branchOf? c <;> simp

/-- A branch is reported exactly if it is one of a conditional node and several connections take
it. -/
theorem mem_repeatedBranches_iff :
    b ∈ tree.repeatedBranches ↔
      ∃ node verdict, tree.find? node.id = some node ∧ node.kind = .conditional ∧
        b = (node.id, branchHandle verdict) ∧
        1 < (tree.outgoingFrom node.id (branchHandle verdict)).length := by
  rw [repeatedBranches, mem_repeatedAfter_nil_iff]
  constructor
  · intro h
    obtain ⟨c, -, hc⟩ := List.mem_filterMap.mp (List.count_pos_iff.mp (Nat.zero_lt_of_lt h))
    obtain ⟨node, verdict, found, kind, rfl, -⟩ := branchOf?_eq_some_iff.mp hc
    exact ⟨node, verdict, found, kind, rfl, (count_branches found kind verdict) ▸ h⟩
  · rintro ⟨node, verdict, found, kind, rfl, h⟩
    rwa [count_branches found kind verdict]

end Tree

end Colloquy
