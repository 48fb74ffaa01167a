import Colloquy.Proofs.Script.Reading
import Colloquy.Tree.Issues

/-!
# Advice

For which trees advice can be given.  The advice reads every condition and every statement, so it
breaks off at the first one that cannot be read, and nothing else keeps it from being given.

* `Node.Unreadable`: a node whose condition or script cannot be read;
* `Node.failsAs_issues`: there is no advice about such a node;
* `Tree.issues_break_off`: nor about a tree with such a node.
-/

namespace Colloquy

open Text

/-! ### Nodes -/

namespace Node

variable {node : Node} {e : NumberError}

/-- A node whose condition or script cannot be read, and the failure that comes of it. -/
inductive Unreadable (node : Node) (e : NumberError) : Prop
  | condition (kind : node.kind = .conditional)
      (unreadable : Condition.Unreadable (trim node.body.toList) e)
  /-- The first statement that cannot be read fails. -/
  | script (kind : node.kind = .action)
      (unreadable : FirstFails (fun line => Action.Unreadable (trim line.toList))
        (scriptLines (strip node.body)) e)

theorem failsAs_conditionIssues (node : Node) :
    FailsAs node.conditionIssues (Condition.Unreadable (trim node.body.toList)) := by
  intro e
  unfold conditionIssues
  dsimp only
  split
  · next hempty =>
    -- an empty text is no comparison
    have htext : trim node.body.toList = [] := by
      rw [← toList_strip, String.isEmpty_iff.mp hempty]
      rfl
    rw [htext]
    refine ⟨nofun, ?_⟩
    rintro ⟨compares, -⟩
    generalize hs : ([] : List Char) = s at compares
    obtain @⟨gap, gap', identifier, -, related, -, -⟩ := compares
    simp [related] at hs
  · rw [map_eq_error_iff, Condition.read, toList_strip, trim_trim,
      Condition.readTrimmed_eq_error_iff]

theorem failsAs_statementIssues (node : Node) (line : String) :
    FailsAs (node.statementIssues line) (Action.Unreadable (trim line.toList)) := by
  intro e
  rw [statementIssues, map_eq_error_iff, Action.read,
    Action.readTrimmed_eq_error_iff (trim_trim _)]

/-- There is no advice about a node exactly if its condition or script cannot be read. -/
theorem failsAs_issues (node : Node) : FailsAs node.issues node.Unreadable := by
  have hscript : FailsAs node.scriptIssues (FirstFails
      (fun line => Action.Unreadable (trim line.toList)) (scriptLines (strip node.body))) := by
    unfold scriptIssues
    exact (FailsAs.mapM (failsAs_statementIssues node) _).map _
  intro e
  rw [issues, map_eq_error_iff, contentIssues]
  constructor
  · intro h
    split at h
    · cases h
    · cases h
    · next kind => exact .condition kind ((failsAs_conditionIssues node e).mp h)
    · next kind => exact .script kind ((hscript e).mp h)
    · cases h
  · rintro (⟨kind, unreadable⟩ | ⟨kind, unreadable⟩)
    · rw [kind]
      exact (failsAs_conditionIssues node e).mpr unreadable
    · rw [kind]
      exact (hscript e).mpr unreadable

end Node

/-! ### Trees -/

namespace Tree

/-- The advice about a tree fails with the first node that cannot be read. -/
theorem failsAs_issues (tree : Tree) :
    FailsAs tree.issues (FirstFails Node.Unreadable tree.nodes.toList) := by
  unfold issues
  split
  · next hempty =>
    have hnodes : tree.nodes.toList = [] := by simpa [Roster.isEmpty] using hempty
    rw [hnodes]
    exact fun e => ⟨nofun, nofun⟩
  · exact (FailsAs.mapM Node.failsAs_issues _).map _

/-- **There is advice about a tree exactly if all its conditions and scripts can be read.**
Otherwise it breaks off with the failure of the first node that cannot be read. -/
theorem issues_break_off (tree : Tree) :
    (∀ e, tree.issues = .error e ↔ FirstFails Node.Unreadable tree.nodes.toList e) ∧
      ((∃ issues, tree.issues = .ok issues) ↔
        ∀ node ∈ tree.nodes.toList, ∀ e, ¬ node.Unreadable e) := by
  refine ⟨failsAs_issues tree, ?_⟩
  rw [(failsAs_issues tree).exists_ok_iff, ← not_exists, exists_firstFails_iff]
  simp only [not_exists, not_and]

/-- A number with one digit more than the limit. -/
def longNumber : List Char := List.replicate (digitLimit + 1) '1'

/-- A gate that compares a variable with the long number. -/
def longGate : Tree where
  id := "gate"
  name := "Gate"
  nodes := .ofList
    [{ id := "gate", kind := .conditional, title := "Gate",
       content := some (String.ofList ('x' :: '>' :: longNumber)) }]

/-- There is no advice about the gate. -/
theorem issues_break_off_at_longGate :
    longGate.issues = .error (.tooManyDigits (digitLimit + 1)) := by
  have overlong : Overlong longNumber (.tooManyDigits (digitLimit + 1)) := by
    have hdigits : ∀ c ∈ longNumber, isDecimal c = true := by
      intro c hc
      rw [List.eq_of_mem_replicate hc]
      decide
    have hlength : longNumber.length = digitLimit + 1 := List.length_replicate
    rw [← hlength]
    exact @Overlong.literal [] longNumber (.inl rfl) hdigits (by omega)
  have compares : Condition.Compares ['x'] ['>'] longNumber ('x' :: '>' :: longNumber) :=
    @Condition.Compares.intro _ _ _ [] [] (by decide) nofun (by decide)
      (List.forall_mem_singleton.mpr (by decide)) nofun
  have trimmed : trim ('x' :: '>' :: longNumber) = 'x' :: '>' :: longNumber := by
    have hends := @trim_of_ends 'x' '1' ('>' :: List.replicate digitLimit '1') rfl rfl
    rwa [List.cons_append, ← List.replicate_succ'] at hends
  have unreadable : Condition.Unreadable
      (trim (String.ofList ('x' :: '>' :: longNumber)).toList)
      (.tooManyDigits (digitLimit + 1)) := by
    rw [String.toList_ofList, trimmed]
    exact .comparison compares overlong
  exact ((issues_break_off longGate).1 _).mpr (.here (.condition rfl unreadable))

end Tree

end Colloquy
