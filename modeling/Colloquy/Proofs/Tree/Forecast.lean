import Colloquy.Proofs.Script.Kept
import Colloquy.Proofs.Success
import Colloquy.Script.Evaluation
import Colloquy.Tree.Issues

/-!
# Forecasts

The advice about a node says what will become of its condition or its script.  The statements that
it calls unknown are those that are kept when the script is executed, and it calls a condition
missing or unresolved exactly if the condition is left to chance whatever the store.

* `Node.IsReadable`: the texts of a node can be read;
* `reportedStatements`, `Issue.isAboutCondition`: what the advice says;
* `IsLeftToChance`: chance decides about a condition in every store;
* `Node.scriptIssues_eq`, `Node.conditionIssues_eq`: the advice about a readable node;
* `isLeftToChance_iff`: unresolved conditions alone are left to chance;
* `Node.issues_forecast`: the advice comes true.
-/

namespace Colloquy

open Text

/-! ### What the advice says -/

/-- The condition or the statements of a node can be read. -/
def Node.IsReadable (node : Node) : Prop :=
  match node.kind with
  | .conditional => ∃ condition, Condition.read node.body = .ok condition
  | .action => ∀ line ∈ scriptLines node.body, ∃ action, Action.read line = .ok action
  | _ => True

/-- The statement that an issue calls unknown. -/
def Issue.unknownStatement? : Issue → Option String
  | .unknownAction line _ => some line
  | _ => none

/-- The statements that issues call unknown, in order. -/
def reportedStatements (issues : List Issue) : List String :=
  issues.filterMap Issue.unknownStatement?

/-- Whether an issue calls a condition missing or unresolved. -/
def Issue.isAboutCondition : Issue → Bool
  | .noCondition _ | .unresolvedCondition _ _ => true
  | _ => false

/-- Chance decides about a text as a condition, and is asked once, in every store. -/
def IsLeftToChance (text : String) : Prop :=
  ∀ (store : Store) (sources : Sources),
    (evaluateCondition text store sources).2.draws = sources.draws + 1

/-! ### Conditions -/

section Conditions

variable {text : String} {condition : Condition}

theorem Condition.read_strip (text : String) : read (strip text) = read text := by
  rw [read, read, toList_strip, trim_trim]

/-- A readable condition is left to chance exactly if it is unresolved.  A name alone is decided by
chance only in the stores that do not have it. -/
theorem isLeftToChance_iff (reading : Condition.read text = .ok condition) :
    IsLeftToChance text ↔ condition.isUnresolved = true := by
  have hdraws (store : Store) (sources : Sources) :
      (evaluateCondition text store sources).2 = (condition.evaluate store sources).2 := by
    rw [evaluateCondition, reading]
  let quiet : Sources := { chance := fun _ => .zero, clock := .steady .zero }
  constructor
  · intro h
    cases condition with
    | «variable» name =>
      have hasked := h (Store.set .empty name (.flag true)) quiet
      rw [hdraws, Condition.evaluate, Store.get?_set_self] at hasked
      cases hasked
    | comparison | predicate =>
      have hasked := h .empty quiet
      rw [hdraws] at hasked
      cases hasked
    | unresolved body => rfl
  · intro hunresolved store sources
    rw [hdraws]
    cases condition with
    | unresolved body => exact Condition.draws_simulate body sources
    | «variable» | comparison | predicate => cases hunresolved

end Conditions

/-! ### Nodes -/

namespace Node

variable {node : Node}

/-- The advice about a conditional node whose condition can be read. -/
theorem conditionIssues_eq {condition : Condition}
    (reading : Condition.read node.body = .ok condition) :
    ∃ found, node.conditionIssues = .ok found ∧
      ((∃ issue ∈ found, issue.isAboutCondition = true) ↔ condition.isUnresolved = true) := by
  unfold conditionIssues
  dsimp only
  split
  · next hempty =>
    -- a condition without text is an unresolved one
    have hnone : Condition.read node.body = .ok (.unresolved "") := by
      rw [← Condition.read_strip, String.isEmpty_iff.mp hempty]
      rfl
    rw [hnone] at reading
    cases reading
    exact ⟨_, rfl, by simp [Issue.isAboutCondition, Condition.isUnresolved]⟩
  · rw [Condition.read_strip, reading]
    refine ⟨_, rfl, ?_⟩
    simp [mem_issueIf, Issue.isAboutCondition]

/-- The advice about an action node whose statements can be read. -/
theorem scriptIssues_eq
    (readable : ∀ line ∈ scriptLines node.body, ∃ action, Action.read line = .ok action) :
    node.scriptIssues =
      .ok (issueIf (strip node.body).isEmpty (.noAction node.label) ++
        (scriptLines node.body).flatMap fun line =>
          issueIf (isUnknownStatement line) (.unknownAction line node.label)) := by
  have hstatements : (scriptLines node.body).mapM node.statementIssues =
      .ok ((scriptLines node.body).map fun line =>
        issueIf (isUnknownStatement line) (.unknownAction line node.label)) := by
    refine mapM_eq_ok_map fun line hline => ?_
    obtain ⟨action, reading⟩ := readable line hline
    rw [statementIssues, isUnknownStatement, reading]
    rfl
  rw [scriptIssues, scriptLines_strip, hstatements, List.flatMap_def]
  rfl

theorem reportedStatements_append (found others : List Issue) :
    reportedStatements (found ++ others) = reportedStatements found ++ reportedStatements others :=
  List.filterMap_append

theorem reportedStatements_issueIf {issue : Issue} (b : Bool)
    (h : issue.unknownStatement? = none) : reportedStatements (issueIf b issue) = [] := by
  cases b with
  | false => rfl
  | true => simp [reportedStatements, h]

theorem reportedStatements_flatMap (lines : List String) (label : String) :
    reportedStatements (lines.flatMap fun line =>
      issueIf (isUnknownStatement line) (.unknownAction line label)) =
        lines.filter isUnknownStatement := by
  rw [flatMap_issueIf, reportedStatements, List.filterMap_map]
  exact List.filterMap_some

/-- **The advice about a node comes true**, for every node whose texts can be read.  The statements
that it calls unknown are, in order, those that are kept when the script is executed, in whatever
store, as long as the clock always shows a time; no others are kept in any case, and none at all if
the clock never shows one.  It calls a condition missing or unresolved exactly if chance decides
about it in every store. -/
theorem issues_forecast (node : Node) (readable : node.IsReadable) :
    ∃ found, node.issues = .ok found ∧
      (node.kind = .action → ∀ store sources,
        (KeepsTime sources.clock →
          keptStatements node.body store sources = reportedStatements found) ∧
        (keptStatements node.body store sources).Sublist (reportedStatements found) ∧
        ((∀ k, ¬ ShowsTime (sources.clock.after k)) →
          keptStatements node.body store sources = [])) ∧
      (node.kind = .conditional →
        ((∃ issue ∈ found, issue.isAboutCondition = true) ↔ IsLeftToChance node.body)) := by
  unfold IsReadable at readable
  unfold issues contentIssues
  cases hkind : node.kind with
  | npc | playerChoice | ending => exact ⟨_, rfl, nofun, nofun⟩
  | conditional =>
    rw [hkind] at readable
    obtain ⟨condition, reading⟩ := readable
    obtain ⟨found, hfound, habout⟩ := conditionIssues_eq reading
    refine ⟨_, congrArg (Except.map _) hfound, nofun, fun _ => ?_⟩
    rw [isLeftToChance_iff reading, ← habout]
    -- what is said about the title is not about the condition
    simp [mem_issueIf, or_and_right, exists_or, Issue.isAboutCondition]
  | action =>
    rw [hkind] at readable
    refine ⟨_, congrArg (Except.map _) (scriptIssues_eq readable), fun _ store sources => ?_, nofun⟩
    have hreported (untitled empty : Bool) :
        reportedStatements (issueIf untitled (.untitled node.id) ++
          (issueIf empty (.noAction node.label) ++
            (scriptLines node.body).flatMap fun line =>
              issueIf (isUnknownStatement line) (.unknownAction line node.label))) =
          (scriptLines node.body).filter isUnknownStatement := by
      rw [reportedStatements_append, reportedStatements_append, reportedStatements_issueIf _ rfl,
        reportedStatements_issueIf _ rfl, reportedStatements_flatMap, List.nil_append,
        List.nil_append]
    have trimmed : ∀ line ∈ scriptLines node.body, trim line.toList = line.toList :=
      fun line => trim_of_mem_scriptLines
    rw [hreported]
    exact ⟨fun time => Execution.kept_eq_filter rfl time trimmed,
      Execution.kept_sublist _ trimmed, @Execution.kept_eq_nil { store, sources } _⟩

/-- A script with blanks around it and a comment between two unknown statements. -/
def rehearsal : Node where
  id := "r"
  kind := .action
  title := "Rehearsal"
  content := some "\n setVar x 1\n dance \n# rest\nsing\n "

/-- Both unknown statements are reported, and both are kept in every store. -/
theorem issues_forecast_of_rehearsal :
    rehearsal.IsReadable ∧ ∃ found, rehearsal.issues = .ok found ∧
      reportedStatements found = ["dance", "sing"] ∧
        ∀ store, keptStatements rehearsal.body store
          { chance := fun _ => .zero, clock := .steady .zero } = ["dance", "sing"] := by
  have hlines : scriptLines rehearsal.body = ["setVar x 1", "dance", "sing"] := by decide +kernel
  have readable : rehearsal.IsReadable := by
    change ∀ line ∈ scriptLines rehearsal.body, ∃ action, Action.read line = .ok action
    rw [hlines]
    simp only [List.forall_mem_cons]
    exact ⟨⟨_, rfl⟩, ⟨_, rfl⟩, ⟨_, rfl⟩, nofun⟩
  have hissues : rehearsal.issues =
      .ok [.unknownAction "dance" "Rehearsal", .unknownAction "sing" "Rehearsal"] := by
    decide +kernel
  obtain ⟨found, hfound, hkept, -⟩ := issues_forecast rehearsal readable
  have htime : KeepsTime (.steady .zero) :=
    (Clock.isSteady_steady _).keepsTime_iff.mpr (by decide +kernel)
  rw [hissues] at hfound
  cases hfound
  refine ⟨readable, _, hissues, rfl, fun store => ?_⟩
  rw [(hkept rfl store _).1 htime]
  rfl

end Node

end Colloquy
