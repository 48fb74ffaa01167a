import Mathlib.Logic.Relation
import Colloquy.Proofs.Script.Lines
import Colloquy.Proofs.Script.Record

/-!
# Layouts of scripts

A script is a sequence of statements, whatever its text looks like.  Blanks around the text or one
of its lines do not matter, carriage returns before line feeds are such blanks, and lines without a
statement may stand anywhere.  These changes are all that there is: two texts have the same
statements exactly if such changes lead from one to the other.

* `stacked`, `withReturns`, `IsIdle`, `Relaid`: one change to the layout of a text;
* `statementsOf_stacked`: lines have the statements of each line, one after the other;
* `relaid_iff`: texts with the same statements are the same up to their layout;
* `Execution.resume`, `executeScript_append_lineFeed`: a script under another one is executed after
  it;
* `ComposesByLine`, `scripts_compose`: the laws of texts of scripts.
-/

namespace Colloquy

open Text

/-! ### Changes of layout -/

/-- Lines one under the other. -/
def stacked (ls : List (List Char)) : List Char := ['\n'].intercalate ls

/-- A text in which carriage returns stand before its line feeds. -/
def withReturns (s : List Char) : List Char := ['\r', '\n'].intercalate (lines s)

/-- A line without a statement: blanks only, or a comment behind blanks. -/
inductive IsIdle : List Char → Prop
  | blank {line : List Char} (blank : ∀ c ∈ line, isBlank c = true) : IsIdle line
  | comment {indent body : List Char} (blank : ∀ c ∈ indent, isBlank c = true)
      (line : '\n' ∉ body) : IsIdle (indent ++ '#' :: body)

/-- One change to the layout of a text. -/
inductive Relaid : List Char → List Char → Prop
  /-- The blanks around the text are dropped. -/
  | stripped (s : List Char) : Relaid s (trim s)
  /-- Its line feeds get carriage returns. -/
  | returned (s : List Char) : Relaid s (withReturns s)
  /-- Blanks are put before a line. -/
  | indented {indent : List Char} (blank : ∀ c ∈ indent, isBlank c = true)
      (above : List (List Char)) (line : List Char) (below : List (List Char)) :
      Relaid (stacked (above ++ line :: below)) (stacked (above ++ (indent ++ line) :: below))
  /-- Blanks are put behind a line. -/
  | trailed {gap : List Char} (blank : ∀ c ∈ gap, isBlank c = true)
      (above : List (List Char)) (line : List Char) (below : List (List Char)) :
      Relaid (stacked (above ++ line :: below)) (stacked (above ++ (line ++ gap) :: below))
  /-- A line without a statement is put between two lines, above them or below them. -/
  | interposed {line : List Char} (idle : IsIdle line) (above below : List (List Char)) :
      Relaid (stacked (above ++ below)) (stacked (above ++ line :: below))

/-! ### Statements of lines -/

section Statements

variable {s t line gap : List Char} {ls : List (List Char)}

/-- Lines with a gap before each line feed have the statements of each line. -/
theorem statementsOf_intercalate (hgap : ∀ c ∈ gap, isBlank c = true) (ls : List (List Char)) :
    statementsOf ((gap ++ ['\n']).intercalate ls) = ls.flatMap statementsOf := by
  induction ls with
  | nil => rfl
  | cons line rest ih =>
    cases rest with
    | nil => simp
    | cons next rest =>
      have hfeed : (gap ++ ['\n']).intercalate (line :: next :: rest) =
          (line ++ gap) ++ '\n' :: (gap ++ ['\n']).intercalate (next :: rest) := by
        simp [List.intercalate_cons_cons]
      rw [hfeed, statementsOf_append_lineFeed, statementsOf_append_blank hgap, ih]
      exact List.flatMap_cons.symm

/-- Lines have the statements of each line, one after the other. -/
theorem statementsOf_stacked (ls : List (List Char)) :
    statementsOf (stacked ls) = ls.flatMap statementsOf :=
  @statementsOf_intercalate [] nofun ls

/-- A text is its lines, one under the other. -/
theorem stacked_lines (s : List Char) : stacked (lines s) = s := List.intercalate_splitOn '\n'

theorem statementsOf_withReturns (s : List Char) :
    statementsOf (withReturns s) = statementsOf s := by
  have hreturn : ∀ c ∈ ['\r'], isBlank c = true := by simp
  calc statementsOf (withReturns s) = (lines s).flatMap statementsOf :=
        statementsOf_intercalate hreturn (lines s)
    _ = statementsOf (stacked (lines s)) := (statementsOf_stacked (lines s)).symm
    _ = statementsOf s := by rw [stacked_lines]

theorem IsIdle.statementsOf_eq_nil (idle : IsIdle line) : statementsOf line = [] := by
  cases idle with
  | blank blank => exact statementsOf_blank blank
  | @comment indent body blank hbody =>
    obtain ⟨rest, hrest⟩ := exists_trim_cons (by decide : isBlank '#' = false) body
    rw [statementsOf_blank_append blank, statementsOf_line (by simp [hbody]), hrest]
    rfl

/-- A line that is no statement is idle. -/
theorem isIdle_of_not_isStatement (hline : '\n' ∉ line) (h : isStatement (trim line) = false) :
    IsIdle line := by
  obtain ⟨before, after, hbefore, hafter, htext⟩ := exists_trim_append line
  cases htrim : trim line with
  | nil =>
    rw [htrim, List.nil_append] at htext
    rw [htext]
    exact .blank (List.forall_mem_append.mpr ⟨hbefore, hafter⟩)
  | cons c rest =>
    rw [htrim] at h htext
    obtain rfl : c = '#' := by simpa [isStatement] using h
    rw [htext, List.cons_append]
    refine .comment hbefore fun hbody => hline ?_
    rw [htext]
    simp [List.mem_append.mp hbody]

/-- One change of layout does not change the statements. -/
theorem Relaid.statementsOf_eq (h : Relaid s t) : statementsOf s = statementsOf t := by
  cases h with
  | stripped => exact (statementsOf_trim s).symm
  | returned => exact (statementsOf_withReturns s).symm
  | indented blank above line below =>
    simp only [statementsOf_stacked, List.flatMap_append, List.flatMap_cons,
      statementsOf_blank_append blank]
  | trailed blank above line below =>
    simp only [statementsOf_stacked, List.flatMap_append, List.flatMap_cons,
      statementsOf_append_blank blank]
  | interposed idle above below =>
    simp only [statementsOf_stacked, List.flatMap_append, List.flatMap_cons,
      idle.statementsOf_eq_nil, List.nil_append]

/-! ### Plain layout -/

/-- A line can be trimmed. -/
theorem eqvGen_relaid_trim (above : List (List Char)) (line : List Char)
    (below : List (List Char)) :
    Relation.EqvGen Relaid (stacked (above ++ line :: below))
      (stacked (above ++ trim line :: below)) := by
  obtain ⟨before, after, hbefore, hafter, htext⟩ := exists_trim_append line
  have htrailed := Relaid.trailed hafter above (trim line) below
  have hindented := Relaid.indented hbefore above (trim line ++ after) below
  rw [← htext] at hindented
  exact .symm _ _ ((Relation.EqvGen.rel _ _ htrailed).trans _ _ _ (.rel _ _ hindented))

/-- Lines can be trimmed, and those without a statement can be taken out. -/
theorem eqvGen_relaid_statements (above : List (List Char)) (hls : ∀ line ∈ ls, '\n' ∉ line) :
    Relation.EqvGen Relaid (stacked (above ++ ls))
      (stacked (above ++ (ls.map trim).filter isStatement)) := by
  induction ls generalizing above with
  | nil => exact .refl _
  | cons line rest ih =>
    obtain ⟨hline, hrest⟩ := List.forall_mem_cons.mp hls
    cases hstatement : isStatement (trim line) with
    | true =>
      -- the trimmed line joins those above, which are not touched any more
      have hothers := ih (above ++ [trim line]) hrest
      rw [List.append_assoc, List.append_assoc, List.singleton_append, List.singleton_append]
        at hothers
      rw [List.map_cons, List.filter_cons_of_pos hstatement]
      exact (eqvGen_relaid_trim above line rest).trans _ _ _ hothers
    | false =>
      have hidle := isIdle_of_not_isStatement hline hstatement
      rw [List.map_cons, List.filter_cons_of_neg (by simp [hstatement])]
      exact .trans _ _ _ (.symm _ _ (.rel _ _ (.interposed hidle above rest))) (ih above hrest)

/-- A text can be laid out as its bare statements. -/
theorem eqvGen_relaid_stacked (s : List Char) :
    Relation.EqvGen Relaid s (stacked (statementsOf s)) := by
  have h := eqvGen_relaid_statements [] fun line (hline : line ∈ lines s) =>
    lineFeed_notMem_of_mem_lines hline
  rwa [List.nil_append, stacked_lines] at h

/-- Texts have the same statements exactly if they differ in their layout only. -/
theorem relaid_iff : Relation.EqvGen Relaid s t ↔ statementsOf s = statementsOf t := by
  constructor
  · intro h
    induction h with
    | rel s t h => exact h.statementsOf_eq
    | refl => rfl
    | symm _ _ _ ih => exact ih.symm
    | trans _ _ _ _ _ first second => exact first.trans second
  · intro h
    have ht := eqvGen_relaid_stacked t
    rw [← h] at ht
    exact (eqvGen_relaid_stacked s).trans _ _ _ ht.symm

theorem statementsOf_stacked_statementsOf (s : List Char) :
    statementsOf (stacked (statementsOf s)) = statementsOf s :=
  (relaid_iff.mp (eqvGen_relaid_stacked s)).symm

end Statements

/-! ### Scripts one under the other -/

/-- Execute a script after what was executed, unless that broke off. -/
def Execution.resume (x : Execution) (script : String) : Execution :=
  match x.fault with
  | some _ => x
  | none => executeScript script x.store x.sources

section Scripts

variable {a b : String} {store : Store} {sources : Sources}

theorem Execution.resume_of_fault {x : Execution} (h : x.fault ≠ none) (script : String) :
    x.resume script = x := by
  obtain ⟨e, he⟩ := Option.ne_none_iff_exists'.mp h
  simp [resume, he]

theorem Execution.resume_of_running {x : Execution} (h : x.fault = none) (script : String) :
    x.resume script = executeScript script x.store x.sources := by
  simp [resume, h]

/-- A script is executed after others statement by statement. -/
theorem foldl_next_scriptLines (x : Execution) (script : String) :
    (scriptLines script).foldl Execution.next x = x.resume script := by
  by_cases hx : x.fault = none
  · rw [Execution.resume_of_running hx]
    obtain ⟨store, sources, fault⟩ := x
    subst hx
    rfl
  · rw [Execution.resume_of_fault hx, foldl_next_of_fault hx]

theorem scriptLines_append_lineFeed (a b : String) :
    scriptLines (a ++ "\n" ++ b) = scriptLines a ++ scriptLines b := by
  have htext : (a ++ "\n" ++ b).toList = a.toList ++ '\n' :: b.toList := by simp
  rw [scriptLines_eq, htext, statementsOf_append_lineFeed, List.map_append]
  rfl

/-- A script under another one is executed after it. -/
theorem executeScript_append_lineFeed (a b : String) (store : Store) (sources : Sources) :
    executeScript (a ++ "\n" ++ b) store sources = (executeScript a store sources).resume b := by
  rw [executeScript, scriptLines_append_lineFeed, executeLines_append, foldl_next_scriptLines]
  rfl

theorem executeScript_of_scriptLines_eq (h : scriptLines a = scriptLines b) (store : Store)
    (sources : Sources) : executeScript a store sources = executeScript b store sources := by
  rw [executeScript, executeScript, h]

theorem scriptLines_eq_iff :
    scriptLines a = scriptLines b ↔ statementsOf a.toList = statementsOf b.toList := by
  rw [scriptLines_eq, scriptLines_eq]
  exact (List.map_injective_iff.mpr fun _ _ => String.ofList_inj.mp).eq_iff

/-- The statements of a script, one on each line. -/
theorem toList_intercalate_scriptLines (a : String) :
    ("\n".intercalate (scriptLines a)).toList = stacked (statementsOf a.toList) := by
  simp [scriptLines_eq, stacked, Function.comp_def]

end Scripts

/-! ### The laws of texts of scripts -/

/-- How the text of a script composes with other texts, and which texts do the same. -/
structure ComposesByLine (a : String) (store : Store) (sources : Sources) : Prop where
  /-- Texts one under the other have the statements of both. -/
  scriptLines_append (b : String) : scriptLines (a ++ "\n" ++ b) = scriptLines a ++ scriptLines b
  /-- They are executed one after the other; if the first one breaks off, that ends both. -/
  execution_append (b : String) :
    executeScript (a ++ "\n" ++ b) store sources = (executeScript a store sources).resume b
  /-- If the first one is executed to its end and the clock stands still, they leave what the second
  one leaves after it. -/
  store_append (b : String) : sources.clock.IsSteady → ¬ BreaksOff a store sources →
    (executeScript (a ++ "\n" ++ b) store sources).store =
      (executeScript b (executeScript a store sources).store sources).store
  /-- If it is not, they leave what it leaves. -/
  store_append_of_breaksOff (b : String) : BreaksOff a store sources →
    (executeScript (a ++ "\n" ++ b) store sources).store = (executeScript a store sources).store
  /-- The statements, put on a line each, are the statements of a script again. -/
  scriptLines_rejoined : scriptLines ("\n".intercalate (scriptLines a)) = scriptLines a
  /-- They are all its lines, but for the one empty line of an empty script. -/
  lines_rejoined : scriptLines a ≠ [] →
    lines ("\n".intercalate (scriptLines a)).toList = (scriptLines a).map String.toList
  /-- A text has the same statements exactly if it differs in its layout only. -/
  relaid_iff_scriptLines (b : String) :
    Relation.EqvGen Relaid a.toList b.toList ↔ scriptLines b = scriptLines a
  /-- Then it does the same. -/
  execution_relaid (b : String) : Relation.EqvGen Relaid a.toList b.toList →
    executeScript b store sources = executeScript a store sources

/-- **Scripts compose line by line**, whatever their texts look like: the text of a script may be
cut at its line feeds, and it may be laid out in any way. -/
theorem scripts_compose (a : String) (store : Store) (sources : Sources) :
    ComposesByLine a store sources := by
  have hrelaid (b : String) :
      Relation.EqvGen Relaid a.toList b.toList ↔ scriptLines b = scriptLines a := by
    rw [relaid_iff, ← scriptLines_eq_iff]
    exact eq_comm
  constructor
  case scriptLines_append => exact scriptLines_append_lineFeed a
  case execution_append => exact fun b => executeScript_append_lineFeed a b store sources
  case store_append =>
    intro b steady whole
    have hrunning : (executeScript a store sources).fault = none :=
      not_not.mp (mt fault_executeScript_iff.mp whole)
    rw [executeScript_append_lineFeed, Execution.resume_of_running hrunning]
    -- the journal has grown and the clock was read, which does not matter to the second script
    obtain ⟨n, hclock⟩ := exists_clock_executeScript a store sources
    exact (executeScript_congr (hclock ▸ steady.agrees_after n) b _).1
  case store_append_of_breaksOff =>
    intro b breaks
    rw [executeScript_append_lineFeed,
      Execution.resume_of_fault (fault_executeScript_iff.mpr breaks)]
  case scriptLines_rejoined =>
    rw [scriptLines_eq_iff, toList_intercalate_scriptLines, statementsOf_stacked_statementsOf]
  case lines_rejoined =>
    intro some
    have hsome : statementsOf a.toList ≠ [] := fun hnil => some (by rw [scriptLines_eq, hnil]; rfl)
    have hlines : lines (stacked (statementsOf a.toList)) = statementsOf a.toList :=
      List.splitOn_intercalate '\n'
        (fun _ hline => lineFeed_notMem_of_mem_statementsOf hline) hsome
    rw [toList_intercalate_scriptLines, hlines, scriptLines_eq]
    simp [Function.comp_def]
  case relaid_iff_scriptLines => exact hrelaid
  case execution_relaid =>
    exact fun b h => executeScript_of_scriptLines_eq ((hrelaid b).mp h) store sources

/-- Sources whose clock shows the first moment. -/
def firstMoment : Sources where
  chance _ := .zero
  clock := .steady .zero

/-- Sources whose clock shows the greatest finite time, which has no milliseconds. -/
def lastMoment : Sources where
  chance _ := .zero
  clock := .steady (.finite false ⟨0x7FEFFFFFFFFFFFFF, by decide⟩)

/-- A statement that is recorded, above one that is carried out: both are done at the first moment,
neither at the last one.  The first one may stand behind a comment and between blanks that end lines
elsewhere. -/
theorem scripts_compose_of_dance :
    (¬ BreaksOff "dance" .empty firstMoment ∧
      (executeScript "dance\naddItem key" .empty firstMoment).store =
        Store.set (Store.set .empty "action_0" (.text "dance")) "item_key" (.flag true)) ∧
    (BreaksOff "dance" .empty lastMoment ∧
      (executeScript "dance\naddItem key" .empty lastMoment).store = .empty) ∧
    Relation.EqvGen Relaid "dance".toList "\u2028\n # first\r\n\u2003dance\x0b\r\n".toList := by
  have compose := scripts_compose "dance" .empty firstMoment
  have compose' := scripts_compose "dance" .empty lastMoment
  have steady : firstMoment.clock.IsSteady := Clock.isSteady_steady .zero
  have whole : ¬ BreaksOff "dance" .empty firstMoment :=
    not_breaksOff_of_keepsTime (steady.keepsTime_iff.mpr (by decide +kernel))
  have breaks : BreaksOff "dance" .empty lastMoment :=
    fault_executeScript_iff.mp (by decide +kernel)
  refine ⟨⟨whole, ?_⟩, ⟨breaks, ?_⟩, ?_⟩
  · exact (compose.store_append "addItem key" steady whole).trans (by decide +kernel)
  · exact (compose'.store_append_of_breaksOff "addItem key" breaks).trans (by decide +kernel)
  · exact (compose.relaid_iff_scriptLines _).mpr (by decide +kernel)

end Colloquy
