import Colloquy.Proofs.Failure
import Colloquy.Proofs.Preview.Reply
import Colloquy.Proofs.Preview.Variables
import Colloquy.Proofs.Session.Presentable

/-!
# Answers

Every command that is complete has an answer, wherever lines have led a preview.  A line without an
error is complete, so the arguments and the response that a verb asks for are there; what is to be
shown of a session can be.  Only a statement that has to be recorded at no time takes the answer
away.

* `Preview.IsReachable`: the previews that lines lead to;
* `IsPresentable.changed`: a line keeps what can be presented so;
* `Preview.Answers`: a reply other than that there is no such command;
* `Preview.BreaksOffAt`: a statement has to be recorded at no time;
* `answers_handle`, `failed_handle`: a command has an answer unless it breaks off;
* `Preview.IsReachable.has_answer`: so has every line that has been read.
-/

namespace Colloquy

namespace Preview

variable {preview : Preview} {command : Command}

/-! ### Reachable previews -/

/-- The previews that lines lead to from the start of a tree, while the clock goes on. -/
inductive IsReachable : Preview → Prop
  | begun (tree : Tree) (characters : List Character) (forDevelopers : Bool) (sources : Sources) :
      IsReachable (.begin tree characters forDevelopers sources)
  | waited {preview : Preview} (clock : Clock) (reached : preview.IsReachable) :
      IsReachable { preview with sources := { preview.sources with clock } }
  | typed {preview : Preview} (line : String) (reached : preview.IsReachable) :
      IsReachable (preview.handleLine line).1

/-- A preview whose session can be presented. -/
def IsPresentable (preview : Preview) : Prop := preview.session.IsPresentable preview.tree

theorem IsPresentable.moved {after : Preview} (h : preview.IsPresentable)
    (moved : preview.Moved after) : after.IsPresentable := by
  cases moved with
  | still => exact h
  | restarted => exact Session.isPresentable_start preview.tree preview.sources
  | stopped => exact Session.isPresentable_fresh preview.tree
  | advanced selection => exact Session.IsPresentable.advance h selection preview.sources

theorem IsPresentable.jumped (h : preview.IsPresentable) (id : String) :
    (preview.jumped id).2.IsPresentable :=
  Session.IsPresentable.goto h id preview.sources

/-- Whatever a line does keeps a preview presentable. -/
theorem IsPresentable.changed {after : Preview} (h : preview.IsPresentable)
    (changed : preview.Changed after) : after.IsPresentable := by
  cases changed with
  | moved moved => exact h.moved moved
  | set name value =>
    have hshort := isShort_execute h.short ("setVar " ++ name ++ " " ++ value) preview.sources
    exact Session.IsPresentable.withStore h hshort
  | jumped id => exact h.jumped id
  | returned id => exact (h.moved .restarted).jumped id

theorem IsReachable.isPresentable (reached : preview.IsReachable) : preview.IsPresentable := by
  induction reached with
  | begun tree characters forDevelopers sources => exact Session.isPresentable_start tree sources
  | waited clock _ ih => exact ih
  | typed line _ ih => exact ih.changed (changed_handleLine _ line)

/-! ### Answers -/

/-- A reply other than that there is no such command, whose wording is the only one with a capital
`U` in front. -/
inductive Answers : Outcome → Prop
  | ok (after : Preview) (message : String) : Answers (after.ok message)
  | noEffect (after : Preview) (message : String) : Answers (after.noEffect message)
  | invalid (after : Preview) {message : String} (other : message.toList.head? ≠ some 'U') :
      Answers (after.invalid message)

/-- A statement has to be recorded at no time. -/
inductive BreaksOffAt (preview : Preview) (command : Command) : Prop
  /-- The script of the current node breaks off on leaving it. -/
  | script {node target : Node} (onward : command.verb = some .continue)
      (here : preview.session.IsAt preview.tree node) (kind : node.kind = .action)
      (leads : preview.tree.firstTarget? (preview.tree.outgoing node.id) = some target)
      (breaks : BreaksOff node.body preview.session.store preview.sources)
  /-- The statement that sets a variable for a developer cannot be carried out. -/
  | statement {name : String} {values : List String} (sets : command.verb = some .set)
      (allowed : preview.forDevelopers = true) (running : preview.session.isRunning = true)
      (arguments : command.arguments = name :: values)
      (lacks : LacksTime ("setVar " ++ name ++ " " ++ " ".intercalate values)
        preview.session.store preview.sources.clock)

theorem not_breaksOffAt_of_keepsTime (time : KeepsTime preview.sources.clock) :
    ¬ preview.BreaksOffAt command := by
  rintro (⟨-, -, -, -, breaks⟩ | ⟨-, -, -, -, lacks⟩)
  · exact not_breaksOff_of_keepsTime time breaks
  · exact lacks.now (time 0)

/-- An answer is a reply, and none that there is no such command. -/
theorem Answers.exists_reply {outcome : Outcome} (answers : Answers outcome) :
    (∃ reply, outcome.2 = .ok reply) ∧
      ∀ raw, outcome.2 ≠ .ok ⟨.invalid, "Unknown command '" ++ raw ++ "'."⟩ := by
  cases answers with
  | ok | noEffect => exact ⟨⟨_, rfl⟩, nofun⟩
  | invalid after other =>
    refine ⟨⟨_, rfl⟩, fun raw h => other ?_⟩
    cases h
    simp [String.toList_append]

/-- Why a conversation is not under way is told in other words. -/
theorem head_notPlaying? (h : preview.IsPresentable) {message : String}
    (away : preview.notPlaying? = some message) : message.toList.head? ≠ some 'U' := by
  unfold notPlaying? at away
  split at away
  · next status =>
    cases away
    simp only [describe, status]
    decide
  · next status =>
    cases away
    simp only [describe, status, h.told status]
    decide
  · cases away
    decide
  · cases away
  · cases away

/-! ### Going on -/

theorem goOn_of_fault {e : NumberError}
    (fault : (preview.session.advance preview.tree none preview.sources).fault = some e) :
    preview.goOn.2 = .error (.number e) := by
  unfold goOn
  dsimp only
  rw [fault]
  rfl

theorem answers_goOn
    (whole : (preview.session.advance preview.tree none preview.sources).fault = none) :
    Answers preview.goOn := by
  unfold goOn
  dsimp only
  rw [whole]
  dsimp only
  split
  · exact .noEffect _ _
  · exact .ok _ _

theorem answers_handleContinue (h : preview.IsPresentable)
    (whole : (preview.session.advance preview.tree none preview.sources).fault = none) :
    Answers preview.handleContinue := by
  unfold handleContinue
  split
  · next away => exact .invalid _ (head_notPlaying? h away)
  · split
    · exact .invalid _ (by decide)
    · exact answers_goOn whole

theorem handleContinue_of_fault {node : Node} {e : NumberError}
    (here : preview.session.IsAt preview.tree node) (kind : node.kind = .action)
    (fault : (preview.session.advance preview.tree none preview.sources).fault = some e) :
    preview.handleContinue.2 = .error (.number e) := by
  have playing := notPlaying?_eq_none_iff.mpr here.running
  have notChoice : ¬ preview.isAtChoice = true := by
    simp [isAtChoice, here.here, kind]
  unfold handleContinue
  rw [playing]
  dsimp only
  rw [if_neg notChoice]
  exact goOn_of_fault fault

/-! ### Responses -/

theorem answers_pick {node : Node} {index : Int} {response : Response}
    (here : preview.session.IsAt preview.tree node) (kind : node.kind = .playerChoice)
    (selected : Session.selected? (preview.tree.responses node) (some index) = some response) :
    Answers (preview.pick index response) := by
  unfold pick
  split
  · next enabled =>
    have hwhole := (Session.steps_advance_of_selected here kind selected enabled preview.sources).1
    dsimp only
    rw [hwhole]
    exact .ok _ _
  · exact .noEffect _ _

/-- An index that is not negative is refused or within the responses. -/
theorem answers_handleChoose (h : preview.IsPresentable) {index : Int} (nonneg : 0 ≤ index) :
    Answers (preview.handleChoose index) := by
  unfold handleChoose
  split
  · next away => exact .invalid _ (head_notPlaying? h away)
  · next playing =>
    dsimp only
    split
    · exact .invalid _ (by decide)
    · next offers =>
      obtain ⟨node, here, kind, hresponses⟩ :=
        exists_isAt_of_responses playing (mt List.isEmpty_iff.mpr offers)
      split
      · refine .invalid _ ?_
        change ("Choose a number between 1 and " ++ _ ++ ".").toList.head? ≠ some 'U'
        simp [String.toList_append]
      · next inRange =>
        have hlt : index.toNat < (preview.session.responses preview.tree).length := by omega
        have hindex : atIndex? (preview.session.responses preview.tree) index =
            some (preview.session.responses preview.tree)[index.toNat] := by
          rw [atIndex?, if_pos nonneg, List.getElem?_eq_getElem hlt]
        rw [hindex]
        refine answers_pick here kind ?_
        rw [← hresponses, Session.selected?, Option.bind_some, if_pos nonneg,
          List.getElem?_eq_getElem hlt]

/-! ### Looking back -/

theorem answers_handleStart (preview : Preview) : Answers preview.handleStart := by
  unfold handleStart
  split
  · exact .invalid _ (by decide)
  · exact .ok _ _

theorem answers_handleHistory (preview : Preview) : Answers preview.handleHistory := by
  unfold handleHistory
  dsimp only
  split
  · exact .noEffect _ _
  · exact .ok _ _

/-- The progress is a share of the nodes. -/
theorem answers_handleProgress (h : preview.IsPresentable) : Answers preview.handleProgress := by
  obtain ⟨percent, hpercent⟩ := Session.IsPresentable.exists_progress h
  unfold handleProgress
  rw [hpercent]
  exact .ok _ _

/-- The variables can be written. -/
theorem answers_handleVars (h : preview.IsPresentable) : Answers preview.handleVars := by
  have hlines : ∃ lines, (Store.sorted preview.session.store).mapM variableLine = .ok lines := by
    refine exists_mapM_eq_ok fun entry hentry => ?_
    have hmem : entry ∈ preview.session.store.toList := List.mem_mergeSort.mp hentry
    have hget : Store.get? preview.session.store entry.1 = some entry.2 := by
      rw [Store.get?, Roster.find?_of_mem hmem, Option.map_some]
    obtain ⟨text, htext⟩ := Value.exists_written (h.short _ _ hget)
    exact ⟨_, by rw [variableLine, htext]; rfl⟩
  obtain ⟨lines, hlines⟩ := hlines
  unfold handleVars
  split
  · exact .ok _ _
  · rw [hlines]
    exact .ok _ _

/-! ### Setting variables and jumping -/

section

variable {name value : String} {values arguments : List String}

/-- A variable that is set in a store that can be written is shown. -/
theorem exists_setVariable_ok (short : Store.IsShort preview.session.store)
    (whole : (execute ("setVar " ++ name ++ " " ++ value) preview.session.store
      preview.sources).fault = none) :
    ∃ after message, preview.setVariable name value = ok after message := by
  have hshort := isShort_execute short ("setVar " ++ name ++ " " ++ value) preview.sources
  unfold setVariable
  dsimp only
  rw [whole]
  dsimp only
  generalize (execute ("setVar " ++ name ++ " " ++ value) preview.session.store
    preview.sources).store = store at hshort ⊢
  have hshown : ∃ text, shownValue (Store.get? store name) = .ok text := by
    cases hget : Store.get? store name with
    | some v => exact Value.exists_written (hshort _ _ hget)
    | none => exact ⟨_, rfl⟩
  obtain ⟨text, htext⟩ := hshown
  rw [htext]
  exact ⟨_, _, rfl⟩

theorem answers_setVariable (h : preview.IsPresentable)
    (whole : (execute ("setVar " ++ name ++ " " ++ value) preview.session.store
      preview.sources).fault = none) : Answers (preview.setVariable name value) := by
  obtain ⟨after, message, hset⟩ := exists_setVariable_ok h.short whole
  rw [hset]
  exact .ok after message

theorem setVariable_of_fault {e : NumberError}
    (fault : (execute ("setVar " ++ name ++ " " ++ value) preview.session.store
      preview.sources).fault = some e) :
    (preview.setVariable name value).2 = .error (.number e) := by
  unfold setVariable
  dsimp only
  rw [fault]
  rfl

theorem answers_handleGoto (preview : Preview) (id : String) : Answers (preview.handleGoto id) := by
  unfold handleGoto
  split
  · exact .invalid _ (by simp [String.toList_append])
  · split <;> exact .ok _ _

end

/-! ### Commands -/

/-- A verb with all that it needs has an answer unless it breaks off. -/
theorem answers_perform {verb : Verb} (h : preview.IsPresentable) (complete : command.IsComplete)
    (asks : command.verb = some verb)
    (allowed : verb.isForDevelopers = true → preview.forDevelopers = true)
    (whole : ¬ preview.BreaksOffAt command) : Answers (preview.perform command verb) := by
  cases verb with
  | «continue» =>
    refine answers_handleContinue h (not_ne_iff.mp fun fault => ?_)
    obtain ⟨node, target, here, kind, leads, breaks⟩ := Session.fault_advance_iff.mp fault
    exact whole (.script asks here kind leads breaks)
  | choose =>
    obtain ⟨index, hindex, nonneg⟩ := complete.choose asks
    unfold perform
    simp only [hindex]
    exact answers_handleChoose h nonneg
  | start => exact answers_handleStart preview
  | restart | stop | help => exact .ok _ _
  | history => exact answers_handleHistory preview
  | progress => exact answers_handleProgress h
  | vars => exact answers_handleVars h
  | set =>
    obtain ⟨name, value, values, harguments⟩ := complete.set asks
    unfold perform
    simp only [harguments, handleSet]
    split
    · next away => exact .invalid _ (head_notPlaying? h away)
    · next playing =>
      refine answers_setVariable h (not_ne_iff.mp fun fault => ?_)
      have running := notPlaying?_eq_none_iff.mp playing
      exact whole (.statement asks (allowed rfl) running harguments (fault_execute_iff.mp fault))
  | goto =>
    obtain ⟨id, harguments⟩ := complete.goto asks
    unfold perform
    simp only [harguments]
    exact answers_handleGoto preview id

theorem answers_handle (h : preview.IsPresentable) (complete : command.IsComplete)
    (whole : ¬ preview.BreaksOffAt command) : Answers (preview.handle command) := by
  obtain ⟨verb, asks⟩ := complete.known
  unfold handle
  simp only [asks]
  split
  · exact .invalid _ (by simp [String.toList_append])
  · next hallowed =>
    refine answers_perform h complete asks (fun hdevelopers => ?_) whole
    simpa [hdevelopers] using hallowed

/-- A command that breaks off has no answer. -/
theorem failed_handle (breaks : preview.BreaksOffAt command) :
    ∃ e, (preview.handle command).2 = .error (.number e) := by
  cases breaks with
  | script onward here kind leads breaks =>
    have hfault : (preview.session.advance preview.tree none preview.sources).fault ≠ none :=
      Session.fault_advance_iff.mpr ⟨_, _, here, kind, leads, breaks⟩
    obtain ⟨e, he⟩ := Option.ne_none_iff_exists'.mp hfault
    refine ⟨e, ?_⟩
    rw [handle, onward]
    exact handleContinue_of_fault here kind he
  | statement sets allowed running arguments lacks =>
    obtain ⟨e, he⟩ := Option.ne_none_iff_exists'.mp (fault_execute_iff.mpr lacks)
    refine ⟨e, ?_⟩
    rw [handle, sets]
    dsimp only
    rw [allowed]
    simp only [Bool.not_true, Bool.and_false, Bool.false_eq_true, if_false, perform, handleSet,
      notPlaying?_eq_none_iff.mpr running, arguments]
    exact setVariable_of_fault he

/-- **Every line that has been read has an answer** at every point of a run of lines, and none that
there is no such command, unless a statement has to be recorded at no time; then the number of its
milliseconds fails.  The verb has the arguments that it asks for and no response has a negative
index; every integer in a variable can be written. -/
theorem IsReachable.has_answer (reached : preview.IsReachable) {line : String}
    (reading : Command.read line = .ok command) (fitting : command.error = none) :
    command.IsComplete ∧ Store.IsShort preview.session.store ∧
      ((∃ reply, (preview.handle command).2 = .ok reply) ↔ ¬ preview.BreaksOffAt command) ∧
      (∀ fault, (preview.handle command).2 = .error fault → ∃ e, fault = .number e) ∧
      (KeepsTime preview.sources.clock → ¬ preview.BreaksOffAt command) ∧
      ∀ raw, (preview.handle command).2 ≠ .ok ⟨.invalid, "Unknown command '" ++ raw ++ "'."⟩ := by
  have h := reached.isPresentable
  have complete := Command.isComplete_of_read reading fitting
  by_cases breaks : preview.BreaksOffAt command
  · obtain ⟨e, he⟩ := failed_handle breaks
    rw [he]
    refine ⟨complete, h.short, ⟨nofun, fun whole => absurd breaks whole⟩, fun fault hfault => ?_,
      not_breaksOffAt_of_keepsTime, nofun⟩
    exact ⟨e, (Except.error.inj hfault).symm⟩
  · obtain ⟨⟨reply, hreply⟩, hother⟩ := (answers_handle h complete breaks).exists_reply
    refine ⟨complete, h.short, ⟨fun _ => breaks, fun _ => ⟨reply, hreply⟩⟩, fun fault hfault => ?_,
      not_breaksOffAt_of_keepsTime, hother⟩
    rw [hreply] at hfault
    cases hfault

/-- A developer's preview of the dance while the clock shows the given time. -/
def atDance (clock : Double) : Preview :=
  .begin danceTree [] true { chance := fun _ => .zero, clock }

/-- The dance can be left at time zero, and cannot at the greatest finite time. -/
theorem has_answer_at_dance :
    let command : Command := { raw := "", verb := some .continue }
    let late : Double := .finite false 0x7FEFFFFFFFFFFFFF
    (atDance .zero).IsReachable ∧ (atDance late).IsReachable ∧
      Command.read "" = .ok command ∧ command.error = none ∧
      (∃ reply, ((atDance .zero).handle command).2 = .ok reply) ∧
      ¬ ∃ reply, ((atDance late).handle command).2 = .ok reply := by
  intro command late
  have early : (atDance .zero).IsReachable := .begun _ _ _ _
  have reached : (atDance late).IsReachable := .begun _ _ _ _
  have reading : Command.read "" = .ok command := rfl
  have fitting : command.error = none := rfl
  obtain ⟨-, -, hearly, -, htime, -⟩ := early.has_answer reading fitting
  obtain ⟨-, -, hlate, -, -, -⟩ := reached.has_answer reading fitting
  have steady (x : Double) : (atDance x).sources.clock.IsSteady := Clock.isSteady_steady x
  have timely : KeepsTime (atDance .zero).sources.clock :=
    (steady .zero).keepsTime_iff.mpr (by decide +kernel)
  refine ⟨early, reached, reading, fitting, hearly.mpr (htime timely), fun hreply => ?_⟩
  have timeless : ¬ ShowsTime (atDance late).sources.clock := by decide +kernel
  have breaks : BreaksOff danceNode.body (atDance late).session.store (atDance late).sources := by
    rw [← fault_executeScript_iff, executeScript_dance]
    exact fault_execute_dance (steady late) timeless _
  have here : (atDance late).session.IsAt danceTree danceNode := ⟨rfl, rfl⟩
  exact hlate.mp hreply
    (@BreaksOffAt.script _ _ danceNode { id := "end", kind := .ending, title := "End" } rfl here rfl
      rfl breaks)

end Preview

end Colloquy
