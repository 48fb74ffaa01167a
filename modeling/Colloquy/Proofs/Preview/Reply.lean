import Colloquy.Proofs.Command.Reading
import Colloquy.Proofs.Session.Standing

/-!
# Replies

What a reply tells about the session, whatever the preview and the line.  Nothing here asks how the
preview came about, so its tree may have been edited between any two lines.

* `Session.StaysAt`: a session is still where it was;
* `Session.Ends`, `ends_advance`: the three ways in which going on ends;
* `Preview.Tells`: what a reply says by not being `ok`;
* `Preview.OkIffSteps`: a reply is `ok` exactly if the session is one step further;
* `Preview.Answered`, `answered_handleLine`: how a line that asks to go on is answered;
* `Preview.reply_tells`: every line has a reply of the first kind, and every line that asks to go on
  has one of the second.
-/

namespace Colloquy

/-! ### Sessions -/

namespace Session

/-- A session is where it was before: only its status and its message may be new. -/
structure StaysAt (s s' : Session) : Prop where
  current : s'.current = s.current
  visited : s'.visited = s.visited
  store : s'.store = s.store
  history : s'.history = s.history

/-- How the turn of a session ends. -/
inductive Ends (s : Session) (turn : Turn) : Prop
  /-- The session is still where it was. -/
  | stays (whole : turn.fault = none) (still : s.StaysAt turn.session)
  /-- It is one step further. -/
  | steps {entry : HistoryEntry} (whole : turn.fault = none)
      (history : turn.session.history = s.history ++ [entry])
  /-- A script has broken off. -/
  | breaks {e : NumberError} (fault : turn.fault = some e)
      (history : turn.session.history = s.history)

theorem StaysAt.rfl {s : Session} : s.StaysAt s := ⟨.refl _, .refl _, .refl _, .refl _⟩

/-- Going on ends in one of the three ways. -/
theorem ends_advance (s : Session) (tree : Tree) (selection : Option Int) (sources : Sources) :
    s.Ends (s.advance tree selection sources) := by
  have honward := onward_advance tree s selection sources
  generalize s.advance tree selection sources = turn at honward ⊢
  cases honward with
  | moved => exact .steps (.refl _) (.refl _)
  | broken => exact .breaks (.refl _) (.refl _)
  | _ => exact .stays (.refl _) ⟨.refl _, .refl _, .refl _, .refl _⟩

/-- A session goes one step further with an enabled response. -/
theorem steps_advance_of_selected {s : Session} {tree : Tree} {node : Node} {response : Response}
    {selection : Option Int} (here : s.IsAt tree node) (kind : node.kind = .playerChoice)
    (selected : selected? (tree.responses node) selection = some response)
    (enabled : response.isEnabled = true) (sources : Sources) :
    (s.advance tree selection sources).fault = none ∧
      ∃ entry, (s.advance tree selection sources).session.history = s.history ++ [entry] := by
  obtain ⟨target, htarget⟩ := Option.isSome_iff_exists.mp enabled
  rw [advance_of_playerChoice here kind]
  simp only [advanceChoice, selected, htarget]
  exact ⟨.refl _, _, .refl _⟩

end Session

/-! ### Replies -/

namespace Preview

variable {preview : Preview} {outcome : Outcome} {command : Command} {index : Int}

/-- What a reply says by not being `ok`. -/
structure Tells (preview : Preview) (outcome : Outcome) : Prop where
  /-- A command that cannot be given leaves everything as it is. -/
  invalid : ∀ message, outcome.2 = .ok ⟨.invalid, message⟩ → outcome.1 = preview
  /-- A command without effect leaves the session where it was. -/
  noEffect : ∀ message, outcome.2 = .ok ⟨.noEffect, message⟩ →
    preview.session.StaysAt outcome.1.session

/-- A reply is `ok` exactly if the history has grown by one entry. -/
def OkIffSteps (preview : Preview) (outcome : Outcome) : Prop :=
  (∃ message, outcome.2 = .ok ⟨.ok, message⟩) ↔
    ∃ entry, outcome.1.session.history = preview.session.history ++ [entry]

/-- How a command to go on is answered. -/
inductive Answered (preview : Preview) : Outcome → Prop
  /-- It cannot be given. -/
  | refused (message : String) : Answered preview (preview.invalid message)
  /-- The session is still where it was. -/
  | still {after : Preview} (still : preview.session.StaysAt after.session) (message : String) :
      Answered preview (after.noEffect message)
  /-- The session is one step further. -/
  | stepped {after : Preview} {entry : HistoryEntry}
      (history : after.session.history = preview.session.history ++ [entry]) (message : String) :
      Answered preview (after.ok message)
  /-- A script has broken off. -/
  | broken {after : Preview} (history : after.session.history = preview.session.history)
      (fault : CommandFault) : Answered preview (after.failed fault)

theorem tells_ok (preview after : Preview) (message : String) :
    preview.Tells (after.ok message) := ⟨nofun, nofun⟩

theorem tells_failed (preview after : Preview) (fault : CommandFault) :
    preview.Tells (after.failed fault) := ⟨nofun, nofun⟩

theorem tells_invalid (preview : Preview) (message : String) :
    preview.Tells (preview.invalid message) := ⟨fun _ _ => rfl, nofun⟩

theorem tells_noEffect {after : Preview} (still : preview.session.StaysAt after.session)
    (message : String) : preview.Tells (after.noEffect message) := ⟨nofun, fun _ _ => still⟩

theorem Answered.tells (answered : preview.Answered outcome) : preview.Tells outcome := by
  cases answered with
  | refused message => exact tells_invalid preview message
  | still still message => exact tells_noEffect still message
  | stepped _ message => exact tells_ok preview _ message
  | broken _ fault => exact tells_failed preview _ fault

theorem okIffSteps_of_unmoved (history : outcome.1.session.history = preview.session.history)
    (notOk : ∀ message, outcome.2 ≠ .ok ⟨.ok, message⟩) : preview.OkIffSteps outcome := by
  constructor
  · rintro ⟨message, hok⟩
    exact absurd hok (notOk message)
  · rintro ⟨entry, hentry⟩
    rw [history] at hentry
    simp at hentry

theorem Answered.okIffSteps (answered : preview.Answered outcome) : preview.OkIffSteps outcome := by
  cases answered with
  | refused => exact okIffSteps_of_unmoved rfl nofun
  | still still => exact okIffSteps_of_unmoved still.history nofun
  | stepped history message => exact ⟨fun _ => ⟨_, history⟩, fun _ => ⟨message, rfl⟩⟩
  | broken history => exact okIffSteps_of_unmoved history nofun

/-! ### Commands to go on -/

theorem notPlaying?_eq_none_iff :
    preview.notPlaying? = none ↔ preview.session.isRunning = true := by
  rw [Session.isRunning_iff]
  cases status : preview.session.status <;> simp [notPlaying?, status]

/-- Only at a player choice node are there responses. -/
theorem exists_isAt_of_responses (playing : preview.notPlaying? = none)
    (offers : preview.session.responses preview.tree ≠ []) :
    ∃ node, preview.session.IsAt preview.tree node ∧ node.kind = .playerChoice ∧
      preview.session.responses preview.tree = preview.tree.responses node := by
  unfold Session.responses at offers ⊢
  split at offers
  · next node here =>
    have kind : node.kind = .playerChoice := by
      unfold Tree.responses at offers
      split at offers
      · assumption
      · exact absurd rfl offers
    exact ⟨node, ⟨notPlaying?_eq_none_iff.mp playing, here⟩, kind, rfl⟩
  · exact absurd rfl offers

theorem answered_goOn (preview : Preview) : preview.Answered preview.goOn := by
  have hends := preview.session.ends_advance preview.tree none preview.sources
  unfold goOn
  generalize preview.session.advance preview.tree none preview.sources = turn at hends ⊢
  dsimp only
  cases hends with
  | stays whole still =>
    rw [whole, still.history]
    simp only [if_true]
    exact .still still _
  | steps whole history =>
    rw [whole, history]
    -- the preview compares the lengths of the two histories
    simp only [List.length_append, List.length_singleton, Nat.add_eq_left, Nat.one_ne_zero,
      if_false]
    exact .stepped history _
  | breaks fault history =>
    rw [fault]
    exact .broken history _

theorem answered_handleContinue (preview : Preview) :
    preview.Answered preview.handleContinue := by
  unfold handleContinue
  split
  · exact .refused _
  · split
    · exact .refused _
    · exact answered_goOn preview

/-- The preview asks whether a response is enabled, and the session goes on with just those. -/
theorem answered_pick {node : Node} {response : Response}
    (here : preview.session.IsAt preview.tree node) (kind : node.kind = .playerChoice)
    (selected : Session.selected? (preview.tree.responses node) (some index) = some response) :
    preview.Answered (preview.pick index response) := by
  unfold pick
  split
  · next enabled =>
    obtain ⟨whole, entry, history⟩ :=
      Session.steps_advance_of_selected here kind selected enabled preview.sources
    dsimp only
    rw [whole]
    exact .stepped history _
  · exact .still .rfl _

theorem answered_handleChoose (nonneg : 0 ≤ index) :
    preview.Answered (preview.handleChoose index) := by
  unfold handleChoose
  split
  · exact .refused _
  · next playing =>
    dsimp only
    split
    · exact .refused _
    · next offers =>
      obtain ⟨node, here, kind, hresponses⟩ :=
        exists_isAt_of_responses playing (mt List.isEmpty_iff.mpr offers)
      split
      · exact .refused _
      · split
        · exact .broken rfl _
        · next response hresponse =>
          refine answered_pick here kind ?_
          -- from an index that is not negative the session and the preview pick the same response
          rw [← hresponses, Session.selected?, Option.bind_some, if_pos nonneg]
          rwa [atIndex?, if_pos nonneg] at hresponse

/-- A line that asks to go on is answered as such a command is. -/
theorem answered_handleLine {line : String} (reading : Command.read line = .ok command)
    (onward : command.verb = some .continue ∨ command.verb = some .choose) :
    preview.Answered (preview.handleLine line) := by
  unfold handleLine
  rw [reading]
  dsimp only
  rcases onward with onward | picks
  · rw [Command.fits_of_continue reading onward]
    dsimp only
    rw [handle, onward]
    exact answered_handleContinue preview
  · obtain ⟨fits, index, hindex, nonneg⟩ := Command.fits_of_choose reading picks
    rw [fits]
    dsimp only
    rw [handle, picks]
    dsimp only [perform]
    rw [hindex]
    exact answered_handleChoose nonneg

/-! ### All commands -/

theorem tells_handleStart (preview : Preview) : preview.Tells preview.handleStart := by
  unfold handleStart
  split
  · exact tells_invalid preview _
  · exact tells_ok preview _ _

theorem tells_handleHistory (preview : Preview) : preview.Tells preview.handleHistory := by
  unfold handleHistory
  dsimp only
  split
  · exact tells_noEffect .rfl _
  · exact tells_ok preview _ _

theorem tells_handleProgress (preview : Preview) : preview.Tells preview.handleProgress := by
  unfold handleProgress
  split
  · exact tells_failed preview _ _
  · exact tells_ok preview _ _

theorem tells_handleVars (preview : Preview) : preview.Tells preview.handleVars := by
  unfold handleVars
  split
  · exact tells_ok preview _ _
  · split
    · exact tells_failed preview _ _
    · exact tells_ok preview _ _

theorem tells_setVariable (preview : Preview) (name value : String) :
    preview.Tells (preview.setVariable name value) := by
  unfold setVariable
  dsimp only
  split
  · exact tells_failed preview _ _
  · split
    · exact tells_failed preview _ _
    · exact tells_ok preview _ _

theorem tells_handleSet (preview : Preview) (arguments : List String) :
    preview.Tells (preview.handleSet arguments) := by
  unfold handleSet
  split
  · exact tells_invalid preview _
  · split
    · exact tells_failed preview _ _
    · exact tells_setVariable preview _ _

theorem tells_handleGoto (preview : Preview) (id : String) :
    preview.Tells (preview.handleGoto id) := by
  unfold handleGoto
  split
  · exact tells_invalid preview _
  · split <;> exact tells_ok preview _ _

theorem tells_pick (preview : Preview) (index : Int) (response : Response) :
    preview.Tells (preview.pick index response) := by
  unfold pick
  split
  · dsimp only
    split
    · exact tells_failed preview _ _
    · exact tells_ok preview _ _
  · exact tells_noEffect .rfl _

theorem tells_handleChoose (preview : Preview) (index : Int) :
    preview.Tells (preview.handleChoose index) := by
  unfold handleChoose
  split
  · exact tells_invalid preview _
  · dsimp only
    split
    · exact tells_invalid preview _
    · split
      · exact tells_invalid preview _
      · split
        · exact tells_failed preview _ _
        · exact tells_pick preview index _

theorem tells_perform (preview : Preview) (command : Command) (verb : Verb) :
    preview.Tells (preview.perform command verb) := by
  cases verb with
  | «continue» => exact (answered_handleContinue preview).tells
  | choose =>
    unfold perform
    dsimp only
    split
    · exact tells_handleChoose preview _
    · exact tells_invalid preview _
  | start => exact tells_handleStart preview
  | restart => exact tells_ok preview _ _
  | stop => exact tells_ok preview _ _
  | history => exact tells_handleHistory preview
  | progress => exact tells_handleProgress preview
  | help => exact tells_ok preview _ _
  | vars => exact tells_handleVars preview
  | set => exact tells_handleSet preview command.arguments
  | goto =>
    unfold perform
    dsimp only
    split
    · exact tells_failed preview _ _
    · exact tells_handleGoto preview _

theorem tells_handle (preview : Preview) (command : Command) :
    preview.Tells (preview.handle command) := by
  unfold handle
  split
  · exact tells_invalid preview _
  · split
    · exact tells_invalid preview _
    · exact tells_perform preview command _

theorem tells_handleLine (preview : Preview) (line : String) :
    preview.Tells (preview.handleLine line) := by
  unfold handleLine
  split
  · exact tells_failed preview _ _
  · split
    · exact tells_invalid preview _
    · exact tells_handle preview _

/-- **Every reply tells what has become of the session: nothing at all if the line was invalid, no
step if it had no effect, and exactly one step if a line to go on or to pick a response was
taken.** -/
theorem reply_tells (preview : Preview) (line : String) :
    preview.Tells (preview.handleLine line) ∧
      ∀ command, Command.read line = .ok command →
        command.verb = some .continue ∨ command.verb = some .choose →
        preview.OkIffSteps (preview.handleLine line) :=
  ⟨tells_handleLine preview line, fun _ reading onward =>
    (answered_handleLine reading onward).okIffSteps⟩

/-- A fork in the road: one way leads home and the other nowhere. -/
def forkTree : Tree where
  id := "fork"
  name := "Fork"
  nodes := .ofList
    [{ id := "fork", kind := .playerChoice, title := "Fork",
       choices := [{ id := "left", text := "Go left." }, { id := "right", text := "Go right." }] },
      { id := "home", kind := .ending, title := "Home" }]
  connections := [{ id := "way", source := "fork", target := "home", sourceHandle := some "left" }]

/-- The preview at the fork. -/
def atFork : Preview :=
  .begin forkTree [] false { chance := fun _ => .zero, clock := .steady .zero }

/-- At the fork one cannot just go on, the way to the right has no effect and the way to the left
is a step. -/
theorem reply_tells_at_fork :
    (atFork.handleLine "").1 = atFork ∧
      atFork.session.StaysAt (atFork.handleLine "2").1.session ∧
      ∃ entry, (atFork.handleLine "1").1.session.history = atFork.session.history ++ [entry] := by
  obtain ⟨blank, -⟩ := reply_tells atFork ""
  obtain ⟨right, -⟩ := reply_tells atFork "2"
  obtain ⟨-, left⟩ := reply_tells atFork "1"
  refine ⟨blank.invalid "Choose a response by number." rfl,
    right.noEffect "'Go right.' is not connected to anything yet." rfl, ?_⟩
  have hread : Command.read "1" = .ok (Command.ofNumber "1" 1) := rfl
  exact (left _ hread (.inr (by decide))).mp ⟨_, rfl⟩

end Preview

end Colloquy
