import Colloquy.Preview

/-!
# What can be typed

The lines of a player do no more to a preview than to start it over, to stop it and to go on: what
is for developers is refused, whatever words ask for it.  The lines of a developer may also set a
variable and jump to a node.

* `Preview.Moved`: the ways in which a player changes a preview;
* `moved_handleLine`: a player's line changes it in one of these ways;
* `Preview.Changed`, `changed_handleLine`: the same for every line;
* `Preview.typed`: lines one after the other.
-/

namespace Colloquy

namespace Preview

/-- The ways in which a player's line changes a preview. -/
inductive Moved (preview : Preview) : Preview → Prop
  /-- Nothing happens. -/
  | still : Moved preview preview
  /-- The conversation starts over. -/
  | restarted : Moved preview preview.restarted
  /-- The conversation stops. -/
  | stopped : Moved preview { preview with session := .stop }
  /-- The session goes on. -/
  | advanced (selection : Option Int) :
      Moved preview
        (preview.afterTurn (preview.session.advance preview.tree selection preview.sources))

variable {preview : Preview} {command : Command} {verb : Verb}

theorem session_goOn (preview : Preview) :
    preview.goOn.1.session =
      (preview.session.advance preview.tree none preview.sources).session := by
  unfold goOn
  dsimp only
  split
  · rfl
  · split <;> rfl

theorem moved_goOn (preview : Preview) : preview.Moved preview.goOn.1 := by
  unfold goOn
  dsimp only
  split
  · exact .advanced none
  · split <;> exact .advanced none

theorem moved_handleContinue (preview : Preview) : preview.Moved preview.handleContinue.1 := by
  unfold handleContinue
  split
  · exact .still
  · split
    · exact .still
    · exact moved_goOn preview

theorem moved_pick (preview : Preview) (index : Int) (response : Response) :
    preview.Moved (preview.pick index response).1 := by
  unfold pick
  split
  · dsimp only
    split <;> exact .advanced (some index)
  · exact .still

theorem moved_handleChoose (preview : Preview) (index : Int) :
    preview.Moved (preview.handleChoose index).1 := by
  unfold handleChoose
  split
  · exact .still
  · dsimp only
    split
    · exact .still
    · split
      · exact .still
      · split
        · exact .still
        · exact moved_pick preview index _

theorem moved_handleStart (preview : Preview) : preview.Moved preview.handleStart.1 := by
  unfold handleStart
  split
  · exact .still
  · exact .restarted

theorem moved_handleHistory (preview : Preview) : preview.Moved preview.handleHistory.1 := by
  unfold handleHistory
  dsimp only
  split <;> exact .still

theorem moved_handleProgress (preview : Preview) : preview.Moved preview.handleProgress.1 := by
  unfold handleProgress
  split <;> exact .still

/-- A verb that is not for developers moves a preview. -/
theorem moved_perform (preview : Preview) (command : Command)
    (players : verb.isForDevelopers = false) : preview.Moved (preview.perform command verb).1 := by
  cases verb with
  | «continue» => exact moved_handleContinue preview
  | choose =>
    unfold perform
    dsimp only
    split
    · exact moved_handleChoose preview _
    · exact .still
  | start => exact moved_handleStart preview
  | restart => exact .restarted
  | stop => exact .stopped
  | history => exact moved_handleHistory preview
  | progress => exact moved_handleProgress preview
  | help => exact .still
  | vars => cases players
  | set => cases players
  | goto => cases players

/-- A command moves the preview of a player: verbs for developers are refused. -/
theorem moved_handle (players : preview.forDevelopers = false) (command : Command) :
    preview.Moved (preview.handle command).1 := by
  unfold handle
  split
  · exact .still
  · next verb _ =>
    cases hverb : verb.isForDevelopers with
    | true =>
      rw [players, Bool.not_false, Bool.and_self, if_pos rfl]
      exact .still
    | false =>
      rw [Bool.false_and, if_neg Bool.false_ne_true]
      exact moved_perform preview command hverb

/-- A line moves the preview of a player. -/
theorem moved_handleLine (players : preview.forDevelopers = false) (line : String) :
    preview.Moved (preview.handleLine line).1 := by
  unfold handleLine
  split
  · exact .still
  · split
    · exact .still
    · exact moved_handle players _

/-! ### Lines of developers -/

/-- The preview after a statement that sets a variable. -/
def afterSetting (preview : Preview) (name value : String) : Preview :=
  let x := execute ("setVar " ++ name ++ " " ++ value) preview.session.store preview.sources
  { preview with
    session := { preview.session with store := x.store }
    sources := x.sources }

theorem store_afterSetting (preview : Preview) (name value : String) :
    (preview.afterSetting name value).session.store =
      (execute ("setVar " ++ name ++ " " ++ value) preview.session.store preview.sources).store :=
  rfl

@[simp] theorem forDevelopers_afterSetting (preview : Preview) (name value : String) :
    (preview.afterSetting name value).forDevelopers = preview.forDevelopers := rfl

/-- The ways in which a line changes a preview. -/
inductive Changed (preview : Preview) : Preview → Prop
  | moved {after : Preview} (moved : preview.Moved after) : Changed preview after
  | set (name value : String) : Changed preview (preview.afterSetting name value)
  | jumped (id : String) : Changed preview (preview.jumped id).2
  /-- The conversation starts over before a jump. -/
  | returned (id : String) : Changed preview (preview.restarted.jumped id).2

theorem changed_setVariable (preview : Preview) (name value : String) :
    preview.Changed (preview.setVariable name value).1 := by
  unfold setVariable
  dsimp only
  split
  · exact .set name value
  · split <;> exact .set name value

theorem changed_handleSet (preview : Preview) (arguments : List String) :
    preview.Changed (preview.handleSet arguments).1 := by
  unfold handleSet
  split
  · exact .moved .still
  · split
    · exact .moved .still
    · exact changed_setVariable preview _ _

theorem changed_handleVars (preview : Preview) : preview.Changed preview.handleVars.1 := by
  unfold handleVars
  split
  · exact .moved .still
  · split <;> exact .moved .still

theorem changed_handleGoto (preview : Preview) (id : String) :
    preview.Changed (preview.handleGoto id).1 := by
  unfold handleGoto
  split
  · exact .moved .still
  · split
    · next after hjumped =>
      have changed : preview.Changed (preview.jumped id).2 := .jumped id
      rwa [hjumped] at changed
    · exact .returned id

theorem changed_perform (preview : Preview) (command : Command) (verb : Verb) :
    preview.Changed (preview.perform command verb).1 := by
  cases players : verb.isForDevelopers with
  | false => exact .moved (moved_perform preview command players)
  | true =>
    cases verb with
    | vars => exact changed_handleVars preview
    | set => exact changed_handleSet preview command.arguments
    | goto =>
      unfold perform
      dsimp only
      split
      · exact .moved .still
      · exact changed_handleGoto preview _
    | _ => cases players

theorem changed_handle (preview : Preview) (command : Command) :
    preview.Changed (preview.handle command).1 := by
  unfold handle
  split
  · exact .moved .still
  · split
    · exact .moved .still
    · exact changed_perform preview command _

/-- A line changes a preview in one of the ways. -/
theorem changed_handleLine (preview : Preview) (line : String) :
    preview.Changed (preview.handleLine line).1 := by
  unfold handleLine
  split
  · exact .moved .still
  · split
    · exact .moved .still
    · exact changed_handle preview _

/-- The preview after lines have been typed one after the other. -/
def typed (preview : Preview) (lines : List String) : Preview :=
  lines.foldl (fun p line => (p.handleLine line).1) preview

end Preview

end Colloquy
