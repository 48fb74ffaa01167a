import Colloquy.Proofs.Preview.Lines
import Colloquy.Proofs.Session.Replay

/-!
# The variables of a preview

Whatever a player types, the variables are those of the replay of the history: each script is
executed once for each time that its node is left, and nothing else sets a variable.

* `Preview.IsReplayed`: the invariant of all lines;
* `Preview.IsReplayed.typed`: it holds after all lines while a steady clock shows a time;
* `Preview.replayed_iff_showsTime`: and only then.
-/

namespace Colloquy

namespace Preview

/-- A player's preview of a tree whose variables are those of the replay. -/
structure IsReplayed (preview : Preview) (tree : Tree) (sources : Sources) : Prop where
  tree_eq : preview.tree = tree
  players : preview.forDevelopers = false
  clock : ∃ n, preview.sources.clock = sources.clock.after n
  replays : preview.session.Replays tree sources

variable {preview after : Preview} {tree : Tree} {sources : Sources}

theorem isReplayed_begin (tree : Tree) (characters : List Character) (sources : Sources) :
    (Preview.begin tree characters false sources).IsReplayed tree sources where
  tree_eq := rfl
  players := rfl
  clock := ⟨0, Session.clock_start tree sources⟩
  replays := replays_start tree sources sources

/-- A move keeps the variables those of the replay while a steady clock shows a time. -/
theorem IsReplayed.move (h : preview.IsReplayed tree sources) (steady : sources.clock.IsSteady)
    (time : ShowsTime sources.clock) (moved : preview.Moved after) :
    after.IsReplayed tree sources := by
  obtain ⟨rfl, players, ⟨n, clock⟩, replays⟩ := h
  cases moved with
  | still => exact ⟨rfl, players, ⟨n, clock⟩, replays⟩
  | restarted =>
    exact ⟨rfl, players, ⟨n, (Session.clock_start _ _).trans clock⟩, replays_start _ _ _⟩
  | stopped => exact ⟨rfl, players, ⟨n, clock⟩, replays_stop _ _⟩
  | advanced selection =>
    have keeps : KeepsTime preview.sources.clock := clock ▸ (steady.keepsTime_iff.mpr time).after n
    have agrees : preview.sources.clock.Agrees sources.clock := clock ▸ steady.agrees_after n
    obtain ⟨m, hadvance⟩ :=
      preview.session.exists_clock_advance preview.tree selection preview.sources
    refine ⟨rfl, players, ⟨n + m, ?_⟩, replays.advance keeps agrees selection⟩
    rw [← Clock.after_after, ← clock]
    exact hadvance

theorem IsReplayed.typed (h : preview.IsReplayed tree sources) (steady : sources.clock.IsSteady)
    (time : ShowsTime sources.clock) (lines : List String) :
    (preview.typed lines).IsReplayed tree sources := by
  induction lines generalizing preview with
  | nil => exact h
  | cons line rest ih =>
    have hline := h.move steady time (moved_handleLine h.players line)
    exact ih hline

/-! ### At no time -/

/-- A dance, which has to be recorded, behind a statement that sets a variable. -/
def danceNode : Node where
  id := "dance"
  kind := .action
  title := "Dance"
  content := some "setVar x 1\ndance"

/-- A tree that starts with the dance. -/
def danceTree : Tree where
  id := "dance"
  name := "Dance"
  nodes := .ofList [danceNode, { id := "end", kind := .ending, title := "End" }]
  connections := [{ id := "on", source := "dance", target := "end" }]
  startNodeId := some "dance"

theorem executeScript_dance (store : Store) (sources : Sources) :
    executeScript danceNode.body store sources =
      execute "dance" (Store.set store "x" (.integer 1)) sources := by
  have hlines : scriptLines danceNode.body = ["setVar x 1", "dance"] := by decide +kernel
  have hfirst : execute "setVar x 1" store sources =
      { store := Store.set store "x" (.integer 1), sources } := rfl
  rw [executeScript, hlines, executeLines, List.foldl_cons, List.foldl_cons, List.foldl_nil,
    next_of_running rfl, next_of_running rfl, hfirst]

/-- The dance cannot be recorded, nor can that be, while a steady clock shows no time. -/
theorem fault_execute_dance (steady : sources.clock.IsSteady) (time : ¬ ShowsTime sources.clock)
    (store : Store) : (execute "dance" store sources).fault ≠ none :=
  fault_execute_iff.mpr {
    needs := .unknown (rfl : Action.read "dance" = .ok (.unknown "dance"))
    now := time
    again := fun _ _ => mt (showsTime_congr (steady 1)).mp time }

/-- While a steady clock shows no time, the dance sets its variable and is not left. -/
theorem session_typed_dance (steady : sources.clock.IsSteady) (time : ¬ ShowsTime sources.clock) :
    ((Preview.begin danceTree [] false sources).typed [""]).session =
      (Preview.begin danceTree [] false sources).session.withStore
        (Store.set .empty "x" (.integer 1)) := by
  generalize hstart : Preview.begin danceTree [] false sources = start
  have hclock : start.sources.clock = sources.clock := by
    rw [← hstart]
    exact Session.clock_start danceTree sources
  have hline : (start.typed [""]).session = start.goOn.1.session := by
    subst hstart
    rfl
  have hadvance : start.session.advance start.tree none start.sources =
      start.session.advanceLinear danceTree danceNode start.sources := by
    subst hstart
    rfl
  have hstore : start.session.store = .empty := by
    subst hstart
    rfl
  have htarget : danceTree.firstTarget? (danceTree.outgoing danceNode.id) =
      some { id := "end", kind := .ending, title := "End" } := rfl
  rw [← hclock] at steady time
  have hfault := fault_execute_dance steady time (Store.set .empty "x" (.integer 1))
  have hbreaks : BreaksOff danceNode.body start.session.store start.sources := by
    rw [← fault_executeScript_iff, executeScript_dance, hstore]
    exact hfault
  rw [hline, session_goOn, hadvance,
    (Session.advanceLinear_of_breaksOff htarget rfl hbreaks).2, executeScript_dance, hstore,
    store_execute_of_fault hfault]

/-- **The variables are those of the replay, whatever a player types, exactly if the clock shows a
time**, where the clock stands still. -/
theorem replayed_iff_showsTime (clock : Double) :
    (∀ tree characters sources lines, sources.clock = .steady clock →
      let played := (Preview.begin tree characters false sources).typed lines
      played.session.store = tree.replay sources played.session.history) ↔
      ShowsTime (.steady clock) := by
  constructor
  · intro hall
    by_cases time : ShowsTime (.steady clock)
    · exact time
    · -- the dance has set its variable although its node has not been left
      have hdance := hall danceTree [] { chance := fun _ => .zero, clock } [""] rfl
      dsimp only at hdance
      rw [session_typed_dance (Clock.isSteady_steady clock) time] at hdance
      have hvalue := congrArg (Store.get? · "x") hdance
      cases hvalue
  · rintro time tree characters sources lines hclock
    have steady : sources.clock.IsSteady := hclock ▸ Clock.isSteady_steady clock
    have time : ShowsTime sources.clock := hclock ▸ time
    exact ((isReplayed_begin tree characters sources).typed steady time lines).replays.store

/-- At time zero the dance is recorded, and what is for developers sets nothing. -/
theorem replayed_dance :
    let sources : Sources := { chance := fun _ => .zero, clock := .steady .zero }
    let played := (Preview.begin danceTree [] false sources).typed ["", "/SET x 2", "/vars"]
    played.session.store.keys = ["x", "action_0"] ∧
      played.session.store = danceTree.replay sources played.session.history := by
  intro sources played
  have time : ShowsTime (.steady .zero) := by decide +kernel
  exact ⟨by decide +kernel, (replayed_iff_showsTime .zero).mpr time danceTree [] sources _ rfl⟩

end Preview

end Colloquy
