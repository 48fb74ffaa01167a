import Colloquy.Journal
import Colloquy.Number.Double

/-!
# Sources

What a conversation takes from outside: chance, the clock, moments for its history and fresh ids.
Each source is a sequence fixed beforehand together with the number of answers already taken, so
that a run is a function of its sources.

* `Clock`: what a clock shows, reading by reading;
* `Sources`;
* `draw`, `moment`, `freshId`, `tick`: take one answer;
* `milliseconds`: the time of a clock;
* `note`: write into the journal.
-/

namespace Colloquy

/-- A clock: the seconds that it shows at each reading, and the number of readings taken. -/
structure Clock where
  shows : Nat → Double
  readings : Nat := 0

namespace Clock

/-- A clock that stands still. -/
def steady (x : Double) : Clock where
  shows _ := x

instance : Coe Double Clock := ⟨steady⟩

/-- What a clock shows at its next reading. -/
def now (clock : Clock) : Double := clock.shows clock.readings

/-- A clock after some readings. -/
def after (clock : Clock) (k : Nat) : Clock := { clock with readings := clock.readings + k }

theorem after_after (clock : Clock) (j k : Nat) :
    (clock.after j).after k = clock.after (j + k) := by
  simp only [after, Nat.add_assoc]

end Clock

/-- What a conversation takes from outside, and how much of it has been taken. -/
structure Sources where
  /-- The answers of chance, from the first on. -/
  chance : Nat → Double
  clock : Clock
  /-- The ids that are given out, counted from one. -/
  newId : Nat → String := fun k => s!"uuid-{k}"
  /-- The number of answers taken from chance. -/
  draws : Nat := 0
  /-- The number of moments taken. -/
  moments : Nat := 0
  /-- The number of ids taken. -/
  ids : Nat := 0
  /-- What happened, the last event first. -/
  journal : List Event := []

namespace Sources

/-- A coin flipped by chance: whether its answer is below one half. -/
def draw (s : Sources) : Bool × Sources :=
  ((s.chance s.draws).compare? (1 / 2) == some .lt, { s with draws := s.draws + 1 })

/-- The next moment, counted from one. -/
def moment (s : Sources) : Nat × Sources := (s.moments + 1, { s with moments := s.moments + 1 })

/-- The next id. -/
def freshId (s : Sources) : String × Sources :=
  (s.newId (s.ids + 1), { s with ids := s.ids + 1 })

/-- Read the clock once. -/
def tick (s : Sources) : Sources := { s with clock := s.clock.after 1 }

/-- Write an event into the journal. -/
def note (s : Sources) (e : Event) : Sources := { s with journal := e :: s.journal }

/-- Write events into the journal. -/
def noteAll (s : Sources) (events : List Event) : Sources := events.foldl note s

/-- The journal in order, one line for each event. -/
def lines (s : Sources) : List String := s.journal.reverse.map Event.line

@[simp] theorem clock_note (s : Sources) (e : Event) : (s.note e).clock = s.clock := rfl

@[simp] theorem noteAll_nil (s : Sources) : s.noteAll [] = s := rfl

@[simp] theorem noteAll_cons (s : Sources) (e : Event) (events : List Event) :
    s.noteAll (e :: events) = (s.note e).noteAll events := rfl

@[simp] theorem clock_noteAll (s : Sources) (events : List Event) :
    (s.noteAll events).clock = s.clock := by
  induction events generalizing s with
  | nil => rfl
  | cons e events ih => simp [ih]

end Sources

/-- The next time of a clock in milliseconds: the nearest integer to the rounded product. -/
def milliseconds (clock : Clock) : Except NumberError Int := (clock.now.mul (.ofRat 1000)).toInt

end Colloquy
