import Colloquy.Proofs.Preview.Speakers
import Colloquy.Proofs.Script.Lines
import Colloquy.Proofs.Script.Numeral
import Colloquy.Proofs.Session.Departure

/-!
# Picking responses

A player who types the number of a response gets what is displayed with that number.  The display
counts from one and reading takes one off again; the preview and the session each look at the
response in their own way.

* `Command.Spells`, `read_of_spells`: a line of digits, and the index that it picks;
* `Tree.getElem?_responses_iff`, `getElem?_choiceLines`: the response that is listed with a number;
* `handleChoose_of_offered`, `handleChoose_of_beyond`, `pick_of_target`: what picking does;
* `Preview.PicksAsListed`: a number is answered by what is listed with it;
* `Preview.picks_as_listed`: so it is at every player choice node.
-/

namespace Colloquy

open Text

/-! ### Lines of digits -/

/-- A line that spells a number with decimal digits, of any script, between blanks. -/
def Command.Spells (line : String) (k : Nat) : Prop :=
  ∃ (before after : List Char) (n : Numeral),
    line.toList = before ++ (n.digits ++ after) ∧
      (∀ c ∈ before, isBlank c = true) ∧ (∀ c ∈ after, isBlank c = true) ∧
      n.digits.length ≤ digitLimit ∧ n.magnitude = k

/-- The command that picks the response with an index. -/
def Command.picking (raw : String) (index : Nat) : Command :=
  { raw, verb := some .choose, choiceIndex := some (index : Int) }

variable {line : String} {k index : Nat}

theorem Numeral.isDigitLike_digits (n : Numeral) : ∀ c ∈ n.digits, isDigitLike c = true :=
  fun c hc => isDigitLike_of_isDecimal (n.decimal c hc)

theorem Numeral.trim_digits (n : Numeral) : trim n.digits = n.digits := by
  have solid : ∀ c ∈ n.digits, isBlank c = false := fun c hc =>
    isBlank_of_isDigitLike (n.isDigitLike_digits c hc)
  exact trim_eq_self_iff.mpr
    ⟨fun c hc => solid c (List.mem_of_head? hc), fun c hc => solid c (List.mem_of_getLast? hc)⟩

/-- The digits of a numeral spell its number unless there are too many. -/
theorem Numeral.readInteger_digits (n : Numeral) (short : n.digits.length ≤ digitLimit) :
    readInteger (String.ofList n.digits) = .ok (n.magnitude : Int) := by
  have htake : n.digits.takeWhile isDecimal = n.digits := List.takeWhile_eq_self_iff.mpr n.decimal
  have hall : n.digits.all isDecimal = true := List.all_eq_true.mpr n.decimal
  rw [readInteger_of_digits n.nonempty n.isDigitLike_digits, htake, if_neg (Nat.not_lt.mpr short),
    hall, if_neg (by simp), ofDigits_eq, magnitude, values]

/-- A line that spells a positive number picks the response with that number. -/
theorem Command.read_of_spells (spells : Spells line (index + 1)) :
    ∃ raw, read line = .ok (picking raw index) := by
  obtain ⟨before, after, n, hline, hbefore, hafter, short, hk⟩ := spells
  have htrim : trim line.toList = n.digits := by
    rw [hline, trim_blank_append hbefore, trim_append_blank hafter, n.trim_digits]
  have number : isNumber n.digits = true := isNumber_iff.mpr ⟨n.nonempty, n.isDigitLike_digits⟩
  refine ⟨String.ofList n.digits, ?_⟩
  rw [read, htrim, if_pos number, n.readInteger_digits short, hk]
  -- responses are counted from one and indices from zero
  have positive : ¬ ((index + 1 : Nat) : Int) < 1 := by omega
  have hindex : ((index + 1 : Nat) : Int) - 1 = (index : Int) := by omega
  simp only [Except.map, ofNumber, if_neg positive, hindex, picking]

/-! ### Listed responses -/

section

variable {tree : Tree} {node : Node} {response : Response}

/-- The responses of a player choice node are those to its choices, in their order. -/
theorem Tree.getElem?_responses_iff (kind : node.kind = .playerChoice) :
    (tree.responses node)[index]? = some response ↔
      ∃ choice, node.choices[index]? = some choice ∧
        tree.response node index choice = response := by
  rw [responses, if_pos kind, List.getElem?_mapIdx, Option.map_eq_some_iff]

/-- The line with a number tells the text of the choice, and whether it is connected. -/
theorem Preview.getElem?_choiceLines (kind : node.kind = .playerChoice)
    (offered : (tree.responses node)[index]? = some response) :
    (choiceLines tree node)[index + 1]? =
      some ("  " ++ toString (index + 1) ++ ". " ++ response.choice.text
        ++ if response.isEnabled then "" else " (not connected)") := by
  have own : response.index = index := by
    obtain ⟨choice, -, rfl⟩ := (Tree.getElem?_responses_iff kind).mp offered
    rfl
  rw [choiceLines, if_pos kind, List.getElem?_cons_succ, List.getElem?_map, offered,
    Option.map_some, responseLine, own]
  rfl

end

namespace Preview

variable {preview : Preview} {node : Node} {response : Response}

/-! ### Picking -/

/-- A line that spells a number is answered by the response with its index. -/
theorem handleLine_of_spells (spells : Command.Spells line (index + 1)) :
    preview.handleLine line = preview.handleChoose (index : Int) := by
  obtain ⟨raw, reading⟩ := Command.read_of_spells spells
  rw [handleLine, reading]
  rfl

section

variable (here : preview.session.IsAt preview.tree node)
include here

theorem responses_of_isAt :
    preview.session.responses preview.tree = preview.tree.responses node := by
  rw [Session.responses, here.here]

theorem handleChoose_of_offered (offered : (preview.tree.responses node)[index]? = some response) :
    preview.handleChoose (index : Int) = preview.pick (index : Int) response := by
  have playing := notPlaying?_eq_none_iff.mpr here.running
  have inRange : index < (preview.tree.responses node).length :=
    (List.getElem?_eq_some_iff.mp offered).1
  have hempty : ¬ (preview.tree.responses node).isEmpty = true := by
    rw [List.isEmpty_iff_length_eq_zero]
    omega
  rw [handleChoose, playing]
  dsimp only
  rw [responses_of_isAt here, if_neg hempty, if_neg (by omega), atIndex?, if_pos (by omega),
    Int.toNat_natCast, offered]

/-- Beyond the last number there is nothing to pick. -/
theorem handleChoose_of_beyond (beyond : (preview.tree.responses node).length ≤ index) :
    ∃ message, preview.handleChoose (index : Int) = preview.invalid message := by
  have playing := notPlaying?_eq_none_iff.mpr here.running
  rw [handleChoose, playing]
  dsimp only
  rw [responses_of_isAt here]
  split
  · exact ⟨_, rfl⟩
  · rw [if_pos (by omega)]
    exact ⟨_, rfl⟩

/-- A response that is connected is followed. -/
theorem pick_of_target {target : Node} (kind : node.kind = .playerChoice)
    (offered : (preview.tree.responses node)[index]? = some response)
    (connected : response.target = some target) :
    ∃ after : Preview, preview.pick (index : Int) response = after.shown ∧
      preview.session.HasMoved after.session preview.tree preview.sources node
        (some response.choice.text) target := by
  have selected : Session.selected? (preview.tree.responses node) (some (index : Int)) =
      some response := by
    rw [Session.selected?, Option.bind_some, if_pos (Int.natCast_nonneg index), Int.toNat_natCast,
      offered]
  have enabled : response.isEnabled = true := by rw [Response.isEnabled, connected, Option.isSome]
  have free : ¬ preview.session.IsHeld node preview.sources := fun held => by
    have action := held.1
    rw [kind] at action
    cases action
  obtain ⟨whole, moved⟩ := Session.hasMoved_advance
    ⟨here, (Session.leadsTo_choice_iff kind).mpr ⟨response, selected, connected, rfl⟩⟩ free
  refine ⟨preview.afterTurn
    (preview.session.advance preview.tree (some (index : Int)) preview.sources), ?_, moved⟩
  rw [pick, if_pos enabled]
  dsimp only
  rw [whole]

end

/-- A number is answered by what is listed with it at a player choice node. -/
structure PicksAsListed (preview : Preview) (node : Node) (k : Nat) (outcome : Outcome) : Prop where
  /-- The responses are displayed, each with its number. -/
  displayed : ∃ before after,
    preview.describe = "\n".intercalate (before ++ choiceLines preview.tree node ++ after)
  listed : ∀ response, (preview.tree.responses node)[k - 1]? = some response →
    node.choices[k - 1]? = some response.choice ∧
      (choiceLines preview.tree node)[k]? =
        some ("  " ++ toString k ++ ". " ++ response.choice.text
          ++ if response.isEnabled then "" else " (not connected)")
  /-- A response that is connected is followed, and the new entry of the history keeps its text. -/
  connected : ∀ response target, (preview.tree.responses node)[k - 1]? = some response →
    response.target = some target →
      outcome.2 = .ok ⟨.ok, outcome.1.describe⟩ ∧
        preview.session.HasMoved outcome.1.session preview.tree preview.sources node
          (some response.choice.text) target
  /-- One that is not connected has no effect. -/
  unconnected : ∀ response, (preview.tree.responses node)[k - 1]? = some response →
    response.isEnabled = false →
      outcome = preview.noEffect
        ("'" ++ response.choice.text ++ "' is not connected to anything yet.")
  /-- A number with which nothing is listed is refused. -/
  beyond : (preview.tree.responses node).length < k → ∃ message, outcome = preview.invalid message

/-- **Who types the number of a response gets what is displayed with it**, with any zeros in front
and blanks around it, wherever a preview is at a player choice node. -/
theorem picks_as_listed (here : preview.session.IsAt preview.tree node)
    (kind : node.kind = .playerChoice) (positive : 1 ≤ k) (spells : Command.Spells line k) :
    preview.PicksAsListed node k (preview.handleLine line) := by
  obtain ⟨index, rfl⟩ := Nat.exists_eq_add_of_le' positive
  have status : preview.session.status ≠ .idle ∧ preview.session.status ≠ .noNodes := by
    rcases (Session.isRunning_iff _).mp here.running with hstatus | hstatus <;> simp [hstatus]
  rw [handleLine_of_spells spells]
  constructor
  case displayed =>
    refine ⟨("[" ++ kindHeading node.kind ++ "] " ++ node.title)
      :: ((preview.introduced?.map (· ++ ":")).toList ++ contentLines node),
      statusLines preview.session, ?_⟩
    rw [describe_eq here.here status]
    simp only [List.cons_append]
  case listed =>
    intro response offered
    obtain ⟨choice, hchoice, rfl⟩ := (Tree.getElem?_responses_iff kind).mp offered
    exact ⟨hchoice, getElem?_choiceLines kind offered⟩
  case connected =>
    intro response target offered connected
    rw [Nat.add_sub_cancel] at offered
    obtain ⟨after, hpick, moved⟩ := pick_of_target here kind offered connected
    rw [handleChoose_of_offered here offered, hpick]
    exact ⟨rfl, moved⟩
  case unconnected =>
    intro response offered unconnected
    rw [Nat.add_sub_cancel] at offered
    rw [handleChoose_of_offered here offered, pick, if_neg (by simp [unconnected])]
  case beyond =>
    intro beyond
    exact handleChoose_of_beyond here (Nat.le_of_lt_succ beyond)

/-- At the fork the way to the left is taken, the one to the right leads nowhere yet, and there is
no third one. -/
theorem picks_as_listed_at_fork :
    ∃ fork, atFork.session.IsAt atFork.tree fork ∧
      choiceLines atFork.tree fork =
        ["Choose your response:", "  1. Go left.", "  2. Go right. (not connected)"] ∧
      (atFork.handleLine " 01").1.session.current = some "home" ∧
      atFork.handleLine "2 " =
        atFork.noEffect "'Go right.' is not connected to anything yet." ∧
      ∃ message, atFork.handleLine "3" = atFork.invalid message := by
  have here : atFork.session.IsAt atFork.tree _ := ⟨rfl, rfl⟩
  have one : Command.Spells " 01" 1 :=
    ⟨[' '], [], ⟨[], ['0', '1'], .inl rfl, List.all_eq_true.mp (by decide), by decide⟩, by decide,
      List.all_eq_true.mp (by decide), List.all_eq_true.mp (by decide), by decide, by decide⟩
  have two : Command.Spells "2 " 2 :=
    ⟨[], [' '], ⟨[], ['2'], .inl rfl, List.all_eq_true.mp (by decide), by decide⟩, by decide,
      List.all_eq_true.mp (by decide), List.all_eq_true.mp (by decide), by decide, by decide⟩
  have three : Command.Spells "3" 3 :=
    ⟨[], [], ⟨[], ['3'], .inl rfl, List.all_eq_true.mp (by decide), by decide⟩, by decide,
      List.all_eq_true.mp (by decide), List.all_eq_true.mp (by decide), by decide, by decide⟩
  have left := picks_as_listed here rfl (by decide) one
  have right := picks_as_listed here rfl (by decide) two
  have third := picks_as_listed here rfl (by decide) three
  exact ⟨_, here, rfl, (left.connected _ _ rfl rfl).2.current_eq,
    right.unconnected _ rfl rfl, third.beyond (by decide)⟩

end Preview

end Colloquy
