import Colloquy.Proofs.Preview.Answer
import Colloquy.Proofs.Session.Coherence

/-!
# Speakers

What a node says is introduced with the name of its speaker, and the history attributes the step to
one as well.  The names are looked up in different ways: of several characters with one id, the
first one introduces and the last one is recorded.

* `Preview.IsStaged`, `IsReachable.isStaged`: previews of a session that operations have led to
  while its tree was changed, those that lines lead to among them;
* `Preview.introduced?`, `recorded?`: the two names;
* `namesakes`: the characters with an id;
* `HasOneVoice`: the first and the last of them are called the same;
* `describe_eq`, `handleHistory_eq`: where the names stand in what the player sees;
* `IsStaged.attributes`: they agree exactly if the namesakes have one voice.
-/

namespace Colloquy

/-- The characters with an id, in their order. -/
def namesakes (characters : List Character) (id : String) : List Character :=
  characters.filter (·.id == id)

/-- The first and the last of the characters with an id are called the same. -/
def HasOneVoice (characters : List Character) (id : String) : Prop :=
  ∀ first ∈ (namesakes characters id).head?, ∀ last ∈ (namesakes characters id).getLast?,
    first.label = last.label

namespace Preview

/-- The name that introduces what the current node says, if there is one. -/
def introduced? (preview : Preview) : Option String :=
  (preview.session.node? preview.tree).bind fun node =>
    nonempty? (speaker? preview.characters node)

/-- The name to which the history attributes the last step, if there is one. -/
def recorded? (preview : Preview) : Option String :=
  (transcript preview.session preview.tree preview.characters).getLast?.bind fun line =>
    nonempty? line.speaker

/-- A preview of a session that operations, edits and other changes of a tree have led to. -/
def IsStaged (preview : Preview) : Prop :=
  ∃ (stage : Stage) (name : String), stage.IsReachable ∧ stage.tree = preview.tree ∧
    stage.sessions name = preview.session

variable {preview after : Preview} {node : Node} {characters : List Character} {id : String}

/-! ### Previews on a stage -/

theorem IsStaged.operate (h : preview.IsStaged) (operation : Operation) (sources : Sources)
    (tree : after.tree = preview.tree)
    (session : after.session = (operation.apply preview.tree preview.session sources).session) :
    after.IsStaged := by
  obtain ⟨stage, name, reached, htree, hsession⟩ := h
  refine ⟨stage.operate name operation sources, name, reached.operated name operation sources,
    htree.trans tree.symm, ?_⟩
  simp only [Stage.operate, if_true, htree, hsession, session]

theorem isStaged_begin (tree : Tree) (characters : List Character) (forDevelopers : Bool)
    (sources : Sources) : (begin tree characters forDevelopers sources).IsStaged :=
  ⟨(Stage.mk tree fun _ => {}).operate "player" .start sources, "player",
    (Stage.IsReachable.opening tree).operated _ _ _, rfl, rfl⟩

theorem IsStaged.moved (h : preview.IsStaged) (moved : preview.Moved after) : after.IsStaged := by
  cases moved with
  | still => exact h
  | restarted => exact h.operate .restart preview.sources rfl rfl
  | stopped => exact h.operate .stop preview.sources rfl rfl
  | advanced selection => exact h.operate (.advance selection) preview.sources rfl rfl

theorem IsStaged.jumped (h : preview.IsStaged) (id : String) : (preview.jumped id).2.IsStaged :=
  h.operate (.goto id) preview.sources rfl rfl

theorem IsStaged.changed (h : preview.IsStaged) (changed : preview.Changed after) :
    after.IsStaged := by
  cases changed with
  | moved moved => exact h.moved moved
  | set name value =>
    -- a statement leaves the variables as they are or sets one of them
    rcases store_execute_cases ("setVar " ++ name ++ " " ++ value) preview.session.store
      preview.sources with hstore | ⟨own, held, -, hstore⟩
    · obtain ⟨stage, player, reached, htree, hsession⟩ := h
      refine ⟨stage, player, reached, htree, hsession.trans ?_⟩
      simp only [afterSetting, hstore]
    · refine h.operate (.setVariable own held) preview.sources rfl ?_
      simp only [afterSetting, hstore, Operation.apply]
  | jumped id => exact h.jumped id
  | returned id => exact (h.moved .restarted).jumped id

/-- Lines do nothing that operations could not do. -/
theorem IsReachable.isStaged (reached : preview.IsReachable) : preview.IsStaged := by
  induction reached with
  | begun tree characters forDevelopers sources =>
    exact isStaged_begin tree characters forDevelopers sources
  | waited clock _ ih => exact ih
  | typed line _ ih => exact ih.changed (changed_handleLine _ line)

theorem IsStaged.isCoherent (h : preview.IsStaged) : preview.session.IsCoherent := by
  obtain ⟨stage, name, reached, -, hsession⟩ := h
  exact hsession ▸ reached.isCoherent name

/-! ### The two names -/

theorem speaker?_eq (characters : List Character) (node : Node) :
    speaker? characters node =
      (nonempty? node.character).bind fun id =>
        (namesakes characters id).head?.map Character.label := by
  simp only [speaker?, namesakes, List.head?_filter]

theorem speakerOf?_eq (characters : List Character) (node : Node) :
    speakerOf? characters node =
      (nonempty? node.character).bind fun id =>
        (namesakes characters id).getLast?.map Character.label := by
  simp only [speakerOf?, namesakes, List.getLast?_filter]

theorem nonempty?_some_inj {a b : String} (h : nonempty? (some a) = nonempty? (some b)) :
    a = b := by
  simp only [nonempty?, Option.filter_some, Bool.not_eq_true'] at h
  by_cases ha : a.isEmpty <;> by_cases hb : b.isEmpty <;> simp_all [String.isEmpty_iff]

theorem mem_namesakes_iff {character : Character} :
    character ∈ namesakes characters id ↔ character ∈ characters ∧ character.id = id := by
  rw [namesakes, List.mem_filter, beq_iff_eq]

/-- Characters with ids of their own have one voice each. -/
theorem hasOneVoice_of_nodup (distinct : (characters.map Character.id).Nodup) (id : String) :
    HasOneVoice characters id := by
  intro first hfirst last hlast
  obtain ⟨memFirst, idFirst⟩ := mem_namesakes_iff.mp (List.mem_of_head? hfirst)
  obtain ⟨memLast, idLast⟩ := mem_namesakes_iff.mp (List.mem_of_getLast? hlast)
  rw [List.inj_on_of_nodup_map distinct memFirst memLast (idFirst.trans idLast.symm)]

/-- The first and the last of the characters with an id give the same name exactly if they have one
voice. -/
theorem named_eq_iff_hasOneVoice :
    ((namesakes characters id).head?.bind fun c => nonempty? (some c.label)) =
        ((namesakes characters id).getLast?.bind fun c => nonempty? (some c.label)) ↔
      HasOneVoice characters id := by
  unfold HasOneVoice
  cases hnamesakes : namesakes characters id with
  | nil => simp
  | cons first others =>
    simp only [List.head?_cons, List.getLast?_cons, Option.bind_some, Option.mem_some_iff,
      forall_eq']
    exact ⟨nonempty?_some_inj, fun same => by rw [same]⟩

theorem nonempty?_bind_map (reference : Option String) (found : String → Option Character) :
    nonempty? (reference.bind fun id => (found id).map Character.label) =
      reference.bind fun id => (found id).bind fun c => nonempty? (some c.label) := by
  cases reference with
  | none => rfl
  | some id => cases hfound : found id <;> simp only [Option.bind_some, hfound] <;> rfl

theorem stepLines_eq (line : TranscriptLine) :
    stepLines line =
      ("  " ++ ((nonempty? line.speaker).map (· ++ ": ")).getD "" ++ line.title)
        :: ((nonempty? line.choiceText).map ("    Choice: " ++ ·)).toList := by
  unfold stepLines
  cases nonempty? line.speaker <;> rfl

section

variable (here : preview.session.node? preview.tree = some node)
include here

theorem introduced?_eq :
    preview.introduced? = (nonempty? node.character).bind fun id =>
      (namesakes preview.characters id).head?.bind fun c => nonempty? (some c.label) := by
  rw [introduced?, here, Option.bind_some, speaker?_eq, nonempty?_bind_map]

/-- The last line of the transcript is that of the current node. -/
theorem exists_transcript (last : preview.session.AtLast) :
    ∃ before moment choiceText,
      transcript preview.session preview.tree preview.characters =
        before ++ [{
          nodeId := node.id
          title := if node.title.isEmpty then unknownTitle else node.title
          moment
          kind := some node.kind
          speaker := speakerOf? preview.characters node
          content := node.content
          choiceText }] := by
  obtain ⟨before, entry, hhistory, -, found⟩ := last.exists_last_at here
  refine ⟨before.map (transcriptLine preview.tree preview.characters), entry.moment,
    entry.choiceText, ?_⟩
  simp only [transcript, hhistory, List.map_append, List.map_singleton, transcriptLine, found]

theorem recorded?_eq (last : preview.session.AtLast) :
    preview.recorded? = (nonempty? node.character).bind fun id =>
      (namesakes preview.characters id).getLast?.bind fun c => nonempty? (some c.label) := by
  obtain ⟨before, moment, choiceText, htranscript⟩ := exists_transcript here last
  rw [recorded?, htranscript, List.getLast?_concat, Option.bind_some, speakerOf?_eq,
    nonempty?_bind_map]

/-- What the player sees begins with the node and the name that introduces it. -/
theorem describe_eq (status : preview.session.status ≠ .idle ∧ preview.session.status ≠ .noNodes) :
    preview.describe = "\n".intercalate
      (("[" ++ kindHeading node.kind ++ "] " ++ node.title)
        :: ((preview.introduced?.map (· ++ ":")).toList
          ++ contentLines node
          ++ choiceLines preview.tree node
          ++ statusLines preview.session)) := by
  unfold describe introduced?
  rw [here]
  cases hstatus : preview.session.status with
  | idle => exact absurd hstatus status.1
  | noNodes => exact absurd hstatus status.2
  | _ => rfl

/-- The history ends with the current node, behind the name to which it is attributed. -/
theorem handleHistory_eq (last : preview.session.AtLast) :
    ∃ earlier choiceText, preview.handleHistory = preview.ok ("\n".intercalate
      ("Conversation history:" :: earlier
        ++ ("  " ++ (preview.recorded?.map (· ++ ": ")).getD ""
            ++ if node.title.isEmpty then unknownTitle else node.title)
          :: ((nonempty? choiceText).map ("    Choice: " ++ ·)).toList)) := by
  obtain ⟨before, moment, choiceText, htranscript⟩ := exists_transcript here last
  have hlast : ∀ line : TranscriptLine,
      (before ++ [line]).drop ((before ++ [line]).length - historyLength) =
        before.drop (before.length + 1 - historyLength) ++ [line] := by
    intro line
    rw [List.length_append, List.length_singleton, List.drop_append_of_le_length]
    simp only [historyLength]
    omega
  have hrecorded : preview.recorded? = nonempty? (speakerOf? preview.characters node) := by
    rw [recorded?, htranscript, List.getLast?_concat, Option.bind_some]
  refine ⟨(before.drop (before.length + 1 - historyLength)).flatMap stepLines, choiceText, ?_⟩
  unfold handleHistory
  simp only [htranscript]
  rw [if_neg (by simp), hlast, List.flatMap_append, List.flatMap_singleton, hrecorded, stepLines_eq]
  rfl

end

/-! ### Attributions -/

/-- Who speaks at the current node, and where the player sees it. -/
structure Attributes (preview : Preview) (node : Node) : Prop where
  /-- The first character with the id that the node refers to introduces what it says. -/
  introduced : preview.introduced? = (nonempty? node.character).bind fun id =>
    (namesakes preview.characters id).head?.bind fun c => nonempty? (some c.label)
  /-- The last one is recorded. -/
  recorded : preview.recorded? = (nonempty? node.character).bind fun id =>
    (namesakes preview.characters id).getLast?.bind fun c => nonempty? (some c.label)
  agree_iff : preview.introduced? = preview.recorded? ↔
    ∀ id, nonempty? node.character = some id → HasOneVoice preview.characters id
  agree_of_distinct : (preview.characters.map Character.id).Nodup →
    preview.introduced? = preview.recorded?
  described : preview.describe = "\n".intercalate
    (("[" ++ kindHeading node.kind ++ "] " ++ node.title)
      :: ((preview.introduced?.map (· ++ ":")).toList
        ++ contentLines node
        ++ choiceLines preview.tree node
        ++ statusLines preview.session))
  looked_back : ∃ earlier choiceText, preview.handleHistory = preview.ok ("\n".intercalate
    ("Conversation history:" :: earlier
      ++ ("  " ++ (preview.recorded?.map (· ++ ": ")).getD ""
          ++ if node.title.isEmpty then unknownTitle else node.title)
        :: ((nonempty? choiceText).map ("    Choice: " ++ ·)).toList))

/-- **What the current node says is introduced with the name to which the history attributes it,
exactly if the first and the last character with the id that the node refers to are called the
same**, wherever operations, lines and edits have led. -/
theorem IsStaged.attributes (staged : preview.IsStaged)
    (here : preview.session.node? preview.tree = some node) : preview.Attributes node := by
  have coherent := staged.isCoherent
  have last := coherent.atLast
  have status : preview.session.status ≠ .idle ∧ preview.session.status ≠ .noNodes := by
    rw [← not_or, coherent.status_iff]
    intro hnone
    rw [Session.node?, hnone] at here
    cases here
  have introduced := introduced?_eq here
  have recorded := recorded?_eq here last
  have agree_iff : preview.introduced? = preview.recorded? ↔
      ∀ id, nonempty? node.character = some id → HasOneVoice preview.characters id := by
    rw [introduced, recorded]
    cases nonempty? node.character with
    | none => simp
    | some id =>
      simp only [Option.bind_some, named_eq_iff_hasOneVoice, Option.some.injEq, forall_eq']
  exact {
    introduced
    recorded
    agree_iff
    agree_of_distinct := fun distinct => agree_iff.mpr fun id _ => hasOneVoice_of_nodup distinct id
    described := describe_eq here status
    looked_back := handleHistory_eq here last }

/-- The hall where a character speaks whose id another one has as well. -/
def twinsHall : Preview :=
  .begin
    { id := "twins"
      name := "Twins"
      startNodeId := some "hall"
      nodes := .ofList
        [{ id := "hall", kind := .npc, title := "Hall", content := some "Hello."
           character := some "twin" }] }
    [{ id := "twin", name := "Ada" }, { id := "twin", name := "Bob" }] false
    { chance := fun _ => .zero, clock := .steady .zero }

/-- In the hall one of the two is introduced and the other one recorded. -/
theorem attributes_in_twinsHall :
    ∃ hall, twinsHall.session.node? twinsHall.tree = some hall ∧ twinsHall.IsStaged ∧
      twinsHall.introduced? = some "Ada" ∧ twinsHall.recorded? = some "Bob" ∧
      ¬ HasOneVoice twinsHall.characters "twin" := by
  have reached : twinsHall.IsReachable := .begun _ _ _ _
  have staged := reached.isStaged
  have attributes := staged.attributes rfl
  have introduced : twinsHall.introduced? = some "Ada" := attributes.introduced
  have recorded : twinsHall.recorded? = some "Bob" := attributes.recorded
  refine ⟨_, rfl, staged, introduced, recorded, fun oneVoice => ?_⟩
  have agree := attributes.agree_iff.mpr fun id hid => by
    cases hid
    exact oneVoice
  rw [introduced, recorded] at agree
  exact absurd agree (by decide)

end Preview

end Colloquy
