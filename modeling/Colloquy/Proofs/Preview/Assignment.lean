import Colloquy.Proofs.Preview.Answer
import Colloquy.Proofs.Script.Ordered
import Colloquy.Proofs.Script.StatementForms

/-!
# Setting variables

What comes of a developer's line that sets a variable.  The line is put together again as a
statement, which is executed; then the answer shows what the variable with the name as it was typed
holds.  The statement takes quotation marks off a name and fails for a literal that is too long, so
the variable that was written may be another one.

* `Text.IsWord`, `isWord_of_mem_words`, `isPhrase_intercalate`: words, and a phrase of them;
* `Command.Sets`, `Command.read_of_sets`: a line that sets a variable;
* `Action.read_setting`: the statement of such a line;
* `Preview.HasAnnounced`: what was written, what is shown of it, and what is seen of it later;
* `Preview.set_announces`: so it is after every such line that is answered.
-/

namespace Colloquy

open Text

/-! ### Words -/

namespace Text

variable {s w : List Char} {ws : List (List Char)}

/-- One or more characters without a blank among them. -/
def IsWord (s : List Char) : Prop := s ≠ [] ∧ ∀ c ∈ s, isBlank c = false

theorem isWord_of_mem_words (hw : w ∈ words s) : IsWord w :=
  ⟨ne_nil_of_mem_words hw, eq_false_of_mem_splitOnP (List.mem_of_mem_filter hw)⟩

/-- A text without blanks is one word at most. -/
theorem length_words_le (solid : ∀ c ∈ s, isBlank c = false) : (words s).length ≤ 1 := by
  rw [words, List.splitOnP_eq_singleton solid]
  exact List.length_filter_le _ _

/-- Words with spaces between them have no blank at either end. -/
theorem isPhrase_intercalate (whole : ∀ w ∈ ws, IsWord w) (hne : ws ≠ []) :
    Action.IsPhrase ([' '].intercalate ws) ∧
      ∀ c ∈ ([' '].intercalate ws).getLast?, isBlank c = false := by
  induction ws with
  | nil => exact absurd rfl hne
  | cons w rest ih =>
    obtain ⟨⟨named, solid⟩, hrest⟩ := List.forall_mem_cons.mp whole
    have line : '\n' ∉ w := fun hmem => by
      have := solid _ hmem
      simp at this
    have start (t : List Char) : StopsAt isBlank (w ++ t) :=
      stopsAt_append_of_ne_nil named fun c hc => solid c (List.mem_of_head? hc)
    by_cases hlast : rest = []
    · subst hlast
      rw [List.intercalate_singleton]
      refine ⟨⟨named, line, ?_⟩, fun c hc => solid c (List.mem_of_getLast? hc)⟩
      simpa using start []
    · obtain ⟨⟨hphrase, hline, -⟩, hend⟩ := ih hrest hlast
      rw [List.intercalate_cons_of_ne_nil hlast, List.append_assoc]
      refine ⟨⟨by simp [named], ?_, start _⟩, ?_⟩
      · simp [line, hline]
      · rwa [List.getLast?_append_of_ne_nil _ (by simp),
          List.getLast?_append_of_ne_nil _ hphrase]

end Text

/-! ### Lines and statements -/

section Lines

variable {line name : String} {values : List String}

/-- A line asks to set a variable: it is made of a form of the verb, a name and one or more other
words. -/
def Command.Sets (line name : String) (values : List String) : Prop :=
  values ≠ [] ∧ ∃ verb,
    words (trim line.toList) = verb :: name.toList :: values.map String.toList ∧
      String.ofList ((lower verb).dropWhile (· == '/')) = "set"

theorem Command.Sets.isWord (sets : Sets line name values) :
    IsWord name.toList ∧ ∀ w ∈ values.map String.toList, IsWord w := by
  obtain ⟨-, verb, hwords, -⟩ := sets
  have hword {w : List Char} (hw : w ∈ name.toList :: values.map String.toList) : IsWord w :=
    isWord_of_mem_words (s := trim line.toList) (hwords ▸ List.mem_cons_of_mem verb hw)
  exact ⟨hword List.mem_cons_self, fun w hw => hword (List.mem_cons_of_mem _ hw)⟩

/-- Such a line is read with the words as they are. -/
theorem Command.read_of_sets (sets : Sets line name values) :
    ∃ raw, read line = .ok { raw, verb := some .set, arguments := name :: values } := by
  obtain ⟨hne, verb, hwords, hverb⟩ := sets
  refine ⟨strip line, ?_⟩
  have notNumber : isNumber (trim line.toList) = false := by
    rw [← Bool.not_eq_true, isNumber_iff]
    rintro ⟨-, digits⟩
    have hlength := length_words_le fun c hc => isBlank_of_isDigitLike (digits c hc)
    rw [hwords] at hlength
    simp at hlength
  have hknown : Verb.ofWord? "set" = some .set := by decide
  have fitting : argumentError? .set (name :: values) = none := by
    obtain ⟨value, rest, rfl⟩ := List.exists_cons_of_ne_nil hne
    simp [argumentError?]
  have harguments : (values.map String.toList).map String.ofList = values := by
    simp [Function.comp_def]
  simp only [read, notNumber, Bool.false_eq_true, if_false, ofWords, hwords, List.headD_cons,
    hverb, hknown, List.tail_cons, List.map_cons, String.ofList_toList, harguments, fitting, strip]

/-- The statement that is put together from the words of a line. -/
theorem Action.read_setting (named : IsWord name.toList)
    (whole : ∀ w ∈ values.map String.toList, IsWord w) (hne : values ≠ []) :
    Action.read ("setVar " ++ name ++ " " ++ " ".intercalate values) =
      (valueOf (" ".intercalate values).toList).map (.setVariable (nameOf name.toList)) := by
  have hphrase : (" ".intercalate values).toList =
      [' '].intercalate (values.map String.toList) := String.toList_intercalate
  obtain ⟨phrased, hend⟩ := isPhrase_intercalate whole (by simpa using hne)
  rw [← hphrase] at phrased hend
  let a : Assignment :=
    { keyword := "setVar".toList
      gap := [' ']
      name := name.toList
      gap' := [' ']
      phrase := (" ".intercalate values).toList
      spells := by simp only [Spells]; decide
      blank := ⟨by simp, by simp⟩
      named := named.1
      whole := named.2
      blank' := ⟨by simp, by simp⟩
      phrased }
  have htext : ("setVar " ++ name ++ " " ++ " ".intercalate values).toList = a.text := by
    simp [a, Assignment.text, Assignment.operand]
  have trimmed : trim a.text = a.text := by
    refine trim_eq_self_iff.mpr ⟨?_, ?_⟩
    · rintro c hc
      cases hc
      decide
    · have hlast : a.text = ("setVar".toList ++ ([' '] ++ (name.toList ++ [' ']))) ++ a.phrase := by
        simp [Assignment.text, Assignment.operand, a]
      rw [hlast, List.getLast?_append_of_ne_nil _ phrased.nonempty]
      exact hend
  exact read_eq_iff.mpr (.inl ⟨a, by rw [htext, trimmed], rfl⟩)

/-- The name of a variable is a condition about it. -/
theorem Condition.read_variable (identifier : isIdentifier name.toList = true) :
    read name = .ok (.variable name) := by
  have solid := isBlank_of_isIdentifier identifier
  have trimmed : trim name.toList = name.toList := trim_eq_self_iff.mpr
    ⟨fun c hc => solid c (List.mem_of_head? hc), fun c hc => solid c (List.mem_of_getLast? hc)⟩
  refine read_eq_iff.mpr (.inl ⟨by rwa [trimmed], ?_⟩)
  rw [strip, trimmed, String.ofList_toList]

theorem evaluateCondition_variable {store : Store} {v : Value}
    (identifier : Condition.isIdentifier name.toList = true)
    (held : Store.get? store name = some v) (sources : Sources) :
    evaluateCondition name store sources = (v.truth, sources) := by
  rw [evaluateCondition, Condition.read_variable identifier]
  dsimp only [Condition.evaluate]
  rw [held]

end Lines

section Writing

variable {text own x : String} {store : Store} {ms : Int} {value v : Value} {e : NumberError}

/-- A statement that is read as one that sets a variable writes this one. -/
theorem Writes.eq_of_setVariable (writes : Writes text ms store own value)
    (reading : Action.read text = .ok (.setVariable x v)) : own = x ∧ value = v := by
  cases writes with
  | own reading' assigned =>
    rw [reading] at reading'
    cases reading'
    cases assigned
    exact ⟨rfl, rfl⟩
  | unknown reading' =>
    rw [reading] at reading'
    cases reading'
  | failed failure =>
    cases failure with
    | literal _ reading' | health reading' =>
      rw [reading] at reading'
      cases reading'

/-- A statement that cannot be read is recorded as a failure. -/
theorem Writes.eq_of_error (writes : Writes text ms store own value)
    (unread : Action.read text = .error e) :
    IsFirstFree store ("error_" ++ toString ms) own ∧
      value = .text (strip text ++ ": " ++ e.message) := by
  cases writes with
  | own reading | unknown reading =>
    rw [unread] at reading
    cases reading
  | failed failure free =>
    cases failure with
    | literal _ reading =>
      rw [unread] at reading
      cases reading
      exact ⟨free, rfl⟩
    | health reading =>
      rw [unread] at reading
      cases reading

end Writing

/-! ### Answers -/

namespace Preview

variable {preview after : Preview} {line name own text : String} {values : List String}
  {value : Value} {reply : Reply}

/-- A line that sets a variable is carried out for developers while the session is under way. -/
theorem handleLine_of_sets (sets : Command.Sets line name values)
    (developers : preview.forDevelopers = true) (running : preview.session.isRunning = true) :
    preview.handleLine line = preview.setVariable name (" ".intercalate values) := by
  obtain ⟨raw, reading⟩ := Command.read_of_sets sets
  simp [handleLine, reading, handle, developers, perform, handleSet,
    notPlaying?_eq_none_iff.mpr running]

/-- An answer comes only of a statement that gets through, and shows what the variable with the
given name holds then. -/
theorem setVariable_eq_ok (h : preview.setVariable name text = (after, .ok reply)) :
    (execute ("setVar " ++ name ++ " " ++ text) preview.session.store
        preview.sources).fault = none ∧
      after = preview.afterSetting name text ∧
      ∃ shown, shownValue (Store.get? after.session.store name) = .ok shown ∧
        reply = ⟨.ok, name ++ " = " ++ shown⟩ := by
  unfold setVariable at h
  dsimp only at h
  split at h
  · cases h
  · next whole =>
    split at h
    · cases h
    · next shown hshown =>
      cases h
      exact ⟨whole, rfl, shown, hshown, rfl⟩

/-- After a variable is set, what is shown is its value exactly if it is the variable that is shown,
or the other one looks the same. -/
theorem shown_eq_iff {store : Store} {shown : String} (written : value.written = .ok text)
    (hshown : shownValue (Store.get? (Store.set store own value) name) = .ok shown) :
    shown = text ↔ own = name ∨ shownValue (Store.get? store name) = .ok text := by
  by_cases same : own = name
  · subst same
    rw [Store.get?_set_self, shownValue, written] at hshown
    simp [Except.ok.inj hshown]
  · rw [Store.get?_set_of_ne _ _ same] at hshown
    simp [hshown, same]

/-- The line of a variable is among those that are shown of all variables. -/
theorem listed_of_get? (developers : preview.forDevelopers = true)
    (held : Store.get? preview.session.store own = some value) (written : value.written = .ok text)
    (answered : (preview.handleLine "/vars").2 = .ok reply) :
    ∃ before behind, reply =
      ⟨.ok, "Variables:\n" ++
        "\n".intercalate (before ++ ("  " ++ own ++ " = " ++ text) :: behind)⟩ := by
  have reading : Command.read "/vars" = .ok { raw := "/vars", verb := some .vars } := by
    decide +kernel
  have hvars : preview.handleLine "/vars" = preview.handleVars := by
    simp [handleLine, reading, handle, developers, perform]
  obtain ⟨entry, hentry, rfl⟩ := Option.map_eq_some_iff.mp held
  obtain rfl : entry.1 = own := Roster.key_of_find? hentry
  have hmem : entry ∈ preview.session.store.toList := Roster.mem_of_find? hentry
  have hfull : ¬ preview.session.store.isEmpty = true := by
    rw [Roster.isEmpty, List.isEmpty_iff]
    exact List.ne_nil_of_mem hmem
  rw [hvars, handleVars, if_neg hfull] at answered
  split at answered
  · cases answered
  · next lines hlines =>
    cases answered
    obtain ⟨shown, hshown, hline⟩ :=
      exists_mem_of_forall₂ (mapM_eq_ok_iff.mp hlines) (List.mem_mergeSort.mpr hmem)
    rw [variableLine, written] at hline
    cases hline
    obtain ⟨before, behind, rfl⟩ := List.append_of_mem hshown
    exact ⟨before, behind, rfl⟩

/-- What an answered line that sets a variable has done, where the statement that it was made into
wrote the variable `own`. -/
structure HasAnnounced (preview : Preview) (name : String) (values : List String) (after : Preview)
    (reply : Reply) (own : String) (value : Value) : Prop where
  /-- Just this variable was written, and the session stays where it is. -/
  written : after = { preview with
    session := preview.session.withStore (Store.set preview.session.store own value)
    sources := after.sources }
  /-- It has the name without quotation marks and the value that the other words denote. -/
  assigned : ∀ v, Action.valueOf (" ".intercalate values).toList = .ok v →
    own = Action.nameOf name.toList ∧ value = v
  /-- If these are a literal that is too long, it is a new record of the failure instead. -/
  recorded : ∀ e, Action.valueOf (" ".intercalate values).toList = .error e →
    ∃ ms, milliseconds preview.sources.clock = .ok ms ∧
      IsFirstFree preview.session.store ("error_" ++ toString ms) own ∧
        value = .text (strip ("setVar " ++ name ++ " " ++ " ".intercalate values) ++ ": "
          ++ e.message)
  /-- The answer shows what the variable with the name as it was typed holds now. -/
  shown : ∃ text, shownValue (Store.get? after.session.store name) = .ok text ∧
    reply = ⟨.ok, name ++ " = " ++ text⟩
  /-- So it shows the value that was written exactly if the variable that was written has the name
  as it was typed, or the other one looks the same. -/
  announced_iff : ∃ text, value.written = .ok text ∧
    (reply.message = name ++ " = " ++ text ↔
      own = name ∨ shownValue (Store.get? preview.session.store name) = .ok text)
  /-- Conditions see the value that was written, both those that compare it with an integer and the
  one that asks whether it counts as true. -/
  compared : ∀ r n text sources, Condition.Asks own r n text →
    evaluateCondition text after.session.store sources =
      (relationHolds r.mark (value.number.compare? n), sources)
  tested : Condition.isIdentifier own.toList = true → ∀ sources,
    evaluateCondition own after.session.store sources = (value.truth, sources)
  /-- It is listed with that value when all variables are shown. -/
  listed : ∀ reply', (after.handleLine "/vars").2 = .ok reply' →
    ∃ text before behind, value.written = .ok text ∧
      reply' = ⟨.ok, "Variables:\n" ++
        "\n".intercalate (before ++ ("  " ++ own ++ " = " ++ text) :: behind)⟩

/-- **An answered line that sets a variable writes just one variable**, which conditions and the
list of all variables then see; and the answer announces what was written, exactly if the variable
has the name as it was typed.  An answer comes whenever the variables can be written and the clock
shows a time. -/
theorem set_announces (sets : Command.Sets line name values)
    (developers : preview.forDevelopers = true) (running : preview.session.isRunning = true) :
    (Store.IsShort preview.session.store → ShowsTime preview.sources.clock →
      ∃ after message, preview.handleLine line = ok after message) ∧
    ∀ after reply, preview.handleLine line = (after, .ok reply) →
      ∃ own value, preview.HasAnnounced name values after reply own value := by
  rw [handleLine_of_sets sets developers running]
  refine ⟨fun short time => exists_setVariable_ok short (fault_execute_of_showsTime time),
    fun after reply answered => ?_⟩
  obtain ⟨whole, hafter, shown, hshown, rfl⟩ := setVariable_eq_ok answered
  obtain ⟨named, words⟩ := sets.isWord
  have reading := Action.read_setting named words sets.1
  have known (body : String) :
      Action.read ("setVar " ++ name ++ " " ++ " ".intercalate values) ≠ .ok (.unknown body) := by
    rw [reading]
    cases Action.valueOf (" ".intercalate values).toList <;> nofun
  obtain ⟨ms, own, value, time, writes, hstore⟩ := exists_writes_of_whole whole (.inr known)
  have arises := writes.arises
  obtain ⟨text, written⟩ := Value.exists_written arises.isShort
  have store : after.session.store = Store.set preview.session.store own value := by
    rw [hafter, store_afterSetting, hstore]
  have held : Store.get? after.session.store own = some value := by
    rw [store, Store.get?_set_self]
  refine ⟨own, value, ?_⟩
  constructor
  case written =>
    rw [← hstore, hafter]
    rfl
  case assigned =>
    intro v hv
    rw [hv] at reading
    exact writes.eq_of_setVariable reading
  case recorded =>
    intro e he
    rw [he] at reading
    exact ⟨ms, time (.unread reading), writes.eq_of_error reading⟩
  case shown => exact ⟨shown, hshown, rfl⟩
  case announced_iff =>
    refine ⟨text, written, ?_⟩
    rw [String.append_right_inj]
    exact shown_eq_iff written (store ▸ hshown)
  case compared =>
    intro r n text sources asks
    rw [asks.evaluateCondition_eq, held, Value.numberOf_some]
  case tested => exact fun identifier => evaluateCondition_variable identifier held
  case listed =>
    intro reply' answered'
    have developers' : after.forDevelopers = true := by
      rw [hafter, forDevelopers_afterSetting, developers]
    obtain ⟨before, behind, hreply⟩ := listed_of_get? developers' held written answered'
    exact ⟨text, before, behind, written, hreply⟩

/-- A developer's preview in front of the gate, where no variable is set. -/
def atGate : Preview := .begin gateTree [] true { chance := fun _ => .zero, clock := .steady .zero }

/-- A name in quotation marks: the gold is set, and the answer shows a variable that there is
not. -/
theorem set_announces_quoted :
    Command.Sets "/set \"gold\" 60" "\"gold\"" ["60"] ∧ atGate.forDevelopers = true ∧
      atGate.session.isRunning = true ∧
      ∃ after : Preview,
        atGate.handleLine "/set \"gold\" 60" = (after, .ok ⟨.ok, "\"gold\" = None"⟩) ∧
        after.session = atGate.session.withStore
          (Store.set atGate.session.store "gold" (.integer 60)) ∧
        evaluateCondition "gold" after.session.store after.sources = (true, after.sources) := by
  have sets : Command.Sets "/set \"gold\" 60" "\"gold\"" ["60"] :=
    ⟨by decide, "/set".toList, by decide +kernel, by decide +kernel⟩
  have running : atGate.session.isRunning = true := by decide +kernel
  have short : Store.IsShort atGate.session.store := Store.isShort_empty
  have time : ShowsTime atGate.sources.clock := by decide +kernel
  obtain ⟨answers, announces⟩ := set_announces sets rfl running
  obtain ⟨after, message, answered⟩ := answers short time
  obtain ⟨own, value, announced⟩ := announces after ⟨.ok, message⟩ answered
  have hvalue : Action.valueOf (" ".intercalate ["60"]).toList = .ok (.integer 60) := by
    decide +kernel
  obtain ⟨rfl, rfl⟩ := announced.assigned _ hvalue
  have hown : Action.nameOf "\"gold\"".toList = "gold" := by decide +kernel
  rw [hown] at announced
  have written : after.session =
      atGate.session.withStore (Store.set atGate.session.store "gold" (.integer 60)) :=
    congrArg Preview.session announced.written
  obtain ⟨text, hshown, hreply⟩ := announced.shown
  have hnone : Store.get? after.session.store "\"gold\"" = none := by
    have hset : Store.get? (Store.set .empty "gold" (.integer 60)) "\"gold\"" = none := by
      decide +kernel
    rwa [written]
  rw [hnone] at hshown
  cases hshown
  cases hreply
  exact ⟨sets, rfl, running, after, answered, written, announced.tested (by decide) after.sources⟩

end Preview

end Colloquy
