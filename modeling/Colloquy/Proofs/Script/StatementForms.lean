import Colloquy.Proofs.Script.Grammar
import Colloquy.Proofs.Script.Numeral
import Colloquy.Proofs.Success

/-!
# Forms of statements

Statements are read exactly: a text is written in one of the five forms of the language in one way
at most, and reading finds that way.  Keywords go in letters of any case, and their first letters
tell them apart; a name ends at the first blank, and a phrase starts behind the last one in a row.

* `Text.Unquoted`, `unwrap_eq_iff`: a text that loses one layer of quotation marks, if it has one;
* `Assignment`, `Deed`, `Treatment`, `Form`: the forms, with all their parts, and their texts;
* `Form.text_injective`: a text has one decomposition at most, and one shape;
* `Shape.read?_eq_some_iff`: the readers of the shapes are sound and complete;
* `grammar`, `readTrimmed_eq_read`: reading statements tries the five shapes in order;
* `ReadsExactly`, `statements_read_exactly`: what a statement is read as.
-/

namespace Colloquy

open Text

/-! ### Quotation marks -/

/-- Losing one layer of matching quotation marks, where a text has one. -/
inductive Text.Unquoted : List Char → List Char → Prop
  | layer {q : Char} (quoted : isQuote q = true) (s : List Char) : Unquoted (q :: (s ++ [q])) s
  | bare {s : List Char} (unlayered : ∀ q t, isQuote q = true → s ≠ q :: (t ++ [q])) :
      Unquoted s s

namespace Text

variable {s t : List Char}

theorem unwrap_of_unlayered (h : ∀ q t, isQuote q = true → s ≠ q :: (t ++ [q])) :
    unwrap s = s := by
  cases s with
  | nil => rfl
  | cons q rest =>
    rw [unwrap, if_neg]
    rw [Bool.and_eq_true, beq_iff_eq]
    rintro ⟨quoted, hlast⟩
    obtain ⟨t, rfl⟩ := List.getLast?_eq_some_iff.mp hlast
    exact h q t quoted rfl

theorem unwrap_eq_iff : unwrap s = t ↔ Unquoted s t := by
  constructor
  · rintro rfl
    by_cases h : ∃ q t, isQuote q = true ∧ s = q :: (t ++ [q])
    · obtain ⟨q, t, quoted, rfl⟩ := h
      rw [unwrap_wrap quoted]
      exact .layer quoted t
    · have unlayered : ∀ q t, isQuote q = true → s ≠ q :: (t ++ [q]) := fun q t quoted hs =>
        h ⟨q, t, quoted, hs⟩
      rw [unwrap_of_unlayered unlayered]
      exact .bare unlayered
  · intro h
    cases h with
    | layer quoted => exact unwrap_wrap quoted t
    | bare unlayered => exact unwrap_of_unlayered unlayered

end Text

namespace Value

/-- A value that loses its quotation marks, if it is a text. -/
inductive Unquoted : Value → Value → Prop
  | text {s t : String} (h : Text.Unquoted s.toList t.toList) : Unquoted (.text s) (.text t)
  | other {v : Value} (h : ∀ s, v ≠ .text s) : Unquoted v v

end Value

namespace Action

variable {s name phrase : List Char} {v : Value} {e : NumberError}

theorem nameOf_eq_iff {name : String} : nameOf s = name ↔ Unquoted s name.toList := by
  rw [← unwrap_eq_iff, nameOf, ← String.toList_inj, String.toList_ofList]

/-- The value of a phrase is what the phrase is read as, without quotation marks. -/
theorem valueOf_eq_ok_iff :
    valueOf phrase = .ok v ↔ ∃ w, Value.read (String.ofList phrase) = .ok w ∧ w.Unquoted v := by
  rw [valueOf, bind_eq_ok_iff]
  refine exists_congr fun w => and_congr_right fun _ => ?_
  cases w with
  | text s =>
    constructor
    · intro h
      cases h
      exact .text (unwrap_eq_iff.mp (by rw [unwrapped, String.toList_ofList]))
    · intro h
      cases h with
      | @text _ t h =>
        have ht : unwrapped s = t := by rw [unwrapped, unwrap_eq_iff.mpr h, String.ofList_toList]
        rw [← ht]
        rfl
      | other h => exact absurd rfl (h s)
  | integer | real | flag =>
    constructor
    · intro h
      cases h
      refine .other fun s hs => ?_
      cases hs
    · intro h
      cases h
      rfl

/-! ### Forms -/

/-- The statements about a single phrase. -/
inductive Verb
  | addItem
  | removeItem
  | completeQuest
  deriving DecidableEq

/-- The keyword of a verb, in small letters. -/
def Verb.keyword : Verb → String
  | addItem => "additem"
  | removeItem => "removeitem"
  | completeQuest => "completequest"

/-- What a verb does with the item or the quest of a name. -/
def Verb.action : Verb → String → Action
  | addItem, name => .setItem name true
  | removeItem, name => .setItem name false
  | completeQuest, name => .completeQuest name

theorem Verb.action_inj {verb verb' : Verb} {x x' : String} :
    verb.action x = verb'.action x' ↔ verb = verb' ∧ x = x' := by
  cases verb <;> cases verb' <;> simp [action]

/-- A verb neither sets a variable of its own choice nor changes the health. -/
theorem Verb.action_ne (verb : Verb) (x : String) :
    (∀ name value, verb.action x ≠ .setVariable name value) ∧
      (∀ delta, verb.action x ≠ .modifyHealth delta) ∧ ∀ text, verb.action x ≠ .unknown text := by
  cases verb <;> exact ⟨nofun, nofun, nofun⟩

/-- A text within one line that is not empty and starts with no blank. -/
structure IsPhrase (s : List Char) : Prop where
  nonempty : s ≠ []
  line : '\n' ∉ s
  start : StopsAt isBlank s

/-- A statement that sets a variable as it is written: a keyword, a name and a phrase. -/
@[ext]
structure Assignment where
  keyword : List Char
  gap : List Char
  name : List Char
  gap' : List Char
  phrase : List Char
  spells : Spells "setvar" keyword
  blank : IsGap gap
  named : name ≠ []
  whole : ∀ c ∈ name, isBlank c = false
  blank' : IsGap gap'
  phrased : IsPhrase phrase

/-- A statement about an item or a quest as it is written: a keyword and a phrase. -/
@[ext]
structure Deed where
  verb : Verb
  keyword : List Char
  gap : List Char
  phrase : List Char
  spells : Spells verb.keyword keyword
  blank : IsGap gap
  phrased : IsPhrase phrase

/-- A statement that changes the health as it is written: a keyword and a numeral. -/
@[ext]
structure Treatment where
  keyword : List Char
  gap : List Char
  amount : Numeral
  spells : Spells "modifyhealth" keyword
  blank : IsGap gap

/-- The shapes of statements. -/
inductive Shape
  | assignment
  | deed (verb : Verb)
  | treatment
  deriving DecidableEq

/-- The keyword of a shape, in small letters. -/
def Shape.keyword : Shape → String
  | assignment => "setvar"
  | deed verb => verb.keyword
  | treatment => "modifyhealth"

/-- The first letter of the keyword of a shape. -/
def Shape.initial : Shape → Char
  | assignment => 's'
  | deed .addItem => 'a'
  | deed .removeItem => 'r'
  | deed .completeQuest => 'c'
  | treatment => 'm'

/-- A statement in one of the shapes. -/
inductive Form
  | assignment (a : Assignment)
  | deed (d : Deed)
  | treatment (t : Treatment)

/-- What stands behind the keyword and the blanks that follow it. -/
def Assignment.operand (a : Assignment) : List Char := a.name ++ (a.gap' ++ a.phrase)

/-- How a statement that sets a variable is written. -/
def Assignment.text (a : Assignment) : List Char := a.keyword ++ (a.gap ++ a.operand)

/-- How a statement about an item or a quest is written. -/
def Deed.text (d : Deed) : List Char := d.keyword ++ (d.gap ++ d.phrase)

/-- How a statement that changes the health is written. -/
def Treatment.text (t : Treatment) : List Char := t.keyword ++ (t.gap ++ t.amount.text)

namespace Form

/-- The shape of a statement. -/
def shape : Form → Shape
  | assignment _ => .assignment
  | deed d => .deed d.verb
  | treatment _ => .treatment

/-- The keyword of a statement as it is written. -/
def word : Form → List Char
  | assignment a => a.keyword
  | deed d => d.keyword
  | treatment t => t.keyword

/-- The blanks behind the keyword. -/
def gap : Form → List Char
  | assignment a => a.gap
  | deed d => d.gap
  | treatment t => t.gap

/-- What stands behind the keyword and the blanks that follow it. -/
def operand : Form → List Char
  | assignment a => a.operand
  | deed d => d.phrase
  | treatment t => t.amount.text

/-- How a statement is written. -/
def text (form : Form) : List Char := form.word ++ (form.gap ++ form.operand)

/-- What a statement means; a literal in it may be too long. -/
def meaning : Form → Except NumberError Action
  | assignment a => (valueOf a.phrase).map (.setVariable (nameOf a.name))
  | deed d => .ok (d.verb.action (nameOf d.phrase))
  | treatment t => t.amount.literal.value.map .modifyHealth

end Form

/-! ### One decomposition -/

namespace Shape

theorem exists_keyword_eq (k : Shape) : ∃ letters, k.keyword.toList = k.initial :: letters := by
  rcases k with _ | (_ | _ | _) | _ <;> exact ⟨_, rfl⟩

theorem initial_mem (k : Shape) : k.initial ∈ initials := by
  rcases k with _ | (_ | _ | _) | _ <;> decide

theorem initial_injective : Function.Injective initial := by
  intro k k' h
  rcases k with _ | (_ | _ | _) | _ <;> rcases k' with _ | (_ | _ | _) | _ <;>
    first | rfl | exact absurd h (by decide)

end Shape

/-- The parts behind the keyword are told apart by the first blanks in a row. -/
theorem Assignment.eq_of_operand_eq {a a' : Assignment} (hkeyword : a.keyword = a'.keyword)
    (hgap : a.gap = a'.gap) (h : a.operand = a'.operand) : a = a' := by
  have hname (a : Assignment) : ∀ c ∈ a.name, (!isBlank c) = true := fun c hc => by
    rw [a.whole c hc]
    rfl
  obtain ⟨hname, hrest⟩ := append_inj_of_stopsAt (hname a) (hname a') (a.blank'.stopsAt _)
    (a'.blank'.stopsAt _) h
  obtain ⟨hgap', hphrase⟩ := append_inj_of_stopsAt a.blank'.2 a'.blank'.2 a.phrased.start
    a'.phrased.start hrest
  exact Assignment.ext hkeyword hgap hname hgap' hphrase

theorem Assignment.stopsAt_operand (a : Assignment) : StopsAt isBlank a.operand :=
  stopsAt_append_of_ne_nil a.named fun c hc => a.whole c (List.mem_of_head? hc)

theorem Treatment.stopsAt_amount (t : Treatment) : StopsAt isBlank t.amount.text := fun _ hc =>
  Numeral.isBlank_of_mem_text (List.mem_of_head? hc)

namespace Form

variable {form form' : Form}

theorem spells (form : Form) : Spells form.shape.keyword form.word := by
  cases form with
  | assignment a => exact a.spells
  | deed d => exact d.spells
  | treatment t => exact t.spells

theorem isGap_gap (form : Form) : IsGap form.gap := by
  cases form with
  | assignment a => exact a.blank
  | deed d => exact d.blank
  | treatment t => exact t.blank

theorem stopsAt_operand (form : Form) : StopsAt isBlank form.operand := by
  cases form with
  | assignment a => exact a.stopsAt_operand
  | deed d => exact d.phrased.start
  | treatment t => exact t.stopsAt_amount

/-- A statement starts with a form of the first letter of its keyword. -/
theorem exists_head (form : Form) :
    ∃ c, isFormOf form.shape.initial c = true ∧ form.text.head? = some c := by
  obtain ⟨letters, hkeyword⟩ := form.shape.exists_keyword_eq
  have hspells := form.spells
  rw [Spells, hkeyword] at hspells
  obtain ⟨c, word, hform, -, hword⟩ := List.forall₂_cons_left_iff.mp hspells
  exact ⟨c, hform, by rw [text, hword]; rfl⟩

/-- The shape is told by the first character. -/
theorem shape_eq_of_text_eq (h : form.text = form'.text) : form.shape = form'.shape := by
  obtain ⟨c, hform, hhead⟩ := form.exists_head
  obtain ⟨c', hform', hhead'⟩ := form'.exists_head
  rw [h, hhead'] at hhead
  cases hhead
  exact Shape.initial_injective
    (initial_unique form.shape.initial_mem form'.shape.initial_mem hform hform')

/-- **A text is written in one way at most**, in one shape and with the same parts. -/
theorem text_injective : Function.Injective text := by
  intro form form' h
  have hshape := shape_eq_of_text_eq h
  have hlength : form.word.length = form'.word.length := by
    rw [← form.spells.length_eq, ← form'.spells.length_eq, hshape]
  obtain ⟨hword, hrest⟩ := List.append_inj h hlength
  obtain ⟨hgap, hoperand⟩ := append_inj_of_stopsAt form.isGap_gap.2 form'.isGap_gap.2
    form.stopsAt_operand form'.stopsAt_operand hrest
  cases form with
  | assignment a =>
    cases form' with
    | assignment a' => rw [Assignment.eq_of_operand_eq hword hgap hoperand]
    | deed | treatment => cases hshape
  | deed d =>
    cases form' with
    | deed d' => rw [Deed.ext (Shape.deed.inj hshape) hword hgap hoperand]
    | assignment | treatment => cases hshape
  | treatment t =>
    cases form' with
    | treatment t' => rw [Treatment.ext hword hgap (Numeral.text_injective hoperand)]
    | assignment | deed => cases hshape

end Form

/-! ### The readers of the shapes -/

section Readers

variable {verb : Verb} {l : IntegerLiteral}

theorem assignment_eq_some_iff :
    (operand? "setvar" s).bind assignment? = some (name, phrase) ↔
      ∃ a : Assignment, a.text = s ∧ a.name = name ∧ a.phrase = phrase := by
  rw [Option.bind_eq_some_iff]
  constructor
  · rintro ⟨rest, hoperand, hassignment⟩
    obtain ⟨word, gap, spells, blank, rfl, hstop⟩ := operand?_eq_some_iff.mp hoperand
    obtain ⟨gap', blank', rfl, whole, start, nonempty, line⟩ :=
      assignment?_eq_some_iff.mp hassignment
    have named : name ≠ [] := by
      rintro rfl
      exact blank'.not_stopsAt hstop
    exact ⟨⟨word, gap, name, gap', phrase, spells, blank, named, whole, blank',
      ⟨nonempty, line, start⟩⟩, rfl, rfl, rfl⟩
  · rintro ⟨a, rfl, rfl, rfl⟩
    exact ⟨a.operand,
      operand?_eq_some_iff.mpr ⟨a.keyword, a.gap, a.spells, a.blank, rfl, a.stopsAt_operand⟩,
      assignment?_eq_some_iff.mpr ⟨a.gap', a.blank', rfl, a.whole, a.phrased.start,
        a.phrased.nonempty, a.phrased.line⟩⟩

theorem deed_eq_some_iff :
    (operand? verb.keyword s).bind phrase? = some phrase ↔
      ∃ d : Deed, d.verb = verb ∧ d.text = s ∧ d.phrase = phrase := by
  rw [Option.bind_eq_some_iff]
  constructor
  · rintro ⟨rest, hoperand, hphrase⟩
    obtain ⟨word, gap, spells, blank, rfl, start⟩ := operand?_eq_some_iff.mp hoperand
    obtain ⟨rfl, nonempty, line⟩ := phrase?_eq_some_iff.mp hphrase
    exact ⟨⟨verb, word, gap, rest, spells, blank, ⟨nonempty, line, start⟩⟩, rfl, rfl, rfl⟩
  · rintro ⟨d, rfl, rfl, rfl⟩
    exact ⟨d.phrase,
      operand?_eq_some_iff.mpr ⟨d.keyword, d.gap, d.spells, d.blank, rfl, d.phrased.start⟩,
      phrase?_eq_some_iff.mpr ⟨rfl, d.phrased.nonempty, d.phrased.line⟩⟩

theorem treatment_eq_some_iff :
    (operand? "modifyhealth" s).bind IntegerLiteral.read? = some l ↔
      ∃ t : Treatment, t.text = s ∧ t.amount.literal = l := by
  rw [Option.bind_eq_some_iff]
  constructor
  · rintro ⟨rest, hoperand, hread⟩
    obtain ⟨word, gap, spells, blank, rfl, -⟩ := operand?_eq_some_iff.mp hoperand
    obtain ⟨n, rfl, rfl⟩ := IntegerLiteral.read?_eq_some_iff.mp hread
    exact ⟨⟨word, gap, n, spells, blank⟩, rfl, rfl⟩
  · rintro ⟨t, rfl, rfl⟩
    exact ⟨t.amount.text,
      operand?_eq_some_iff.mpr ⟨t.keyword, t.gap, t.spells, t.blank, rfl, t.stopsAt_amount⟩,
      t.amount.read?_text⟩

/-- Read a text as one of the shapes. -/
def Shape.read? : Shape → List Char → Option (Except NumberError Action)
  | .assignment, s => ((operand? "setvar" s).bind assignment?).map fun (name, phrase) =>
      (valueOf phrase).map (.setVariable (nameOf name))
  | .deed verb, s => ((operand? verb.keyword s).bind phrase?).map fun phrase =>
      .ok (verb.action (nameOf phrase))
  | .treatment, s => ((operand? "modifyhealth" s).bind IntegerLiteral.read?).map fun delta =>
      delta.value.map .modifyHealth

theorem Shape.read?_eq_some_iff {k : Shape} {r : Except NumberError Action} :
    k.read? s = some r ↔ ∃ form : Form, form.shape = k ∧ form.text = s ∧ form.meaning = r := by
  constructor
  · intro h
    cases k with
    | assignment =>
      obtain ⟨⟨name, phrase⟩, hread, rfl⟩ := Option.map_eq_some_iff.mp h
      obtain ⟨a, htext, rfl, rfl⟩ := assignment_eq_some_iff.mp hread
      exact ⟨.assignment a, rfl, htext, rfl⟩
    | deed verb =>
      obtain ⟨phrase, hread, rfl⟩ := Option.map_eq_some_iff.mp h
      obtain ⟨d, rfl, htext, rfl⟩ := deed_eq_some_iff.mp hread
      exact ⟨.deed d, rfl, htext, rfl⟩
    | treatment =>
      obtain ⟨l, hread, rfl⟩ := Option.map_eq_some_iff.mp h
      obtain ⟨t, htext, rfl⟩ := treatment_eq_some_iff.mp hread
      exact ⟨.treatment t, rfl, htext, rfl⟩
  · rintro ⟨form, rfl, rfl, rfl⟩
    cases form with
    | assignment a =>
      have hread := assignment_eq_some_iff.mpr ⟨a, rfl, rfl, rfl⟩
      exact Option.map_eq_some_iff.mpr ⟨_, hread, rfl⟩
    | deed d =>
      have hread := deed_eq_some_iff.mpr ⟨d, rfl, rfl, rfl⟩
      exact Option.map_eq_some_iff.mpr ⟨_, hread, rfl⟩
    | treatment t =>
      have hread := treatment_eq_some_iff.mpr ⟨t, rfl, rfl⟩
      exact Option.map_eq_some_iff.mpr ⟨_, hread, rfl⟩

end Readers

/-! ### Exact reading -/

/-- The grammar of statements. -/
def grammar : Grammar Form Shape (Except NumberError Action) where
  text := Form.text
  shape := Form.shape
  meaning := Form.meaning
  otherwise s := .ok (.unknown (String.ofList s))
  read? := Shape.read?
  unambiguous := Form.text_injective
  read?_eq_some_iff := Shape.read?_eq_some_iff

/-- The shapes in the order in which they are tried. -/
def Shape.all : List Shape :=
  [.assignment, .deed .addItem, .deed .removeItem, .deed .completeQuest, .treatment]

theorem Shape.mem_all (k : Shape) : k ∈ all := by
  rcases k with _ | (_ | _ | _) | _ <;> decide

/-- Reading statements tries the shapes one after the other. -/
theorem readTrimmed_eq_read (s : List Char) : readTrimmed s = grammar.read Shape.all s := by
  simp only [readTrimmed, Grammar.read, grammar, Shape.all, List.findSome?_cons,
    List.findSome?_nil, Shape.read?, Verb.keyword]
  cases (operand? "setvar" s).bind assignment? with
  | some a => rfl
  | none =>
    cases (operand? "additem" s).bind phrase? with
    | some item => rfl
    | none =>
      cases (operand? "removeitem" s).bind phrase? with
      | some item => rfl
      | none =>
        cases (operand? "completequest" s).bind phrase? with
        | some quest => rfl
        | none => cases (operand? "modifyhealth" s).bind IntegerLiteral.read? <;> rfl

section

variable {text : String} {r : Except NumberError Action}

/-- All readings of a statement, one for each form and one for a text in none of them. -/
theorem read_eq_iff :
    read text = r ↔
      (∃ a : Assignment, a.text = trim text.toList ∧
        (valueOf a.phrase).map (.setVariable (nameOf a.name)) = r) ∨
      (∃ d : Deed, d.text = trim text.toList ∧ .ok (d.verb.action (nameOf d.phrase)) = r) ∨
      (∃ t : Treatment, t.text = trim text.toList ∧
        t.amount.literal.value.map .modifyHealth = r) ∨
      (∀ form : Form, form.text ≠ trim text.toList) ∧ .ok (.unknown (strip text)) = r := by
  have hread := grammar.read_eq_iff (s := trim text.toList) (r := r) Shape.mem_all
  rw [← readTrimmed_eq_read] at hread
  refine hread.trans ⟨?_, ?_⟩
  · rintro (⟨form, htext, rfl⟩ | hnone)
    · cases form with
      | assignment a => exact .inl ⟨a, htext, rfl⟩
      | deed d => exact .inr (.inl ⟨d, htext, rfl⟩)
      | treatment t => exact .inr (.inr (.inl ⟨t, htext, rfl⟩))
    · exact .inr (.inr (.inr hnone))
  · rintro (⟨a, htext, rfl⟩ | ⟨d, htext, rfl⟩ | ⟨t, htext, rfl⟩ | hnone)
    · exact .inl ⟨.assignment a, htext, rfl⟩
    · exact .inl ⟨.deed d, htext, rfl⟩
    · exact .inl ⟨.treatment t, htext, rfl⟩
    · exact .inr hnone

/-- The value of an assignment cannot be read exactly if it is a numeral that is too long. -/
theorem Assignment.valueOf_eq_error_iff {a : Assignment} (h : a.text = trim text.toList) :
    valueOf a.phrase = .error e ↔
      ∃ n : Numeral, n.text = a.phrase ∧ digitLimit < n.digits.length ∧
        .tooManyDigits n.digits.length = e := by
  have trimmed : trim a.text = a.text := by rw [h, trim_trim]
  have hphrase : trim a.phrase = a.phrase := trim_phrase trimmed a.phrased.start
  rw [Action.valueOf_eq_error_iff, hphrase, ← overlong_iff]
  simp only [IntegerLiteral.read?_eq_some_iff]
  constructor
  · rintro ⟨l, ⟨n, htext, rfl⟩, hvalue⟩
    exact ⟨n, htext, Numeral.value_eq_error_iff.mp hvalue⟩
  · rintro ⟨n, htext, hvalue⟩
    exact ⟨n.literal, ⟨n, htext, rfl⟩, Numeral.value_eq_error_iff.mpr hvalue⟩

end

/-- What a text is read as: for each reading, the condition under which just that one comes about.
The forms are those of the text without the blanks around it. -/
structure ReadsExactly (text : String) : Prop where
  setVariable_iff : ∀ name value, read text = .ok (.setVariable name value) ↔
    ∃ a : Assignment, a.text = trim text.toList ∧
      (∃ v, Value.read (String.ofList a.phrase) = .ok v ∧ v.Unquoted value) ∧
      Unquoted a.name name.toList
  deed_iff : ∀ verb name, read text = .ok (Verb.action verb name) ↔
    ∃ d : Deed, d.text = trim text.toList ∧ d.verb = verb ∧ Unquoted d.phrase name.toList
  modifyHealth_iff : ∀ delta, read text = .ok (.modifyHealth delta) ↔
    ∃ t : Treatment, t.text = trim text.toList ∧ t.amount.digits.length ≤ digitLimit ∧
      t.amount.number = delta
  unknown_iff : ∀ body, read text = .ok (.unknown body) ↔
    (∀ form : Form, form.text ≠ trim text.toList) ∧ strip text = body
  error_iff : ∀ e, read text = .error e ↔
    (∃ a : Assignment, a.text = trim text.toList ∧ ∃ n : Numeral, n.text = a.phrase ∧
      digitLimit < n.digits.length ∧ .tooManyDigits n.digits.length = e) ∨
    ∃ t : Treatment, t.text = trim text.toList ∧ digitLimit < t.amount.digits.length ∧
      .tooManyDigits t.amount.digits.length = e
  /-- There is one decomposition at most, and so one shape. -/
  unique : ∀ form form' : Form, form.text = trim text.toList → form'.text = trim text.toList →
    form = form'
  /-- The order in which the shapes are tried does not matter. -/
  order_free : ∀ order : List Shape, (∀ k, k ∈ order) →
    grammar.read order (trim text.toList) = read text

/-- **Statements are read exactly**, whatever the text is. -/
theorem statements_read_exactly (text : String) : ReadsExactly text where
  setVariable_iff name value := by
    simp [read_eq_iff, map_eq_ok_iff, Verb.action_ne, nameOf_eq_iff, valueOf_eq_ok_iff]
  deed_iff verb name := by
    obtain ⟨hset, hhealth, hunknown⟩ := verb.action_ne name
    simp [read_eq_iff, map_eq_ok_iff, Verb.action_inj, nameOf_eq_iff, (hset _ _).symm,
      (hhealth _).symm, (hunknown _).symm]
  modifyHealth_iff delta := by
    simp [read_eq_iff, map_eq_ok_iff, Verb.action_ne, Numeral.value_eq_ok_iff]
  unknown_iff body := by simp [read_eq_iff, map_eq_ok_iff, Verb.action_ne]
  error_iff e := by
    have hvalue (a : Assignment) := and_congr_right fun h : a.text = trim text.toList =>
      Assignment.valueOf_eq_error_iff (e := e) h
    simp [read_eq_iff, map_eq_error_iff, Numeral.value_eq_error_iff, hvalue]
  unique form form' htext htext' := Form.text_injective (htext.trans htext'.symm)
  order_free order all := by
    rw [read, readTrimmed_eq_read]
    exact grammar.read_congr all Shape.mem_all

/-- Blanks of any kind stand between the parts, and a name loses its quotation marks. -/
example : read " SETVAR\t\n'gold'  12 " = .ok (.setVariable "gold" (.integer 12)) := by
  rfl

end Action

end Colloquy
