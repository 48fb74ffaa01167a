import Colloquy.Proofs.Script.Grammar
import Colloquy.Proofs.Script.Numeral
import Colloquy.Proofs.Success

/-!
# Forms of conditions

Conditions are read exactly: a text is written in one of the three forms of the language in one way
at most, and reading finds that way whatever stands in the text, such as quotation marks and
parentheses within an argument.

* `Comparison`, `Predication`, `Form`: the forms, with all their parts, and their texts;
* `Form.text_injective`: a text has one decomposition at most, and one shape;
* `comparison?_eq_some_iff`, `predicate?_eq_some_iff`: the readers of the shapes are sound and
  complete;
* `grammar`, `readTrimmed_eq_read`: reading conditions tries the three shapes in order;
* `ReadsExactly`, `conditions_read_exactly`: what a condition is read as.
-/

namespace Colloquy.Condition

open Text

/-! ### Forms -/

/-- A comparison as it is written: a name, a relation and a numeral, with blanks between them. -/
@[ext]
structure Comparison where
  name : List Char
  gap : List Char
  relation : List Char
  gap' : List Char
  operand : Numeral
  identifier : isIdentifier name = true
  blank : ∀ c ∈ gap, isBlank c = true
  related : relation ≠ []
  marks : ∀ c ∈ relation, isRelationChar c = true
  blank' : ∀ c ∈ gap', isBlank c = true

/-- A predicate as it is written: a function and an argument within one line, between two equal
quotation marks and in parentheses, with blanks inside these. -/
@[ext]
structure Predication where
  function : List Char
  gap : List Char
  quote : Char
  argument : List Char
  gap' : List Char
  identifier : isIdentifier function = true
  blank : ∀ c ∈ gap, isBlank c = true
  quoted : isQuote quote = true
  line : '\n' ∉ argument
  blank' : ∀ c ∈ gap', isBlank c = true

/-- The shapes of conditions. -/
inductive Shape
  | name
  | comparison
  | predicate
  deriving DecidableEq

/-- A condition in one of the shapes. -/
inductive Form
  | name (x : List Char) (identifier : isIdentifier x = true)
  | comparison (c : Comparison)
  | predicate (p : Predication)

namespace Comparison

/-- What stands behind the name of a comparison. -/
def tail (c : Comparison) : List Char := c.gap ++ (c.relation ++ (c.gap' ++ c.operand.text))

/-- How a comparison is written. -/
def text (c : Comparison) : List Char := c.name ++ c.tail

theorem compares (c : Comparison) : Compares c.name c.relation c.operand.text c.text :=
  .intro c.identifier c.blank c.related c.marks c.blank'

end Comparison

namespace Predication

/-- What stands behind the opening parenthesis of a predicate. -/
def inner (p : Predication) : List Char :=
  p.gap ++ p.quote :: (p.argument ++ p.quote :: (p.gap' ++ [')']))

/-- How a predicate is written. -/
def text (p : Predication) : List Char := p.function ++ '(' :: p.inner

end Predication

namespace Form

/-- The shape of a condition. -/
def shape : Form → Shape
  | name _ _ => .name
  | comparison _ => .comparison
  | predicate _ => .predicate

/-- The name that a condition starts with. -/
def head : Form → List Char
  | name x _ => x
  | comparison c => c.name
  | predicate p => p.function

/-- What stands behind the name that a condition starts with. -/
def tail : Form → List Char
  | name _ _ => []
  | comparison c => c.tail
  | predicate p => '(' :: p.inner

/-- How a condition is written. -/
def text (form : Form) : List Char := form.head ++ form.tail

/-- What a condition means; a comparison may have an operand that is too long. -/
def meaning : Form → Except NumberError Condition
  | name x _ => .ok (.variable (String.ofList x))
  | comparison c =>
    c.operand.literal.value.map (.comparison (String.ofList c.name) (String.ofList c.relation))
  | predicate p => .ok (.predicate (String.ofList p.function) (String.ofList p.argument))

end Form

/-! ### One decomposition -/

/-- Where a text ends with an argument, what stands before its last quotation mark is one text
only. -/
theorem closing_inj {q q' : Char} {a a' b b' : List Char} (hq : isBlank q = false)
    (hq' : isBlank q' = false) (hb : ∀ c ∈ b, isBlank c = true) (hb' : ∀ c ∈ b', isBlank c = true)
    (h : a ++ q :: (b ++ [')']) = a' ++ q' :: (b' ++ [')'])) : a = a' ∧ q = q' ∧ b = b' := by
  -- the closing quotation mark is the first character from the end that is no blank
  have hback : b.reverse ++ q :: a.reverse = b'.reverse ++ q' :: a'.reverse := by
    simpa using congrArg List.reverse h
  obtain ⟨hgap, hrest⟩ := append_inj_of_stopsAt (p := isBlank) (by simpa using hb)
    (by simpa using hb') (by rintro c ⟨⟩; exact hq) (by rintro c ⟨⟩; exact hq') hback
  obtain ⟨hquote, hargument⟩ := List.cons.inj hrest
  exact ⟨List.reverse_injective hargument, hquote, List.reverse_injective hgap⟩

namespace Comparison

variable {c c' : Comparison}

/-- A relation starts with a mark. -/
theorem isRelationChar_head (c : Comparison) (rest : List Char) :
    ∀ d ∈ (c.relation ++ rest).head?, isRelationChar d = true := by
  intro d hd
  rw [List.head?_append_of_ne_nil _ c.related] at hd
  exact c.marks d (List.mem_of_head? hd)

theorem stopsAt_relation (c : Comparison) (rest : List Char) :
    StopsAt isBlank (c.relation ++ rest) := fun d hd =>
  (apart_of_isRelationChar (c.isRelationChar_head rest d hd)).2.1

theorem stopsAt_operand (c : Comparison) : StopsAt isBlank c.operand.text := fun _ hd =>
  Numeral.isBlank_of_mem_text (List.mem_of_head? hd)

theorem stopsAt_operand_mark (c : Comparison) : StopsAt isRelationChar c.operand.text :=
  fun _ hd => Numeral.isRelationChar_of_mem_text (List.mem_of_head? hd)

theorem stopsAt_tail (c : Comparison) : StopsAt isNameChar c.tail :=
  stopsAt_append (fun d hd => isNameChar_of_isBlank (c.blank d hd)) fun d hd =>
    (apart_of_isRelationChar (c.isRelationChar_head _ d hd)).1

/-- The parts behind a name are told apart: blanks, marks, blanks, and a numeral. -/
theorem eq_of_tail_eq (hname : c.name = c'.name) (htail : c.tail = c'.tail) : c = c' := by
  obtain ⟨hgap, hrest⟩ := append_inj_of_stopsAt c.blank c'.blank (c.stopsAt_relation _)
    (c'.stopsAt_relation _) htail
  have hmarks (c : Comparison) : StopsAt isRelationChar (c.gap' ++ c.operand.text) :=
    stopsAt_append (fun d hd => isRelationChar_of_isBlank (c.blank' d hd)) c.stopsAt_operand_mark
  obtain ⟨hrelation, hrest⟩ := append_inj_of_stopsAt c.marks c'.marks (hmarks c) (hmarks c') hrest
  obtain ⟨hgap', hoperand⟩ := append_inj_of_stopsAt c.blank' c'.blank' c.stopsAt_operand
    c'.stopsAt_operand hrest
  exact Comparison.ext hname hgap hrelation hgap' (Numeral.text_injective hoperand)

end Comparison

namespace Predication

variable {p p' : Predication}

theorem stopsAt_quote (p : Predication) (rest : List Char) :
    StopsAt isBlank (p.quote :: rest) := by
  rintro c ⟨⟩
  exact isBlank_of_isQuote p.quoted

/-- The argument of a predicate is told by the outermost quotation marks. -/
theorem eq_of_inner_eq (hfunction : p.function = p'.function) (hinner : p.inner = p'.inner) :
    p = p' := by
  obtain ⟨hgap, hrest⟩ := append_inj_of_stopsAt p.blank p'.blank (p.stopsAt_quote _)
    (p'.stopsAt_quote _) hinner
  obtain ⟨hquote, hrest⟩ := List.cons.inj hrest
  obtain ⟨hargument, -, hgap'⟩ := closing_inj (isBlank_of_isQuote p.quoted)
    (isBlank_of_isQuote p'.quoted) p.blank' p'.blank' hrest
  exact Predication.ext hfunction hgap hquote hargument hgap'

end Predication

namespace Form

variable {form form' : Form}

theorem isIdentifier_head (form : Form) : isIdentifier form.head = true := by
  cases form with
  | name x identifier => exact identifier
  | comparison c => exact c.identifier
  | predicate p => exact p.identifier

theorem stopsAt_tail (form : Form) : StopsAt isNameChar form.tail := by
  cases form with
  | name x identifier => exact stopsAt_nil
  | comparison c => exact c.stopsAt_tail
  | predicate p =>
    rintro c ⟨⟩
    decide

/-- The shape of a condition whose name is followed by a given character, or by none. -/
def shapeBehind : Option Char → Shape
  | none => .name
  | some c => if c = '(' then .predicate else .comparison

theorem shape_eq (form : Form) : form.shape = shapeBehind form.tail.head? := by
  cases form with
  | name x identifier => rfl
  | comparison c =>
    -- a comparison goes on with a blank or a mark
    obtain ⟨d, rest, htail⟩ : ∃ d rest, c.tail = d :: rest :=
      List.exists_cons_of_ne_nil (by simp [Comparison.tail, c.related])
    have hother : StopsAt (· == '(') c.tail := by
      refine stopsAt_append (fun d hd => ?_) fun d hd => ?_
      · rw [beq_eq_false_iff_ne]
        rintro rfl
        exact absurd (c.blank _ hd) (by decide)
      · rw [beq_eq_false_iff_ne]
        rintro rfl
        exact absurd (c.isRelationChar_head _ _ hd) (by decide)
    have hd : d ≠ '(' := by simpa using hother d (by rw [htail]; rfl)
    simp [shape, shapeBehind, tail, htail, hd]
  | predicate p => rfl

/-- **A text is written in one way at most**, in one shape and with the same parts. -/
theorem text_injective : Function.Injective text := by
  intro form form' h
  obtain ⟨hhead, htail⟩ := append_inj_of_stopsAt
    (isNameChar_of_isIdentifier form.isIdentifier_head)
    (isNameChar_of_isIdentifier form'.isIdentifier_head) form.stopsAt_tail form'.stopsAt_tail h
  have hshape : form.shape = form'.shape := by rw [shape_eq, shape_eq, htail]
  cases form with
  | name x identifier =>
    cases form' with
    | name x' identifier' =>
      cases hhead
      rfl
    | comparison | predicate => cases hshape
  | comparison c =>
    cases form' with
    | comparison c' => rw [Comparison.eq_of_tail_eq hhead htail]
    | name | predicate => cases hshape
  | predicate p =>
    cases form' with
    | predicate p' => rw [Predication.eq_of_inner_eq hhead (List.cons.inj htail).2]
    | name | comparison => cases hshape

end Form

/-! ### The readers of the shapes -/

section Readers

variable {s name relation function argument : List Char} {quote : Char} {l : IntegerLiteral}

/-- Comparisons are read, and nothing else is read as one. -/
theorem comparison?_eq_some_iff :
    comparison? s = some (name, relation, l) ↔
      ∃ c : Comparison, c.text = s ∧ c.name = name ∧ c.relation = relation ∧
        c.operand.literal = l := by
  constructor
  · intro h
    obtain ⟨operand, compares, hread⟩ := exists_compares_of_comparison? h
    obtain ⟨n, rfl, rfl⟩ := IntegerLiteral.read?_eq_some_iff.mp hread
    obtain @⟨gap, gap', identifier, blank, related, marks, blank'⟩ := compares
    exact ⟨⟨name, gap, relation, gap', n, identifier, blank, related, marks, blank'⟩,
      rfl, rfl, rfl, rfl⟩
  · rintro ⟨c, rfl, rfl, rfl, rfl⟩
    rw [c.compares.comparison?_eq c.stopsAt_operand_mark c.stopsAt_operand, c.operand.read?_text]
    rfl

/-- An argument ends before the last quotation mark, whatever it holds. -/
theorem argument?_eq_some_iff (hq : isBlank quote = false) :
    argument? quote s = some argument ↔
      '\n' ∉ argument ∧ ∃ gap, (∀ c ∈ gap, isBlank c = true) ∧
        s = argument ++ quote :: (gap ++ [')']) := by
  constructor
  · intro h
    unfold argument? at h
    split at h
    · next back hback =>
      split at h
      · next c rest hrest =>
        split at h
        · next hends =>
          cases h
          obtain ⟨rfl, line⟩ := hends
          refine ⟨by simpa using line, (back.takeWhile isBlank).reverse, fun d hd => ?_, ?_⟩
          · exact List.mem_takeWhile_imp (List.mem_reverse.mp hd)
          · have hsplit := @List.takeWhile_append_dropWhile _ isBlank back
            rw [List.reverse_eq_iff.mp hback]
            conv => lhs; rw [← hsplit, hrest]
            simp
        · cases h
      · cases h
    · cases h
  · rintro ⟨line, gap, blank, rfl⟩
    have hback : (argument ++ quote :: (gap ++ [')'])).reverse =
        ')' :: (gap.reverse ++ quote :: argument.reverse) := by simp
    have hdrop : (gap.reverse ++ quote :: argument.reverse).dropWhile isBlank =
        quote :: argument.reverse :=
      dropWhile_append_of_stopsAt (by simpa using blank) (by rintro c ⟨⟩; exact hq)
    simp [argument?, hback, hdrop, line]

/-- Predicates are read, and nothing else is read as one. -/
theorem predicate?_eq_some_iff :
    predicate? s = some (function, argument) ↔
      ∃ p : Predication, p.text = s ∧ p.function = function ∧ p.argument = argument := by
  constructor
  · intro h
    unfold predicate? at h
    dsimp only at h
    split at h
    · next inner hinner =>
      split at h
      · next quote body hbody =>
        split at h
        · next hparts =>
          obtain ⟨identifier, quoted⟩ := Bool.and_eq_true_iff.mp hparts
          obtain ⟨argument', hargument, hresult⟩ := Option.map_eq_some_iff.mp h
          cases hresult
          obtain ⟨line, gap', blank', hclosing⟩ :=
            (argument?_eq_some_iff (isBlank_of_isQuote quoted)).mp hargument
          refine ⟨⟨s.takeWhile isNameChar, inner.takeWhile isBlank, quote, argument, gap',
            identifier, fun c => List.mem_takeWhile_imp, quoted, line, blank'⟩, ?_, rfl, rfl⟩
          rw [Predication.text, Predication.inner, ← hclosing, ← hbody,
            List.takeWhile_append_dropWhile, ← hinner, List.takeWhile_append_dropWhile]
        · cases h
      · cases h
    · cases h
  · rintro ⟨p, rfl, rfl, rfl⟩
    have hargument := (argument?_eq_some_iff (isBlank_of_isQuote p.quoted)).mpr
      ⟨p.line, p.gap', p.blank', rfl⟩
    simp only [predicate?, Predication.text, takeWhile_function p.identifier,
      dropWhile_function p.identifier, Predication.inner,
      dropWhile_append_of_stopsAt p.blank (p.stopsAt_quote _), p.identifier, p.quoted,
      Bool.and_self, if_true, hargument, Option.map_some]

/-- Read a text as one of the shapes. -/
def Shape.read? : Shape → List Char → Option (Except NumberError Condition)
  | .name, s => if isIdentifier s then some (.ok (.variable (String.ofList s))) else none
  | .comparison, s => (comparison? s).map fun (name, relation, operand) =>
      operand.value.map (.comparison (String.ofList name) (String.ofList relation))
  | .predicate, s => (predicate? s).map fun (function, argument) =>
      .ok (.predicate (String.ofList function) (String.ofList argument))

theorem Shape.read?_eq_some_iff {k : Shape} {r : Except NumberError Condition} :
    k.read? s = some r ↔ ∃ form : Form, form.shape = k ∧ form.text = s ∧ form.meaning = r := by
  constructor
  · intro h
    cases k with
    | name =>
      obtain ⟨identifier, hr⟩ := Option.ite_none_right_eq_some.mp h
      exact ⟨.name s identifier, rfl, List.append_nil s, Option.some.inj hr⟩
    | comparison =>
      obtain ⟨⟨name, relation, l⟩, hread, rfl⟩ := Option.map_eq_some_iff.mp h
      obtain ⟨c, htext, rfl, rfl, rfl⟩ := comparison?_eq_some_iff.mp hread
      exact ⟨.comparison c, rfl, htext, rfl⟩
    | predicate =>
      obtain ⟨⟨function, argument⟩, hread, rfl⟩ := Option.map_eq_some_iff.mp h
      obtain ⟨p, htext, rfl, rfl⟩ := predicate?_eq_some_iff.mp hread
      exact ⟨.predicate p, rfl, htext, rfl⟩
  · rintro ⟨form, rfl, rfl, rfl⟩
    cases form with
    | name x identifier =>
      have htext : (Form.name x identifier).text = x := List.append_nil x
      simp only [Form.shape, read?, htext, identifier, if_true, Form.meaning]
    | comparison c =>
      have hread := comparison?_eq_some_iff.mpr ⟨c, rfl, rfl, rfl, rfl⟩
      exact Option.map_eq_some_iff.mpr ⟨_, hread, rfl⟩
    | predicate p =>
      have hread := predicate?_eq_some_iff.mpr ⟨p, rfl, rfl, rfl⟩
      exact Option.map_eq_some_iff.mpr ⟨_, hread, rfl⟩

end Readers

/-! ### Exact reading -/

/-- The grammar of conditions. -/
def grammar : Grammar Form Shape (Except NumberError Condition) where
  text := Form.text
  shape := Form.shape
  meaning := Form.meaning
  otherwise s := .ok (.unresolved (String.ofList s))
  read? := Shape.read?
  unambiguous := Form.text_injective
  read?_eq_some_iff := Shape.read?_eq_some_iff

/-- The shapes in the order in which they are tried. -/
def Shape.all : List Shape := [.name, .comparison, .predicate]

theorem Shape.mem_all (k : Shape) : k ∈ all := by
  cases k <;> decide

/-- Reading conditions tries the shapes one after the other. -/
theorem readTrimmed_eq_read (s : List Char) : readTrimmed s = grammar.read Shape.all s := by
  simp only [readTrimmed, Grammar.read, grammar, Shape.all, List.findSome?_cons,
    List.findSome?_nil, Shape.read?]
  cases isIdentifier s with
  | true => rfl
  | false =>
    cases comparison? s with
    | some c => rfl
    | none => cases predicate? s <;> rfl

section

variable {text : String} {r : Except NumberError Condition}

/-- All readings of a condition, one for each shape and one for a text in none of them. -/
theorem read_eq_iff :
    read text = r ↔
      (isIdentifier (trim text.toList) = true ∧ .ok (.variable (strip text)) = r) ∨
      (∃ c : Comparison, c.text = trim text.toList ∧ c.operand.literal.value.map
        (.comparison (String.ofList c.name) (String.ofList c.relation)) = r) ∨
      (∃ p : Predication, p.text = trim text.toList ∧
        .ok (.predicate (String.ofList p.function) (String.ofList p.argument)) = r) ∨
      (∀ form : Form, form.text ≠ trim text.toList) ∧ .ok (.unresolved (strip text)) = r := by
  have hread := grammar.read_eq_iff (s := trim text.toList) (r := r) Shape.mem_all
  rw [← readTrimmed_eq_read] at hread
  refine hread.trans ⟨?_, ?_⟩
  · rintro (⟨form, htext, rfl⟩ | hnone)
    · cases form with
      | name x identifier =>
        have hx : x = trim text.toList := (List.append_nil x).symm.trans htext
        subst hx
        exact .inl ⟨identifier, rfl⟩
      | comparison c => exact .inr (.inl ⟨c, htext, rfl⟩)
      | predicate p => exact .inr (.inr (.inl ⟨p, htext, rfl⟩))
    · exact .inr (.inr (.inr hnone))
  · rintro (⟨identifier, rfl⟩ | ⟨c, htext, rfl⟩ | ⟨p, htext, rfl⟩ | hnone)
    · exact .inl ⟨.name _ identifier, List.append_nil _, rfl⟩
    · exact .inl ⟨.comparison c, htext, rfl⟩
    · exact .inl ⟨.predicate p, htext, rfl⟩
    · exact .inr hnone

end

/-- What a text is read as: for each reading, the condition under which just that one comes about.
The forms are those of the text without the blanks around it. -/
structure ReadsExactly (text : String) : Prop where
  variable_iff : ∀ name, read text = .ok (.variable name) ↔
    isIdentifier (trim text.toList) = true ∧ strip text = name
  comparison_iff : ∀ name relation operand,
    read text = .ok (.comparison name relation operand) ↔
      ∃ c : Comparison, c.text = trim text.toList ∧ c.operand.digits.length ≤ digitLimit ∧
        String.ofList c.name = name ∧ String.ofList c.relation = relation ∧
        c.operand.number = operand
  predicate_iff : ∀ function argument, read text = .ok (.predicate function argument) ↔
    ∃ p : Predication, p.text = trim text.toList ∧ String.ofList p.function = function ∧
      String.ofList p.argument = argument
  unresolved_iff : ∀ body, read text = .ok (.unresolved body) ↔
    (∀ form : Form, form.text ≠ trim text.toList) ∧ strip text = body
  error_iff : ∀ e, read text = .error e ↔
    ∃ c : Comparison, c.text = trim text.toList ∧ digitLimit < c.operand.digits.length ∧
      .tooManyDigits c.operand.digits.length = e
  /-- There is one decomposition at most, and so one shape. -/
  unique : ∀ form form' : Form, form.text = trim text.toList → form'.text = trim text.toList →
    form = form'
  /-- The order in which the shapes are tried does not matter. -/
  order_free : ∀ order : List Shape, (∀ k, k ∈ order) →
    grammar.read order (trim text.toList) = read text

/-- **Conditions are read exactly**, whatever the text is. -/
theorem conditions_read_exactly (text : String) : ReadsExactly text where
  variable_iff name := by simp [read_eq_iff, map_eq_ok_iff]
  comparison_iff name relation operand := by
    simp [read_eq_iff, map_eq_ok_iff, Numeral.value_eq_ok_iff]
  predicate_iff function argument := by simp [read_eq_iff, map_eq_ok_iff]
  unresolved_iff body := by simp [read_eq_iff, map_eq_ok_iff]
  error_iff e := by simp [read_eq_iff, map_eq_error_iff, Numeral.value_eq_error_iff]
  unique form form' htext htext' := Form.text_injective (htext.trans htext'.symm)
  order_free order all := by
    rw [read, readTrimmed_eq_read]
    exact grammar.read_congr all Shape.mem_all

/-- The outermost quotation marks are those of the argument. -/
example : read "says( 'yes') or ('no' )" = .ok (.predicate "says" "yes') or ('no") := by
  rfl

end Colloquy.Condition
