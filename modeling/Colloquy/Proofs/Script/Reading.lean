import Colloquy.Proofs.Failure
import Colloquy.Proofs.Number.Reading
import Colloquy.Proofs.Script.Possession
import Colloquy.Script.Action

/-!
# Reading scripts

Which conditions and statements cannot be read: just those in which an integer literal is too long,
at a place where the language has one.

* `Text.StopsAt`, `takeWhile_append_of_stopsAt`, `append_inj_of_stopsAt`: a text that is cut where a
  run of characters stops;
* `eq_false_of_mem_splitOnP`: the pieces of a text that is split;
* `trim_eq_self_iff`: a text without blanks around it;
* `Condition.Unreadable`, `Condition.readTrimmed_eq_error_iff`;
* `Action.Unreadable`, `Action.readTrimmed_eq_error_iff`.
-/

namespace Colloquy

/-! ### Runs of characters -/

namespace Text

variable {p : Char → Bool} {s t : List Char}

/-- A text does not start with a character of a class. -/
def StopsAt (p : Char → Bool) (s : List Char) : Prop := ∀ c ∈ s.head?, p c = false

theorem stopsAt_nil : StopsAt p [] := nofun

theorem stopsAt_dropWhile (p : Char → Bool) (s : List Char) : StopsAt p (s.dropWhile p) := by
  intro c hc
  have hnot := List.head?_dropWhile_not p s
  rw [Option.mem_def.mp hc] at hnot
  simpa using hnot

theorem stopsAt_append (hs : ∀ c ∈ s, p c = false) (ht : StopsAt p t) : StopsAt p (s ++ t) := by
  cases s with
  | nil => exact ht
  | cons c rest =>
    rintro d hd
    cases hd
    exact hs c List.mem_cons_self

theorem stopsAt_append_of_ne_nil (hne : s ≠ []) (hs : StopsAt p s) : StopsAt p (s ++ t) := by
  cases s with
  | nil => exact absurd rfl hne
  | cons c rest => exact hs

theorem StopsAt.of_append (h : StopsAt p (s ++ t)) : StopsAt p s := by
  cases s with
  | nil => exact stopsAt_nil
  | cons c rest => exact h

theorem takeWhile_append_of_stopsAt (hs : ∀ c ∈ s, p c = true) (ht : StopsAt p t) :
    (s ++ t).takeWhile p = s := by
  rw [List.takeWhile_append_of_pos hs]
  cases t with
  | nil => simp
  | cons c rest => simp [ht c rfl]

theorem dropWhile_append_of_stopsAt (hs : ∀ c ∈ s, p c = true) (ht : StopsAt p t) :
    (s ++ t).dropWhile p = t := by
  rw [List.dropWhile_append_of_pos hs]
  cases t with
  | nil => rfl
  | cons c rest => simp [ht c rfl]

/-- A text is cut in one way only where a run of characters stops. -/
theorem append_inj_of_stopsAt {s' t' : List Char} (hs : ∀ c ∈ s, p c = true)
    (hs' : ∀ c ∈ s', p c = true) (ht : StopsAt p t) (ht' : StopsAt p t')
    (h : s ++ t = s' ++ t') : s = s' ∧ t = t' := by
  constructor
  · rw [← takeWhile_append_of_stopsAt hs ht, h, takeWhile_append_of_stopsAt hs' ht']
  · rw [← dropWhile_append_of_stopsAt hs ht, h, dropWhile_append_of_stopsAt hs' ht']

theorem dropWhile_eq_self_iff_stopsAt : s.dropWhile p = s ↔ StopsAt p s := by
  constructor
  · intro h
    rw [← h]
    exact stopsAt_dropWhile p s
  · exact fun h => dropWhile_append_of_stopsAt (s := []) nofun h

/-- No piece of a split text holds a character at which the text is split. -/
theorem eq_false_of_mem_splitOnP (ht : t ∈ s.splitOnP p) : ∀ c ∈ t, p c = false := by
  induction s generalizing t with
  | nil =>
    rw [List.splitOnP_nil, List.mem_singleton] at ht
    subst ht
    nofun
  | cons a rest ih =>
    obtain ⟨first, others, hsplit⟩ := List.exists_cons_of_ne_nil (List.splitOnP_ne_nil p rest)
    rw [List.splitOnP_cons_eq_if_modifyHead, hsplit] at ht
    rw [hsplit] at ih
    split at ht
    · rcases List.mem_cons.mp ht with rfl | ht
      · nofun
      · exact ih ht
    · next inside =>
      rw [List.modifyHead_cons] at ht
      rcases List.mem_cons.mp ht with rfl | ht
      · exact List.forall_mem_cons.mpr ⟨Bool.eq_false_iff.mpr inside, ih List.mem_cons_self⟩
      · exact ih (List.mem_cons_of_mem _ ht)

/-- A text is trimmed exactly if it neither starts nor ends with a blank. -/
theorem trim_eq_self_iff :
    trim s = s ↔ StopsAt isBlank s ∧ ∀ c ∈ s.getLast?, isBlank c = false := by
  have hend : trimEnd s = s ↔ ∀ c ∈ s.getLast?, isBlank c = false := by
    rw [trimEnd, List.reverse_eq_iff, dropWhile_eq_self_iff_stopsAt, StopsAt, List.head?_reverse]
  constructor
  · intro h
    -- trimming drops from both ends, so a text that stays as long has lost nothing at its start
    have hle : s.length ≤ (s.dropWhile isBlank).length := by
      have hlength := congrArg List.length h
      have hdrop := (List.dropWhile_suffix isBlank (l := (s.dropWhile isBlank).reverse)).length_le
      simp only [trim, trimEnd, List.length_reverse] at hlength hdrop
      omega
    have hdrop : s.dropWhile isBlank = s := (List.dropWhile_suffix isBlank).eq_of_length_le hle
    rw [trim, hdrop, hend] at h
    exact ⟨dropWhile_eq_self_iff_stopsAt.mp hdrop, h⟩
  · rintro ⟨hstart, hlast⟩
    rw [trim, dropWhile_eq_self_iff_stopsAt.mpr hstart, hend.mpr hlast]

theorem trim_trim (s : List Char) : trim (trim s) = trim s := by
  obtain ⟨rest, hrest⟩ : trim s <+: s.dropWhile isBlank := by
    rw [trim, trimEnd, ← List.reverse_suffix, List.reverse_reverse]
    exact List.dropWhile_suffix isBlank
  have hstart := stopsAt_dropWhile isBlank s
  rw [← hrest] at hstart
  refine trim_eq_self_iff.mpr ⟨hstart.of_append, ?_⟩
  rw [trim, trimEnd, List.getLast?_reverse]
  exact stopsAt_dropWhile isBlank _

/-- What stands at the end of a trimmed text is trimmed, unless it starts with a blank. -/
theorem trim_of_append (h : trim (s ++ t) = s ++ t) (ht : StopsAt isBlank t) : trim t = t := by
  rw [trim_eq_self_iff] at h ⊢
  refine ⟨ht, fun c hc => h.2 c ?_⟩
  rw [List.getLast?_append, Option.mem_def.mp hc]
  rfl

end Text

open Text

/-! ### Long literals -/

section Literals

variable {c : Char} {s : List Char} {e : NumberError}

/-- A signed literal has no blanks in it. -/
theorem isBlank_of_mem_literal {sign digits : List Char}
    (signed : sign = [] ∨ sign = ['+'] ∨ sign = ['-']) (decimal : ∀ c ∈ digits, isDecimal c = true)
    (hc : c ∈ sign ++ digits) : isBlank c = false := by
  rcases List.mem_append.mp hc with hc | hc
  · rcases signed with rfl | rfl | rfl <;> simp at hc <;> subst hc <;> decide
  · exact isBlank_of_isDigitLike (isDigitLike_of_isDecimal (decimal c hc))

theorem Overlong.isBlank_eq_false (overlong : Overlong s e) (hc : c ∈ s) : isBlank c = false := by
  obtain ⟨signed, decimal, -⟩ := overlong
  exact isBlank_of_mem_literal signed decimal hc

theorem Overlong.ne_nil (overlong : Overlong s e) : s ≠ [] := by
  obtain ⟨-, -, long⟩ := overlong
  intro hnil
  rw [(List.append_eq_nil_iff.mp hnil).2] at long
  exact absurd long (Nat.not_lt_zero _)

theorem Overlong.stopsAt_blank (overlong : Overlong s e) : StopsAt isBlank s :=
  fun _ hc => overlong.isBlank_eq_false (List.mem_of_head? hc)

theorem Overlong.not_lineFeed (overlong : Overlong s e) : '\n' ∉ s := by
  intro hmem
  have hblank := overlong.isBlank_eq_false hmem
  rw [isBlank_lineFeed] at hblank
  cases hblank

theorem Overlong.trim_eq (overlong : Overlong s e) : trim s = s :=
  trim_eq_self_iff.mpr ⟨overlong.stopsAt_blank,
    fun _ hc => overlong.isBlank_eq_false (List.mem_of_getLast? hc)⟩

theorem Value.read_eq_error_iff {text : String} :
    Value.read text = .error e ↔ Overlong (trim text.toList) e := by
  rw [← overlong_iff]
  unfold Value.read
  dsimp only
  cases IntegerLiteral.read? (trim text.toList) with
  | some l => simp [map_eq_error_iff]
  | none =>
    cases DecimalLiteral.read? (trim text.toList) <;> simp

end Literals

/-! ### Conditions -/

namespace Condition

variable {c : Char} {s name relation operand : List Char} {e : NumberError}

/-- A text is a comparison with the given parts. -/
inductive Compares (name relation operand : List Char) : List Char → Prop
  | intro {gap gap' : List Char} (identifier : isIdentifier name = true)
      (blank : ∀ c ∈ gap, isBlank c = true) (related : relation ≠ [])
      (marks : ∀ c ∈ relation, isRelationChar c = true) (blank' : ∀ c ∈ gap', isBlank c = true) :
      Compares name relation operand (name ++ (gap ++ (relation ++ (gap' ++ operand))))

/-- A comparison with a literal that is too long, and the failure that comes of it. -/
inductive Unreadable (s : List Char) (e : NumberError) : Prop
  | comparison {name relation operand : List Char} (compares : Compares name relation operand s)
      (overlong : Overlong operand e)

theorem isBlank_of_isNameChar (h : isNameChar c = true) : isBlank c = false := by
  simp only [isNameChar, Char.isAlphanum, Bool.or_eq_true] at h
  rcases h with (hletter | hdigit) | hunderscore
  · exact isBlank_of_isNameStart (by rw [isNameStart, hletter, Bool.true_or])
  · rw [Char.isDigit_iff_toNat] at hdigit
    change 48 ≤ c.toNat ∧ c.toNat ≤ 57 at hdigit
    rw [isBlank, Bool.eq_false_iff, ne_eq, CharClass.contains_iff]
    simp only [blanks, List.mem_cons, List.not_mem_nil, or_false, exists_eq_or_imp, exists_eq_left]
    omega
  · exact isBlank_of_isNameStart (by rw [isNameStart, hunderscore, Bool.or_true])

theorem isNameChar_of_isBlank (h : isBlank c = true) : isNameChar c = false := by
  rw [← Bool.not_eq_true]
  intro hchar
  rw [isBlank_of_isNameChar hchar] at h
  cases h

/-- The marks of a relation are nothing else. -/
theorem apart_of_isRelationChar (h : isRelationChar c = true) :
    isNameChar c = false ∧ isBlank c = false ∧ isDecimal c = false := by
  simp only [isRelationChar, Bool.or_eq_true, beq_iff_eq] at h
  rcases h with ((rfl | rfl) | rfl) | rfl <;> decide

theorem isRelationChar_of_isBlank (h : isBlank c = true) : isRelationChar c = false := by
  rw [← Bool.not_eq_true]
  intro hmark
  rw [(apart_of_isRelationChar hmark).2.1] at h
  cases h

/-- A signed literal has no marks of a relation in it. -/
theorem isRelationChar_of_mem_literal {sign digits : List Char}
    (signed : sign = [] ∨ sign = ['+'] ∨ sign = ['-']) (decimal : ∀ c ∈ digits, isDecimal c = true)
    (hc : c ∈ sign ++ digits) : isRelationChar c = false := by
  rcases List.mem_append.mp hc with hc | hc
  · rcases signed with rfl | rfl | rfl <;> simp at hc <;> subst hc <;> decide
  · rw [← Bool.not_eq_true]
    intro hmark
    have hother := (apart_of_isRelationChar hmark).2.2
    rw [decimal c hc] at hother
    cases hother

theorem isRelationChar_of_overlong (overlong : Overlong s e) (hc : c ∈ s) :
    isRelationChar c = false := by
  obtain ⟨signed, decimal, -⟩ := overlong
  exact isRelationChar_of_mem_literal signed decimal hc

/-- The parts that a comparison has been read from. -/
theorem exists_compares_of_comparison? {l : IntegerLiteral}
    (h : comparison? s = some (name, relation, l)) :
    ∃ operand, Compares name relation operand s ∧ IntegerLiteral.read? operand = some l := by
  unfold comparison? at h
  dsimp only at h
  split at h
  · next hparts =>
    obtain ⟨l', hread, hl⟩ := Option.map_eq_some_iff.mp h
    cases hl
    simp only [Bool.and_eq_true, Bool.not_eq_true', List.isEmpty_eq_false_iff] at hparts
    have hcompares := @Compares.intro _ _
      (((s.dropWhile isNameChar).dropWhile isBlank).dropWhile isRelationChar |>.dropWhile isBlank)
      ((s.dropWhile isNameChar).takeWhile isBlank)
      ((((s.dropWhile isNameChar).dropWhile isBlank).dropWhile isRelationChar).takeWhile isBlank)
      hparts.1 (fun c => List.mem_takeWhile_imp) hparts.2 (fun c => List.mem_takeWhile_imp)
      (fun c => List.mem_takeWhile_imp)
    simp only [List.takeWhile_append_dropWhile] at hcompares
    exact ⟨_, hcompares, hread⟩
  · cases h

/-- A comparison is read from its parts. -/
theorem Compares.comparison?_eq (compares : Compares name relation operand s)
    (hmark : StopsAt isRelationChar operand) (hblank : StopsAt isBlank operand) :
    comparison? s = (IntegerLiteral.read? operand).map fun l => (name, relation, l) := by
  obtain @⟨gap, gap', identifier, blank, related, marks, blank'⟩ := compares
  have hname := isNameChar_of_isIdentifier identifier
  -- each run of characters stops where the next part starts
  have hapart : ∀ c ∈ (relation ++ (gap' ++ operand)).head?,
      isNameChar c = false ∧ isBlank c = false ∧ isDecimal c = false := by
    rintro c hc
    rw [List.head?_append_of_ne_nil _ related] at hc
    exact apart_of_isRelationChar (marks c (List.mem_of_head? hc))
  have hgap : StopsAt isNameChar (gap ++ (relation ++ (gap' ++ operand))) :=
    stopsAt_append (fun c hc => isNameChar_of_isBlank (blank c hc)) fun c hc => (hapart c hc).1
  have hrelation : StopsAt isBlank (relation ++ (gap' ++ operand)) := fun c hc => (hapart c hc).2.1
  have hgap' : StopsAt isRelationChar (gap' ++ operand) :=
    stopsAt_append (fun c hc => isRelationChar_of_isBlank (blank' c hc)) hmark
  have hnonempty : relation.isEmpty = false := List.isEmpty_eq_false_iff.mpr related
  simp only [comparison?, takeWhile_append_of_stopsAt hname hgap,
    dropWhile_append_of_stopsAt hname hgap, dropWhile_append_of_stopsAt blank hrelation,
    takeWhile_append_of_stopsAt marks hgap', dropWhile_append_of_stopsAt marks hgap',
    dropWhile_append_of_stopsAt blank' hblank, identifier, hnonempty, Bool.not_false,
    Bool.and_self, if_true]

theorem Compares.isIdentifier_eq_false (compares : Compares name relation operand s) :
    isIdentifier s = false := by
  obtain @⟨gap, gap', identifier, blank, related, marks, blank'⟩ := compares
  rw [← Bool.not_eq_true]
  intro hidentifier
  obtain ⟨c, hc⟩ := List.exists_mem_of_ne_nil relation related
  have hchar := isNameChar_of_isIdentifier hidentifier c (by simp [hc])
  rw [(apart_of_isRelationChar (marks c hc)).1] at hchar
  cases hchar

/-- A condition cannot be read exactly if it is a comparison with a literal that is too long. -/
theorem readTrimmed_eq_error_iff : readTrimmed s = .error e ↔ Unreadable s e := by
  constructor
  · intro h
    unfold readTrimmed at h
    split at h
    · cases h
    · split at h
      · next name relation l hcomparison =>
        obtain ⟨operand, compares, hread⟩ := exists_compares_of_comparison? hcomparison
        exact .comparison compares (overlong_iff.mp ⟨l, hread, map_eq_error_iff.mp h⟩)
      · split at h <;> cases h
  · rintro ⟨compares, overlong⟩
    obtain ⟨l, hread, hvalue⟩ := overlong_iff.mpr overlong
    have hcomparison := compares.comparison?_eq
      (fun c hc => isRelationChar_of_overlong overlong (List.mem_of_head? hc))
      overlong.stopsAt_blank
    rw [hread, Option.map_some] at hcomparison
    rw [readTrimmed, compares.isIdentifier_eq_false, if_neg Bool.false_ne_true, hcomparison]
    exact map_eq_error_iff.mpr hvalue

end Condition

/-! ### Statements -/

namespace Action

variable {c : Char} {s rest name phrase : List Char} {keyword : String} {e : NumberError}

/-- A text spells a keyword, in letters of any case. -/
def Spells (keyword : String) (word : List Char) : Prop :=
  List.Forall₂ (fun letter c => isFormOf letter c = true) keyword.toList word

/-- A text of one or more blanks. -/
def IsGap (s : List Char) : Prop := s ≠ [] ∧ ∀ c ∈ s, isBlank c = true

/-- A statement with a literal that is too long, and the failure that comes of it. -/
inductive Unreadable (s : List Char) (e : NumberError) : Prop
  /-- A variable is set to the literal. -/
  | assignment {keyword gap name gap' operand : List Char}
      (text : s = keyword ++ (gap ++ (name ++ (gap' ++ operand))))
      (spells : Spells "setvar" keyword) (blank : IsGap gap) (named : name ≠ [])
      (whole : ∀ c ∈ name, isBlank c = false) (blank' : IsGap gap') (overlong : Overlong operand e)
  /-- The health is changed by the literal. -/
  | health {keyword gap operand : List Char} (text : s = keyword ++ (gap ++ operand))
      (spells : Spells "modifyhealth" keyword) (blank : IsGap gap) (overlong : Overlong operand e)

theorem IsGap.not_stopsAt {gap : List Char} (blank : IsGap gap) :
    ¬ StopsAt isBlank (gap ++ rest) := by
  intro hstop
  obtain ⟨hne, hblank⟩ := blank
  cases gap with
  | nil => exact hne rfl
  | cons c gap =>
    have hc := hstop c rfl
    rw [hblank c List.mem_cons_self] at hc
    cases hc

/-- A gap ends what stands before it. -/
theorem IsGap.stopsAt {gap : List Char} (blank : IsGap gap) (rest : List Char) :
    StopsAt (!isBlank ·) (gap ++ rest) :=
  stopsAt_append_of_ne_nil blank.1 fun c hc => by
    rw [blank.2 c (List.mem_of_head? hc)]
    rfl

theorem dropKeyword?_eq_some_iff {letters : List Char} :
    dropKeyword? letters s = some rest ↔
      ∃ word, List.Forall₂ (fun letter c => isFormOf letter c = true) letters word ∧
        s = word ++ rest := by
  induction letters generalizing s with
  | nil => simp [dropKeyword?]
  | cons letter letters ih =>
    cases s with
    | nil => simp [dropKeyword?, List.forall₂_cons_left_iff]
    | cons c s =>
      by_cases hform : isFormOf letter c = true
      · simp [dropKeyword?, hform, ih, List.forall₂_cons_left_iff]
      · simp [dropKeyword?, hform, List.forall₂_cons_left_iff]

theorem afterBlanks?_eq_some_iff :
    afterBlanks? s = some rest ↔ ∃ gap, IsGap gap ∧ s = gap ++ rest ∧ StopsAt isBlank rest := by
  constructor
  · intro h
    unfold afterBlanks? at h
    split at h
    · cases h
    · next c s =>
      split at h
      · next blank =>
        cases h
        refine ⟨c :: s.takeWhile isBlank, ⟨List.cons_ne_nil _ _, ?_⟩, ?_, stopsAt_dropWhile _ _⟩
        · exact List.forall_mem_cons.mpr ⟨blank, fun d => List.mem_takeWhile_imp⟩
        · rw [List.cons_append, List.takeWhile_append_dropWhile]
      · cases h
  · rintro ⟨gap, ⟨hne, blank⟩, rfl, hstop⟩
    cases gap with
    | nil => exact absurd rfl hne
    | cons c gap =>
      obtain ⟨hc, hgap⟩ := List.forall_mem_cons.mp blank
      simp [afterBlanks?, hc, dropWhile_append_of_stopsAt hgap hstop]

/-- What stands behind a keyword. -/
theorem operand?_eq_some_iff :
    operand? keyword s = some rest ↔
      ∃ word gap, Spells keyword word ∧ IsGap gap ∧ s = word ++ (gap ++ rest) ∧
        StopsAt isBlank rest := by
  simp only [operand?, Option.bind_eq_some_iff, dropKeyword?_eq_some_iff,
    afterBlanks?_eq_some_iff, Spells]
  constructor
  · rintro ⟨_, ⟨word, spells, rfl⟩, gap, blank, rfl, hstop⟩
    exact ⟨word, gap, spells, blank, rfl, hstop⟩
  · rintro ⟨word, gap, spells, blank, rfl, hstop⟩
    exact ⟨_, ⟨word, spells, rfl⟩, gap, blank, rfl, hstop⟩

theorem phrase?_eq_some_iff {value : List Char} :
    phrase? value = some phrase ↔ value = phrase ∧ phrase ≠ [] ∧ '\n' ∉ phrase := by
  unfold phrase?
  split
  · next hbad =>
    simp only [Bool.or_eq_true, List.isEmpty_iff, List.contains_iff_mem] at hbad
    refine ⟨nofun, ?_⟩
    rintro ⟨rfl, hne, hline⟩
    exact absurd hbad (not_or.mpr ⟨hne, hline⟩)
  · next hgood =>
    simp only [Bool.or_eq_true, List.isEmpty_iff, List.contains_iff_mem, not_or] at hgood
    constructor
    · intro h
      cases h
      exact ⟨rfl, hgood⟩
    · rintro ⟨rfl, -⟩
      rfl

/-- A name and a phrase. -/
theorem assignment?_eq_some_iff :
    assignment? s = some (name, phrase) ↔
      ∃ gap, IsGap gap ∧ s = name ++ (gap ++ phrase) ∧ (∀ c ∈ name, isBlank c = false) ∧
        StopsAt isBlank phrase ∧ phrase ≠ [] ∧ '\n' ∉ phrase := by
  simp only [assignment?, Option.bind_eq_bind, Option.bind_eq_some_iff, afterBlanks?_eq_some_iff,
    phrase?_eq_some_iff]
  constructor
  · rintro ⟨_, ⟨gap, blank, hrest, hstop⟩, _, ⟨rfl, hne, hline⟩, hparts⟩
    cases hparts
    refine ⟨gap, blank, ?_, fun c hc => ?_, hstop, hne, hline⟩
    · rw [← hrest, List.takeWhile_append_dropWhile]
    · simpa using List.mem_takeWhile_imp hc
  · rintro ⟨gap, blank, rfl, whole, hstop, hne, hline⟩
    have hname : ∀ c ∈ name, (!isBlank c) = true := fun c hc => by rw [whole c hc]; rfl
    refine ⟨phrase, ⟨gap, blank, ?_, hstop⟩, phrase, ⟨rfl, hne, hline⟩, ?_⟩
    · exact dropWhile_append_of_stopsAt hname (blank.stopsAt phrase)
    · rw [takeWhile_append_of_stopsAt hname (blank.stopsAt phrase)]

theorem valueOf_eq_error_iff : valueOf phrase = .error e ↔ Overlong (trim phrase) e := by
  have hread := @Value.read_eq_error_iff e (String.ofList phrase)
  rw [String.toList_ofList] at hread
  rw [← hread, valueOf]
  cases Value.read (String.ofList phrase) with
  | error e' => exact Iff.rfl
  | ok v => cases v <;> exact ⟨nofun, nofun⟩

/-- The letters that the keywords start with. -/
def initials : List Char := ['s', 'a', 'r', 'c', 'm']

/-- A character is a form of one of these letters at most. -/
theorem initial_unique {a b : Char} (ha : a ∈ initials) (hb : b ∈ initials)
    (hca : isFormOf a c = true) (hcb : isFormOf b c = true) : a = b := by
  have hletter {letter : Char} (hmem : letter ∈ initials) (hform : isFormOf letter c = true)
      (hlong : c ≠ 'ſ') : c.toLower = letter := by
    have hdotless : letter ≠ 'i' := by
      rintro rfl
      exact absurd hmem (by decide)
    simpa [isFormOf, hlong, hdotless] using hform
  by_cases hlong : c = 'ſ'
  · -- the long s is a form of nothing but its letter
    subst hlong
    have hlong {letter : Char} (hmem : letter ∈ initials) (hform : isFormOf letter 'ſ' = true) :
        letter = 's' := by
      simp only [initials, List.mem_cons, List.not_mem_nil, or_false] at hmem
      rcases hmem with rfl | rfl | rfl | rfl | rfl
      · rfl
      all_goals exact absurd hform (by decide)
    rw [hlong ha hca, hlong hb hcb]
  · rw [← hletter ha hca hlong, ← hletter hb hcb hlong]

theorem operand?_of_letter {letter : Char} {letters : List Char}
    (hkeyword : keyword.toList = letter :: letters) (hform : isFormOf letter c = false) :
    operand? keyword (c :: rest) = none := by
  simp [operand?, hkeyword, dropKeyword?, hform]

/-- What a statement with the first keyword, a name and a phrase is read as. -/
theorem readTrimmed_assignment {word gap gap' : List Char} (spells : Spells "setvar" word)
    (blank : IsGap gap) (named : name ≠ []) (whole : ∀ c ∈ name, isBlank c = false)
    (blank' : IsGap gap') (hstop : StopsAt isBlank phrase) (hne : phrase ≠ [])
    (hline : '\n' ∉ phrase) :
    readTrimmed (word ++ (gap ++ (name ++ (gap' ++ phrase)))) =
      (valueOf phrase).map (.setVariable (nameOf name)) := by
  have hstart : StopsAt isBlank (name ++ (gap' ++ phrase)) :=
    stopsAt_append_of_ne_nil named fun c hc => whole c (List.mem_of_head? hc)
  have hoperand : operand? "setvar" (word ++ (gap ++ (name ++ (gap' ++ phrase)))) =
      some (name ++ (gap' ++ phrase)) :=
    operand?_eq_some_iff.mpr ⟨word, gap, spells, blank, rfl, hstart⟩
  have hassignment : assignment? (name ++ (gap' ++ phrase)) = some (name, phrase) :=
    assignment?_eq_some_iff.mpr ⟨gap', blank', rfl, whole, hstop, hne, hline⟩
  rw [readTrimmed, hoperand, Option.bind_some, hassignment]

/-- What a statement with the last keyword and a literal is read as. -/
theorem readTrimmed_health {word gap operand : List Char} {l : IntegerLiteral}
    (spells : Spells "modifyhealth" word) (blank : IsGap gap) (hstop : StopsAt isBlank operand)
    (hread : IntegerLiteral.read? operand = some l) :
    readTrimmed (word ++ (gap ++ operand)) = l.value.map .modifyHealth := by
  have hoperand : operand? "modifyhealth" (word ++ (gap ++ operand)) = some operand :=
    operand?_eq_some_iff.mpr ⟨word, gap, spells, blank, rfl, hstop⟩
  -- no other keyword starts with a form of the first letter
  obtain ⟨c, letters, hform, -, rfl⟩ := List.forall₂_cons_left_iff.mp spells
  have hother {letter : Char} (hmem : letter ∈ initials) (hne : letter ≠ 'm') :
      isFormOf letter c = false := by
    rw [← Bool.not_eq_true]
    exact fun h => hne (initial_unique hmem (by decide) h hform)
  simp only [List.cons_append] at hoperand ⊢
  rw [readTrimmed, operand?_of_letter rfl (hother (by decide) (by decide)),
    operand?_of_letter rfl (hother (by decide) (by decide)),
    operand?_of_letter rfl (hother (by decide) (by decide)),
    operand?_of_letter rfl (hother (by decide) (by decide)), hoperand]
  simp only [Option.bind_none, Option.bind_some, hread]

/-- The phrase at the end of a statement without blanks around it has none either. -/
theorem trim_phrase {word gap gap' : List Char}
    (trimmed : trim (word ++ (gap ++ (name ++ (gap' ++ phrase)))) =
      word ++ (gap ++ (name ++ (gap' ++ phrase)))) (start : StopsAt isBlank phrase) :
    trim phrase = phrase := by
  refine @trim_of_append (word ++ (gap ++ (name ++ gap'))) phrase ?_ start
  simpa only [List.append_assoc] using trimmed

theorem unreadable_of_assignment (trimmed : trim s = s)
    (hset : (operand? "setvar" s).bind assignment? = some (name, phrase))
    (hvalue : valueOf phrase = .error e) : Unreadable s e := by
  obtain ⟨rest, hoperand, hassignment⟩ := Option.bind_eq_some_iff.mp hset
  obtain ⟨keyword, gap, spells, blank, rfl, hstop⟩ := operand?_eq_some_iff.mp hoperand
  obtain ⟨gap', blank', rfl, whole, hstop', -⟩ := assignment?_eq_some_iff.mp hassignment
  have overlong := valueOf_eq_error_iff.mp hvalue
  rw [trim_phrase trimmed hstop'] at overlong
  refine .assignment rfl spells blank ?_ whole blank' overlong
  rintro rfl
  exact blank'.not_stopsAt hstop

theorem unreadable_of_health {l : IntegerLiteral}
    (hhealth : (operand? "modifyhealth" s).bind IntegerLiteral.read? = some l)
    (hvalue : l.value = .error e) : Unreadable s e := by
  obtain ⟨operand, hoperand, hread⟩ := Option.bind_eq_some_iff.mp hhealth
  obtain ⟨keyword, gap, spells, blank, text, -⟩ := operand?_eq_some_iff.mp hoperand
  exact .health text spells blank (overlong_iff.mp ⟨l, hread, hvalue⟩)

/-- A statement without blanks around it cannot be read exactly if a literal in it is too long. -/
theorem readTrimmed_eq_error_iff (trimmed : trim s = s) :
    readTrimmed s = .error e ↔ Unreadable s e := by
  constructor
  · intro h
    unfold readTrimmed at h
    split at h
    · next hset => exact unreadable_of_assignment trimmed hset (map_eq_error_iff.mp h)
    · split at h
      · cases h
      · split at h
        · cases h
        · split at h
          · cases h
          · split at h
            · next hhealth => exact unreadable_of_health hhealth (map_eq_error_iff.mp h)
            · cases h
  · intro unreadable
    cases unreadable with
    | assignment text spells blank named whole blank' overlong =>
      rw [text, readTrimmed_assignment spells blank named whole blank' overlong.stopsAt_blank
        overlong.ne_nil overlong.not_lineFeed]
      exact map_eq_error_iff.mpr (valueOf_eq_error_iff.mpr (by rwa [overlong.trim_eq]))
    | health text spells blank overlong =>
      obtain ⟨l, hread, hvalue⟩ := overlong_iff.mpr overlong
      rw [text, readTrimmed_health spells blank overlong.stopsAt_blank hread]
      exact map_eq_error_iff.mpr hvalue

end Action

end Colloquy
