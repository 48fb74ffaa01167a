import Colloquy.Proofs.Number.Written
import Colloquy.Proofs.Script.Reading

/-!
# Comparisons

A number that a statement writes into a variable compares, in every condition from then on, as the
integer that it is.  Both languages read the same integer back, of whatever size and sign, and the
mark of a relation is told from a sign behind it.

* `Relation`, `Relation.mark`, `Relation.Holds`: the six relations of conditions;
* `relationHolds_mark`: each mark stands for its relation; `relationHolds_of_unknown`: no other
  mark holds;
* `Action.read_setVariable`, `Condition.read_comparison`: a statement and a condition about a
  written integer;
* `comparison_decided`: such a statement decides such a condition.
-/

namespace Colloquy

open Text

/-! ### Relations -/

/-- The relations between integers that conditions know. -/
inductive Relation
  | above
  | atLeast
  | below
  | atMost
  | equal
  | unequal
  deriving DecidableEq

namespace Relation

/-- How a relation is written. -/
def mark : Relation → String
  | above => ">"
  | atLeast => ">="
  | below => "<"
  | atMost => "<="
  | equal => "=="
  | unequal => "!="

/-- Whether a relation holds between two integers. -/
def Holds : Relation → Int → Int → Prop
  | above, n, m => n > m
  | atLeast, n, m => n ≥ m
  | below, n, m => n < m
  | atMost, n, m => n ≤ m
  | equal, n, m => n = m
  | unequal, n, m => n ≠ m

instance (r : Relation) (n m : Int) : Decidable (r.Holds n m) :=
  match r with
  | above => inferInstanceAs (Decidable (n > m))
  | atLeast => inferInstanceAs (Decidable (n ≥ m))
  | below => inferInstanceAs (Decidable (n < m))
  | atMost => inferInstanceAs (Decidable (n ≤ m))
  | equal => inferInstanceAs (Decidable (n = m))
  | unequal => inferInstanceAs (Decidable (n ≠ m))

theorem isRelationChar_of_mem_mark {r : Relation} {c : Char} (h : c ∈ r.mark.toList) :
    Condition.isRelationChar c = true := by
  have hall : r.mark.toList.all Condition.isRelationChar = true := by
    cases r <;> decide
  exact List.all_eq_true.mp hall c h

theorem toList_mark_ne_nil (r : Relation) : r.mark.toList ≠ [] := by
  cases r <;> decide

end Relation

/-- A mark stands for its relation. -/
theorem relationHolds_mark (r : Relation) (n m : Int) :
    relationHolds r.mark (some (compare n m)) = true ↔ r.Holds n m := by
  rcases Int.lt_trichotomy n m with less | rfl | greater
  · rw [Int.compare_eq_lt.mpr less]
    cases r <;> simp [relationHolds, Relation.mark, Relation.Holds] <;> omega
  · rw [Int.compare_eq_eq.mpr rfl]
    cases r <;> simp [relationHolds, Relation.mark, Relation.Holds]
  · rw [Int.compare_eq_gt.mpr greater]
    cases r <;> simp [relationHolds, Relation.mark, Relation.Holds] <;> omega

/-- What is none of the six marks holds nowhere. -/
theorem relationHolds_of_unknown {relation : String} (unknown : ∀ r : Relation, relation ≠ r.mark)
    (order : Option Ordering) : relationHolds relation order = false := by
  unfold relationHolds
  split
  · exact absurd rfl (unknown .above)
  · exact absurd rfl (unknown .atLeast)
  · exact absurd rfl (unknown .below)
  · exact absurd rfl (unknown .atMost)
  · exact absurd rfl (unknown .equal)
  · exact absurd rfl (unknown .unequal)
  · rfl

/-! ### Written integers in scripts -/

section Written

variable {n : Int} {c : Char}

/-- A written integer is made of digits and a minus sign. -/
theorem eq_minus_or_isDigit (h : c ∈ (toString n).toList) : c = '-' ∨ c.isDigit = true := by
  rw [toList_toString, List.mem_append] at h
  rcases h with h | h
  · rw [signText] at h
    split at h
    · exact .inl (List.mem_singleton.mp h)
    · cases h
  · exact .inr (isDigit_of_mem_digits h)

theorem isBlank_of_mem_toString (h : c ∈ (toString n).toList) : isBlank c = false := by
  rcases eq_minus_or_isDigit h with rfl | hdigit
  · decide
  · exact isBlank_of_isDigitLike (isDigitLike_of_isDecimal (isDecimal_of_isDigit hdigit))

theorem isRelationChar_of_mem_toString (h : c ∈ (toString n).toList) :
    Condition.isRelationChar c = false := by
  rcases eq_minus_or_isDigit h with rfl | hdigit
  · decide
  · rw [← Bool.not_eq_true]
    intro hmark
    have hother := (Condition.apart_of_isRelationChar hmark).2.2
    rw [isDecimal_of_isDigit hdigit] at hother
    cases hother

theorem toList_toString_ne_nil (n : Int) : (toString n).toList ≠ [] := by
  rw [toList_toString]
  simp

/-- A text that ends with a written integer has no blanks to lose, unless it starts with one. -/
theorem trim_append_toString {s : List Char} (hs : StopsAt isBlank (s ++ (toString n).toList)) :
    trim (s ++ (toString n).toList) = s ++ (toString n).toList := by
  refine trim_eq_self_iff.mpr ⟨hs, fun c hc => ?_⟩
  rw [List.getLast?_append_of_ne_nil _ (toList_toString_ne_nil n)] at hc
  exact isBlank_of_mem_toString (List.mem_of_getLast? hc)

theorem Value.read_toString (short : IsShort n) :
    Value.read (toString n) = .ok (.integer n) := by
  obtain ⟨l, hread, hvalue⟩ := IntegerLiteral.read?_toString short
  have htrim : trim (toString n).toList = (toString n).toList :=
    trim_append_toString (s := []) fun c hc => isBlank_of_mem_toString (List.mem_of_head? hc)
  simp only [Value.read, htrim, hread, hvalue, Except.map]

end Written

section Names

variable {name : List Char}

theorem Condition.exists_start_of_isIdentifier (identifier : isIdentifier name = true) :
    ∃ c rest, name = c :: rest ∧ isNameStart c = true := by
  cases name with
  | nil => cases identifier
  | cons c rest =>
    rw [isIdentifier, Bool.and_eq_true] at identifier
    exact ⟨c, rest, rfl, identifier.1⟩

theorem Condition.isBlank_of_isIdentifier (identifier : isIdentifier name = true) :
    ∀ c ∈ name, isBlank c = false :=
  fun c hc => isBlank_of_isNameChar (isNameChar_of_isIdentifier identifier c hc)

/-- An identifier has no quotation marks to lose. -/
theorem Action.nameOf_of_isIdentifier (identifier : Condition.isIdentifier name = true) :
    nameOf name = String.ofList name := by
  obtain ⟨c, rest, rfl, hstart⟩ := Condition.exists_start_of_isIdentifier identifier
  have hquote : isQuote c = false := by
    rw [← Bool.not_eq_true, isQuote, Bool.or_eq_true, beq_iff_eq, beq_iff_eq]
    rintro (rfl | rfl) <;> exact absurd hstart (by decide)
  simp [nameOf, unwrap, hquote]

end Names

/-! ### Statements and conditions -/

section

variable {x gap gap' : String} {n m : Int}

/-- A statement that sets a variable to a written integer. -/
theorem Action.read_setVariable (identifier : Condition.isIdentifier x.toList = true)
    (short : IsShort n) :
    Action.read ("setVar " ++ x ++ " " ++ toString n) = .ok (.setVariable x (.integer n)) := by
  have htext : ("setVar " ++ x ++ " " ++ toString n).toList =
      "setVar".toList ++ ([' '] ++ (x.toList ++ ([' '] ++ (toString n).toList))) := by
    simp
  have htrim : trim ("setVar".toList ++ ([' '] ++ (x.toList ++ ([' '] ++ (toString n).toList)))) =
      "setVar".toList ++ ([' '] ++ (x.toList ++ ([' '] ++ (toString n).toList))) := by
    have hstart : StopsAt isBlank
        (("setVar".toList ++ ([' '] ++ (x.toList ++ [' ']))) ++ (toString n).toList) := by
      rintro c hc
      cases hc
      decide
    simpa only [List.append_assoc] using trim_append_toString hstart
  have spells : Spells "setvar" "setVar".toList := by
    simp only [Spells]
    decide
  have blank : IsGap [' '] := ⟨by simp, by simp⟩
  have hvalue : valueOf (toString n).toList = .ok (.integer n) := by
    rw [valueOf, String.ofList_toList, Value.read_toString short]
    rfl
  have hline : '\n' ∉ (toString n).toList := by
    intro hmem
    have hblank := isBlank_of_mem_toString hmem
    rw [isBlank_lineFeed] at hblank
    cases hblank
  obtain ⟨c, rest, hx, -⟩ := Condition.exists_start_of_isIdentifier identifier
  rw [read, htext, htrim, readTrimmed_assignment spells blank (by simp [hx])
    (Condition.isBlank_of_isIdentifier identifier) blank
    (fun c hc => isBlank_of_mem_toString (List.mem_of_head? hc)) (toList_toString_ne_nil n) hline,
    hvalue, nameOf_of_isIdentifier identifier, String.ofList_toList]
  rfl

/-- A condition that compares a variable with a written integer. -/
theorem Condition.read_comparison (identifier : isIdentifier x.toList = true) (short : IsShort m)
    (blank : isAllBlank gap = true) (blank' : isAllBlank gap' = true) (r : Relation) :
    Condition.read (x ++ gap ++ r.mark ++ gap' ++ toString m) = .ok (.comparison x r.mark m) := by
  have htext : (x ++ gap ++ r.mark ++ gap' ++ toString m).toList =
      x.toList ++ (gap.toList ++ (r.mark.toList ++ (gap'.toList ++ (toString m).toList))) := by
    simp
  have hcompares : Compares x.toList r.mark.toList (toString m).toList
      (x.toList ++ (gap.toList ++ (r.mark.toList ++ (gap'.toList ++ (toString m).toList)))) :=
    .intro identifier (List.all_eq_true.mp blank) r.toList_mark_ne_nil
      (fun c hc => Relation.isRelationChar_of_mem_mark hc) (List.all_eq_true.mp blank')
  have htrim : trim (x.toList ++
        (gap.toList ++ (r.mark.toList ++ (gap'.toList ++ (toString m).toList)))) =
      x.toList ++ (gap.toList ++ (r.mark.toList ++ (gap'.toList ++ (toString m).toList))) := by
    obtain ⟨c, rest, hx, hstart⟩ := exists_start_of_isIdentifier identifier
    have hstop : StopsAt isBlank
        ((x.toList ++ (gap.toList ++ (r.mark.toList ++ gap'.toList))) ++ (toString m).toList) := by
      rw [hx]
      rintro c hc
      cases hc
      exact isBlank_of_isNameStart hstart
    simpa only [List.append_assoc] using trim_append_toString hstop
  obtain ⟨l, hread, hvalue⟩ := IntegerLiteral.read?_toString short
  have hcomparison := hcompares.comparison?_eq
    (fun c hc => isRelationChar_of_mem_toString (List.mem_of_head? hc))
    (fun c hc => isBlank_of_mem_toString (List.mem_of_head? hc))
  rw [hread, Option.map_some] at hcomparison
  rw [read, htext, htrim, readTrimmed, hcompares.isIdentifier_eq_false, if_neg Bool.false_ne_true,
    hcomparison]
  simp [hvalue, Except.map]

/-- **A number that is written compares as the integer that it is**: after a statement has set a
variable to it, a condition on that variable holds exactly if the relation holds between the two
integers.  The statement changes no other variable, and chance is never asked. -/
theorem comparison_decided (identifier : Condition.isIdentifier x.toList = true) (hn : IsShort n)
    (hm : IsShort m) (blank : isAllBlank gap = true) (blank' : isAllBlank gap' = true)
    (r : Relation) (store : Store) (sources : Sources) :
    Decides ("setVar " ++ x ++ " " ++ toString n) (x ++ gap ++ r.mark ++ gap' ++ toString m) x
      (decide (r.Holds n m)) store sources :=
  decides_of_assigned (Action.read_setVariable identifier hn) rfl
    (Condition.read_comparison identifier hm blank blank' r) fun now => by
      have hverdict : relationHolds r.mark (some (compare n m)) = decide (r.Holds n m) :=
        Bool.eq_iff_iff.mpr ((relationHolds_mark r n m).trans decide_eq_true_iff.symm)
      simp [Condition.evaluate, hverdict]

/-- Two neighbours that no double tells apart, with a sign right behind the relation. -/
theorem comparison_decided_beyond_doubles :
    Condition.isIdentifier "gold".toList = true ∧ IsShort (-9007199254740993) ∧
      IsShort (-9007199254740992) ∧ isAllBlank "\t" = true ∧ isAllBlank "" = true ∧
      Decides "setVar gold -9007199254740993" "gold\t<-9007199254740992" "gold" true .empty
        { chance := fun _ => .zero, clock := .steady .zero } := by
  have hstatement : "setVar gold -9007199254740993" =
      "setVar " ++ "gold" ++ " " ++ toString (-9007199254740993 : Int) := by decide +kernel
  have hcondition : "gold\t<-9007199254740992" =
      "gold" ++ "\t" ++ Relation.below.mark ++ "" ++ toString (-9007199254740992 : Int) := by
    decide +kernel
  rw [hstatement, hcondition]
  exact ⟨by decide, by decide, by decide, by decide, by decide,
    comparison_decided (by decide) (by decide) (by decide) (by decide) (by decide) .below _ _⟩

end

end Colloquy
