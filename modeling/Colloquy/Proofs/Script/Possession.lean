import Colloquy.Proofs.Script.Outcome

/-!
# Possessions

Items and quests go by names that stand between quotation marks, in statements as well as in
conditions.  Both languages read the same name back whatever it holds: blanks, parentheses, either
quotation mark, or what looks like the end of a condition.  Only a line feed cannot stand in a name.

* `Text.between`: a text between quotation marks;
* `Action.read_addItem`, `Action.read_removeItem`, `Action.read_completeQuest`: what statements
  about a name say;
* `Condition.read_predicate`: what a condition about a name says;
* `Decides`: a statement decides a condition;
* `possessions_decided`: statements about items and quests decide the conditions about them.
-/

namespace Colloquy

open Text

/-- A text between two quotation marks. -/
def Text.between (quote : Char) (s : String) : String :=
  String.singleton quote ++ s ++ String.singleton quote

namespace Text

variable {c d q : Char} {s : List Char}

theorem toList_between (quote : Char) (s : String) :
    (between quote s).toList = quote :: (s.toList ++ [quote]) := by
  simp [between]

theorem isBlank_of_isQuote (h : isQuote q = true) : isBlank q = false := by
  simp only [isQuote, Bool.or_eq_true, beq_iff_eq] at h
  rcases h with rfl | rfl <;> decide

theorem ne_lineFeed_of_isQuote (h : isQuote q = true) : q ≠ '\n' := by
  rintro rfl
  exact absurd h (by decide)

/-- A text with no blank at either end has none to lose. -/
theorem trim_of_ends (hc : isBlank c = false) (hd : isBlank d = false) :
    trim (c :: (s ++ [d])) = c :: (s ++ [d]) := by
  simp [trim, trimEnd, hc, hd]

end Text

/-! ### Statements -/

namespace Action

variable {p : Char} {s : List Char}

theorem afterBlanks?_space (hp : isBlank p = false) :
    afterBlanks? (' ' :: p :: s) = some (p :: s) := by
  simp [afterBlanks?, hp]

/-- A name between quotation marks is a phrase. -/
theorem phrase?_wrapped (hp : isQuote p = true) (line : '\n' ∉ s) :
    phrase? (p :: (s ++ [p])) = some (p :: (s ++ [p])) := by
  simp [phrase?, line, (ne_lineFeed_of_isQuote hp).symm]

theorem nameOf_wrapped (hp : isQuote p = true) (s : List Char) :
    nameOf (p :: (s ++ [p])) = String.ofList s := by
  rw [nameOf, unwrap_wrap hp]

variable {verb name : String} {c : Char} {rest : List Char}

/-- A statement that ends with a name between quotation marks has no blanks to lose. -/
theorem read_append_between (hverb : verb.toList = c :: rest) (hc : isBlank c = false)
    (hp : isQuote p = true) :
    read (verb ++ between p name) = readTrimmed (verb.toList ++ p :: (name.toList ++ [p])) := by
  have htext : (verb ++ between p name).toList = c :: ((rest ++ p :: name.toList) ++ [p]) := by
    simp [toList_between, hverb]
  rw [read, htext, trim_of_ends hc (isBlank_of_isQuote hp), hverb]
  simp

theorem read_addItem (hp : isQuote p = true) (line : '\n' ∉ name.toList) :
    read ("addItem " ++ between p name) = .ok (.setItem name true) := by
  rw [read_append_between rfl (by decide) hp]
  have hset : operand? "setvar" ("addItem ".toList ++ p :: (name.toList ++ [p])) = none := rfl
  have hadd : operand? "additem" ("addItem ".toList ++ p :: (name.toList ++ [p])) =
      some (p :: (name.toList ++ [p])) := afterBlanks?_space (isBlank_of_isQuote hp)
  simp only [readTrimmed, hset, hadd, Option.bind_none, Option.bind_some, phrase?_wrapped hp line,
    nameOf_wrapped hp, String.ofList_toList]

theorem read_removeItem (hp : isQuote p = true) (line : '\n' ∉ name.toList) :
    read ("removeItem " ++ between p name) = .ok (.setItem name false) := by
  rw [read_append_between rfl (by decide) hp]
  have hset : operand? "setvar" ("removeItem ".toList ++ p :: (name.toList ++ [p])) = none := rfl
  have hadd : operand? "additem" ("removeItem ".toList ++ p :: (name.toList ++ [p])) = none := rfl
  have hremove : operand? "removeitem" ("removeItem ".toList ++ p :: (name.toList ++ [p])) =
      some (p :: (name.toList ++ [p])) := afterBlanks?_space (isBlank_of_isQuote hp)
  simp only [readTrimmed, hset, hadd, hremove, Option.bind_none, Option.bind_some,
    phrase?_wrapped hp line, nameOf_wrapped hp, String.ofList_toList]

theorem read_completeQuest (hp : isQuote p = true) (line : '\n' ∉ name.toList) :
    read ("completeQuest " ++ between p name) = .ok (.completeQuest name) := by
  rw [read_append_between rfl (by decide) hp]
  have hset : operand? "setvar" ("completeQuest ".toList ++ p :: (name.toList ++ [p])) = none := rfl
  have hadd : operand? "additem" ("completeQuest ".toList ++ p :: (name.toList ++ [p])) = none :=
    rfl
  have hremove : operand? "removeitem" ("completeQuest ".toList ++ p :: (name.toList ++ [p])) =
      none := rfl
  have hcomplete : operand? "completequest" ("completeQuest ".toList ++ p :: (name.toList ++ [p])) =
      some (p :: (name.toList ++ [p])) := afterBlanks?_space (isBlank_of_isQuote hp)
  simp only [readTrimmed, hset, hadd, hremove, hcomplete, Option.bind_none, Option.bind_some,
    phrase?_wrapped hp line, nameOf_wrapped hp, String.ofList_toList]

end Action

/-! ### Conditions -/

namespace Condition

variable {c q : Char} {s f : List Char}

theorem isBlank_of_isNameStart (h : isNameStart c = true) : isBlank c = false := by
  rw [isNameStart, Bool.or_eq_true, beq_iff_eq] at h
  rcases h with h | rfl
  · change (decide ('A'.val ≤ c.val ∧ c.val ≤ 'Z'.val) ||
      decide ('a'.val ≤ c.val) && decide (c.val ≤ 'z'.val)) = true at h
    simp only [Bool.or_eq_true, Bool.and_eq_true, decide_eq_true_eq, UInt32.le_iff_toNat_le] at h
    change (65 ≤ c.toNat ∧ c.toNat ≤ 90) ∨ (97 ≤ c.toNat ∧ c.toNat ≤ 122) at h
    rw [isBlank, Bool.eq_false_iff, ne_eq, CharClass.contains_iff]
    simp only [blanks, List.mem_cons, List.not_mem_nil, or_false, exists_eq_or_imp, exists_eq_left]
    omega
  · decide

theorem isNameChar_of_isIdentifier (h : isIdentifier f = true) : ∀ c ∈ f, isNameChar c = true := by
  cases f with
  | nil => nofun
  | cons c rest =>
    rw [isIdentifier, Bool.and_eq_true, List.all_eq_true] at h
    intro d hd
    rcases List.mem_cons.mp hd with rfl | hd
    · have hstart := h.1
      rw [isNameStart, Bool.or_eq_true] at hstart
      rw [isNameChar, Char.isAlphanum, Bool.or_eq_true, Bool.or_eq_true]
      exact hstart.imp_left .inl
    · exact h.2 d hd

/-- What stands before the last quotation mark of a predicate is its argument. -/
theorem argument?_append (hq : isQuote q = true) (line : '\n' ∉ s) :
    argument? q (s ++ [q, ')']) = some s := by
  simp [argument?, line, isBlank_of_isQuote hq]

section Predicate

variable (hf : isIdentifier f = true)
include hf

theorem takeWhile_function (rest : List Char) :
    (f ++ '(' :: rest).takeWhile isNameChar = f := by
  rw [List.takeWhile_append_of_pos (isNameChar_of_isIdentifier hf)]
  simp [isNameChar]

theorem dropWhile_function (rest : List Char) :
    (f ++ '(' :: rest).dropWhile isNameChar = '(' :: rest := by
  rw [List.dropWhile_append_of_pos (isNameChar_of_isIdentifier hf)]
  simp [isNameChar]

theorem isIdentifier_function (rest : List Char) : isIdentifier (f ++ '(' :: rest) = false := by
  cases f with
  | nil => cases hf
  | cons c f => simp [isIdentifier, isNameChar]

theorem comparison?_function (rest : List Char) : comparison? (f ++ '(' :: rest) = none := by
  have hblank : isBlank '(' = false := by decide
  have hrelation : isRelationChar '(' = false := by decide
  simp [comparison?, dropWhile_function hf, hblank, hrelation]

theorem predicate?_function (hq : isQuote q = true) (line : '\n' ∉ s) :
    predicate? (f ++ '(' :: q :: (s ++ [q, ')'])) = some (f, s) := by
  simp [predicate?, takeWhile_function hf, dropWhile_function hf, isBlank_of_isQuote hq, hf, hq,
    argument?_append hq line]

end Predicate

/-- A predicate about a name between quotation marks has the name as its argument. -/
theorem read_predicate {function name : String} (hf : isIdentifier function.toList = true)
    (hq : isQuote q = true) (line : '\n' ∉ name.toList) :
    read (function ++ "(" ++ between q name ++ ")") = .ok (.predicate function name) := by
  have htext : (function ++ "(" ++ between q name ++ ")").toList =
      function.toList ++ '(' :: q :: (name.toList ++ [q, ')']) := by
    simp [toList_between]
  -- a name starts with no blank and the parenthesis is none, so nothing is trimmed
  have htrim : trim (function.toList ++ '(' :: q :: (name.toList ++ [q, ')'])) =
      function.toList ++ '(' :: q :: (name.toList ++ [q, ')']) := by
    cases hfunction : function.toList with
    | nil =>
      rw [hfunction] at hf
      cases hf
    | cons c rest =>
      rw [hfunction, isIdentifier, Bool.and_eq_true] at hf
      have hends := trim_of_ends (s := rest ++ '(' :: q :: (name.toList ++ [q]))
        (isBlank_of_isNameStart hf.1) (by decide : isBlank ')' = false)
      simpa using hends
  rw [read, htext, htrim, readTrimmed, isIdentifier_function hf, comparison?_function hf,
    predicate?_function hf hq line]
  simp

end Condition

/-! ### Decisions -/

/-- A statement, carried out in a store, sets its own variable only and decides a condition: chance
is not asked, neither by the statement nor by the condition. -/
structure Decides (statement condition own : String) (verdict : Bool) (store : Store)
    (sources : Sources) : Prop where
  whole : (execute statement store sources).fault = none
  undrawn : (execute statement store sources).sources = sources
  others : ∀ name, name ≠ own →
    Store.get? (execute statement store sources).store name = Store.get? store name
  decided : ∀ now : Sources,
    evaluateCondition condition (execute statement store sources).store now = (verdict, now)

section

variable {statement condition : String} {p q : Char} {name : String} {store : Store}
  {sources : Sources}

/-- A statement that can be carried out decides a condition that has a verdict from then on. -/
theorem decides_of_assigned {action : Action} {asked : Condition} {own : String} {value : Value}
    {verdict : Bool} (reading : Action.read statement = .ok action)
    (assigned : action.assigned? store = some (own, value))
    (asking : Condition.read condition = .ok asked)
    (settled : ∀ now, asked.evaluate (Store.set store own value) now = (verdict, now)) :
    Decides statement condition own verdict store sources := by
  have hexecute := @execute_of_assigned statement store sources action own value reading assigned
  refine ⟨by rw [hexecute], by rw [hexecute], fun other hother => ?_, fun now => ?_⟩
  · rw [hexecute, Store.get?_set_of_ne _ _ hother.symm]
  · rw [hexecute, evaluateCondition, asking]
    exact settled now

theorem decides_setItem {held : Bool} (reading : Action.read statement = .ok (.setItem name held))
    (asking : Condition.read condition = .ok (.predicate "hasItem" name)) :
    Decides statement condition (itemVariable name) held store sources :=
  decides_of_assigned reading rfl asking fun now => by
    simp [Condition.evaluate, Condition.predicateHolds, Store.hasItem]

theorem decides_completeQuest (reading : Action.read statement = .ok (.completeQuest name))
    (asking : Condition.read condition = .ok (.predicate "questCompleted" name)) :
    Decides statement condition (questVariable name) true store sources :=
  decides_of_assigned reading rfl asking fun now => by
    simp [Condition.evaluate, Condition.predicateHolds, Store.questState]

/-- **Statements about items and quests decide the conditions about them**, whatever the name is and
whichever quotation marks are around it. -/
theorem possessions_decided (hp : isQuote p = true) (hq : isQuote q = true)
    (line : '\n' ∉ name.toList) (store : Store) (sources : Sources) :
    Decides ("addItem " ++ between p name) ("hasItem(" ++ between q name ++ ")")
        (itemVariable name) true store sources ∧
      Decides ("removeItem " ++ between p name) ("hasItem(" ++ between q name ++ ")")
        (itemVariable name) false store sources ∧
      Decides ("completeQuest " ++ between p name) ("questCompleted(" ++ between q name ++ ")")
        (questVariable name) true store sources := by
  have hitem : Condition.read ("hasItem(" ++ between q name ++ ")") =
      .ok (.predicate "hasItem" name) := by
    have hhead : "hasItem(" = "hasItem" ++ "(" := by decide
    rw [hhead]
    exact Condition.read_predicate (by decide) hq line
  have hquest : Condition.read ("questCompleted(" ++ between q name ++ ")") =
      .ok (.predicate "questCompleted" name) := by
    have hhead : "questCompleted(" = "questCompleted" ++ "(" := by decide
    rw [hhead]
    exact Condition.read_predicate (by decide) hq line
  exact ⟨decides_setItem (Action.read_addItem hp line) hitem,
    decides_setItem (Action.read_removeItem hp line) hitem,
    decides_completeQuest (Action.read_completeQuest hp line) hquest⟩

/-- A name that looks like the end of a condition is read back by both languages. -/
theorem possessions_decided_of_tricky :
    isQuote '\'' = true ∧ isQuote '"' = true ∧ '\n' ∉ "key\") or ('".toList ∧
      Decides ("addItem " ++ between '\'' "key\") or ('")
        ("hasItem(" ++ between '"' "key\") or ('" ++ ")") (itemVariable "key\") or ('") true .empty
        { chance := fun _ => .zero, clock := .steady .zero } :=
  ⟨by decide, by decide, by decide,
    (possessions_decided (by decide) (by decide) (by decide) _ _).1⟩

end

end Colloquy
