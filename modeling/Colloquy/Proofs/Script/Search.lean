import Colloquy.Proofs.Number.Rounding
import Colloquy.Proofs.Script.FreeName
import Colloquy.Proofs.Script.Record

/-!
# The search for a free name

The name of a record is searched for: the base is tried first, then the base with the numbers from
one on, for as long as the name at hand is taken.  Nothing in the search bounds it.  It ends all the
same, since the names differ and a store cannot have all of more names than it has variables.

* `Search`, `Search.round`, `Search.Ends`: the search, one round, and its end after some rounds;
* `Search.Ends.unique`: it ends in one way only;
* `Search.ends_iff`: it ends at the first number whose name is not taken;
* `Search.exists_ends`: in a store it ends after no more rounds than there are variables;
* `showsTime_of_magnitude_lt`: a clock shows a time unless that is very far away;
* `FindsName`, `record_names_found`: the names of records are those that the search finds.
-/

namespace Colloquy

/-- A search for a free name: the name at hand and the number behind its base. -/
structure Search where
  name : String
  number : Nat

namespace Search

/-- At first the name at hand is the base itself. -/
def start (base : String) : Search := ⟨base, 0⟩

/-- One round goes on to the next number. -/
def round (base : String) (s : Search) : Search :=
  ⟨base ++ "_" ++ toString (s.number + 1), s.number + 1⟩

/-- A search goes round for as long as the name at hand is taken, and ends after a number of
rounds. -/
inductive Ends (taken : String → Bool) (base : String) : Nat → Search → Search → Prop
  | free {s : Search} (free : taken s.name = false) : Ends taken base 0 s s
  | next {rounds : Nat} {s last : Search} (occupied : taken s.name = true)
      (rest : Ends taken base rounds (s.round base) last) : Ends taken base (rounds + 1) s last

/-- The search at a number. -/
def numbered (base : String) (k : Nat) : Search := ⟨suffixed base k, k⟩

theorem start_eq (base : String) : start base = numbered base 0 := rfl

theorem round_numbered (base : String) (k : Nat) :
    (numbered base k).round base = numbered base (k + 1) := rfl

variable {taken : String → Bool} {base : String} {rounds rounds' k : Nat} {s last last' : Search}
  {store : Store}

/-- A search ends in one way only. -/
theorem Ends.unique (h : Ends taken base rounds s last) (h' : Ends taken base rounds' s last') :
    rounds = rounds' ∧ last = last' := by
  induction h generalizing rounds' with
  | free free =>
    cases h' with
    | free => exact ⟨rfl, rfl⟩
    | next occupied => exact absurd (free.symm.trans occupied) Bool.false_ne_true
  | next occupied _ ih =>
    cases h' with
    | free free => exact absurd (free.symm.trans occupied) Bool.false_ne_true
    | next _ rest =>
      obtain ⟨hrounds, hlast⟩ := ih rest
      exact ⟨congrArg (· + 1) hrounds, hlast⟩

/-- A search ends at the first number whose name is not taken, after a round for each one before. -/
theorem ends_iff :
    Ends taken base rounds (numbered base k) last ↔
      last = numbered base (k + rounds) ∧ taken (suffixed base (k + rounds)) = false ∧
        ∀ j < rounds, taken (suffixed base (k + j)) = true := by
  induction rounds generalizing k with
  | zero =>
    constructor
    · rintro (free | _)
      exact ⟨rfl, free, nofun⟩
    · rintro ⟨rfl, free, -⟩
      exact .free free
  | succ rounds ih =>
    have hnumber (j : Nat) : k + (j + 1) = k + 1 + j := by omega
    constructor
    · rintro (_ | ⟨occupied, rest⟩)
      rw [round_numbered, ih] at rest
      obtain ⟨hlast, free, before⟩ := rest
      rw [hnumber]
      refine ⟨hlast, free, fun j hj => ?_⟩
      cases j with
      | zero => exact occupied
      | succ j =>
        rw [hnumber]
        exact before j (Nat.lt_of_succ_lt_succ hj)
    · rintro ⟨hlast, free, before⟩
      refine .next (before 0 (Nat.succ_pos rounds)) ?_
      rw [hnumber] at hlast free
      rw [round_numbered, ih]
      refine ⟨hlast, free, fun j hj => ?_⟩
      rw [← hnumber]
      exact before (j + 1) (Nat.succ_lt_succ hj)

theorem ends_start_iff :
    Ends taken base rounds (start base) last ↔
      last = numbered base rounds ∧ taken (suffixed base rounds) = false ∧
        ∀ j < rounds, taken (suffixed base j) = true := by
  simpa only [start_eq, Nat.zero_add] using @ends_iff taken base rounds 0 last

/-- A search that ends has found the first free name. -/
theorem Ends.name_eq (h : Ends store.contains base rounds (start base) last) :
    last.name = firstFree store base := by
  obtain ⟨rfl, free, before⟩ := ends_start_iff.mp h
  exact IsFirstFree.eq_firstFree ⟨rounds, rfl, free, before⟩

/-- In a store a search ends, after no more rounds than there are variables. -/
theorem exists_ends (store : Store) (base : String) :
    ∃ rounds ≤ store.size, ∃ last, Ends store.contains base rounds (start base) last := by
  obtain ⟨rounds, hname, free, before⟩ := isFirstFree_firstFree store base
  rw [hname] at free
  obtain ⟨m, hm, hfree⟩ := exists_free store base
  -- the first free name does not come after any other free one
  have hle : rounds ≤ m := by
    by_contra hlt
    rw [before m (Nat.lt_of_not_le hlt)] at hfree
    cases hfree
  exact ⟨rounds, hle.trans hm, numbered base rounds, ends_start_iff.mpr ⟨rfl, free, before⟩⟩

end Search

/-! ### Names of records -/

/-- A clock that is less than two to the power of 1012 seconds away from its zero shows a time. -/
theorem showsTime_of_magnitude_lt {clock : Clock} {negative : Bool} {rank : Fin 0x7FF0000000000000}
    (now : clock.now = .finite negative rank)
    (h : Double.magnitude rank.val < 2 ^ (1012 : Int)) : ShowsTime clock := by
  rw [ShowsTime, milliseconds, now]
  exact @Double.exists_toInt_mul negative rank 1000 1012 10 h (by norm_num) (by decide)

/-- What the search for a free name with a base comes to in a store. -/
structure FindsName (store : Store) (base name : String) : Prop where
  /-- It ends with the name, after no more rounds than there are variables. -/
  ends : ∃ rounds ≤ store.size, ∃ last,
    Search.Ends store.contains base rounds (.start base) last ∧ last.name = name
  /-- It ends in no other way. -/
  only : ∀ rounds last, Search.Ends store.contains base rounds (.start base) last →
    rounds ≤ store.size ∧ last.name = name
  /-- The name is the base, if no variable has that name. -/
  of_free : store.contains base = false → name = base
  /-- Otherwise it is the base with the least number from one on with which it is no variable's
  name. -/
  of_taken : store.contains base = true → ∃ k, 1 ≤ k ∧ name = base ++ "_" ++ toString k ∧
    store.contains name = false ∧
      ∀ j, 1 ≤ j → j < k → store.contains (base ++ "_" ++ toString j) = true

theorem findsName_firstFree (store : Store) (base : String) :
    FindsName store base (firstFree store base) := by
  obtain ⟨rounds, hrounds, last, hends⟩ := Search.exists_ends store base
  obtain ⟨hlast, free, before⟩ := Search.ends_start_iff.mp hends
  have hname : firstFree store base = suffixed base rounds := by
    rw [← hends.name_eq, hlast]
    rfl
  constructor
  case ends => exact ⟨rounds, hrounds, last, hends, hends.name_eq⟩
  case only =>
    intro rounds' last' hends'
    obtain ⟨rfl, -⟩ := hends.unique hends'
    exact ⟨hrounds, hends'.name_eq⟩
  case of_free =>
    intro hbase
    cases rounds with
    | zero => exact hname
    | succ k => exact absurd (hbase.symm.trans (before 0 k.succ_pos)) Bool.false_ne_true
  case of_taken =>
    intro hbase
    cases rounds with
    | zero => exact absurd (free.symm.trans hbase) Bool.false_ne_true
    | succ k =>
      refine ⟨k + 1, k.succ_pos, hname, hname ▸ free, fun j hj hjk => ?_⟩
      obtain ⟨i, rfl⟩ := Nat.exists_eq_add_of_le' hj
      exact before (i + 1) hjk

/-- **The name of a record is found** while the clock shows a time: the search for it ends, however
many names are taken, and it finds the first free name.  Any clock shows a time that is not too far
away.  While the clock shows none there is no base to begin with. -/
theorem record_names_found (word : String) (clock : Clock) (store : Store) :
    (∀ ms, milliseconds clock = .ok ms → ∃ name, recordKey word clock store = .ok name ∧
      FindsName store (word ++ "_" ++ toString ms) name) ∧
    (∀ negative rank, clock.now = .finite negative rank →
      Double.magnitude rank.val < 2 ^ (1012 : Int) → ∃ ms, milliseconds clock = .ok ms) ∧
    (∀ e, milliseconds clock = .error e → recordKey word clock store = .error e) := by
  refine ⟨fun ms time => ?_, fun _ _ => showsTime_of_magnitude_lt, fun e time => ?_⟩
  · refine ⟨firstFree store (word ++ "_" ++ toString ms), ?_, findsName_firstFree store _⟩
    rw [recordKey, time]
    rfl
  · rw [recordKey, time]
    rfl

/-- A store in which the base and the numbers one and three are taken. -/
def gappedStore : Store :=
  Roster.ofList
    [("action_0", .flag true), ("action_0_1", .flag true), ("action_0_3", .flag true)]

/-- At the first moment of the clock the number there is two. -/
theorem record_names_found_in_gap :
    milliseconds (.steady .zero) = .ok 0 ∧ Double.magnitude 0 < 2 ^ (1012 : Int) ∧
      recordKey "action" (.steady .zero) gappedStore = .ok "action_0_2" ∧
      FindsName gappedStore "action_0" "action_0_2" := by
  obtain ⟨found, shown, -⟩ := record_names_found "action" (.steady .zero) gappedStore
  have near : Double.magnitude 0 < 2 ^ (1012 : Int) := by
    simp [Double.magnitude, Double.significand, Double.octave]
  have hkey : recordKey "action" (.steady .zero) gappedStore = .ok "action_0_2" := by decide +kernel
  have htime : milliseconds (.steady .zero) = .ok 0 := by decide +kernel
  obtain ⟨ms, time⟩ := shown false 0 rfl near
  obtain rfl : ms = 0 := Except.ok.inj (time.symm.trans htime)
  obtain ⟨name, hname, hfinds⟩ := found 0 time
  obtain rfl : name = "action_0_2" := Except.ok.inj (hname.symm.trans hkey)
  exact ⟨time, near, hkey, hfinds⟩

end Colloquy
