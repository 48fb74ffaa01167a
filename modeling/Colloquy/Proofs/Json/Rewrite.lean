import Colloquy.Proofs.Json.Lookup

/-!
# Rewritten values

Values that differ in one place, and what look-ups tell of the difference.

* `Respells`: a key in two spellings, or a member with an unknown key;
* `AtKey`, `Items`, `Values`, `Objects`: what is rewritten under a key, in a list, in an object;
* `Respells.getMember?_eq`, `Respells.getMember?_renameMembers_eq`: what is found under a key that
  is known;
* `AtKey.found`, `AtKey.found_renameMembers`: what is found under a key with a rewritten value.
-/

namespace Colloquy.Json

/-- Members that differ in the spelling of one key, or of which one has a key that is not known. -/
inductive Respells (spellings : List (String × String)) (known : List String) :
    Members → Members → Prop
  /-- The other members have neither spelling. -/
  | spelled (before after before' after' : Members) {variant field : String} (value : Json)
      (spelling : (variant, field) ∈ spellings) (others : before ++ after = before' ++ after')
      (fresh : ∀ key ∈ (before ++ after).map Prod.fst, key ≠ variant ∧ key ≠ field) :
      Respells spellings known (before ++ (variant, value) :: after)
        (before' ++ (field, value) :: after')
  | added (before after : Members) {key : String} (value : Json) (unknown : key ∉ known) :
      Respells spellings known (before ++ after) (before ++ (key, value) :: after)

/-- The value of one member with the key is rewritten. -/
inductive AtKey (key : String) (step : Json → Json → Prop) : Members → Members → Prop
  | intro (before after : Members) {value value' : Json} (rewritten : step value value') :
      AtKey key step (before ++ (key, value) :: after) (before ++ (key, value') :: after)

/-- One item of a list is rewritten. -/
inductive Items (step : Json → Json → Prop) : Json → Json → Prop
  | intro (before after : List Json) {value value' : Json} (rewritten : step value value') :
      Items step (.list (before ++ value :: after)) (.list (before ++ value' :: after))

/-- One value of an object is rewritten, whatever its key. -/
inductive Values (step : Json → Json → Prop) : Json → Json → Prop
  | intro (before after : Members) (key : String) {value value' : Json}
      (rewritten : step value value') :
      Values step (.object (before ++ (key, value) :: after))
        (.object (before ++ (key, value') :: after))

/-- The members of an object are rewritten. -/
inductive Objects (step : Members → Members → Prop) : Json → Json → Prop
  | intro {members members' : Members} (rewritten : step members members') :
      Objects step (.object members) (.object members')

/-- What is found is the same or is rewritten. -/
inductive Found (step : Json → Json → Prop) : Option Json → Option Json → Prop
  | same (value : Json) : Found step (some value) (some value)
  | rewritten {value value' : Json} (rewritten : step value value') :
      Found step (some value) (some value')

section Found

variable {step : Json → Json → Prop} {value value' : Option Json}

theorem Found.isSome_eq (h : Found step value value') : value.isSome = value'.isSome := by
  cases h <;> rfl

theorem Found.eq_or_rewritten (h : Found step value value') :
    value = value' ∨ ∃ v v', step v v' ∧ value = some v ∧ value' = some v' := by
  cases h with
  | same => exact .inl rfl
  | rewritten h => exact .inr ⟨_, _, h, rfl, rfl⟩

end Found

variable {spellings : List (String × String)} {known : List String} {members members' : Members}
  {rename : String → String} {step : Json → Json → Prop} {key k : String}

/-! ### Spellings and unknown keys -/

/-- Under a known key that has one spelling one finds the same. -/
theorem Respells.getMember?_eq (h : Respells spellings known members members')
    (hkey : key ∈ known) (single : ∀ p ∈ spellings, p.1 ≠ key ∧ p.2 ≠ key) :
    getMember? members key = getMember? members' key := by
  cases h with
  | spelled _ _ _ _ value spelling others =>
    obtain ⟨hvariant, hfield⟩ := single _ spelling
    rw [getMember?_insert_of_ne hvariant, getMember?_insert_of_ne hfield, others]
  | added before after value unknown =>
    exact (getMember?_insert_of_ne (ne_of_mem_of_not_mem hkey unknown).symm).symm

/-- Once the keys have their one spelling, one finds the same under each one that is known. -/
theorem Respells.getMember?_renameMembers_eq (h : Respells spellings known members members')
    (spells : ∀ p ∈ spellings, ∀ k, rename k = p.2 ↔ k = p.1 ∨ k = p.2)
    (hknown : ∀ k, rename k = key → k ∈ known) :
    getMember? (renameMembers rename members) key =
      getMember? (renameMembers rename members') key := by
  cases h with
  | @spelled before after before' after' variant field value spelling others fresh =>
    have hrename := spells _ spelling
    have hvariant : rename variant = field := (hrename variant).mpr (.inl rfl)
    have hfield : rename field = field := (hrename field).mpr (.inr rfl)
    by_cases hkey : field = key
    · subst hkey
      -- no other member comes to have the key
      have habsent {others : Members}
          (hothers : ∀ k ∈ others.map Prod.fst, k ≠ variant ∧ k ≠ field) :
          lastMember? (others.map (Prod.map rename id)) field = none := by
        rw [lastMember?, getMember?_eq_none_iff]
        simp only [List.map_reverse, List.mem_reverse, List.map_map, List.mem_map, not_exists,
          not_and]
        intro member hmember hk
        have := hothers member.1 (List.mem_map_of_mem hmember)
        exact ((hrename member.1).mp hk).elim this.1 this.2
      have hafter : ∀ k ∈ after.map Prod.fst, k ≠ variant ∧ k ≠ field := fun k hk =>
        fresh k (by rw [List.map_append]; exact List.mem_append_right _ hk)
      have hafter' : ∀ k ∈ after'.map Prod.fst, k ≠ variant ∧ k ≠ field := fun k hk =>
        fresh k (by rw [others, List.map_append]; exact List.mem_append_right _ hk)
      simp only [getMember?_renameMembers, List.map_append, List.map_cons, Prod.map_apply, hvariant,
        hfield, lastMember?_middle, habsent hafter, habsent hafter', id]
    · rw [getMember?_renameMembers_insert_of_ne (by rwa [hvariant]),
        getMember?_renameMembers_insert_of_ne (by rwa [hfield]), others]
  | added before after value unknown =>
    exact (getMember?_renameMembers_insert_of_ne fun hk => unknown (hknown _ hk)).symm

/-! ### Values under a key -/

theorem AtKey.getMember?_eq (h : AtKey key step members members') (hne : key ≠ k) :
    getMember? members k = getMember? members' k := by
  cases h with
  | intro => rw [getMember?_insert_of_ne hne, getMember?_insert_of_ne hne]

theorem AtKey.getMember?_renameMembers_eq (h : AtKey key step members members')
    (hne : rename key ≠ k) :
    getMember? (renameMembers rename members) k = getMember? (renameMembers rename members') k := by
  cases h with
  | intro =>
    rw [getMember?_renameMembers_insert_of_ne hne, getMember?_renameMembers_insert_of_ne hne]

/-- Under the key one finds the same or what is rewritten. -/
theorem AtKey.found (h : AtKey key step members members') :
    Found step (getMember? members key) (getMember? members' key) := by
  cases h with
  | intro before after rewritten =>
    rw [getMember?_append, getMember?_append, getMember?_cons, getMember?_cons, if_pos rfl,
      if_pos rfl]
    cases getMember? before key with
    | none => exact .rewritten rewritten
    | some value => exact .same value

/-- Under a key that no other key is a spelling of one finds the same or what is rewritten. -/
theorem AtKey.found_renameMembers (h : AtKey key step members members')
    (own : ∀ k, rename k = key ↔ k = key) :
    Found step (getMember? (renameMembers rename members) key)
      (getMember? (renameMembers rename members') key) := by
  cases h with
  | intro before after rewritten =>
    rw [getMember?_renameMembers_of_iff own, getMember?_renameMembers_of_iff own,
      lastMember?_middle, lastMember?_middle]
    cases lastMember? after key with
    | none => exact .rewritten rewritten
    | some value => exact .same value

end Colloquy.Json
