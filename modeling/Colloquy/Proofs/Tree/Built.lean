import Mathlib.Data.List.Nodup
import Std.Data.String.ToNat
import Colloquy.Tree.Edit

/-!
# Trees built by edits

A tree that an editor builds up from nothing stays whole: its connections and its start are at nodes
that exist, and its responses can be told apart.  Nodes and connections may come and go in any
order; ids are given out only once, so no response can take the id of another.

* `Edit.Fits`: the edits that name no missing node as an end or a start;
* `Built`: the trees that such edits build from an empty one, with the sources they leave;
* `Tree.IsWhole`, `Node.IsSound`: what holds of them;
* `isSound_build`, `IsWhole.put`, `IsWhole.removeNode`: what the parts of an edit preserve;
* `Edit.Refused`, `Edit.whole_apply`: why a fitting edit fails, and what it preserves;
* `Built.whole`: built trees are whole, refused edits leave them alone, and a node takes just the
  connections at it with it.
-/

namespace Colloquy

/-! ### Built trees -/

/-- An edit that creates or removes a node, adds a response, joins two nodes of the tree, or makes a
node of the tree its start or none. -/
inductive Edit.Fits (tree : Tree) : Edit → Prop
  | createNode {kind : String} {draft : Draft} : Fits tree (.createNode kind draft)
  | removeNode {id : String} : Fits tree (.removeNode id)
  | connect {source target : String} {handle : Option String} (hsource : tree.has source = true)
      (htarget : tree.has target = true) : Fits tree (.connect source target handle)
  | addChoice {id text : String} : Fits tree (.addChoice id text)
  | forgetStart : Fits tree (.setStart none)
  | setStart {id : String} (present : tree.has id = true) : Fits tree (.setStart (some id))

/-- The trees that fitting edits build from an empty one, each with the sources that are left. -/
inductive Built : Tree → Sources → Prop
  | empty (id name : String) (description : Option String) (sources : Sources) :
      Built { id, name, description } sources
  | edited {tree : Tree} {sources : Sources} {edit : Edit} (built : Built tree sources)
      (fits : edit.Fits tree) :
      Built (edit.apply tree sources).tree (edit.apply tree sources).sources

/-- An id that has been given out. -/
def Sources.HasGiven (sources : Sources) (id : String) : Prop :=
  ∃ k ≤ sources.ids, id = sources.newId k

/-- A node whose responses have distinct ids, which have been given out, and that has none unless
the player chooses at it. -/
structure Node.IsSound (node : Node) (sources : Sources) : Prop where
  distinct : (node.choices.map Choice.id).Nodup
  given : ∀ c ∈ node.choices, sources.HasGiven c.id
  offered : node.choices ≠ [] → node.kind = .playerChoice

/-- A tree of sound nodes, each found under its own id, that knows both ends of its connections and
its start. -/
structure Tree.IsWhole (tree : Tree) (sources : Sources) : Prop where
  stored : ∀ id node, tree.find? id = some node → node.id = id
  joined : ∀ c ∈ tree.connections, tree.has c.source = true ∧ tree.has c.target = true
  started : ∀ id, tree.startNodeId = some id → tree.has id = true
  sound : ∀ node ∈ tree.nodes.toList, node.IsSound sources

/-! ### Ids are given out once -/

/-- Sources from which no fewer ids have been taken, and the same ones. -/
structure Sources.Follows (later earlier : Sources) : Prop where
  same : later.newId = earlier.newId
  taken : earlier.ids ≤ later.ids

namespace Sources

variable {a b c sources : Sources} {id : String}

theorem Follows.rfl : sources.Follows sources := ⟨Eq.refl _, Nat.le_refl _⟩

theorem Follows.trans (hcb : c.Follows b) (hba : b.Follows a) : c.Follows a :=
  ⟨hcb.same.trans hba.same, Nat.le_trans hba.taken hcb.taken⟩

theorem follows_freshId (sources : Sources) : sources.freshId.2.Follows sources :=
  ⟨Eq.refl _, Nat.le_succ _⟩

theorem hasGiven_freshId (sources : Sources) : sources.freshId.2.HasGiven sources.freshId.1 :=
  ⟨sources.ids + 1, Nat.le_refl _, Eq.refl _⟩

theorem HasGiven.mono (h : a.HasGiven id) (follows : b.Follows a) : b.HasGiven id := by
  obtain ⟨k, hk, rfl⟩ := h
  exact ⟨k, Nat.le_trans hk follows.taken, by rw [follows.same]⟩

/-- A fresh id has not been given out before. -/
theorem not_hasGiven_freshId (fresh : Function.Injective sources.newId) :
    ¬ sources.HasGiven sources.freshId.1 := by
  rintro ⟨k, hk, hid⟩
  have hnext : sources.ids + 1 = k := fresh hid
  omega

end Sources

section Drafts

variable {sources : Sources} {draft : Draft} {kind : NodeKind}

theorem follows_freshChoices (texts : List String) (sources : Sources) :
    (freshChoices texts sources).2.Follows sources := by
  induction texts generalizing sources with
  | nil => exact .rfl
  | cons text texts ih => exact (ih sources.freshId.2).trans sources.follows_freshId

/-- Fresh responses have distinct ids that were not given out before. -/
theorem freshChoices_spec (fresh : Function.Injective sources.newId) (texts : List String) :
    ((freshChoices texts sources).1.map Choice.id).Nodup ∧
      ∀ c ∈ (freshChoices texts sources).1,
        (freshChoices texts sources).2.HasGiven c.id ∧ ¬ sources.HasGiven c.id := by
  induction texts generalizing sources with
  | nil => exact ⟨List.nodup_nil, nofun⟩
  | cons text texts ih =>
    obtain ⟨hdistinct, hgiven⟩ := @ih sources.freshId.2 fresh
    have hfollows := follows_freshChoices texts sources.freshId.2
    simp only [freshChoices, List.map_cons, List.nodup_cons, List.mem_map, List.forall_mem_cons]
    refine ⟨⟨?_, hdistinct⟩, ⟨?_, ?_⟩, fun c hc => ?_⟩
    · rintro ⟨c, hc, hid⟩
      exact (hgiven c hc).2 (hid ▸ sources.hasGiven_freshId)
    · exact sources.hasGiven_freshId.mono hfollows
    · exact Sources.not_hasGiven_freshId fresh
    · exact ⟨(hgiven c hc).1, fun hearlier =>
        (hgiven c hc).2 (hearlier.mono sources.follows_freshId)⟩

theorem follows_chooseId (draft : Draft) (sources : Sources) :
    (draft.chooseId sources).2.Follows sources := by
  unfold Draft.chooseId
  split
  · exact .rfl
  · exact sources.follows_freshId

theorem Node.IsSound.mono {node : Node} {later : Sources} (h : node.IsSound sources)
    (follows : later.Follows sources) : node.IsSound later :=
  ⟨h.distinct, fun c hc => (h.given c hc).mono follows, h.offered⟩

theorem follows_build (draft : Draft) (kind : NodeKind) (sources : Sources) :
    (draft.build kind sources).2.Follows sources :=
  (follows_chooseId draft _).trans (follows_freshChoices _ sources)

/-- A node that a draft describes is sound. -/
theorem isSound_build (fresh : Function.Injective sources.newId) :
    (draft.build kind sources).1.IsSound (draft.build kind sources).2 := by
  obtain ⟨hdistinct, hgiven⟩ := freshChoices_spec fresh (draft.choiceTexts kind)
  refine ⟨hdistinct, fun c hc => (hgiven c hc).1.mono (follows_chooseId draft _), fun hsome => ?_⟩
  by_contra hkind
  change (freshChoices (draft.choiceTexts kind) sources).1 ≠ [] at hsome
  change ¬ kind = .playerChoice at hkind
  rw [Draft.choiceTexts, if_neg hkind] at hsome
  exact hsome rfl

/-- A sound node stays sound with a fresh response. -/
theorem Node.IsSound.addChoice {node : Node} (h : node.IsSound sources)
    (fresh : Function.Injective sources.newId) (kind : node.kind = .playerChoice) (text : String) :
    ({ node with choices := node.choices ++ [{ id := sources.freshId.1, text }] } : Node).IsSound
      sources.freshId.2 where
  distinct := by
    rw [List.map_append, List.map_singleton, List.nodup_append]
    refine ⟨h.distinct, List.nodup_singleton _, fun id hid other hother => ?_⟩
    obtain ⟨c, hc, rfl⟩ := List.mem_map.mp hid
    rw [List.mem_singleton.mp hother]
    intro (heq : c.id = sources.freshId.1)
    exact Sources.not_hasGiven_freshId fresh (heq ▸ h.given c hc)
  given := by
    rw [List.forall_mem_append]
    refine ⟨fun c hc => (h.given c hc).mono sources.follows_freshId, ?_⟩
    rw [List.forall_mem_singleton]
    exact sources.hasGiven_freshId
  offered _ := kind

end Drafts

/-! ### Parts of edits -/

namespace Tree

variable {tree : Tree} {node : Node} {sources : Sources} {id : String}

theorem has_putNode (tree : Tree) (node : Node) (id : String) :
    (tree.putNode node).has id = true ↔ id = node.id ∨ tree.has id = true := by
  simp only [has, putNode, Roster.contains_iff, Roster.mem_keys_put]

theorem IsWhole.mono {later : Sources} (h : tree.IsWhole sources)
    (follows : later.Follows sources) : tree.IsWhole later :=
  ⟨h.stored, h.joined, h.started, fun node hnode => (h.sound node hnode).mono follows⟩

theorem isWhole_empty (id name : String) (description : Option String) (sources : Sources) :
    ({ id, name, description } : Tree).IsWhole sources where
  stored _ _ := id_of_find?
  joined := List.forall_mem_nil _
  started := nofun
  sound := List.forall_mem_nil _

/-- A whole tree stays whole when a sound node is added or takes the place of another. -/
theorem IsWhole.put (h : tree.IsWhole sources) (hnode : node.IsSound sources) :
    (tree.putNode node).IsWhole sources where
  stored _ _ := id_of_find?
  joined c hc :=
    ⟨(has_putNode _ _ _).mpr (.inr (h.joined c hc).1),
      (has_putNode _ _ _).mpr (.inr (h.joined c hc).2)⟩
  started id hid := (has_putNode _ _ _).mpr (.inr (h.started id hid))
  sound other hother := by
    have hfound : (tree.nodes.put node).find? other.id = some other := Roster.find?_of_mem hother
    rw [Roster.find?_put] at hfound
    split at hfound
    · cases hfound
      exact hnode
    · exact h.sound other (Roster.mem_of_find? hfound)

theorem IsWhole.addConnection {c : Connection} (h : tree.IsWhole sources)
    (hsource : tree.has c.source = true) (htarget : tree.has c.target = true) :
    (tree.addConnection c).IsWhole sources where
  stored := h.stored
  joined := List.forall_mem_append.mpr ⟨h.joined, List.forall_mem_singleton.mpr ⟨hsource, htarget⟩⟩
  started := h.started
  sound := h.sound

theorem IsWhole.setStart {start : Option String} (h : tree.IsWhole sources)
    (present : ∀ id, start = some id → tree.has id = true) :
    ({ tree with startNodeId := start } : Tree).IsWhole sources :=
  ⟨h.stored, h.joined, present, h.sound⟩

/-- A node of a whole tree takes with it just the connections at it and, if it is the start, the
start; a missing one takes nothing. -/
theorem IsWhole.removeNode_eq (h : tree.IsWhole sources) (id : String) :
    tree.removeNode id =
      { tree with
        nodes := tree.nodes.erase id
        connections := tree.connections.filter (avoids id)
        startNodeId := tree.startNodeId.filter (· != id) } := by
  have hstart : tree.startNodeId.filter (· != id) =
      if tree.startNodeId = some id then none else tree.startNodeId := by
    cases tree.startNodeId <;> simp [Option.filter]
  unfold removeNode
  split
  · rw [hstart]
  · next absent =>
    have hother {other : String} (present : tree.has other = true) : other ≠ id := by
      rintro rfl
      exact absent present
    have hnodes : tree.nodes.erase id = tree.nodes := by
      refine Roster.ext (List.filter_eq_self.mpr fun node hnode => bne_iff_ne.mpr ?_)
      exact hother (has_iff.mpr ⟨node, find?_of_mem hnode⟩)
    have hconnections : tree.connections.filter (avoids id) = tree.connections := by
      refine List.filter_eq_self.mpr fun c hc => ?_
      simp [avoids, hother (h.joined c hc).1, hother (h.joined c hc).2]
    rw [hstart, hnodes, hconnections, if_neg fun hid => hother (h.started id hid) rfl]

theorem IsWhole.removeNode (h : tree.IsWhole sources) (id : String) :
    (tree.removeNode id).IsWhole sources := by
  have hkept {other : String} (present : tree.has other = true) (hne : other ≠ id) :
      (tree.nodes.erase id).contains other = true := by
    rw [Roster.contains, Roster.find?_erase, if_neg hne.symm]
    exact present
  rw [h.removeNode_eq]
  refine ⟨fun _ _ => id_of_find?, fun c hc => ?_, fun start hstart => ?_, fun node hnode => ?_⟩
  · obtain ⟨hmem, havoids⟩ := List.mem_filter.mp hc
    rw [avoids, Bool.and_eq_true, bne_iff_ne, bne_iff_ne] at havoids
    exact ⟨hkept (h.joined c hmem).1 havoids.1, hkept (h.joined c hmem).2 havoids.2⟩
  · obtain ⟨hstart, hne⟩ := Option.filter_eq_some_iff.mp hstart
    exact hkept (h.started start hstart) (bne_iff_ne.mp hne)
  · exact h.sound node (List.mem_filter.mp hnode).1

end Tree

/-! ### Edits -/

namespace Edit

variable {tree : Tree} {sources : Sources} {edit : Edit} {e : EditError}

section Outcomes

variable {name id text : String} {draft : Draft} {kind : NodeKind} {node : Node}

theorem apply_createNode_of_unknown (unknown : NodeKind.ofName? name = none) :
    (createNode name draft).apply tree sources =
      { tree, sources, answer := .error (.unknownKind name) } := by
  simp only [apply, attempt, kindNamed, unknown]

theorem apply_createNode_of_taken (known : NodeKind.ofName? name = some kind)
    (taken : tree.has (draft.build kind sources).1.id = true) :
    (createNode name draft).apply tree sources =
      { tree
        sources := (draft.build kind sources).2
        answer := .error (.nodeExists (draft.build kind sources).1.id tree.name) } := by
  simp only [apply, attempt, kindNamed, known, Tree.addNode, taken, if_true, Except.map]

theorem apply_createNode_of_free (known : NodeKind.ofName? name = some kind)
    (free : ¬ tree.has (draft.build kind sources).1.id = true) :
    (createNode name draft).apply tree sources =
      { tree := tree.putNode (draft.build kind sources).1
        sources := (draft.build kind sources).2
        answer := .ok (.node (some (draft.build kind sources).1)) } := by
  simp only [apply, attempt, kindNamed, known, Tree.addNode, if_neg free, Except.map]

theorem apply_addChoice_of_missing (absent : tree.find? id = none) :
    (addChoice id text).apply tree sources =
      { tree, sources, answer := .error (.unknownNode id) } := by
  simp only [apply, attempt, Tree.node, absent]

theorem apply_addChoice_of_otherKind (found : tree.find? id = some node)
    (kind : node.kind ≠ .playerChoice) :
    (addChoice id text).apply tree sources =
      { tree, sources, answer := .error (.notPlayerChoice id) } := by
  simp only [apply, attempt, Tree.node, found, if_neg kind]

theorem apply_addChoice_of_playerChoice (found : tree.find? id = some node)
    (kind : node.kind = .playerChoice) :
    (addChoice id text).apply tree sources =
      let c : Choice := { id := sources.freshId.1, text }
      { tree := tree.putNode { node with choices := node.choices ++ [c] }
        sources := sources.freshId.2
        answer := .ok (.choice c) } := by
  simp only [apply, attempt, Tree.node, found, kind, if_true]

end Outcomes

/-- Why a fitting edit fails. -/
inductive Refused (tree : Tree) (sources : Sources) : Edit → EditError → Prop
  /-- There is no kind of that name. -/
  | unknownKind {name : String} {draft : Draft} (unknown : NodeKind.ofName? name = none) :
      Refused tree sources (.createNode name draft) (.unknownKind name)
  /-- The id of the new node is taken. -/
  | taken {name : String} {draft : Draft} {kind : NodeKind}
      (known : NodeKind.ofName? name = some kind)
      (taken : tree.has (draft.build kind sources).1.id = true) :
      Refused tree sources (.createNode name draft)
        (.nodeExists (draft.build kind sources).1.id tree.name)
  /-- There is no node for the response. -/
  | missing {id text : String} (absent : tree.find? id = none) :
      Refused tree sources (.addChoice id text) (.unknownNode id)
  /-- The node for the response is of another kind. -/
  | otherKind {id text : String} {node : Node} (found : tree.find? id = some node)
      (kind : node.kind ≠ .playerChoice) :
      Refused tree sources (.addChoice id text) (.notPlayerChoice id)

/-- A refused edit answers why, and leaves the tree as it was. -/
theorem Refused.apply_eq (h : edit.Refused tree sources e) :
    (edit.apply tree sources).answer = .error e ∧ (edit.apply tree sources).tree = tree := by
  cases h with
  | unknownKind unknown => simp only [apply_createNode_of_unknown unknown, and_self]
  | taken known taken => simp only [apply_createNode_of_taken known taken, and_self]
  | missing absent => simp only [apply_addChoice_of_missing absent, and_self]
  | otherKind found kind => simp only [apply_addChoice_of_otherKind found kind, and_self]

/-- An edit gives out ids, and takes none back. -/
theorem follows_apply (edit : Edit) (tree : Tree) (sources : Sources) :
    (edit.apply tree sources).sources.Follows sources := by
  have hattempt : (edit.attempt tree sources).2.Follows sources := by
    cases edit with
    | createNode name draft =>
      simp only [attempt]
      split
      · exact .rfl
      · exact follows_build draft _ sources
    | connect source target handle => exact sources.follows_freshId
    | addChoice id text =>
      simp only [attempt]
      split
      · exact .rfl
      · split
        · exact sources.follows_freshId
        · exact .rfl
    | setKind id name =>
      simp only [attempt]
      split <;> exact .rfl
    | _ => exact .rfl
  unfold apply
  split <;> next heq => rwa [heq] at hattempt

/-- A fitting edit fails for its reason only, and leaves a whole tree whole. -/
theorem whole_apply (fits : edit.Fits tree) (whole : tree.IsWhole sources)
    (fresh : Function.Injective sources.newId) :
    (∀ e, (edit.apply tree sources).answer = .error e → edit.Refused tree sources e) ∧
      (edit.apply tree sources).tree.IsWhole (edit.apply tree sources).sources := by
  cases fits with
  | @createNode name draft =>
    cases known : NodeKind.ofName? name with
    | none =>
      rw [apply_createNode_of_unknown known]
      refine ⟨fun e he => ?_, whole⟩
      cases he
      exact .unknownKind known
    | some kind =>
      have hlater := whole.mono (follows_build draft kind sources)
      by_cases taken : tree.has (draft.build kind sources).1.id = true
      · rw [apply_createNode_of_taken known taken]
        refine ⟨fun e he => ?_, hlater⟩
        cases he
        exact .taken known taken
      · rw [apply_createNode_of_free known taken]
        exact ⟨nofun, hlater.put (isSound_build fresh)⟩
  | @addChoice id text =>
    cases found : tree.find? id with
    | none =>
      rw [apply_addChoice_of_missing found]
      refine ⟨fun e he => ?_, whole⟩
      cases he
      exact .missing found
    | some node =>
      by_cases kind : node.kind = .playerChoice
      · have hnode := whole.sound node (Tree.mem_nodes_of_find? found)
        have hlater := whole.mono sources.follows_freshId
        rw [apply_addChoice_of_playerChoice found kind]
        exact ⟨nofun, hlater.put (hnode.addChoice fresh kind text)⟩
      · rw [apply_addChoice_of_otherKind found kind]
        refine ⟨fun e he => ?_, whole⟩
        cases he
        exact .otherKind found kind
  | @removeNode id => exact ⟨nofun, whole.removeNode id⟩
  | connect hsource htarget =>
    have hlater := whole.mono sources.follows_freshId
    exact ⟨nofun, hlater.addConnection hsource htarget⟩
  | forgetStart => exact ⟨nofun, whole.setStart nofun⟩
  | setStart present =>
    exact ⟨nofun, whole.setStart fun id hid => Option.some.inj hid ▸ present⟩

end Edit

/-! ### Built trees are whole -/

section

variable {tree : Tree} {sources : Sources}

theorem Built.isWhole (built : Built tree sources) (fresh : Function.Injective sources.newId) :
    tree.IsWhole sources := by
  induction built with
  | empty id name description sources => exact Tree.isWhole_empty id name description sources
  | @edited tree sources edit built fits ih =>
    rw [(edit.follows_apply tree sources).same] at fresh
    exact (Edit.whole_apply fits (ih fresh) fresh).2

/-- **What an editor builds is whole**, if no id is given out twice: every node is found under its
own id, connections and the start are at nodes of the tree, and the responses of every node have
distinct ids and are those of player choices.  A fitting edit of such a tree fails exactly for its
reason, and leaves the tree as it was.  A removal answers the node that was there, if any, and takes
just the connections at it, while the others keep their order; without a node it changes nothing. -/
theorem Built.whole (built : Built tree sources) (fresh : Function.Injective sources.newId) :
    tree.IsWhole sources ∧
      (∀ (edit : Edit) (e : EditError), edit.Fits tree →
        ((edit.apply tree sources).answer = .error e ↔ edit.Refused tree sources e)) ∧
      (∀ (edit : Edit) (e : EditError), edit.Refused tree sources e →
        (edit.apply tree sources).tree = tree) ∧
      ∀ id : String,
        ((Edit.removeNode id).apply tree sources =
          { tree :=
              { tree with
                nodes := tree.nodes.erase id
                connections := tree.connections.filter (Tree.avoids id)
                startNodeId := tree.startNodeId.filter (· != id) }
            sources
            answer := .ok (.node (tree.find? id)) }) ∧
          (tree.find? id = none → ((Edit.removeNode id).apply tree sources).tree = tree) := by
  have whole := built.isWhole fresh
  refine ⟨whole, fun edit e fits => ?_, fun edit e h => h.apply_eq.2,
    fun id => ⟨?_, fun absent => ?_⟩⟩
  · exact ⟨(Edit.whole_apply fits whole fresh).1 e, fun h => h.apply_eq.1⟩
  · rw [← whole.removeNode_eq]
    rfl
  · exact if_neg (by rw [Tree.has_eq, absent]; exact Bool.false_ne_true)

end

/-! ### A hall -/

/-- A hall that leads back to itself is made the start, and removed; a hall of the same id where the
player chooses takes its place. -/
def rebuiltHall : Edit.Outcome :=
  [.createNode "npc" { id := some "hall" }, .connect "hall" "hall" none, .setStart (some "hall"),
    .removeNode "hall", .createNode "player_choice" { id := some "hall" },
    .addChoice "hall" "Leave"].foldl
    (fun before edit => Edit.apply edit before.tree before.sources)
    { tree := { id := "t", name := "T" }
      sources := { chance := fun _ => .zero, clock := .steady .zero }
      answer := .ok .nothing }

theorem built_rebuiltHall : Built rebuiltHall.tree rebuiltHall.sources := by
  simp only [rebuiltHall, List.foldl_cons, List.foldl_nil]
  refine .edited (.edited (.edited (.edited (.edited (.edited (.empty "t" "T" none _) .createNode)
    (.connect ?_ ?_)) (.setStart ?_)) .removeNode) .createNode) .addChoice <;> decide +kernel

/-- The responses of the new hall have ids of their own, and the way back is gone. -/
theorem whole_rebuiltHall :
    Built rebuiltHall.tree rebuiltHall.sources ∧
      Function.Injective rebuiltHall.sources.newId ∧
      rebuiltHall.tree.IsWhole rebuiltHall.sources ∧
      rebuiltHall.tree.connections = [] ∧ rebuiltHall.tree.startNodeId = none ∧
      (rebuiltHall.tree.find? "hall").map (fun node => node.choices.map Choice.id) =
        some ["uuid-2", "uuid-3"] := by
  have fresh : Function.Injective rebuiltHall.sources.newId := by
    have hnewId : rebuiltHall.sources.newId = fun k => "uuid-" ++ k.repr := rfl
    intro i j h
    rw [hnewId] at h
    exact Nat.repr_injective ((String.append_right_inj "uuid-").mp h)
  exact ⟨built_rebuiltHall, fresh, (built_rebuiltHall.whole fresh).1, by decide +kernel,
    by decide +kernel, by decide +kernel⟩

end Colloquy
