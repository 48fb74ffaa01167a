import Colloquy.Proofs.Session.Run

/-!
# Trails

The history of a session is a walk through the tree: it opens at the start and, wherever the session
went on, follows a connection.

* `Tree.Follows`: one entry follows another along a passage;
* `Trail`: what a history keeps, the invariant of all runs;
* `Trail.append`: an entry more;
* `Played.trail`: every history is a trail.
-/

namespace Colloquy

/-- An entry follows another one along a connection of the tree. -/
def Tree.Follows (tree : Tree) (d e : HistoryEntry) : Prop :=
  ∃ node c, tree.find? d.nodeId = some node ∧ node.kind ≠ .ending ∧ c ∈ tree.connections ∧
    c.source = d.nodeId ∧ c.target = e.nodeId ∧ tree.Passage node e.choiceText c

/-- The history of a session, with the origins of its entries, is a walk through the tree. -/
structure Trail (tree : Tree) (s : Session) (origins : List Origin) : Prop where
  /-- Every entry has an origin. -/
  marked : origins.length = s.history.length
  /-- The session is where the last entry is. -/
  place : s.AtLast
  /-- The first entry is the start of the tree, reached without a choice. -/
  opening : ∀ e, s.history.head? = some e →
    e.choiceText = none ∧ tree.startNode?.map Node.id = some e.nodeId
  /-- An entry that came by going on follows the one before it. -/
  onward : ∀ i d e, s.history[i]? = some d → s.history[i + 1]? = some e →
    origins[i + 1]? = some .advanced → tree.Follows d e

section

variable {tree : Tree} {s s' : Session} {origins : List Origin} {node target : Node}

theorem Tree.Passage.not_ending {text : Option String} {c : Connection}
    (h : tree.Passage node text c) : node.kind ≠ .ending := by
  cases h with
  | onward kind => rcases kind with kind | kind <;> simp [kind]
  | response kind => simp [kind]
  | whenTrue kind => simp [kind]
  | whenFalse kind => simp [kind]

theorem Tree.Passage.mem_outgoing {text : Option String} {c : Connection}
    (h : tree.Passage node text c) : c ∈ tree.outgoing node.id := by
  cases h with
  | onward _ first => exact first.mem_outgoing
  | response _ _ first => exact first.mem_outgoing
  | whenTrue _ first => exact first.mem_outgoing
  | whenFalse _ first => exact first.mem_outgoing

theorem trail_nil : Trail tree {} [] where
  marked := rfl
  place := rfl
  opening := by simp
  onward := by simp

/-- A trail stays one while neither the history nor the place changes. -/
theorem Trail.still (h : Trail tree s origins) (history : s'.history = s.history)
    (current : s'.current = s.current) : Trail tree s' origins where
  marked := by rw [history, h.marked]
  place := by rw [Session.AtLast, history, current, h.place]
  opening := by rw [history]; exact h.opening
  onward := by rw [history]; exact h.onward

/-- A trail with one more entry, which follows the last one if it came by going on. -/
theorem Trail.append (h : Trail tree s origins) {before : List HistoryEntry} {d e : HistoryEntry}
    {origin : Origin} (last : s.history = before ++ [d]) (history : s'.history = s.history ++ [e])
    (place : s'.AtLast) (follows : origin = .advanced → tree.Follows d e) :
    Trail tree s' (origins ++ [origin]) where
  marked := by simp [history, h.marked]
  place := place
  opening := by
    rw [history, last]
    intro a ha
    refine h.opening a ?_
    rw [last]
    simpa using ha
  onward := by
    intro i a b ha hb horigin
    rw [history] at ha hb
    have hlength := h.marked
    by_cases hi : i + 1 < s.history.length
    · rw [List.getElem?_append_left (by omega)] at ha hb horigin
      exact h.onward i a b ha hb horigin
    · -- the later of the two entries is the new one, so the earlier one was the last
      have hbound : i + 1 < (s.history ++ [e]).length := (List.getElem?_eq_some_iff.mp hb).1
      have hi : i + 1 = s.history.length := by
        rw [List.length_append, List.length_singleton] at hbound
        omega
      have hbefore : i = before.length := by
        rw [last, List.length_append, List.length_singleton] at hi
        omega
      rw [hi, List.getElem?_concat_length] at hb
      rw [hi, ← hlength, List.getElem?_concat_length] at horigin
      rw [List.getElem?_append_left (by omega), last, hbefore, List.getElem?_concat_length] at ha
      cases ha
      cases hb
      cases horigin
      exact follows rfl

theorem trail_start (tree : Tree) (sources : Sources) :
    Trail tree (Session.start tree sources).1
      (List.replicate (Session.start tree sources).1.history.length .started) := by
  unfold Session.start
  split
  · next node hstart =>
    refine ⟨by simp, atLast_moveTo _ _ _ _ _, ?_, ?_⟩
    · intro e he
      rw [Session.history_moveTo, List.nil_append, List.head?_cons] at he
      cases he
      exact ⟨rfl, by rw [hstart, Option.map_some]⟩
    · -- a history of one entry has no second one
      intro i d e _ he
      rw [Session.history_moveTo, List.nil_append, List.getElem?_cons_succ] at he
      cases he
  · exact ⟨rfl, rfl, nofun, nofun⟩

theorem Trail.advance (h : Trail tree s origins) (selection : Option Int) (sources : Sources) :
    Trail tree (s.advance tree selection sources).session
      (origins ++ List.replicate
        ((s.advance tree selection sources).session.history.length - s.history.length)
        .advanced) := by
  have honward := onward_advance tree s selection sources
  generalize s.advance tree selection sources = turn at honward ⊢
  cases honward with
  | moved here passage reaches =>
    obtain ⟨before, d, hlast, hid, hnode⟩ := h.place.exists_last_at here.here
    -- one entry is written, so there is one origin more
    rw [Session.session_turnTo, Session.history_moveTo]
    simp only [Session.withStore, List.length_append, List.length_singleton,
      Nat.add_sub_cancel_left, List.replicate_one]
    refine h.append hlast rfl (atLast_moveTo _ _ _ _ _) fun _ => ?_
    have hc := Tree.mem_outgoing.mp passage.mem_outgoing
    refine ⟨_, _, hnode, passage.not_ending, hc.1, ?_, ?_, passage⟩
    · rw [hc.2, hid]
    · exact (Tree.id_of_find? reaches).symm
  | _ =>
    -- nothing is written, and the session stays where it is
    simp only [Session.stick, Session.withStore, Nat.sub_self, List.replicate_zero,
      List.append_nil]
    exact h.still rfl rfl

theorem Trail.goto (h : Trail tree s origins) (id : String) (sources : Sources) :
    Trail tree (s.goto tree id sources).2.1
      (origins ++ List.replicate
        ((s.goto tree id sources).2.1.history.length - s.history.length) .jumped) := by
  unfold Session.goto
  split
  · next node current hnode hcurrent =>
    obtain ⟨before, d, hlast, -⟩ := h.place.exists_last hcurrent
    simp only [Session.history_moveTo, List.length_append, List.length_singleton,
      Nat.add_sub_cancel_left, List.replicate_one]
    exact h.append hlast rfl (atLast_moveTo _ _ _ _ _) nofun
  · simpa using h

/-- Every operation keeps a trail. -/
theorem Trail.apply (h : Trail tree s origins) (operation : Operation) (sources : Sources) :
    Trail tree (operation.apply tree s sources).session
      (operation.origins s (operation.apply tree s sources).session origins) := by
  cases operation with
  | start => exact trail_start tree sources
  | restart => exact trail_start tree sources
  | stop => exact trail_nil
  | advance selection => exact h.advance selection sources
  | goto id => exact h.goto id sources
  | setVariable name value => exact h.still rfl rfl

/-- **Every history is a walk through the tree.** -/
theorem Played.trail (h : Played tree s origins) : Trail tree s origins := by
  induction h with
  | fresh => exact trail_nil
  | next operation sources _ ih => exact ih.apply operation sources

/-- With the key a session goes on through the gate, and its history is a trail. -/
theorem trail_through_gate :
    let run := atGate [.start, .setVariable "item_key" (.flag true), .advance none, .advance none]
    run.2 = [.started, .advanced, .advanced] ∧ Played gateTree run.1 run.2 ∧
      Trail gateTree run.1 run.2 :=
  ⟨by decide +kernel, played_play _ _ _, Played.trail (played_play _ _ _)⟩

end

end Colloquy
