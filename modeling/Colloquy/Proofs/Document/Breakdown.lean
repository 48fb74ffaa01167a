import Colloquy.Proofs.Document.LoadError
import Colloquy.Proofs.Document.Standard

/-!
# Breakdowns

What lets the reading of a document break down: something single in the place of items, a value that
should become a real number and cannot, and an integer that is too long to be written.

* `Breakdown.OfDocument`: the breakdowns that a document can cause;
* `LoadError.IsSound`: a load error that is no other breakdown;
* `Settles`: loading ends with a result or with a refusal;
* `load_breaks_off`: the load errors of documents and files, and when loading settles.
-/

namespace Colloquy

/-- The breakdowns that a document can cause. -/
inductive Breakdown.OfDocument : Breakdown → Prop
  /-- Something single stands in the place of items. -/
  | notIterable {value : Json} (single : value.IsSingle) (filled : value.isVoid = false) :
      OfDocument (.notIterable value.kindName)
  /-- Nothing, a list or an object should become a real number. -/
  | notConvertible {value : Json}
      (kind : value = .null ∨ (∃ items, value = .list items) ∨ value.IsObject) :
      OfDocument (.notConvertible value.kindName)
  /-- An integer beyond all doubles should become a real number. -/
  | beyond : OfDocument (.number .tooLargeForDouble)
  /-- An id or a value in a message is too long to be written. -/
  | long : OfDocument (.number .tooLongToWrite)

/-- A load error is no other breakdown. -/
def LoadError.IsSound (e : LoadError) : Prop := ∀ b, e = .broken b → b.OfDocument

namespace Document

variable {builder : Builder} {members given : Json.Members} {key : String} {value : Json}
  {e : LoadError}

/-! ### Load errors -/

theorem isSound_refused (refusal : Refusal) : (LoadError.refused refusal).IsSound := nofun

/-- A refusal that names values breaks down only where they are too long to be written. -/
theorem isSound_naming {α : Type} {named : Except NumberError α} (refusal : α → Refusal)
    (h : ∀ e, named = .error e → e = .tooLongToWrite) :
    (LoadError.naming named refusal).IsSound := by
  rintro b hb
  cases named with
  | ok a => cases hb
  | error e =>
    cases hb
    rw [h e rfl]
    exact .long

theorem eq_tooLongToWrite_of_display {error : NumberError} (h : value.display = .error error) :
    error = .tooLongToWrite := ((Json.failsAs_display value error).mp h).2

/-- A cast breaks down in one of the ways of a document. -/
theorem ofDocument_of_castReal {b : Breakdown} (h : castReal value = .error (.broken b)) :
    b.OfDocument := by
  cases value with
  | null =>
    cases h
    exact .notConvertible (.inl rfl)
  | list items =>
    cases h
    exact .notConvertible (.inr (.inl ⟨items, rfl⟩))
  | object members =>
    cases h
    exact .notConvertible (.inr (.inr ⟨members, rfl⟩))
  | integer n =>
    unfold castReal at h
    dsimp only at h
    split at h <;> cases h
    exact .beyond
  | text s =>
    obtain ⟨_, -, h⟩ := mapError_eq_error_iff.mp h
    cases h
  | flag => cases h
  | real => cases h

theorem isSound_noItems {b : Breakdown} (h : NoItems members key b) :
    (LoadError.broken b).IsSound := by
  obtain ⟨value, filled, single, rfl⟩ := h
  rintro _ ⟨⟩
  have hvoid := (Option.filter_eq_some_iff.mp filled).2
  exact .notIterable single (by simpa using hvoid)

theorem isSound_objectsFail {refusal : Refusal} (h : ObjectsFail members key refusal e) :
    e.IsSound := by
  cases h with
  | noItems none => exact isSound_noItems none
  | other => exact isSound_refused refusal

theorem isSound_asObject {refusal : Json → LoadError} {fails : Json.Members → LoadError → Prop}
    (hrefusal : ∀ value, (refusal value).IsSound)
    (hfails : ∀ members e, fails members e → e.IsSound) (h : AsObject refusal fails value e) :
    e.IsSound := by
  cases h with
  | other => exact hrefusal _
  | object failure => exact hfails _ _ failure

theorem isSound_longId (h : LongId value e) : e.IsSound := by
  obtain ⟨-, rfl⟩ := h
  rintro _ ⟨⟩
  exact .long

theorem isSound_firstFails {α : Type} {fails : α → LoadError → Prop} {items : List α}
    (hfails : ∀ a e, fails a e → e.IsSound) (h : FirstFails fails items e) : e.IsSound := by
  obtain ⟨a, -, hfail⟩ := h.exists_mem
  exact hfails a e hfail

theorem isSound_shown {key : String} (refusal : String → Refusal) :
    (LoadError.naming (shown members key) refusal).IsSound := by
  refine isSound_naming refusal fun e h => ?_
  unfold shown at h
  cases hvalue : Json.getMember? members key with
  | none =>
    rw [hvalue] at h
    cases h
  | some value =>
    rw [hvalue] at h
    exact eq_tooLongToWrite_of_display h

theorem isSound_entryFails (h : EntryFails members e) : e.IsSound := by
  cases h with
  | data => exact isSound_shown _
  | noId => exact isSound_shown _
  | longId _ _ long => exact isSound_longId long
  | choices _ _ _ _ fails =>
    rcases fails with fails | ⟨choices, -, fails⟩
    · exact isSound_objectsFail fails
    · exact isSound_firstFails (fun _ _ => isSound_longId) fails

theorem isSound_mismatch {wording : Except NumberError String}
    (h : ∀ e, wording = .error e → e = .tooLongToWrite) : (mismatch given wording).IsSound := by
  refine isSound_naming _ fun e he => ?_
  rcases bind_eq_error_iff.mp he with he | ⟨tree, -, he⟩
  · exact eq_tooLongToWrite_of_display he
  · exact h e (map_eq_error_iff.mp he)

/-- A tree that is not built is refused, unless a cast breaks down. -/
theorem isSound_schemaError (casts : builder.BreaksOnlyAtCasts) {error : BuildError}
    (h : builder.tree members = .error error) : (schemaError given error).IsSound := by
  cases error with
  | unfit wording =>
    refine isSound_mismatch fun e he => casts.treeWording members e ?_
    rw [h, he]
  | invalid wording => exact isSound_mismatch nofun
  | broken b =>
    rintro _ ⟨⟩
    obtain ⟨value, hvalue⟩ := casts.tree members b h
    exact ofDocument_of_castReal hvalue

/-- A character that is not built is refused. -/
theorem isSound_characterError (casts : builder.BreaksOnlyAtCasts) {error : BuildError}
    (h : builder.character members = .error error) : (characterError error).IsSound := by
  obtain ⟨wording, rfl⟩ := casts.character members error h
  refine isSound_naming _ fun e he => casts.characterWording members e ?_
  rw [h, he]

theorem isSound_treeFails (casts : builder.BreaksOnlyAtCasts)
    (h : TreeFails builder given members e) : e.IsSound := by
  cases h with
  | nodes none => exact isSound_noItems none
  | node _ fails =>
    exact isSound_firstFails (fun _ _ => isSound_asObject (fun _ => isSound_refused _)
      fun _ _ => isSound_entryFails) fails
  | connections _ _ fails => exact isSound_objectsFail fails
  | schema _ _ _ unfit => exact isSound_schemaError casts unfit

theorem isSound_selectionFails {name : Option (Setting String)}
    (h : SelectionFails members name e) : e.IsSound := by
  cases h with
  | noTree => exact isSound_refused _
  | noTrees => exact isSound_refused _
  | noneNamed =>
    refine isSound_naming _ fun e h => ?_
    obtain ⟨value, -, hvalue⟩ := ((FailsAs.mapM Json.failsAs_display _ e).mp h).exists_mem
    exact hvalue.2

theorem isSound_charactersFail (casts : builder.BreaksOnlyAtCasts)
    (h : CharactersFail builder members e) : e.IsSound := by
  cases h with
  | noItems none => exact isSound_noItems none
  | character _ fails =>
    refine isSound_firstFails (fun value e h => ?_) fails
    refine isSound_asObject (fun value => isSound_refused _) ?_ h
    rintro given e ⟨error, unbuilt, rfl⟩
    exact isSound_characterError casts unbuilt

theorem isSound_loadFails (casts : builder.BreaksOnlyAtCasts) {document : Json}
    {name : Option (Setting String)} (h : LoadFails builder document name e) : e.IsSound := by
  refine isSound_asObject (fun _ => isSound_refused _) (fun members e h => ?_) h
  cases h with
  | selection fails => exact isSound_selectionFails fails
  | tree _ fails =>
    exact isSound_asObject (fun _ => isSound_refused _) (fun _ _ => isSound_treeFails casts) fails
  | characters _ _ fails => exact isSound_charactersFail casts fails

/-! ### Settling -/

section Settling

variable {α : Type} {x : Except LoadError α} {fails : LoadError → Prop}

/-- Loading settles: there is a result, or a refusal that gives the reason. -/
def Settles (x : Except LoadError α) : Prop :=
  (∃ a, x = .ok a) ∨ ∃ refusal, x = .error (.refused refusal)

/-- Loading settles unless it breaks down. -/
theorem settles_iff (h : FailsAs x fails) : Settles x ↔ ∀ b, ¬ fails (.broken b) := by
  simp only [← h _, Settles]
  cases x with
  | ok a => simp
  | error e => cases e <;> simp

end Settling

/-! ### Files with a text -/

/-- Whatever the reader makes of the text of a file, the file is refused, loaded as the value of the
text, or breaks down as the reader does. -/
theorem loadFile_of_text {reader : TextReader} {path text : String} {octets : List UInt8}
    {name : Option (Setting String)} (named : '\x00' ∉ path.toList)
    (decoding : Text.decode octets = .ok text) :
    builder.loadFile reader path (.ok octets) name =
      match reader.read text with
      | .ok value => builder.load value name
      | .error .malformed => .error (.refused (.malformed path))
      | .error (.broken b) => .error (.broken b) := by
  simp only [Builder.loadFile, TextReader.readFile, List.contains_iff_mem, named, if_false,
    decoding]
  cases reader.read text with
  | ok value => rfl
  | error error => cases error <;> rfl

/-- **A document or a file is loaded unless it fails in one of the ways of failing, and that settles
it unless one of these is a breakdown.**  A document breaks down only at something single in the
place of items, at a value that cannot become a real number, or at an integer that is too long to be
written.  A file with a text is loaded as the value of its text; blank and malformed text is
refused. -/
theorem load_breaks_off {builder : Builder} {reader : TextReader}
    (casts : builder.BreaksOnlyAtCasts) (blank : reader.ReadsBlank) (document : Json)
    (path : String) (content : Content) (name : Option (Setting String)) :
    (∀ e, builder.load document name = .error e ↔ LoadFails builder document name e) ∧
      (∀ e, builder.loadFile reader path content name = .error e ↔
        FileFails builder reader path content name e) ∧
      (Settles (builder.load document name) ↔
        ∀ b, b.OfDocument → ¬ LoadFails builder document name (.broken b)) ∧
      (Settles (builder.loadFile reader path content name) ↔
        ∀ b, ¬ FileFails builder reader path content name (.broken b)) ∧
      ∀ octets text, content = .ok octets → '\x00' ∉ path.toList →
        Text.decode octets = .ok text →
        (∀ value, reader.read text = .ok value →
          builder.loadFile reader path content name = builder.load value name) ∧
        (reader.read text = .error .malformed →
          builder.loadFile reader path content name = .error (.refused (.malformed path))) ∧
        (IsBlankText text →
          builder.loadFile reader path content name = .error (.refused .documentNotMapping)) := by
  have hload := failsAs_load builder document name
  have hfile := failsAs_loadFile builder reader path content name
  refine ⟨hload, hfile, (settles_iff hload).trans (forall_congr' fun b => ?_), settles_iff hfile,
    ?_⟩
  · -- every breakdown of a document is one of the named kinds
    exact ⟨fun h _ => h, fun h fails => h (isSound_loadFails casts fails b rfl) fails⟩
  · rintro octets text rfl named decoding
    rw [loadFile_of_text named decoding]
    refine ⟨fun value hread => ?_, fun hread => ?_, fun hblank => ?_⟩
    · rw [hread]
    · rw [hread]
    · rw [blank text hblank]
      rfl

/-- A tree whose nodes are a number. -/
def numberOfNodes : Json :=
  .object [("id", .text "t"), ("name", .text "T"), ("nodes", .integer 5)]

/-- The reading breaks down at the number, so it does not settle. -/
theorem load_breaks_off_at_numberOfNodes :
    load numberOfNodes none = .error (.broken (.notIterable "int")) ∧
      ¬ Settles (load numberOfNodes none) := by
  obtain ⟨hload, -, hsettles, -⟩ := load_breaks_off standard_breaksOnlyAtCasts standard_readsBlank
    numberOfNodes "" (.ok []) none
  have none : NoItems [("id", .text "t"), ("name", .text "T"), ("nodes", .integer 5)] "nodes"
      (.notIterable "int") := ⟨.integer 5, rfl, .integer 5, rfl⟩
  have fails : LoadFails .standard numberOfNodes .none (.broken (.notIterable "int")) :=
    .object (.tree rfl (.object (.nodes none)))
  refine ⟨(hload _).mpr fails, fun settles => ?_⟩
  exact hsettles.mp settles _ (.notIterable (.integer 5) rfl) fails

end Document

end Colloquy
