import PipelineDepot.Proofs.KeyPath.Join
import PipelineDepot.Proofs.Local.ObjectPath
import PipelineDepot.Store.Basic

/-! # Keys of pipelines

A store puts the identifier of a pipeline behind its base folder and cleans the whole. The key is
spelled by the shape of the identifier below the shape of the base folder
(`Store.pipelineKey_eq`), so what the key can do is read off the two shapes: identifiers that go
up nowhere stay below the base folder and do not collide unless they mean the same path, and a
directory client accepts the key exactly when it goes up nowhere from a relative base
(`Store.keyLaw`).
-/

namespace PipelineDepot

open Files KeyPath

namespace KeyPath

/-- The path leads to the base or below it: behind the names of the base it only goes down. -/
structure AtOrBelow (path base : String) : Prop where
  rooted : Path.isAbsolute path = Path.isAbsolute base
  inward : ∃ names, (∀ name ∈ names, Path.IsName name) ∧
    Path.names path = Path.names base ++ names

namespace Shape

variable (shape : Shape)

/-- A clean path has a parent segment just when it climbs. -/
theorem parent_mem_pieces_iff : ".." ∈ shape.pieces ↔ shape.climbs ≠ 0 := by
  have inward : ".." ∉ shape.names := fun member => (shape.named _ member).inward rfl
  rw [pieces, List.mem_append, List.mem_replicate, or_iff_left inward, and_iff_left rfl]

/-- The text of a shape is a plain path when it is relative and goes up nowhere. -/
theorem plain_text_iff : Path.Plain shape.text ↔ shape.rooted = false ∧ shape.climbs = 0 := by
  have moves : Path.Means ".." := by decide
  have listed : ".." ∈ Path.pieces shape.text ↔ ".." ∈ shape.pieces := by
    rw [← names_text, Path.names, List.mem_filter, and_iff_left (decide_eq_true moves)]
  have inward : ".." ∉ Path.pieces shape.text ↔ shape.climbs = 0 := by
    rw [listed, parent_mem_pieces_iff, Decidable.not_not]
  rw [← isAbsolute_text, ← inward]
  constructor
  · intro plain
    exact ⟨plain.relative, plain.inward⟩
  · rintro ⟨relative, inward⟩
    exact ⟨relative, inward⟩

/-- **So a directory client accepts it then as a key.** -/
theorem keyFault?_text_iff :
    Blob.keyFault? shape.text = none ↔ shape.rooted = false ∧ shape.climbs = 0 := by
  rw [Blob.keyFault?_eq_none_iff, and_iff_right shape.text_ne_empty, plain_text_iff]

variable (base : Shape)

/-- A shape that goes up nowhere leads to the base or below it. -/
theorem atOrBelow_below {child : Shape} (inward : child.climbs = 0) :
    AtOrBelow (base.below child).text base.text where
  rooted := by rw [isAbsolute_text, isAbsolute_text, below_rooted]
  inward := by
    obtain ⟨climbs, names⟩ := base.below_of_climbs inward
    refine ⟨child.names, child.named, ?_⟩
    rw [names_text, names_text, pieces, pieces, climbs, names, List.append_assoc]

/-- **Relative shapes that go up nowhere lead apart unless they are the same.** -/
theorem below_inj {first second : Shape} (relative : first.rooted = false)
    (otherRelative : second.rooted = false) (inward : first.climbs = 0)
    (otherInward : second.climbs = 0) :
    base.below first = base.below second ↔ first = second := by
  constructor
  · intro same
    have names := congrArg Shape.names same
    rw [(base.below_of_climbs inward).2, (base.below_of_climbs otherInward).2,
      List.append_cancel_left_eq] at names
    exact Shape.ext (relative.trans otherRelative.symm) (inward.trans otherInward.symm) names
  · exact congrArg base.below

end Shape

end KeyPath

namespace Store

variable (store : Store)

/-- The shape of the base folder. -/
def base : Shape := Shape.of store.baseFolder

/-- The shape of the identifier of a pipeline, read as a relative path. -/
def idShape (id : String) : Shape := Shape.of (unrooted id)

theorem rooted_idShape (id : String) : (idShape id).rooted = false := by
  rw [idShape, Shape.of_unrooted, Shape.rooted_foldl_enter]
  rfl

/-- **The key of a pipeline is spelled by its identifier below the base folder.** -/
theorem pipelineKey_eq (some_ : store.baseFolder ≠ "") (id : String) :
    store.pipelineKey id = (store.base.below (idShape id)).text := by
  rw [pipelineKey, join_eq_elim, shape?, List.foldl_cons, put_none some_]
  rfl

/-- Without a base folder, the key is the identifier alone. -/
theorem pipelineKey_of_baseless (none_ : store.baseFolder = "") (id : String) :
    store.pipelineKey id = if id = "" then "" else clean id := by
  rw [pipelineKey, none_, join_eq_elim, shape?, List.foldl_cons, put_empty, List.foldl_cons,
    List.foldl_nil]
  split
  next empty => rw [empty, put_empty, Option.elim_none]
  next some_ => rw [put_none some_, Option.elim_some, Shape.clean_eq_text]

/-- What the keys of a store are and when they collide. -/
structure KeyLaw : Prop where
  base_eq : clean store.baseFolder = store.base.text
  id_eq : ∀ id, (idShape id).rooted = false ∧ clean (unrooted id) = (idShape id).text
  key_eq : store.baseFolder ≠ "" → ∀ id,
    store.pipelineKey id = (store.base.below (idShape id)).text
  confined : store.baseFolder ≠ "" → ∀ id, (idShape id).climbs = 0 →
    AtOrBelow (store.pipelineKey id) (clean store.baseFolder)
  /-- Two pipelines share a key only when their identifiers spell one path. -/
  apart : store.baseFolder ≠ "" → ∀ first second,
    (idShape first).climbs = 0 → (idShape second).climbs = 0 →
      (store.pipelineKey first = store.pipelineKey second ↔
        clean (unrooted first) = clean (unrooted second))
  accepted_iff : store.baseFolder ≠ "" → ∀ id,
    Blob.keyFault? (store.pipelineKey id) = none ↔
      store.base.rooted = false ∧ (store.base.below (idShape id)).climbs = 0
  baseless : store.baseFolder = "" → ∀ id,
    store.pipelineKey id = if id = "" then "" else clean id

/-- **The keys of a store follow from the shapes of its base folder and of the identifiers.** -/
theorem keyLaw : KeyLaw store where
  base_eq := Shape.clean_eq_text _
  id_eq id := ⟨rooted_idShape id, Shape.clean_eq_text _⟩
  key_eq := store.pipelineKey_eq
  confined some_ id inward := by
    rw [store.pipelineKey_eq some_, Shape.clean_eq_text]
    exact store.base.atOrBelow_below inward
  apart some_ first second inward otherInward := by
    rw [store.pipelineKey_eq some_, store.pipelineKey_eq some_, Shape.text_inj,
      store.base.below_inj (rooted_idShape first) (rooted_idShape second) inward otherInward,
      clean_eq_clean_iff_of]
    rfl
  accepted_iff some_ id := by
    rw [store.pipelineKey_eq some_, Shape.keyFault?_text_iff, Shape.below_rooted]
  baseless := store.pipelineKey_of_baseless

example : (⟨"mlpipeline", "a/b", true⟩ : Store).pipelineKey "../../../c/./d" = "../c/d" := by
  decide +kernel

end Store

end PipelineDepot
