import PipelineDepot.Proofs.Program.Objects

/-! # Documents are checked and put into their usual form

A run that stores a document reads it first and stores what it is written as, or stores nothing
(`Invocation.putYaml_iff`). Where what is written reads as the same document, a later run prints the
stored text, and storing that text again changes nothing (`Invocation.settled_of_holds`).
-/

namespace PipelineDepot

open Blob Files
open Yaml (Value)

/-- The file reads as a document, and the document is written as the text. -/
structure Normalizes (codec : Codec Value) (system : FileSystem) (file : String) (document : Value)
    (encoded : String) : Prop where
  decodes : ∃ text, system.textAt file = .ok text ∧ codec.decode (.ofText text) = .ok document
  encodes : codec.encode document = .ok encoded

/-- Runs that come to the bucket below the root print the text under the path, unless they transfer
in a single part and the text carries a chunk header; and storing a file with this text there again
succeeds and leaves everything as it is. -/
structure Settled [UrlReader] [TomlReader] (codec : Codec Value)
    (root bucket path encoded : String) (system : FileSystem) : Prop where
  printed : ∀ (later : Invocation) folder single,
    later.Resolves system ⟨bucket, folder, single, .directory root⟩ →
    (single = false ∨ ChunkSignature.contains (.ofText encoded) = false) →
    later.line.command = .getYaml path false →
      later.run codec system = (.done (.ofText encoded), system)
  stored : ∀ (later : Invocation) folder single file,
    later.Resolves system ⟨bucket, folder, single, .directory root⟩ →
    system.textAt file = .ok encoded → later.line.command = .putYaml path file →
      (later.run codec system).1 = .done [] ∧
        (∃ located, (⟨root⟩ : Local).objectPath bucket path = .ok located ∧
          (later.run codec system).2.openPath located = .ok (.file (.ofText encoded))) ∧
        ∀ place, (later.run codec system).2.look place = system.look place

/-- Over a path that holds a file, adding succeeds and changes nothing but the content. -/
theorem Blob.Local.add_of_holds {root bucket path located : String} {system : FileSystem}
    {old : Bytes} (sound : system.Sound)
    (found : (⟨root⟩ : Local).objectPath bucket path = .ok located)
    (holds : system.Holds located old) (folder : String) (single : Bool) (content : Bytes) :
    ∃ after, (⟨bucket, folder, single⟩ : Store).add (Local.onDisk ⟨root⟩) content path system =
        (.ok (), after) ∧
      ∀ place, after.look place =
        if place = system.target located then some (.file content) else system.look place := by
  obtain ⟨after, stores, look⟩ := Local.store_of_holds sound holds content
  refine ⟨after, ?_, look⟩
  have put : (Local.onDisk ⟨root⟩).put ((⟨bucket, folder, single⟩ : Store).request content path)
      system = _ := Local.put_eq found system
  rw [Store.add_apply, put]
  simp only [Store.request, stores]
  rfl

namespace Invocation

section Runs

variable [UrlReader] [TomlReader] {codec : Codec Value} {invocation : Invocation}
  {system : FileSystem}
  {bucket folder root path file located encoded : String} {single : Bool} {document : Value}

/-- A run stores a document exactly when its file normalizes and the client puts the text. -/
theorem putYaml_iff
    (resolves : invocation.Resolves system ⟨bucket, folder, single, .directory root⟩)
    (command : invocation.line.command = .putYaml path file) :
    (invocation.run codec system).1.exitCode = 0 ↔
      ∃ document encoded, Normalizes codec system file document encoded ∧
        ((Local.onDisk ⟨root⟩).put
          ((⟨bucket, folder, single⟩ : Store).request (.ofText encoded) path) system).1 =
            .ok () := by
  constructor
  · intro succeeds
    obtain ⟨outcome, after, ran, performs⟩ := exists_performs codec resolves rfl command
    rw [ran] at succeeds
    cases performs with
    | putYamlUnread | putYamlMalformed | putYamlUnencoded | putYamlRefused => cases succeeds
    | @putYaml _ _ text document encoded _ read decodes encodes added =>
        exact ⟨document, encoded, ⟨⟨text, read, decodes⟩, encodes⟩,
          (Store.put_of_add (congrArg Prod.fst added)).1⟩
  · intro gate
    obtain ⟨document, encoded, ⟨⟨text, read, decodes⟩, encodes⟩, put⟩ := gate
    obtain ⟨after, added⟩ : ∃ after, (⟨bucket, folder, single⟩ : Store).add (Local.onDisk ⟨root⟩)
        (.ofText encoded) path system = (.ok (), after) := by
      rw [Store.add_apply, put]
      exact ⟨_, rfl⟩
    rw [run_of_performs resolves rfl command (.putYaml read decodes encodes added)]
    rfl

/-- A run whose file reads as no document changes nothing. -/
theorem putYaml_malformed
    (resolves : invocation.Resolves system ⟨bucket, folder, single, .directory root⟩)
    (command : invocation.line.command = .putYaml path file)
    (malformed : ∀ text document, system.textAt file = .ok text →
      codec.decode (.ofText text) ≠ .ok document) :
    (invocation.run codec system).2 = system := by
  obtain ⟨outcome, after, ran, performs⟩ := exists_performs codec resolves rfl command
  rw [ran]
  cases performs with
  | putYamlUnread | putYamlMalformed => rfl
  | putYamlUnencoded read decodes | putYamlRefused read decodes | putYaml read decodes =>
      exact (malformed _ _ read decodes).elim

/-- A run that stores a document leaves its text at the path of the object. -/
theorem stored_of_putYaml_run (sound : system.Sound)
    (resolves : invocation.Resolves system ⟨bucket, folder, single, .directory root⟩)
    (command : invocation.line.command = .putYaml path file)
    (succeeds : (invocation.run codec system).1.exitCode = 0)
    (normalizes : Normalizes codec system file document encoded) :
    ∃ located, (⟨root⟩ : Local).objectPath bucket path = .ok located ∧
      Local.Stored system located (.ofText encoded) (invocation.run codec system).2 := by
  obtain ⟨⟨text, read, decodes⟩, encodes⟩ := normalizes
  obtain ⟨outcome, after, ran, performs⟩ := exists_performs codec resolves rfl command
  rw [ran] at succeeds ⊢
  cases performs with
  | putYamlUnread | putYamlMalformed | putYamlUnencoded | putYamlRefused => cases succeeds
  | putYaml alsoRead alsoDecodes alsoEncodes added =>
      cases read.symm.trans alsoRead
      cases decodes.symm.trans alsoDecodes
      cases encodes.symm.trans alsoEncodes
      have stored := Local.stored_of_add sound (congrArg Prod.fst added)
      rwa [added] at stored

/-- What is stored stays as it is, if it is the text of the document that it reads as. -/
theorem settled_of_holds (sound : system.Sound)
    (found : (⟨root⟩ : Local).objectPath bucket path = .ok located)
    (holds : system.Holds located (.ofText encoded)) (encodes : codec.encode document = .ok encoded)
    (faithful : codec.decode (.ofText encoded) = .ok document) :
    Settled codec root bucket path encoded system where
  printed later folder single resolves whole command := by
    have returns : (⟨bucket, folder, single⟩ : Store).Returns (Local.onDisk ⟨root⟩) path
        (.ofText encoded) system := Local.returns_of_holds found holds
    have got : (⟨bucket, folder, single⟩ : Store).get (Local.onDisk ⟨root⟩) path system =
        (.ok (.ofText encoded), system) := by
      refine Prod.ext (returns.unaltered.mpr whole) ?_
      rw [Store.get_apply, Local.get_eq]
    have prints : Program.printed codec false document = .ok (.ofText encoded) := by
      simp only [Program.printed, encodes, Bool.false_eq_true, ↓reduceIte]
    exact run_of_performs resolves rfl command (.getYaml got faithful prints)
  stored later folder single file resolves read command := by
    obtain ⟨after, added, look⟩ :=
      Local.add_of_holds sound found holds folder single (.ofText encoded)
    have ran := run_of_performs resolves rfl command (.putYaml read faithful encodes added)
    have same (place : Place) : after.look place = system.look place := by
      rw [look]
      split
      next here => rw [here, holds.held]
      next => rfl
    have keeps := (later.changesOnly_run codec sound).keeps
    rw [ran] at keeps ⊢
    exact ⟨rfl, ⟨located, found, (holds.of_keeps sound keeps (same _)).openPath_eq⟩, same⟩

/-- **A document is checked before it is stored, and stored in its usual form.** A run stores
something exactly when its file reads as a document, the document is written as a text and the
client puts the text; then the object is that text. A run that stores nothing leaves all files as
they are, and one whose file reads as no document leaves the whole tree. Where the text reads as the
same document, the object stays settled until a turn is about its file. -/
theorem putYaml_normalizes (codec : Codec Value) (sound : system.Sound)
    (resolves : invocation.Resolves system ⟨bucket, folder, single, .directory root⟩)
    (command : invocation.line.command = .putYaml path file) :
    let stored := invocation.run codec system
    (stored.1.exitCode = 0 ↔
      ∃ document encoded, Normalizes codec system file document encoded ∧
        ((Local.onDisk ⟨root⟩).put
          ((⟨bucket, folder, single⟩ : Store).request (.ofText encoded) path) system).1 = .ok ()) ∧
    (stored.1.exitCode ≠ 0 → system.AddsDirs stored.2 fun _ => True) ∧
    ((∀ text document, system.textAt file = .ok text →
      codec.decode (.ofText text) ≠ .ok document) → stored.2 = system) ∧
    ∀ document encoded, Normalizes codec system file document encoded →
      stored.1.exitCode = 0 →
      ∃ located, (⟨root⟩ : Local).objectPath bucket path = .ok located ∧
        stored.2.openPath located = .ok (.file (.ofText encoded)) ∧
        (∀ place, place ≠ system.target located → stored.2.look place = system.look place ∨
          (system.look place = none ∧ stored.2.look place = some .directory)) ∧
        (codec.decode (.ofText encoded) = .ok document →
          ∀ final, Spared codec (system.target located) stored.2 final →
            Settled codec root bucket path encoded final) := by
  intro stored
  refine ⟨putYaml_iff resolves command, ?_, putYaml_malformed resolves command, ?_⟩
  · intro fails
    exact (invocation.changesOnly_run codec sound).addsDirs fun place changed => fails changed.1
  · intro document encoded normalizes succeeds
    obtain ⟨located, found, kept⟩ :=
      stored_of_putYaml_run sound resolves command succeeds normalizes
    have holds := kept.holds sound
    refine ⟨located, found, holds.openPath_eq, ?_, ?_⟩
    · intro place apart
      rcases kept.look_of_ne apart with same | ⟨absent, added, -⟩
      · exact Or.inl same
      · exact Or.inr ⟨absent, added⟩
    · intro faithful final spared
      have soundAfter := kept.keeps.sound sound
      rw [← kept.keeps.target_eq] at spared
      exact settled_of_holds ((spared.keeps soundAfter).sound soundAfter) found
        (holds.of_spared soundAfter spared) normalizes.encodes faithful

end Runs

/-- A directory with one document in flow style. -/
def flowFile : FileSystem := ⟨.dir [("f", .file (.ofText "\x7ba: 1\x7d"))], []⟩

/-- A document in flow style is stored in block style, printed, and stored again from a file with
the printed text. -/
theorem putYaml_normalizes_flow :
    ∃ final, final.textAt "g" = .ok "a: 1\n" ∧
      (onStore (.getYaml "p" false)).run Value.codec final = (.done (.ofText "a: 1\n"), final) ∧
      ((onStore (.putYaml "p" "g")).run Value.codec final).1 = .done [] := by
  have sound : flowFile.Sound := rfl
  have read : flowFile.textAt "f" = .ok "\x7ba: 1\x7d" := rfl
  have normalizes : Normalizes Value.codec flowFile "f" (.map [(.text "a", .int 1)]) "a: 1\n" :=
    ⟨⟨_, read, rfl⟩, rfl⟩
  obtain ⟨located, found, -, -, later⟩ := (putYaml_normalizes Value.codec sound
    (onStore_resolves (.putYaml "p" "f") _) rfl).2.2.2 _ _ normalizes rfl
  obtain rfl : "store/bkt/p" = located := Except.ok.inj found
  let saved : Turn := .save "g" (.ofText "a: 1\n")
  let final := saved.perform Value.codec ((onStore (.putYaml "p" "f")).run Value.codec flowFile).2
  have settled := later rfl final
    (.turn saved (show ["store", "bkt", "p"] ≠ ["g"] by decide) .refl)
  have printed : final.textAt "g" = .ok "a: 1\n" := rfl
  refine ⟨final, printed, ?_, ?_⟩
  · exact settled.printed _ _ true (onStore_resolves _ _) (.inr rfl) rfl
  · exact (settled.stored _ _ true "g" (onStore_resolves _ _) printed rfl).1

end Invocation

end PipelineDepot
