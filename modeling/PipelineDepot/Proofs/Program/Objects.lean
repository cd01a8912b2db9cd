import PipelineDepot.Proofs.Local.Effects
import PipelineDepot.Proofs.Program.Effects
import PipelineDepot.Proofs.RoundTrip

/-! # What one run stores, a later one gets

Runs of the program share nothing but the tree. The file of an object stays what it is while no run
is about it (`Spared`), so every later run that comes to the same root and bucket gets the object
that was put, under every spelling of its path that the client accepts. Objects in memory do not
outlive the run that stored them.
-/

namespace PipelineDepot

open Blob Files
open Yaml (Value)

/-! ## Turns -/

/-- What happens to the tree: a run of the program, or a file that is saved by other means. -/
inductive Turn
  | run (invocation : Invocation)
  | save (path : String) (content : Bytes)

namespace Turn

variable [UrlReader] [TomlReader]

/-- The tree after a turn. -/
def perform (codec : Codec Value) : Turn → FileSystem → FileSystem
  | run invocation, system => (invocation.run codec system).2
  | save path content, system => (system.settle (system.write path content)).2

/-- The turn is about the file at the place. -/
def Changes (codec : Codec Value) : Turn → FileSystem → Place → Prop
  | run invocation, system, place => invocation.Changes codec system place
  | save path _, system, place => place = system.target path

/-- A turn changes only what it is said to change. -/
theorem changesOnly_perform (codec : Codec Value) (turn : Turn) {system : FileSystem}
    (sound : system.Sound) :
    system.ChangesOnly (turn.perform codec system) (turn.Changes codec system) := by
  cases turn with
  | run invocation => exact invocation.changesOnly_run codec sound
  | save path content =>
      change system.ChangesOnly (system.settle (system.write path content)).2 _
      cases written : system.write path content with
      | error cause => exact .refl system _
      | ok after =>
          obtain ⟨-, -, -, -, -, sets⟩ := FileSystem.sets_of_write sound written
          exact .of_sets sets rfl

end Turn

/-- One tree comes of another by turns that are not about the file at the place. -/
inductive Spared [UrlReader] [TomlReader] (codec : Codec Value) (place : Place) :
    FileSystem → FileSystem → Prop
  | refl {system} : Spared codec place system system
  | turn {system final} (turn : Turn) (spares : ¬ turn.Changes codec system place)
      (rest : Spared codec place (turn.perform codec system) final) :
      Spared codec place system final

namespace Spared

variable [UrlReader] [TomlReader] {codec : Codec Value} {place : Place}
  {system final : FileSystem} (spared : Spared codec place system final)
include spared

theorem keeps (sound : system.Sound) : system.Keeps final := by
  induction spared with
  | refl => exact .refl _
  | turn turn spares rest ih =>
      have first := (turn.changesOnly_perform codec sound).keeps
      exact first.trans (ih (first.sound sound))

/-- An object that no turn changes is still there at the end. -/
theorem look_file (sound : system.Sound) {content : Bytes}
    (held : system.look place = some (.file content)) :
    final.look place = some (.file content) := by
  induction spared with
  | refl => exact held
  | turn turn spares rest ih =>
      have only := turn.changesOnly_perform codec sound
      exact ih (only.keeps.sound sound) (only.look_file spares held)

end Spared

/-- What a path holds, it holds while the file is spared. -/
theorem Files.FileSystem.Holds.of_spared [UrlReader] [TomlReader] {codec : Codec Value}
    {system final : FileSystem} {path : String} {content : Bytes}
    (holds : system.Holds path content) (sound : system.Sound)
    (spared : Spared codec (system.target path) system final) : final.Holds path content :=
  holds.of_keeps sound (spared.keeps sound)
    ((spared.look_file sound holds.held).trans holds.held.symm)

/-! ## Spellings -/

/-- A spelling of a path that the client accepts in the bucket: the same clean path, with a name
behind the last slash, and short enough with the root and the bucket in front. -/
structure Spelling (root bucket path spelled : String) : Prop where
  same : KeyPath.clean spelled = KeyPath.clean path
  accepted : keyFault? spelled = none
  named : Path.EndsInName spelled
  short : (Path.join (Path.join root bucket) spelled).utf8ByteSize < FileSystem.pathLimit

/-- Spellings of a path that differ from it silently lead to its object. -/
theorem Spelling.alias {root bucket path spelled file : String}
    (spelling : Spelling root bucket path spelled)
    (located : (⟨root⟩ : Local).objectPath bucket path = .ok file) :
    (⟨root⟩ : Local).Alias bucket path bucket spelled where
  accepted := by
    obtain ⟨⟨acceptedBucket, -⟩, -⟩ := Local.objectPath_eq_ok_iff.mp located
    exact ⟨_, Local.objectPath_eq_ok_iff.mpr ⟨⟨acceptedBucket, spelling.accepted⟩, rfl⟩,
      spelling.short⟩
  named := spelling.named
  same := by
    obtain ⟨⟨acceptedBucket, accepted⟩, -⟩ := Local.objectPath_eq_ok_iff.mp located
    obtain ⟨some_, plainBucket⟩ := (keyFault?_eq_none_iff bucket).mp acceptedBucket
    have plain := ((keyFault?_eq_none_iff path).mp accepted).2
    have plainSpelled := ((keyFault?_eq_none_iff spelled).mp spelling.accepted).2
    have names := (KeyPath.clean_eq_clean_iff plainSpelled plain).mp spelling.same
    refine (KeyPath.clean_eq_clean_iff (plainBucket.append_slash some_ plainSpelled)
      (plainBucket.append_slash some_ plain)).mpr ?_
    rw [Path.names_append_slash, Path.names_append_slash, names]

/-! ## Objects -/

/-- Runs that come to the bucket below the root get the content under every accepted spelling of the
path: it is printed, or it is saved in a file and nowhere else, each time without its chunk headers
where the run transfers in a single part. -/
structure Gets [UrlReader] [TomlReader] (codec : Codec Value) (root bucket path : String)
    (content : Bytes) (system : FileSystem) : Prop where
  printed : ∀ (later : Invocation) folder single spelled,
    later.Resolves system ⟨bucket, folder, single, .directory root⟩ →
    Spelling root bucket path spelled → later.line.command = .get spelled none →
      later.run codec system =
        (.done (if single then ChunkSignature.strip content else content), system)
  saved : ∀ (later : Invocation) folder single spelled file,
    later.Resolves system ⟨bucket, folder, single, .directory root⟩ →
    Spelling root bucket path spelled → later.line.command = .get spelled (some file) →
    (later.run codec system).1.exitCode = 0 →
      let after := (later.run codec system).2
      after.contentAt file = .ok (if single then ChunkSignature.strip content else content) ∧
        ∀ place, place ≠ system.target file → after.look place = system.look place

namespace Invocation

section Runs

variable [UrlReader] [TomlReader] {codec : Codec Value} {invocation : Invocation}
  {system : FileSystem} {bucket folder root path located : String} {single : Bool}
  {content : Bytes}

/-- A run that puts has stored the content of its file. -/
theorem stored_of_put_run (sound : system.Sound)
    (resolves : invocation.Resolves system ⟨bucket, folder, single, .directory root⟩)
    {file : String} (command : invocation.line.command = .put path file)
    (succeeds : (invocation.run codec system).1.exitCode = 0) :
    ∃ content located, system.contentAt file = .ok content ∧
      (⟨root⟩ : Local).objectPath bucket path = .ok located ∧
      Local.Stored system located content (invocation.run codec system).2 := by
  obtain ⟨outcome, after, ran, performs⟩ := exists_performs codec resolves rfl command
  rw [ran] at succeeds ⊢
  cases performs with
  | putUnread | putRefused => cases succeeds
  | @put _ _ content _ read added =>
      have stored := Local.stored_of_add sound (congrArg Prod.fst added)
      rw [added] at stored
      obtain ⟨located, found, stored⟩ := stored
      exact ⟨content, located, read, found, stored⟩

omit [UrlReader] [TomlReader] in
/-- What the path of an object holds, a store gets under every accepted spelling. -/
theorem get_of_holds (found : (⟨root⟩ : Local).objectPath bucket path = .ok located)
    (holds : system.Holds located content) {spelled : String}
    (spelling : Spelling root bucket path spelled) (folder : String) (single : Bool) :
    (⟨bucket, folder, single⟩ : Store).get (Local.onDisk ⟨root⟩) spelled system =
      (.ok (if single then ChunkSignature.strip content else content), system) := by
  obtain ⟨front, name, asks, -⟩ := holds.asks
  have opened := (spelling.alias found).get_eq found asks.fits holds.ends system
  rw [holds.openPath_eq] at opened
  refine Prod.ext (Store.returns_of_get opened).fetched ?_
  rw [Store.get_apply, Local.get_eq]

/-- What the path of an object holds, runs get. -/
theorem gets_of_holds (codec : Codec Value) (sound : system.Sound)
    (found : (⟨root⟩ : Local).objectPath bucket path = .ok located)
    (holds : system.Holds located content) : Gets codec root bucket path content system where
  printed later folder single spelled resolves spelling command := by
    have got := get_of_holds found holds spelling folder single
    exact run_of_performs resolves rfl command (.getPrinted got)
  saved later folder single spelled file resolves spelling command succeeds := by
    have got := get_of_holds found holds spelling folder single
    obtain ⟨outcome, after, ran, performs⟩ := exists_performs codec resolves rfl command
    rw [ran] at succeeds ⊢
    cases performs with
    | getRefused | getUnwritten => cases succeeds
    | getSaved fetched written =>
        cases got.symm.trans fetched
        obtain ⟨-, -, -, -, -, sets⟩ := FileSystem.sets_of_write sound written
        refine ⟨(FileSystem.holds_of_write sound written).contentAt_eq, ?_⟩
        intro place apart
        rw [sets.look, if_neg apart]

/-- Over objects in memory, a run gets nothing. -/
theorem get_of_memory (resolves : invocation.Resolves system ⟨bucket, folder, single, .memory⟩)
    (fetches : (∃ output, invocation.line.command = .get path output) ∨
      ∃ json, invocation.line.command = .getYaml path json) :
    invocation.run codec system =
      (.failed 1 ("No object stored at '" ++ path ++ "'"), system) := by
  have missing : (⟨bucket, folder, single⟩ : Store).get Backend.freshMemory path system =
      (.error (.read path (.notFound bucket path)), system) := rfl
  rcases fetches with ⟨output, command⟩ | ⟨json, command⟩
  · exact run_of_performs resolves rfl command (.getRefused missing)
  · exact run_of_performs resolves rfl command (.getYamlRefused missing)

/-- **What one run puts, later runs get.** A run that puts a file into a directory and succeeds has
stored its content at the path of the object. Until a turn is about that file, runs that come to the
same root and bucket get the content. Over objects in memory no run ever gets anything. -/
theorem object_outlives_run (codec : Codec Value) :
    (∀ (first : Invocation) (system : FileSystem) (bucket folder root path file : String)
        (single : Bool),
      system.Sound → first.Resolves system ⟨bucket, folder, single, .directory root⟩ →
      first.line.command = .put path file → (first.run codec system).1.exitCode = 0 →
      ∃ content located, system.contentAt file = .ok content ∧
        (⟨root⟩ : Local).objectPath bucket path = .ok located ∧
        (first.run codec system).2.openPath located = .ok (.file content) ∧
        ∀ final, Spared codec (system.target located) (first.run codec system).2 final →
          Gets codec root bucket path content final) ∧
    ∀ (later : Invocation) (system : FileSystem) (bucket folder path : String) (single : Bool),
      later.Resolves system ⟨bucket, folder, single, .memory⟩ →
      ((∃ output, later.line.command = .get path output) ∨
        ∃ json, later.line.command = .getYaml path json) →
      later.run codec system = (.failed 1 ("No object stored at '" ++ path ++ "'"), system) := by
  constructor
  · intro first system bucket folder root path file single sound resolves command succeeds
    obtain ⟨content, located, read, found, stored⟩ :=
      stored_of_put_run sound resolves command succeeds
    have holds := stored.holds sound
    refine ⟨content, located, read, found, holds.openPath_eq, fun final spared => ?_⟩
    have soundAfter := stored.keeps.sound sound
    rw [← stored.keeps.target_eq] at spared
    exact gets_of_holds codec ((spared.keeps soundAfter).sound soundAfter) found
      (holds.of_spared soundAfter spared)
  · intro later system bucket folder path single resolves fetches
    exact get_of_memory resolves fetches

end Runs

/-- A run of a command on the directory `store`, set up by options alone. -/
def onStore (command : Command) : Invocation :=
  ⟨.ofPairs [], ⟨{ bucket := some "bkt", root := some "store" }, false, command⟩⟩

theorem onStore_resolves [UrlReader] [TomlReader] (command : Command) (system : FileSystem) :
    (onStore command).Resolves system ⟨"bkt", "pipelines", true, .directory "store"⟩ := by
  have sound : StoreConfig.validate ⟨"bkt", "pipelines", true, .directory "store"⟩ = .ok () := rfl
  refine ⟨false, ?_⟩
  rw [Flags.resolve_eq]
  exact Flags.complete_of_ok sound

/-- A directory with one file to store. -/
def oneFile : FileSystem := ⟨.dir [("f", .file [7])], []⟩

/-- The object is got under another spelling behind other turns. -/
theorem object_outlives_run_spelled :
    ∃ final,
      Spared Value.codec ["store", "bkt", "k"]
        ((onStore (.put "k" "f")).run Value.codec oneFile).2 final ∧
      final.contentAt "g" = .ok [1] ∧
      (onStore (.get "./k" none)).run Value.codec final =
        (.done (if true then ChunkSignature.strip [7] else [7]), final) := by
  obtain ⟨content, located, read, found, -, later⟩ := (object_outlives_run Value.codec).1
    (onStore (.put "k" "f")) oneFile "bkt" "pipelines" "store" "k" "f" true rfl
    (onStore_resolves _ _) rfl rfl
  obtain rfl : [7] = content := Except.ok.inj read
  obtain rfl : "store/bkt/k" = located := Except.ok.inj found
  have spared : Spared Value.codec ["store", "bkt", "k"]
      ((onStore (.put "k" "f")).run Value.codec oneFile).2 _ :=
    .turn (.save "g" [1]) (show ["store", "bkt", "k"] ≠ ["g"] by decide)
      (.turn (.run (onStore (.get "k" none))) nofun .refl)
  refine ⟨_, spared, rfl, ?_⟩
  exact (later _ spared).printed _ _ true "./k" (onStore_resolves _ _)
    ⟨rfl, rfl, ⟨"k", rfl, by decide⟩, by decide⟩ rfl

/-- Not every spelling of the clean path gets the object: one with a step back is refused, and so is
one that is too long, although the client accepts it. -/
theorem object_not_got :
    let stored := ((onStore (.put "k" "f")).run Value.codec oneFile).2
    ((onStore (.put "k" "f")).run Value.codec oneFile).1.exitCode = 0 ∧
      (KeyPath.clean "a/../k" = KeyPath.clean "k" ∧ Path.EndsInName "a/../k" ∧
        ((onStore (.get "a/../k" none)).run Value.codec stored).1.exitCode = 1) ∧
      KeyPath.clean (Local.padded 2048 "k") = KeyPath.clean "k" ∧
        Path.EndsInName (Local.padded 2048 "k") ∧ keyFault? (Local.padded 2048 "k") = none ∧
        ((onStore (.get (Local.padded 2048 "k") none)).run Value.codec stored).1.exitCode = 1 := by
  intro stored
  have accepted : keyFault? "k" = none := rfl
  obtain ⟨padded, names, last, -⟩ := Local.padded_spec 2048 accepted
  have named : Path.EndsInName (Local.padded 2048 "k") := ⟨"k", last.trans rfl, by decide⟩
  have plain := ((keyFault?_eq_none_iff _).mp padded).2
  have same : KeyPath.clean (Local.padded 2048 "k") = KeyPath.clean "k" :=
    (KeyPath.clean_eq_clean_iff plain ((keyFault?_eq_none_iff _).mp accepted).2).mpr names
  refine ⟨rfl, ⟨rfl, ⟨"k", rfl, by decide⟩, rfl⟩, same, named, padded, ?_⟩
  have located : Local.objectPath ⟨"store"⟩ "bkt" "k" = .ok "store/bkt/k" := rfl
  have long : FileSystem.pathLimit ≤ 2 * 2048 := Nat.le_refl 4096
  obtain ⟨-, -, -, refused⟩ := Local.get_padded located (by decide) long stored
  have missing : (⟨"bkt", "pipelines", true⟩ : Store).get (Local.onDisk ⟨"store"⟩)
      (Local.padded 2048 "k") stored =
        (.error (.read (Local.padded 2048 "k") (.io .nameTooLong)), stored) := by
    rw [Store.get_apply, refused, Local.get_eq]
    rfl
  have ran : (onStore (.get (Local.padded 2048 "k") none)).run Value.codec stored =
      (.failed 1 _, stored) := run_of_performs (onStore_resolves _ _) rfl rfl (.getRefused missing)
  rw [ran]
  rfl

end Invocation

end PipelineDepot
