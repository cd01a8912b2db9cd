import PipelineDepot.Proofs.Program.Success

/-! # What a run does to the tree

A run that succeeds may give one file a new content or take it away, the one that its command is
about (`Command.Changes`). Beyond that, and when it fails, it adds directories at most
(`Invocation.changesOnly_run`). So a run has done what its command is for, or it has failed and all
files are as they were (`Program.run_all_or_nothing`).
-/

namespace PipelineDepot

open Blob Files
open Yaml (Value)

namespace Files.FileSystem

/-- No directory is lost, and every place is as it was, is a directory where nothing stood before,
or is one of those that may change. -/
structure ChangesOnly (before after : FileSystem) (changed : Place → Prop) : Prop where
  keeps : before.Keeps after
  look : ∀ place, after.look place = before.look place ∨
    (before.look place = none ∧ after.look place = some .directory) ∨ changed place

namespace ChangesOnly

variable {before after : FileSystem} {changed : Place → Prop}

theorem refl (system : FileSystem) (changed : Place → Prop) : system.ChangesOnly system changed :=
  ⟨.refl system, fun _ => .inl rfl⟩

theorem of_addsDirs {way : Place → Prop} (adds : before.AddsDirs after way)
    (changed : Place → Prop) : before.ChangesOnly after changed where
  keeps := adds.keeps
  look place := by
    rcases adds.look place with same | ⟨absent, added, -⟩
    · exact Or.inl same
    · exact Or.inr (Or.inl ⟨absent, added⟩)

theorem of_sets {place : Place} {new : Option Opened} (sets : before.Sets after place new)
    (allowed : changed place) : before.ChangesOnly after changed where
  keeps := sets.keeps
  look other := by
    rw [sets.look]
    split
    next same => exact Or.inr (Or.inr (same ▸ allowed))
    next => exact Or.inl rfl

/-- Storing a content changes the file it goes to, and adds the directories on the way. -/
theorem of_stored {path : String} {content : Bytes}
    (stored : Local.Stored before path content after) (allowed : changed (before.target path)) :
    before.ChangesOnly after changed where
  keeps := stored.keeps
  look place := by
    by_cases same : place = before.target path
    · exact Or.inr (Or.inr (same ▸ allowed))
    · rcases stored.look_of_ne same with kept | ⟨absent, added, -⟩
      · exact Or.inl kept
      · exact Or.inr (Or.inl ⟨absent, added⟩)

theorem mono {wider : Place → Prop} (only : before.ChangesOnly after changed)
    (covers : ∀ place, changed place → wider place) : before.ChangesOnly after wider where
  keeps := only.keeps
  look place := (only.look place).imp_right (Or.imp_right (covers place))

/-- Where no change is allowed, directories are all that is added. -/
theorem addsDirs (only : before.ChangesOnly after changed) (nowhere : ∀ place, ¬ changed place) :
    before.AddsDirs after fun _ => True where
  start := only.keeps.start
  look place := by
    rcases only.look place with same | ⟨absent, added⟩ | here
    · exact Or.inl same
    · exact Or.inr ⟨absent, added, trivial⟩
    · exact (nowhere place here).elim

/-- A file stays what it is at a place that may not change. -/
theorem look_file (only : before.ChangesOnly after changed) {place : Place} {content : Bytes}
    (spared : ¬ changed place) (held : before.look place = some (.file content)) :
    after.look place = some (.file content) := by
  rcases only.look place with same | ⟨absent, -⟩ | here
  · exact same.trans held
  · cases absent.symm.trans held
  · exact (spared here).elim

end ChangesOnly

end Files.FileSystem

/-- The object under a bucket and a key has its file at the place. -/
def Backend.Places (backend : Backend) (system : FileSystem) (bucket key : String)
    (place : Place) : Prop :=
  ∃ root path, backend = .directory root ∧ (⟨root⟩ : Local).objectPath bucket key = .ok path ∧
    place = system.target path

/-- The command is about the file at the place, to give it a content or to take it away. -/
inductive Command.Changes (config : StoreConfig) (system : FileSystem) : Command → Place → Prop
  | put {path file place} (placed : config.backend.Places system config.bucketName path place) :
      Changes config system (.put path file) place
  | putYaml {path file place}
      (placed : config.backend.Places system config.bucketName path place) :
      Changes config system (.putYaml path file) place
  | delete {path place} (placed : config.backend.Places system config.bucketName path place) :
      Changes config system (.delete path) place
  | save {path file} : Changes config system (.get path (some file)) (system.target file)

namespace Backend

variable {backend : Backend} {client : Client (StateM FileSystem)} {system : FileSystem}
  (reached : backend.client? = some client) (store : Store) (path : String)
include reached

omit system in
/-- Fetching leaves the tree as it is. -/
theorem get_snd (system : FileSystem) : (store.get client path system).2 = system := by
  rw [Store.get_apply]
  cases backend with
  | s3 settings => cases reached
  | memory =>
      cases reached
      rfl
  | directory root =>
      cases reached
      rw [Local.get_eq]

/-- Adding an object changes its own file, and only if it succeeds. -/
theorem changesOnly_add (sound : system.Sound) (content : Bytes) :
    system.ChangesOnly (store.add client content path system).2 fun place =>
      (store.add client content path system).1 = .ok () ∧
        backend.Places system store.bucket path place := by
  rw [Store.add_apply]
  cases backend with
  | s3 settings => cases reached
  | memory =>
      cases reached
      exact .refl system _
  | directory root =>
      cases reached
      rcases Local.put_cases sound ⟨root⟩ (store.request content path) with
        ⟨file, after, located, done, stored⟩ | ⟨file, cause, after, -, failed, adds⟩ |
          ⟨cause, -, failed⟩
      · rw [done]
        exact .of_stored stored ⟨rfl, root, file, rfl, located, rfl⟩
      · rw [failed]
        exact .of_addsDirs adds _
      · rw [failed]
        exact .refl system _

/-- Deleting an object changes its own file, and only if it succeeds. -/
theorem changesOnly_delete (sound : system.Sound) :
    system.ChangesOnly (store.delete client path system).2 fun place =>
      (store.delete client path system).1 = .ok () ∧
        backend.Places system store.bucket path place := by
  rw [Store.delete_apply]
  cases backend with
  | s3 settings => cases reached
  | memory =>
      cases reached
      exact .refl system _
  | directory root =>
      cases reached
      rcases Local.delete_cases sound ⟨root⟩ store.bucket path with
        ⟨file, after, old, located, done, -, sets⟩ | ⟨file, -, done, -⟩ | ⟨cause, failed⟩
      · rw [done]
        exact .of_sets sets ⟨rfl, root, file, rfl, located, rfl⟩
      · rw [done]
        exact .refl system _
      · rw [failed]
        exact .refl system _

end Backend

/-- A command changes the file that it is about, and this only if it succeeds. -/
theorem Performs.changesOnly {config : StoreConfig} {client : Client (StateM FileSystem)}
    {codec : Codec Value} {system after : FileSystem} {command : Command} {outcome : Outcome}
    (performs : Performs client (.ofConfig config) codec system command outcome after)
    (reached : config.backend.client? = some client) (sound : system.Sound) :
    system.ChangesOnly after fun place =>
      outcome.exitCode = 0 ∧ command.Changes config system place := by
  have adding {content : Bytes} {path : String} {answer : Except StoreError Unit}
      {next : FileSystem}
      (added : (Store.ofConfig config).add client content path system = (answer, next)) :
      system.ChangesOnly next fun place =>
        answer = .ok () ∧ config.backend.Places system config.bucketName path place := by
    have only := Backend.changesOnly_add reached (Store.ofConfig config) path sound content
    rwa [added] at only
  have deleting {path : String} {answer : Except StoreError Unit} {next : FileSystem}
      (deleted : (Store.ofConfig config).delete client path system = (answer, next)) :
      system.ChangesOnly next fun place =>
        answer = .ok () ∧ config.backend.Places system config.bucketName path place := by
    have only := Backend.changesOnly_delete reached (Store.ofConfig config) path sound
    rwa [deleted] at only
  have fetching {path : String} {answer : Except StoreError Bytes} {next : FileSystem}
      (got : (Store.ofConfig config).get client path system = (answer, next)) : next = system :=
    (congrArg Prod.snd got).symm.trans (Backend.get_snd reached (Store.ofConfig config) path system)
  cases performs with
  | key | putUnread _ | putYamlUnread _ | putYamlMalformed _ _ | putYamlUnencoded _ _ _ =>
      exact .refl system _
  | putRefused _ refused | putYamlRefused _ _ _ refused => exact (adding refused).mono nofun
  | put _ added => exact (adding added).mono fun place changed => ⟨rfl, .put changed.2⟩
  | putYaml _ _ _ added => exact (adding added).mono fun place changed => ⟨rfl, .putYaml changed.2⟩
  | getRefused got | getPrinted got | getUnwritten got _ | getYamlRefused got
  | getYamlMalformed got _ | getYamlUnprinted got _ _ | getYaml got _ _ =>
      rw [fetching got]
      exact .refl system _
  | getSaved got written =>
      rw [fetching got] at written
      obtain ⟨-, -, -, -, -, sets⟩ := FileSystem.sets_of_write sound written
      exact .of_sets sets ⟨rfl, .save⟩
  | deleteRefused refused => exact (deleting refused).mono nofun
  | deleted deleted => exact (deleting deleted).mono fun place changed => ⟨rfl, .delete changed.2⟩

namespace Invocation

variable [UrlReader] [TomlReader] {codec : Codec Value} {invocation : Invocation}
  {system : FileSystem}

/-- The run succeeds, and its command is about the file at the place. -/
def Changes (codec : Codec Value) (invocation : Invocation) (system : FileSystem)
    (place : Place) : Prop :=
  (invocation.run codec system).1.exitCode = 0 ∧
    ∃ config, invocation.Resolves system config ∧
      invocation.line.command.Changes config system place

/-- A run changes the file that its command is about, and this only if it succeeds. -/
theorem changesOnly_run (codec : Codec Value) (invocation : Invocation) (sound : system.Sound) :
    system.ChangesOnly (invocation.run codec system).2 (invocation.Changes codec system) := by
  have ended := ends_run codec invocation system
  unfold Changes
  cases ran : invocation.run codec system with
  | mk outcome after =>
      rw [ran] at ended
      cases ended with
      | unreadable | misconfigured | unsupported => exact .refl _ _
      | performed resolves reached performs =>
          refine (performs.changesOnly reached sound).mono ?_
          intro place changed
          exact ⟨changed.1, _, resolves, changed.2⟩

end Invocation

end PipelineDepot
