import PipelineDepot.CommandLine.Program
import PipelineDepot.Proofs.Local.Client

/-! # Commands on a tree of files

A command works on a tree of files through a client that is connected for this command alone. Such
a client acts as one on the tree only (`Backend.client?`): objects in memory are gone with the
command, and since it makes at most one call, none of them is ever found. What each command does is
given by one equation over that client (`Program.put_eq` and its likes).
-/

namespace PipelineDepot

open Blob Files
open Yaml (Value)

namespace Files.FileSystem

/-- What reading the file at a path gives. -/
def contentAt (system : FileSystem) (path : String) : Except FileError Bytes :=
  match system.openPath path with
  | .error cause => .error cause
  | .ok .directory => .error .isADirectory
  | .ok (.file content) => .ok content

/-- What reading the file at a path as a text gives. -/
def textAt (system : FileSystem) (path : String) : Except FileError String :=
  match system.contentAt path with
  | .error cause => .error cause
  | .ok content =>
    match content.toText? with
    | none => .error .notUtf8
    | some text => .ok text

theorem read_eq (system : FileSystem) (path : String) :
    disk.read path system = (system.contentAt path, system) := by
  simp only [Disk.read, disk, contentAt, bind, StateT.bind]
  cases system.openPath path with
  | error cause => rfl
  | ok opened => cases opened <;> rfl

theorem readText_eq (system : FileSystem) (path : String) :
    disk.readText path system = (system.textAt path, system) := by
  simp only [Disk.readText, bind, StateT.bind, read_eq, textAt]
  cases system.contentAt path with
  | error cause => rfl
  | ok content =>
      simp only
      cases content.toText? <;> rfl

theorem Holds.contentAt_eq {system : FileSystem} {path : String} {content : Bytes}
    (holds : system.Holds path content) : system.contentAt path = .ok content := by
  simp only [contentAt, holds.openPath_eq]

end Files.FileSystem

/-! ## Connected clients -/

namespace Connected

variable {α β : Type} (memory : Memory) (system : FileSystem)

theorem bind_apply (first : Connected (StateM FileSystem) α)
    (next : α → Connected (StateM FileSystem) β) :
    (first >>= next) memory system =
      next (first memory system).1.1 (first memory system).1.2 (first memory system).2 :=
  rfl

theorem lift_apply (call : StateM FileSystem α) :
    (StateT.lift call : Connected (StateM FileSystem) α) memory system =
      (((call system).1, memory), (call system).2) :=
  rfl

theorem run'_apply (action : Connected (StateM FileSystem) α) :
    action.run' memory system = ((action memory system).1.1, (action memory system).2) :=
  rfl

end Connected

namespace Blob.Client

/-- A client connected with nothing in memory answers like one on the tree alone. -/
def Connects (connected : Client (Connected (StateM FileSystem)))
    (client : Client (StateM FileSystem)) : Prop :=
  ∀ call system, ∃ memory,
    connected.answer call .empty system =
      (((client.answer call system).1, memory), (client.answer call system).2)

/-- An operation of a store over the connected client is the one over the client it connects to. -/
theorem Connects.perform {connected : Client (Connected (StateM FileSystem))}
    {client : Client (StateM FileSystem)} (connects : connected.Connects client) (store : Store)
    (request : Store.Request) (system : FileSystem) :
    ∃ memory, request.perform store connected .empty system =
      (((request.perform store client system).1, memory),
        (request.perform store client system).2) := by
  rw [Store.Request.perform_eq_run, Store.Request.perform_eq_run]
  cases store.plan request with
  | settled reply => exact ⟨.empty, rfl⟩
  | calling call finish =>
      obtain ⟨memory, answered⟩ := connects call system
      refine ⟨memory, ?_⟩
      rw [Plan.run, Connected.bind_apply, answered]
      rfl

end Blob.Client

namespace Backend

/-- Objects in memory of which nothing outlives a call. -/
def freshMemory : Client (StateM FileSystem) :=
  Memory.client.map fun call => pure (call.run .empty).1

/-- The client on the tree that connecting for one command comes to. -/
def client? : Backend → Option (Client (StateM FileSystem))
  | memory => some freshMemory
  | directory root => some (Local.onDisk ⟨root⟩)
  | s3 _ => none

/-- Each backend that has a client on the disk is connected to it. -/
theorem connects_of_client? {backend : Backend} {client : Client (StateM FileSystem)}
    (reached : backend.client? = some client) :
    ∃ connected, backend.connect FileSystem.disk = .ok connected ∧ connected.Connects client := by
  cases backend with
  | s3 settings => cases reached
  | memory | directory root =>
      cases reached
      refine ⟨_, rfl, ?_⟩
      intro call system
      cases call <;> exact ⟨_, rfl⟩

end Backend

/-! ## What each command does -/

namespace Program

open Connected

variable {connected : Client (Connected (StateM FileSystem))} {client : Client (StateM FileSystem)}
  (connects : connected.Connects client) (store : Store) (codec : Codec Value)
  (path file : String) (system : FileSystem)
include connects

/-- Putting a file reads it first, and adds nothing when that fails. -/
theorem put_eq :
    (put FileSystem.disk connected store path file).run' .empty system =
      match system.contentAt file with
      | .error cause => (.error (.reading file cause), system)
      | .ok content =>
        (((store.add client content path system).1.mapError .store).map fun _ => [],
          (store.add client content path system).2) := by
  rw [run'_apply, put, bind_apply, lift_apply, FileSystem.read_eq]
  cases system.contentAt file with
  | error cause => rfl
  | ok content =>
      obtain ⟨memory, added⟩ := connects.perform store (.add content path) system
      simp only [Store.Request.perform] at added
      simp only [bind_apply, added]
      cases (store.add client content path system).1 <;> rfl

/-- Getting an object writes it to the output file, or prints it where none is named. -/
theorem get_eq (output : Option String) :
    (get FileSystem.disk connected store path output).run' .empty system =
      match (store.get client path system).1, output with
      | .error error, _ => (.error (.store error), (store.get client path system).2)
      | .ok content, none => (.ok content, (store.get client path system).2)
      | .ok content, some file =>
        match (store.get client path system).2.write file content with
        | .error cause => (.error (.writing file cause), (store.get client path system).2)
        | .ok after => (.ok [], after) := by
  obtain ⟨memory, got⟩ := connects.perform store (.get path) system
  simp only [Store.Request.perform] at got
  rw [run'_apply, get, bind_apply, got]
  cases (store.get client path system).1 with
  | error error => rfl
  | ok content =>
      cases output with
      | none => rfl
      | some file =>
          simp only [bind_apply, lift_apply, FileSystem.disk]
          cases (store.get client path system).2.write file content <;> rfl

theorem delete_eq :
    (perform FileSystem.disk connected store codec (.delete path)).run' .empty system =
      (((store.delete client path system).1.mapError .store).map fun _ => [],
        (store.delete client path system).2) := by
  obtain ⟨memory, deleted⟩ := connects.perform store (.delete path) system
  simp only [Store.Request.perform] at deleted
  rw [run'_apply, perform, bind_apply, deleted]
  cases (store.delete client path system).1 <;> rfl

/-- Putting a document reads and parses its file first, and adds nothing when that fails. -/
theorem putYaml_eq :
    (putYaml FileSystem.disk connected store codec path file).run' .empty system =
      match system.textAt file with
      | .error cause => (.error (.reading file cause), system)
      | .ok text =>
        match codec.decode (.ofText text) with
        | .error cause => (.error (.notYaml file cause), system)
        | .ok document =>
          (((store.addDocument client codec document path system).1.mapError .store).map
              fun _ => [],
            (store.addDocument client codec document path system).2) := by
  rw [run'_apply, putYaml, bind_apply, lift_apply, FileSystem.readText_eq]
  cases system.textAt file with
  | error cause => rfl
  | ok text =>
      simp only
      cases codec.decode (.ofText text) with
      | error cause => rfl
      | ok document =>
          obtain ⟨memory, added⟩ :=
            connects.perform store (.addDocument codec document path) system
          simp only [Store.Request.perform] at added
          simp only [bind_apply, added]
          cases (store.addDocument client codec document path system).1 <;> rfl

/-- Getting a document prints it and leaves what getting its object leaves. -/
theorem getYaml_eq (json : Bool) :
    (getYaml connected store codec path json).run' .empty system =
      ((((store.getDocument client codec path system).1.mapError .store).bind
          (printed codec json)),
        (store.getDocument client codec path system).2) := by
  obtain ⟨memory, got⟩ : ∃ memory, store.getDocument connected codec path .empty system =
      (((store.getDocument client codec path system).1, memory),
        (store.getDocument client codec path system).2) :=
    connects.perform store (.getDocument codec path) system
  rw [run'_apply, getYaml, bind_apply, got]
  cases (store.getDocument client codec path system).1 <;> rfl

end Program

end PipelineDepot
