import Mathlib.Data.Set.Card
import PipelineDepot.Proofs.Memory.History

/-! # A history seen from one address

What a step returns depends on the history before it only through what is set to fail and
through the last write of the address of its call (`Answered.congr`). Two histories that agree on
these ask for the same reply.

A client holds as many objects as there are addresses with one (`Memory.size_eq`).
-/

namespace PipelineDepot.Blob.Memory

/-! ## Replies -/

section Congruence

variable {history other : List Event} {bucket key : String}
  (failing : ∀ operation, SetToFail history operation ↔ SetToFail other operation)

include failing

theorem Accepts.congr {operation : Operation} {reply : Except BlobError Unit}
    (accepts : Accepts history operation bucket key reply) :
    Accepts other operation bucket key reply := by
  cases accepts with
  | failed set => exact .failed ((failing operation).mp set)
  | done clear => exact .done fun set => clear ((failing operation).mpr set)

theorem Fetches.congr {reply : Except BlobError Bytes}
    (held : ∀ content, LastWrite history bucket key content ↔ LastWrite other bucket key content)
    (fetches : Fetches history bucket key reply) : Fetches other bucket key reply := by
  cases fetches with
  | failed set => exact .failed ((failing .get).mp set)
  | missing clear absent =>
      apply Fetches.missing fun set => clear ((failing .get).mpr set)
      intro content latest
      exact absent content ((held content).mpr latest)
  | found clear latest =>
      exact .found (fun set => clear ((failing .get).mpr set)) ((held _).mp latest)

/-- Histories that agree on what is set to fail and on the address of a step ask for the same
reply. -/
theorem Answered.congr {event : Event}
    (held : ∀ call, event.step.call? = some call → ∀ content,
      LastWrite history call.address.1 call.address.2 content ↔
        LastWrite other call.address.1 call.address.2 content)
    (answered : Answered history event) : Answered other event := by
  obtain ⟨step, reply⟩ := event
  cases step with
  | seed _ _ _ | failOn _ | recover _ => trivial
  | act action =>
      cases action with
      | direct call =>
          cases call with
          | put request => exact Accepts.congr failing answered
          | delete bucket key => exact Accepts.congr failing answered
          | get bucket key =>
              obtain ⟨outcome, fetches, replied⟩ := answered
              exact ⟨outcome, fetches.congr failing (held _ rfl), replied⟩
      | through store request =>
          cases request with
          | add content path | delete path =>
              obtain ⟨outcome, accepts, replied⟩ := answered
              exact ⟨outcome, accepts.congr failing, replied⟩
          | get path | getDocument codec path =>
              obtain ⟨outcome, fetches, replied⟩ := answered
              exact ⟨outcome, fetches.congr failing (held _ rfl), replied⟩
          | addDocument codec value path =>
              simp only [Answered] at answered ⊢
              cases encoded : codec.encode value with
              | error cause => simpa only [encoded] using answered
              | ok text =>
                  simp only [encoded] at answered ⊢
                  obtain ⟨outcome, accepts, replied⟩ := answered
                  exact ⟨outcome, accepts.congr failing, replied⟩

end Congruence

/-- An event stores at most one content under a key. -/
theorem Event.writes_unique {event : Event} {bucket key : String} {first second : Bytes}
    (one : event.Writes bucket key first) (two : event.Writes bucket key second) :
    first = second := by
  obtain ⟨step, reply⟩ := event
  cases step with
  | act action => exact Action.writes_unique one two
  | seed named keyed stored => exact one.2.symm.trans two.2
  | failOn operation => exact one.elim
  | recover operation => exact one.elim

/-- An address has one last write. -/
theorem lastWrite_unique {history : List Event} {bucket key : String} {first second : Bytes}
    (one : LastWrite history bucket key first) (two : LastWrite history bucket key second) :
    first = second := by
  induction history using List.reverseRecOn with
  | nil => exact (Session.not_latest_nil _ _ one).elim
  | append_singleton history event ih =>
      have ends := Session.latest_append_singleton
        (Event.Writes bucket key first) (Event.Touches bucket key) history event
      have again := Session.latest_append_singleton
        (Event.Writes bucket key second) (Event.Touches bucket key) history event
      rcases ends.mp one with written | ⟨held, kept⟩
      · rcases again.mp two with rewritten | ⟨-, untouched⟩
        · exact Event.writes_unique written rewritten
        · exact (untouched (Or.inl ⟨first, written⟩)).elim
      · rcases again.mp two with rewritten | ⟨heldAgain, -⟩
        · exact (kept (Or.inl ⟨second, rewritten⟩)).elim
        · exact ih held heldAgain

/-- A get that nothing makes fail returns the last write of its address, without its chunk headers
where the store transfers in a single part. -/
theorem Answered.get_of_lastWrite {history : List Event} {store : Store} {path : String}
    {reply : (Action.through store (.get path)).Reply} {content : Bytes}
    (answered : Answered history ⟨.act (.through store (.get path)), reply⟩)
    (clear : ¬ SetToFail history .get) (latest : LastWrite history store.bucket path content) :
    reply = .ok (if store.singlePart then ChunkSignature.strip content else content) := by
  obtain ⟨outcome, fetches, rfl⟩ := answered
  cases fetches with
  | failed set => exact (clear set).elim
  | missing _ absent => exact (absent content latest).elim
  | found _ held =>
      obtain rfl := lastWrite_unique held latest
      rfl

/-- Actions set nothing to fail. -/
theorem not_setToFail_map {α : Type 1} {view : α → Event}
    (acts : ∀ source, ∃ action, (view source).step = .act action) (history : List α)
    (operation : Operation) : ¬ SetToFail (history.map view) operation := by
  intro set
  obtain ⟨_, member, failed⟩ := set.exists_mem
  obtain ⟨source, -, rfl⟩ := List.mem_map.mp member
  obtain ⟨action, acted⟩ := acts source
  cases acted.symm.trans failed

/-! ## Size -/

/-- Every address stands once in the list of objects. -/
def Distinct (memory : Memory) : Prop := (memory.objects.map (·.1)).Nodup

theorem Distinct.erase {memory : Memory} (distinct : memory.Distinct) (bucket key : String) :
    (memory.erase bucket key).Distinct :=
  distinct.sublist (List.filter_sublist.map _)

/-- An object that is put takes the place of the one before it. -/
theorem Distinct.insert {memory : Memory} (distinct : memory.Distinct) (bucket key : String)
    (content : Bytes) : (memory.insert bucket key content).Distinct := by
  refine List.nodup_cons.mpr ⟨?_, distinct.erase bucket key⟩
  simp

/-- No call lists an object twice. -/
theorem Distinct.answer {memory : Memory} (distinct : memory.Distinct) (call : Call) :
    (client.answer call memory).2.Distinct := by
  cases call with
  | get bucket key =>
      change (memory.get bucket key).2.Distinct
      rw [get_eq]
      exact distinct
  | put request =>
      change (memory.put request).2.Distinct
      rw [put_eq]
      split
      next => exact distinct
      next => exact Distinct.insert distinct _ _ _
  | delete bucket key =>
      change (memory.delete bucket key).2.Distinct
      rw [delete_eq]
      split
      next => exact distinct
      next => exact Distinct.erase distinct _ _

/-- The size is the number of addresses with an object. -/
theorem Distinct.size_eq {memory : Memory} (distinct : memory.Distinct) :
    memory.size =
      Set.ncard {address : String × String | ∃ content,
        memory.find? address.1 address.2 = some content} := by
  have listed : {address : String × String | ∃ content,
      memory.find? address.1 address.2 = some content} =
      ((memory.objects.map (·.1)).toFinset : Set (String × String)) := by
    ext address
    rw [List.coe_toFinset]
    exact (Association.mem_map_fst_iff address memory.objects).symm
  rw [listed, Set.ncard_coe_finset, List.toFinset_card_of_nodup distinct, List.length_map]
  rfl

end PipelineDepot.Blob.Memory
