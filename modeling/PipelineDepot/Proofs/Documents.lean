import PipelineDepot.Proofs.RoundTrip
import PipelineDepot.Yaml.Record

/-! # What is stored as a document is fetched as one

A document is stored as its text and fetched by reading what is stored, so what holds of contents
holds of documents too: a document that a store has added is fetched again after any steps that
leave it alone. A store that transfers in a single part frees the text of chunk headers first and
gives whatever can be read of the rest (`Store.ReturnsDocument`).

A fetch into a variable is all or nothing: the variable gets the document, or keeps what it held
(`Store.FetchesInto`). No fetch changes what is stored.
-/

namespace PipelineDepot

open Blob Files

namespace Store

variable {σ α : Type} (store : Store) (client : Client (StateM σ)) (codec : Codec α)
  (path : String) (value held : α) (text : String) (state : σ)

/-- A fetch gives what can be read of the text as the store receives it, and the document itself
where the store transfers in several parts or the text carries no chunk header. -/
structure ReturnsDocument : Prop where
  several : store.singlePart = false →
    (store.getDocument client codec path state).1 = .ok value
  unsigned : ChunkSignature.contains (.ofText text) = false →
    (store.getDocument client codec path state).1 = .ok value
  single : store.singlePart = true →
    (store.getDocument client codec path state).1 =
      (codec.decode (ChunkSignature.strip (.ofText text))).mapError (.decode path)

/-- A fetch into a variable gives the variable what a fetch gives, or fails like it and leaves the
variable as it was. Either does to the client what one get does. -/
structure FetchesInto : Prop where
  failed : ∀ error, (store.getDocument client codec path state).1 = .error error →
    (store.getDocumentInto client codec held path state).1 = (.error error, held)
  fetched : ∀ value, (store.getDocument client codec path state).1 = .ok value →
    (store.getDocumentInto client codec held path state).1 = (.ok (), value)
  left : (store.getDocument client codec path state).2 = (client.get store.bucket path state).2
  left_into : (store.getDocumentInto client codec held path state).2 =
    (client.get store.bucket path state).2

variable {store client codec path value held text state}

/-- A document whose text can be written is added by adding the text. -/
theorem addDocument_eq (encodes : codec.encode value = .ok text) :
    store.addDocument client codec value path = store.add client (.ofText text) path := by
  simp only [addDocument, encodes]

/-- A document is fetched by reading what a get returns. -/
theorem getDocument_fst :
    (store.getDocument client codec path state).1 =
      decoded codec path (store.get client path state).1 := by
  rw [getDocument_eq, get_eq]
  rfl

/-- Getting a document leaves what getting its object leaves. -/
theorem getDocument_snd :
    (store.getDocument client codec path state).2 = (client.get store.bucket path state).2 := by
  rw [getDocument_eq]
  rfl

theorem decoded_ok (content : Bytes) :
    decoded codec path (.ok content) = (codec.decode content).mapError (.decode path) := by
  simp only [decoded]
  cases codec.decode content <;> rfl

/-- A store that returns the text returns the document. -/
theorem Returns.returnsDocument (returns : store.Returns client path (.ofText text) state)
    (decodes : codec.decode (.ofText text) = .ok value) :
    store.ReturnsDocument client codec path value text state := by
  have whole : (store.get client path state).1 = .ok (.ofText text) →
      (store.getDocument client codec path state).1 = .ok value := by
    intro unaltered
    rw [getDocument_fst, unaltered, decoded_ok, decodes]
    rfl
  constructor
  case several => exact fun several => whole (returns.unaltered.mpr (.inl several))
  case unsigned => exact fun unsigned => whole (returns.unaltered.mpr (.inr unsigned))
  case single =>
    intro single
    rw [getDocument_fst, returns.fetched, single, if_pos rfl, decoded_ok]

/-- What a fetch into a variable returns, and what the variable holds behind it. -/
def taken (held : α) : Except StoreError α → Except StoreError Unit × α
  | .error error => (.error error, held)
  | .ok value => (.ok (), value)

/-- Getting a document into a value gets it and then takes it over. -/
theorem getDocumentInto_eq {m : Type → Type} [Monad m] (client : Client m) :
    store.getDocumentInto client codec held path =
      do return taken held (← store.getDocument client codec path) := by
  unfold getDocumentInto
  apply bind_congr
  intro fetched
  cases fetched <;> rfl

/-- A document is fetched into the value that is held, which is kept where that fails. -/
theorem fetchesInto : store.FetchesInto client codec path held state where
  failed error failed := by
    rw [getDocumentInto_eq]
    exact congrArg (taken held) failed
  fetched value fetched := by
    rw [getDocumentInto_eq]
    exact congrArg (taken held) fetched
  left := getDocument_snd
  left_into := by
    rw [getDocumentInto_eq]
    exact getDocument_snd

/-- **A document that a store has added, it fetches again.** Take a codec, a document that can be
read from its text, and a state of the client in which adding it succeeds. Whatever steps follow, if
none of them writes or deletes the object and getting is not set to fail, a fetch returns the
document as far as the store hands the text on as it is. Over every client, a fetch into a variable
is all or nothing and asks as much of the client as a get; over objects in memory and over a
directory it leaves them as they are. -/
theorem getDocument_after_addDocument (store : Store) (codec : Codec α) (path : String) :
    (∀ value text, codec.encode value = .ok text → codec.decode (.ofText text) = .ok value →
      (∀ memory : Memory, (store.addDocument Memory.client codec value path memory).1 = .ok () →
        ∀ steps : List Memory.Step,
          let session := Session.run Memory.Step.perform steps
            (store.addDocument Memory.client codec value path memory).2
          (∀ event ∈ session.1, ¬ Memory.Event.Touches store.bucket path event) →
          .get ∉ session.2.failing →
            store.ReturnsDocument Memory.client codec path value text session.2) ∧
      ∀ (depot : Local) (system : FileSystem), system.Sound →
        (store.addDocument depot.onDisk codec value path system).1 = .ok () →
        ∀ actions : List Action,
          let session := Session.run (Action.perform depot.onDisk) actions
            (store.addDocument depot.onDisk codec value path system).2
          (∀ event ∈ session.1, ∀ bucket key, event.step.Touches event.reply bucket key →
            KeyPath.clean (bucket ++ "/" ++ key) ≠ KeyPath.clean (store.bucket ++ "/" ++ path)) →
            store.ReturnsDocument depot.onDisk codec path value text session.2) ∧
    (∀ {σ : Type} (client : Client (StateM σ)) (held : α) (state : σ),
      store.FetchesInto client codec path held state) ∧
    (∀ (memory : Memory) (held : α),
      (store.getDocument Memory.client codec path memory).2.objects = memory.objects ∧
        (store.getDocumentInto Memory.client codec held path memory).2.objects = memory.objects) ∧
    ∀ (depot : Local) (system : FileSystem) (held : α),
      (store.getDocument depot.onDisk codec path system).2 = system ∧
        (store.getDocumentInto depot.onDisk codec held path system).2 = system := by
  refine ⟨fun value text encodes decodes => ⟨?_, ?_⟩, fun client held state => fetchesInto, ?_, ?_⟩
  · rw [addDocument_eq encodes]
    intro memory added steps session apart working
    exact (Memory.returns_of_find? working (Memory.find?_run added steps apart)).returnsDocument
      decodes
  · intro depot system sound
    rw [addDocument_eq encodes]
    intro added actions session apart
    obtain ⟨file, located, stored⟩ := Local.stored_of_add sound added
    have holds := Local.holds_run (stored.keeps.sound sound) (Local.locates_of_objectPath located)
      (stored.holds sound) actions apart
    exact (Local.returns_of_holds located holds).returnsDocument decodes
  · intro memory held
    have fetches : store.FetchesInto Memory.client codec path held memory := fetchesInto
    have kept : (Memory.client.get store.bucket path memory).2.objects = memory.objects := by
      change (memory.get store.bucket path).2.objects = memory.objects
      rw [Memory.get_eq]
      rfl
    rw [fetches.left, fetches.left_into]
    exact ⟨kept, kept⟩
  · intro depot system held
    have fetches : store.FetchesInto depot.onDisk codec path held system := fetchesInto
    have kept : (depot.onDisk.get store.bucket path system).2 = system := by
      rw [Local.get_eq]
    rw [fetches.left, fetches.left_into]
    exact ⟨kept, kept⟩

/-- A text like a chunk header goes through a single-part store over memory, with getting switched
off and on in between, and a harmless one over a directory, with another object put and deleted. -/
theorem getDocument_after_addDocument_text :
    ∃ (memory : Memory) (system : FileSystem),
      ReturnsDocument ⟨"bkt", "", true⟩ Memory.client Yaml.textCodec "doc" "a1;chunk-signature=b2"
          "a1;chunk-signature=b2\n" memory ∧
        ReturnsDocument ⟨"bkt", "", true⟩ (Local.onDisk ⟨"root"⟩) Yaml.textCodec "doc" "plain"
          "plain\n" system := by
  refine ⟨_, _,
    ((getDocument_after_addDocument ⟨"bkt", "", true⟩ Yaml.textCodec "doc").1
      "a1;chunk-signature=b2" _ rfl rfl).1 .empty rfl [.failOn .get, .recover .get] ?_ (by decide),
    ((getDocument_after_addDocument ⟨"bkt", "", true⟩ Yaml.textCodec "doc").1
      "plain" _ rfl rfl).2 ⟨"root"⟩ ⟨.empty, []⟩ rfl rfl
      [.direct (.put ⟨"bkt", "c", [1], .unknown, octetStream⟩), .direct (.delete "bkt" "c")] ?_⟩
  · simp only [Session.run, List.mem_cons, List.not_mem_nil, or_false, forall_eq_or_imp, forall_eq]
    constructor
    · rintro (⟨content, written⟩ | deleted)
      · exact written
      · exact deleted
    · rintro (⟨content, written⟩ | deleted)
      · exact written
      · exact deleted
  · simp only [Session.run, List.mem_cons, List.not_mem_nil, or_false, forall_eq_or_imp, forall_eq]
    constructor
    · intro bucket key touched
      rcases touched with ⟨content, written⟩ | deleted
      · obtain ⟨-, ⟨rfl, rfl⟩, -⟩ := (Action.writes_put _ _ _ _ _).mp written
        decide
      · exact (Action.not_deletes_put _ _ _ _ deleted).elim
    · intro bucket key touched
      rcases touched with ⟨content, written⟩ | deleted
      · exact (Action.not_writes_delete _ _ _ _ _ _ written).elim
      · obtain ⟨-, rfl, rfl⟩ := (Action.deletes_delete _ _ _ _ _).mp deleted
        decide

end Store

end PipelineDepot
