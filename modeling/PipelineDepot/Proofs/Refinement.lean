import PipelineDepot.Proofs.Local.CleanPart

/-! # Stores over a fresh directory and over memory reply alike

Over a fresh root, and with keys in clean form of which none is a proper beginning of another, a
store over a directory replies to every sequence of operations as it does over a client in memory
that starts with nothing (`Store.replies_eq`).

The root has to be a path that can be made, and making it must not put a directory where an
object belongs. A root without `..` never does (`Local.aside_of_inward`); the root
`abc/x/../..` does for the key `x` in the bucket `abc` (`Store.replies_ne_of_detour`).
-/

namespace PipelineDepot

open Blob Files FileSystem

namespace Blob.Local

/-- The root of a depot can be made, and nothing stands in it. -/
structure FreshRoot (depot : Local) (system : FileSystem) : Prop where
  nulFree : '\x00' ∉ depot.root.toList
  short : ∀ name ∈ Path.names depot.root, Walk.Short name
  free : ∀ place, system.OnWay depot.root place → ∀ content,
    system.look place ≠ some (.file content)
  empty : ∀ below, below ≠ [] → system.look (system.target depot.root ++ below) = none

/-- A key in clean form whose path is within the limits of the file system. -/
structure CleanKey (depot : Local) (bucket key : String) : Prop where
  some_ : key ≠ ""
  moves : key ≠ "."
  relative : Path.isAbsolute key = false
  cleaned : KeyPath.clean key = key
  inward : ".." ∉ Path.pieces key
  nulFree : '\x00' ∉ key.toList
  short : ∀ segment ∈ Path.pieces key, segment.utf8ByteSize ≤ maxName
  fits : (depot.path bucket key).utf8ByteSize < pathLimit

variable {depot : Local} {system : FileSystem} {field bucket key : String}

theorem CleanKey.part (form : depot.CleanKey bucket key) : CleanPart key :=
  ⟨form.some_, form.moves, form.relative, form.cleaned, form.inward, form.nulFree, form.short⟩

/-- Clean keys over a fresh root, none a proper beginning of another and none on the way to the
root, keep out of each other's way. -/
theorem layout_of_fresh (fresh : depot.FreshRoot system)
    (passed : Validation.bucketName field bucket = .ok ()) {keys : List String}
    (form : ∀ key ∈ keys, depot.CleanKey bucket key)
    (apart : ∀ key ∈ keys, ∀ other ∈ keys, Path.pieces key <+: Path.pieces other → key = other)
    (aside : ∀ key ∈ keys,
      ¬ system.OnWay depot.root (system.target depot.root ++ bucket :: Path.pieces key)) :
    depot.Layout bucket keys system := by
  obtain ⟨clean, single⟩ := CleanPart.of_bucketName passed
  constructor
  case located =>
    intro key used
    exact clean.located (form key used).part
  case fits =>
    intro key used
    exact ⟨clean.path_nulFree (form key used).part fresh.nulFree, (form key used).fits⟩
  case short =>
    intro key used
    exact clean.path_short (form key used).part fresh.short
  case descends =>
    intro key used
    exact clean.path_descends (form key used).part
  case only =>
    intro key used other alsoUsed lead leading same
    have cleanKey := (form key used).part
    rw [clean.target_eq (form other alsoUsed).part] at same
    rcases clean.onWay_cases cleanKey leading with above | ⟨within, rfl, below⟩
    · rw [clean.origin_eq cleanKey, single] at same
      exact (aside other alsoUsed ⟨lead, above, same.symm⟩).elim
    · rw [clean.follow_within cleanKey system below, List.append_cancel_left_eq] at same
      subst same
      have leads := (List.prefix_append_right_inj (Path.pieces bucket)).mp below
      obtain rfl := apart other alsoUsed key used leads
      exact ⟨(clean.path_names cleanKey).symm, rfl⟩

/-- Over a fresh root nothing is in the way, and a client in memory that holds nothing mirrors
it. -/
theorem mirrors_of_fresh (sound : system.Sound) (fresh : depot.FreshRoot system)
    (passed : Validation.bucketName field bucket = .ok ()) {keys : List String}
    (form : ∀ key ∈ keys, depot.CleanKey bucket key) (layout : depot.Layout bucket keys system) :
    depot.Mirrors bucket keys .empty system := by
  obtain ⟨clean, single⟩ := CleanPart.of_bucketName passed
  constructor
  case layout => exact layout
  case sound => exact sound
  case working => rfl
  case held =>
    intro key used content stands
    cases stands
  case absent =>
    intro key used _
    rw [clean.target_eq (form key used).part, single]
    exact fresh.empty _ (List.cons_ne_nil _ _)
  case free =>
    intro key used place onWay _ content
    have cleanKey := (form key used).part
    obtain ⟨lead, leading, rfl⟩ := onWay
    rcases clean.onWay_cases cleanKey leading with above | ⟨within, rfl, below⟩
    · rw [clean.origin_eq cleanKey system]
      exact fresh.free _ ⟨lead, above, rfl⟩ content
    · rw [clean.follow_within cleanKey system below]
      by_cases here : within = []
      · subst here
        rw [List.append_nil]
        exact fresh.free _ (system.onWay_target depot.root) content
      · rw [fresh.empty within here]
        exact fun stands => by cases stands

/-- The way to a root without `..` never leads into the root. -/
theorem aside_of_inward (inward : ".." ∉ Path.pieces depot.root) {below : List String}
    (some_ : below ≠ []) :
    ¬ system.OnWay depot.root (system.target depot.root ++ below) := by
  have plain : ∀ name ∈ Path.names depot.root, name ≠ "." ∧ name ≠ ".." := by
    intro name member
    refine ⟨(Path.means_of_mem_names member).2, ?_⟩
    rintro rfl
    exact inward (List.mem_of_mem_filter member)
  rintro ⟨lead, leading, same⟩
  rw [target, Place.follow_names _ plain,
    Place.follow_names _ fun name member => plain name (leading.subset member),
    List.append_assoc, List.append_cancel_left_eq] at same
  have longer := leading.length_le
  rw [← same, List.length_append] at longer
  exact some_ (List.length_eq_zero_iff.mp (by omega))

/-- Nothing stands in the way of any root where nothing stands at all. -/
theorem freshRoot_of_empty {root : String} (nulFree : '\x00' ∉ root.toList)
    (short : ∀ name ∈ Path.names root, Walk.Short name)
    (named : FileSystem.target ⟨.empty, []⟩ root ≠ []) : FreshRoot ⟨root⟩ ⟨.empty, []⟩ where
  nulFree := nulFree
  short := short
  free place _ content := by
    cases place with
    | nil => rintro ⟨⟩
    | cons name rest =>
        rw [look, Node.look_empty_cons]
        rintro ⟨⟩
  empty below _ := by
    obtain ⟨name, rest, split⟩ := List.exists_cons_of_ne_nil named
    rw [split, List.cons_append, look, Node.look_empty_cons]

end Blob.Local

/-- **Over a fresh root, a directory replies as memory does.** Take any store with a bucket that
passes for one, any fresh root, and any sequence of operations on keys in clean form and within
the limits. If none of the keys is a proper beginning of another, and none leads to a directory
that the path of the root itself goes through, both sessions return the same at every step. -/
theorem Store.replies_eq (depot : Local) (system : FileSystem) (sound : system.Sound)
    (fresh : depot.FreshRoot system) (store : Store) {field : String}
    (passed : Validation.bucketName field store.bucket = .ok ()) (requests : List Store.Request)
    (form : ∀ request ∈ requests, depot.CleanKey store.bucket request.path)
    (apart : ∀ first ∈ requests, ∀ second ∈ requests,
      Path.pieces first.path <+: Path.pieces second.path → first.path = second.path)
    (aside : ∀ request ∈ requests, ¬ system.OnWay depot.root
      (system.target depot.root ++ store.bucket :: Path.pieces request.path)) :
    (Session.run (Store.Request.perform store depot.onDisk) requests system).1 =
      (Session.run (Store.Request.perform store Memory.client) requests .empty).1 := by
  have forms : ∀ key ∈ requests.map Store.Request.path, depot.CleanKey store.bucket key :=
    List.forall_mem_map.mpr form
  have layout : depot.Layout store.bucket (requests.map Store.Request.path) system :=
    Local.layout_of_fresh fresh passed forms
      (List.forall_mem_map.mpr fun first member => List.forall_mem_map.mpr (apart first member))
      (List.forall_mem_map.mpr aside)
  have start := Local.mirrors_of_fresh sound fresh passed forms layout
  have matched : ∀ request ∈ requests, ∀ system memory,
      depot.Mirrors store.bucket (requests.map Store.Request.path) memory system →
      (request.perform store depot.onDisk system).1 =
          (request.perform store Memory.client memory).1 ∧
        depot.Mirrors store.bucket (requests.map Store.Request.path)
          (request.perform store Memory.client memory).2
          (request.perform store depot.onDisk system).2 := by
    intro request member system memory mirrors
    exact mirrors.perform store rfl request (List.mem_map_of_mem member)
  exact (Session.run_related requests matched start).1

/-- A session over a directory that is still to be made, with an object found only while it is
there. -/
theorem Store.replies_eq_fresh :
    (Session.run (Store.Request.perform ⟨"abc", "", true⟩ (Local.onDisk ⟨"new/root"⟩))
        [.get "k/l", .add [1] "k/l", .add [2] "m", .get "k/l", .delete "k/l", .get "k/l"]
        ⟨.empty, []⟩).1 =
      (Session.run (Store.Request.perform ⟨"abc", "", true⟩ Memory.client)
        [.get "k/l", .add [1] "k/l", .add [2] "m", .get "k/l", .delete "k/l", .get "k/l"]
        .empty).1 := by
  have fresh : Local.FreshRoot ⟨"new/root"⟩ ⟨.empty, []⟩ :=
    Local.freshRoot_of_empty (by decide) (by decide) (by decide)
  have passed : Validation.bucketName "bucket" "abc" = .ok () := rfl
  have deep : Local.CleanKey ⟨"new/root"⟩ "abc" "k/l" := ⟨by decide, by decide, by decide,
    by decide, by decide, by decide, by decide, by decide⟩
  have flat : Local.CleanKey ⟨"new/root"⟩ "abc" "m" := ⟨by decide, by decide, by decide, by decide,
    by decide, by decide, by decide, by decide⟩
  have form : ∀ key ∈ ["k/l", "m"], Local.CleanKey ⟨"new/root"⟩ "abc" key :=
    List.forall_mem_cons.mpr ⟨deep, List.forall_mem_singleton.mpr flat⟩
  have apart : ∀ first ∈ ["k/l", "m"], ∀ second ∈ ["k/l", "m"],
      Path.pieces first <+: Path.pieces second → first = second := by decide
  have used : ∀ request ∈ [Store.Request.get "k/l", .add [1] "k/l", .add [2] "m", .get "k/l",
      .delete "k/l", .get "k/l"], request.path ∈ ["k/l", "m"] := by
    simp [Store.Request.path]
  exact Store.replies_eq ⟨"new/root"⟩ ⟨.empty, []⟩ rfl fresh ⟨"abc", "", true⟩ passed _
    (fun request member => form _ (used request member))
    (fun first member second alsoMember =>
      apart _ (used first member) _ (used second alsoMember))
    (fun request _ => Local.aside_of_inward (by decide) (List.cons_ne_nil _ _))

/-- Making the root `abc/x/../..` leaves a directory where the key `x` of the bucket `abc`
belongs, so putting it fails over the directory and succeeds in memory. -/
theorem Store.replies_ne_of_detour :
    Validation.bucketName "bucket" "abc" = .ok () ∧
      FileSystem.openPath ⟨.empty, []⟩ "abc/x/../.." = .error .notFound ∧
      Local.CleanKey ⟨"abc/x/../.."⟩ "abc" "x" ∧
      (Session.run (Store.Request.perform ⟨"abc", "", false⟩ (Local.onDisk ⟨"abc/x/../.."⟩))
          [.add [1] "x"] ⟨.empty, []⟩).1 ≠
        (Session.run (Store.Request.perform ⟨"abc", "", false⟩ Memory.client)
          [.add [1] "x"] .empty).1 := by
  have form : Local.CleanKey ⟨"abc/x/../.."⟩ "abc" "x" := ⟨by decide, by decide, by decide,
    by decide, by decide, by decide, by decide, by decide⟩
  refine ⟨rfl, rfl, form, ?_⟩
  intro same
  have replied := congrArg (fun history => history.map fun event => event.reply.isOk) same
  exact absurd replied (by decide +kernel)

end PipelineDepot
