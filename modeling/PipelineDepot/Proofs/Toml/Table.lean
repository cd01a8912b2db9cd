import PipelineDepot.Proofs.Association
import PipelineDepot.Toml.Table

/-! # What the statements of a document leave in place

A statement of a document takes no value out of its tables and replaces none, and the only value
that it may put in is its own (`Draft.grows_follow`). So a value that a document has once been given
is the one that is read from it, wherever the document goes on from there (`Draft.grows_foldlM`).
-/

namespace PipelineDepot.Toml

/-- The value at a path of tables. -/
def Entries.valueAt : KeyPath → Entries → Option Datum
  | [], _ => none
  | name :: path, entries =>
    match entries.lookup name with
    | some (.value datum) => if path = [] then some datum else none
    | some (.table _ inner) => valueAt path inner
    | _ => none

/-- The value at a path behind what stands under a name. -/
def Node.valueAt (path : KeyPath) : Option Node → Option Datum
  | some (.value datum) => if path = [] then some datum else none
  | some (.table _ inner) => Entries.valueAt path inner
  | _ => none

namespace Entries

open Association (lookup_cons_ite)

theorem valueAt_cons (name : String) (path : KeyPath) (entries : Entries) :
    valueAt (name :: path) entries = Node.valueAt path (entries.lookup name) := by
  cases found : entries.lookup name with
  | none => simp only [valueAt, Node.valueAt, found]
  | some node => cases node <;> simp only [valueAt, Node.valueAt, found]

/-- A value that is not in the entries themselves is in one of their tables. -/
theorem table_of_valueAt {name next : String} {path : KeyPath} {entries : Entries} {datum : Datum}
    (known : valueAt (name :: next :: path) entries = some datum) :
    ∃ origin inner, entries.lookup name = some (.table origin inner) ∧
      valueAt (next :: path) inner = some datum := by
  rw [valueAt_cons] at known
  cases found : entries.lookup name with
  | none =>
      rw [found] at known
      contradiction
  | some node =>
      rw [found] at known
      cases node with
      | value => contradiction
      | table origin inner => exact ⟨origin, inner, rfl, known⟩
      | tables => contradiction

/-- Setting an entry changes that one and no other. -/
theorem lookup_setEntry (name other : String) (node : Node) (entries : Entries) :
    (setEntry name node entries).lookup other =
      if other = name then some node else entries.lookup other := by
  induction entries with
  | nil => simp only [setEntry, lookup_cons_ite]
  | cons entry entries ih =>
      obtain ⟨first, kept⟩ := entry
      unfold setEntry
      split
      next same =>
        subst same
        simp only [lookup_cons_ite]
        split <;> rfl
      next apart =>
        split
        next => simp only [lookup_cons_ite]
        next =>
          simp only [lookup_cons_ite, ih]
          split
          next same => rw [if_neg fun other => apart (other.symm.trans same)]
          next => rfl

/-- The entries have the values that others have, and each new one is allowed. -/
structure Grows (allowed : Datum → Prop) (old new : Entries) : Prop where
  kept {path : KeyPath} {datum : Datum} (known : valueAt path old = some datum) :
    valueAt path new = some datum
  fresh {path : KeyPath} {datum : Datum} (known : valueAt path new = some datum) :
    valueAt path old = some datum ∨ allowed datum

variable {allowed : Datum → Prop}

theorem Grows.refl (entries : Entries) : Grows allowed entries entries :=
  ⟨id, .inl⟩

theorem Grows.trans {old middle new : Entries} (first : Grows allowed old middle)
    (later : Grows allowed middle new) : Grows allowed old new where
  kept known := later.kept (first.kept known)
  fresh known := (later.fresh known).elim first.fresh .inr

theorem Grows.mono {wider : Datum → Prop} (wide : ∀ datum, allowed datum → wider datum)
    {old new : Entries} (grown : Grows allowed old new) : Grows wider old new where
  kept := grown.kept
  fresh known := (grown.fresh known).imp_right (wide _)

/-- Entries grow by a node that has the values of the one before. -/
theorem grows_setEntry {name : String} {node : Node} {entries : Entries}
    (kept : ∀ path datum, Node.valueAt path (entries.lookup name) = some datum →
      Node.valueAt path (some node) = some datum)
    (fresh : ∀ path datum, Node.valueAt path (some node) = some datum →
      Node.valueAt path (entries.lookup name) = some datum ∨ allowed datum) :
    Grows allowed entries (setEntry name node entries) where
  kept {path datum} known := by
    cases path with
    | nil => contradiction
    | cons first path =>
        rw [valueAt_cons] at known ⊢
        rw [lookup_setEntry]
        split
        next same =>
          subst same
          exact kept path datum known
        next => exact known
  fresh {path datum} known := by
    cases path with
    | nil => contradiction
    | cons first path =>
        rw [valueAt_cons] at known ⊢
        rw [lookup_setEntry] at known
        split at known
        next same =>
          subst same
          exact fresh path datum known
        next => exact .inl known

end Entries

/-- What a change makes of entries has grown. -/
def Change.Grows (allowed : Datum → Prop) (change : Change) : Prop :=
  ∀ ⦃origin entries origin' entries'⦄, change origin entries = some (origin', entries') →
    Entries.Grows allowed entries entries'

variable {allowed : Datum → Prop}

/-- A change grows the tables it is made in when it grows the entries it leads to. -/
theorem grows_changeAt {change : Change} (grows : change.Grows allowed) (viaDots : Bool)
    (path : KeyPath) : Change.Grows allowed (changeAt viaDots change path) := by
  induction path with
  | nil => exact grows
  | cons name path ih =>
      intro origin entries origin' entries' changed
      simp only [changeAt] at changed
      split at changed
      next missing =>
        obtain ⟨⟨made, inner⟩, inside, same⟩ := Option.bind_eq_some_iff.mp changed
        cases same
        apply Entries.grows_setEntry
        · intro path datum known
          rw [missing] at known
          contradiction
        · intro path datum known
          right
          cases path with
          | nil => contradiction
          | cons => exact ((ih inside).fresh known).resolve_left (by simp [Entries.valueAt])
      next => contradiction
      next made inner found =>
        split at changed
        next => contradiction
        next =>
          obtain ⟨⟨made, inner⟩, inside, same⟩ := Option.bind_eq_some_iff.mp changed
          cases same
          apply Entries.grows_setEntry
          · intro path datum known
            rw [found] at known
            exact (ih inside).kept known
          · intro path datum known
            rw [found]
            exact (ih inside).fresh known
      next last others found =>
        obtain ⟨⟨_, inner⟩, inside, same⟩ := Option.bind_eq_some_iff.mp changed
        cases same
        apply Entries.grows_setEntry
        · intro path datum known
          rw [found] at known
          contradiction
        · intro path datum known
          contradiction

/-- A new entry puts in its own value and nothing else. -/
theorem grows_addEntry (name : String) (datum : Datum) (viaDots : Bool) :
    Change.Grows (· = datum) (addEntry name (.value datum) viaDots) := by
  intro origin entries origin' entries' changed
  unfold addEntry at changed
  split at changed
  next => contradiction
  next free =>
    cases changed
    have missing : entries.lookup name = none := by
      rw [not_or, Option.not_isSome_iff_eq_none] at free
      exact free.2
    apply Entries.grows_setEntry
    · intro path old known
      rw [missing] at known
      contradiction
    · intro path new known
      right
      simp only [Node.valueAt] at known
      split at known
      next => exact (Option.some.inj known).symm
      next => contradiction

theorem grows_addTable (name : String) : Change.Grows (fun _ => False) (addTable name) := by
  intro origin entries origin' entries' changed
  unfold addTable at changed
  split at changed
  next missing =>
    cases changed
    apply Entries.grows_setEntry
    · intro path old known
      rw [missing] at known
      contradiction
    · intro path new known
      cases path <;> contradiction
  next inner found =>
    cases changed
    apply Entries.grows_setEntry
    · intro path old known
      rw [found] at known
      exact known
    · intro path new known
      rw [found]
      exact .inl known
  next => contradiction

theorem grows_addListTable (name : String) : Change.Grows (fun _ => False) (addListTable name) := by
  intro origin entries origin' entries' changed
  unfold addListTable at changed
  split at changed
  next missing =>
    cases changed
    apply Entries.grows_setEntry
    · intro path old known
      rw [missing] at known
      contradiction
    · intro path new known
      contradiction
  next last others found =>
    cases changed
    apply Entries.grows_setEntry
    · intro path old known
      rw [found] at known
      contradiction
    · intro path new known
      contradiction
  next => contradiction

theorem grows_addAt (path : KeyPath) (datum : Datum) :
    Change.Grows (· = datum) (addAt path (.value datum)) := by
  intro origin entries origin' entries' changed
  unfold addAt at changed
  split at changed
  next => contradiction
  next => exact grows_changeAt (grows_addEntry _ _ _) _ _ changed

theorem Written.eq_scalar_of_datum? {value : Written} {text : String}
    (meant : value.datum? = some (.text text)) : value = .scalar (.text text) := by
  cases value with
  | scalar datum =>
      cases meant
      rfl
  | list =>
      obtain ⟨_, _, same⟩ := Option.map_eq_some_iff.mp meant
      cases same
  | table =>
      obtain ⟨_, _, same⟩ := Option.map_eq_some_iff.mp meant
      cases same

namespace Draft

/-- The value that a statement puts in. -/
def Puts (statement : Statement) (datum : Datum) : Prop :=
  ∃ path value, statement = .entry path value ∧ value.datum? = some datum

theorem grows_change {change : Change} (grows : change.Grows allowed) {draft : Draft}
    {path : KeyPath} {entries : Entries} (changed : draft.change path change = some entries) :
    Entries.Grows allowed draft.entries entries := by
  obtain ⟨⟨_, _⟩, made, same⟩ := Option.map_eq_some_iff.mp changed
  cases same
  exact grows_changeAt grows _ _ made

/-- A statement keeps each value and puts in at most its own. -/
theorem grows_follow {draft next : Draft} {statement : Statement}
    (followed : draft.follow statement = some next) :
    Entries.Grows (Puts statement) draft.entries next.entries := by
  cases statement with
  | entry path value =>
      obtain ⟨datum, meant, followed⟩ := Option.bind_eq_some_iff.mp followed
      obtain ⟨entries, changed, same⟩ := Option.bind_eq_some_iff.mp followed
      cases same
      exact (grows_change (grows_addAt path datum) changed).mono fun other same =>
        ⟨path, value, rfl, by rw [same, meant]⟩
  | header path =>
      obtain ⟨name, _, followed⟩ := Option.bind_eq_some_iff.mp followed
      obtain ⟨entries, changed, same⟩ := Option.bind_eq_some_iff.mp followed
      cases same
      exact (grows_change (grows_addTable name) changed).mono fun _ => False.elim
  | listHeader path =>
      obtain ⟨name, _, followed⟩ := Option.bind_eq_some_iff.mp followed
      obtain ⟨entries, changed, same⟩ := Option.bind_eq_some_iff.mp followed
      cases same
      exact (grows_change (grows_addListTable name) changed).mono fun _ => False.elim

/-- Statements keep each value and put in no others than their own. -/
theorem grows_foldlM {statements : List Statement} {draft final : Draft}
    (followed : statements.foldlM follow draft = some final) :
    Entries.Grows (fun datum => ∃ statement ∈ statements, Puts statement datum)
      draft.entries final.entries := by
  induction statements generalizing draft with
  | nil =>
      cases followed
      exact .refl _
  | cons statement statements ih =>
      rw [List.foldlM_cons] at followed
      obtain ⟨next, first, later⟩ := Option.bind_eq_some_iff.mp followed
      apply Entries.Grows.trans
      · exact (grows_follow first).mono fun _ puts => ⟨statement, List.mem_cons_self, puts⟩
      · exact (ih later).mono fun _ ⟨other, member, puts⟩ =>
          ⟨other, List.mem_cons_of_mem _ member, puts⟩

end Draft

end PipelineDepot.Toml
