import PipelineDepot.Config.Form
import PipelineDepot.Proofs.Association
import PipelineDepot.Proofs.Config.Check

/-! # Records read from named data

A record is read entry by entry: an entry of a known name fills the field of that name, once, and
any other entry is passed over (`IsRecord`). So the fields of what is read depend on the data under
their names and on nothing else (`IsRecord.reads`), and reading succeeds as soon as the data of each
field can be read (`IsRecord.exists_run`).
-/

namespace PipelineDepot

/-- The entries of an object, which are named by texts. -/
def keyed (fields : List (String × Datum)) : List (Datum × Datum) :=
  fields.map fun field => (.text field.1, field.2)

theorem keyed_cons (name : String) (value : Datum) (fields : List (String × Datum)) :
    keyed ((name, value) :: fields) = (.text name, value) :: keyed fields := rfl

/-- The data under a name. -/
def valuesOf (name : String) (fields : List (String × Datum)) : List Datum :=
  (fields.filter (·.1 = name)).map (·.2)

section Values

variable (name : String) (value : Datum) (fields : List (String × Datum))

theorem valuesOf_nil : valuesOf name [] = [] := rfl

theorem valuesOf_cons_self :
    valuesOf name ((name, value) :: fields) = value :: valuesOf name fields := by
  rw [valuesOf, List.filter_cons_of_pos (by simp), List.map_cons, valuesOf]

variable {name} in
theorem valuesOf_cons_of_ne {key : String} (different : key ≠ name) :
    valuesOf name ((key, value) :: fields) = valuesOf name fields := by
  rw [valuesOf, List.filter_cons_of_neg (by simpa using different), valuesOf]

theorem head?_valuesOf : (valuesOf name fields).head? = fields.lookup name := by
  induction fields with
  | nil => rfl
  | cons field fields ih =>
      obtain ⟨key, value⟩ := field
      rw [Association.lookup_cons_ite]
      split
      next same =>
        subst same
        rw [valuesOf_cons_self, List.head?_cons]
      next different => rw [valuesOf_cons_of_ne _ _ (Ne.symm different), ih]

variable {name} in
/-- Leaving out the entries of another name changes nothing under a name. -/
theorem valuesOf_filter_ne {other : String} (different : other ≠ name) :
    valuesOf name (fields.filter (·.1 ≠ other)) = valuesOf name fields := by
  rw [valuesOf, List.filter_filter, valuesOf]
  congr 1
  refine List.filter_congr fun field _ => ?_
  by_cases same : field.1 = name
  · simp [same, Ne.symm different]
  · simp [same]

end Values

/-- What a field holds once the data under its name has been read: nothing if there is none. More
than one datum cannot be read. -/
inductive Reads {α : Type} (read : Datum → Except CodecError α) : List Datum → Option α → Prop
  | nothing : Reads read [] none
  | single {value : Datum} {held : α} (meant : read value = .ok held) :
      Reads read [value] (some held)

/-- The data of a field say what it holds: a single datum that means it, or none where the field may
be left out. -/
inductive Given {α : Type} (Means : Datum → α → Prop) (default? : Option α) :
    List Datum → α → Prop
  | stated {datum : Datum} {value : α} (means : Means datum value) :
      Given Means default? [datum] value
  | omitted {value : α} (unstated : default? = some value) : Given Means default? [] value

/-- A datum is what a value is written as. -/
def Is {α : Type} (write : α → Datum) (datum : Datum) (value : α) : Prop := datum = write value

/-- A datum is read as a value. -/
def ReadAs {α : Type} (read : Datum → Except CodecError α) (datum : Datum) (value : α) : Prop :=
  read datum = .ok value

section Given

variable {α : Type} {Means Other : Datum → α → Prop} {read : Datum → Except CodecError α}
  {default? held : Option α} {data : List Datum} {value : α}

theorem Given.mono (given : Given Means default? data value)
    (step : ∀ datum ∈ data, ∀ value, Means datum value → Other datum value) :
    Given Other default? data value := by
  cases given with
  | stated means => exact .stated (step _ List.mem_cons_self _ means)
  | omitted unstated => exact .omitted unstated

/-- What can be given can be read. -/
theorem Given.reads (given : Given (ReadAs read) default? data value) :
    ∃ held, Reads read data held := by
  cases given with
  | stated means => exact ⟨_, .single means⟩
  | omitted _ => exact ⟨none, .nothing⟩

/-- A field is given exactly what has been read, with the default in place of nothing. -/
theorem Reads.given_iff (reads : Reads read data held) :
    Given (ReadAs read) default? data value ↔ held.or default? = some value := by
  cases reads with
  | nothing =>
      constructor
      · intro given
        cases given with
        | omitted unstated => exact unstated
      · exact .omitted
  | single meant =>
      constructor
      · intro given
        cases given with
        | stated means => exact congrArg some (Except.ok.inj (meant.symm.trans means))
      · intro same
        cases same
        exact .stated meant

/-- Without a default there has to be a datum. -/
theorem given_required_iff {write : α → Datum} :
    Given (Is write) none data value ↔ data = [write value] := by
  constructor
  · intro given
    cases given with
    | stated means => rw [means]
    | omitted unstated => cases unstated
  · rintro rfl
    exact .stated rfl

theorem join_eq_getD {held : Option (Option α)} : held.join = held.getD none := by
  cases held <;> rfl

theorem requireField_eq_ok_iff {name : String} :
    requireField name held = .ok value ↔ held = some value := by
  cases held with
  | none => exact ⟨nofun, nofun⟩
  | some held =>
      rw [requireField, Except.ok.injEq, Option.some.injEq]

theorem checkNoRest_eq_ok_iff {items : List Datum} {count : Nat} :
    checkNoRest items count = .ok () ↔ items.length ≤ count := by
  unfold checkNoRest
  split
  next longer => exact ⟨nofun, fun short => absurd longer (Nat.not_lt.mpr short)⟩
  next short => exact ⟨fun _ => Nat.not_lt.mp short, fun _ => rfl⟩

/-- A place of a list gives its field, and its default where the list has ended. -/
theorem fieldAt_eq_ok_iff {items : List Datum} {index : Nat} {expected : String} :
    fieldAt items index expected default? read = .ok value ↔
      Given (ReadAs read) default? items[index]?.toList value := by
  unfold fieldAt
  cases items[index]? with
  | some datum =>
      constructor
      · intro meant
        exact .stated meant
      · intro given
        cases given with
        | stated means => exact means
  | none =>
      cases default? with
      | none =>
          constructor
          · nofun
          · intro given
            cases given with
            | omitted unstated => cases unstated
      | some other =>
          constructor
          · intro same
            cases same
            exact .omitted rfl
          · intro given
            cases given with
            | omitted unstated => exact congrArg Except.ok (Option.some.inj unstated)

end Given

/-- A field of a record: its name, what is read under that name, and its place. -/
structure Field (σ : Type) where
  {Value : Type}
  name : String
  read : Datum → Except CodecError Value
  get : σ → Option Value
  set : σ → Option Value → σ

namespace Field

variable {σ : Type} (field : Field σ)

/-- Fills a field, which must still be empty. -/
def fill (draft : σ) (value : Datum) : Except CodecError σ := do
  return field.set draft (← fillField field.name (field.get draft) (field.read value))

variable {field} {draft : σ}

/-- A field is filled once, from a value that is read. -/
theorem fill_eq_ok_iff {value : Datum} {next : σ} :
    field.fill draft value = .ok next ↔
      field.get draft = none ∧
        ∃ held, field.read value = .ok held ∧ next = field.set draft (some held) := by
  unfold fill fillField
  cases filled : field.get draft with
  | some held => exact ⟨nofun, nofun⟩
  | none =>
      cases meant : field.read value with
      | error cause => exact ⟨nofun, nofun⟩
      | ok held =>
          constructor
          · intro done
            cases done
            exact ⟨rfl, held, rfl, rfl⟩
          · intro done
            obtain ⟨-, _, ⟨⟩, rfl⟩ := done
            rfl

end Field

/-- A step reads an entry as a field of the record, or passes over it. -/
structure IsRecord {σ : Type} (step : σ → Datum × Datum → Except CodecError σ)
    (record : List (Field σ)) : Prop where
  own : ∀ field ∈ record, ∀ draft value,
    step draft (.text field.name, value) = field.fill draft value
  unknown : ∀ draft key value, key ∉ record.map (·.name) →
    step draft (.text key, value) = .ok draft
  get_set : ∀ field ∈ record, ∀ draft value, field.get (field.set draft value) = value
  apart : ∀ field ∈ record, ∀ other ∈ record, field.name ≠ other.name →
    ∀ draft value, field.get (other.set draft value) = field.get draft

namespace IsRecord

variable {σ : Type} {step : σ → Datum × Datum → Except CodecError σ} {record : List (Field σ)}
  (fills : IsRecord step record) {field : Field σ} (member : field ∈ record)
  {draft next final : σ} {key : String} {value : Datum} {fields : List (String × Datum)}

include fills

include member in
/-- The entry of a field is what fills it. -/
theorem get_of_own (stepped : step draft (.text field.name, value) = .ok next) :
    field.get draft = none ∧ ∃ held, field.read value = .ok held ∧ field.get next = some held := by
  rw [fills.own field member, Field.fill_eq_ok_iff] at stepped
  obtain ⟨empty, held, meant, rfl⟩ := stepped
  exact ⟨empty, held, meant, fills.get_set field member _ _⟩

include member in
/-- An entry of another name leaves a field alone. -/
theorem get_of_other (different : key ≠ field.name)
    (stepped : step draft (.text key, value) = .ok next) : field.get next = field.get draft := by
  by_cases known : key ∈ record.map (·.name)
  · obtain ⟨other, listed, rfl⟩ := List.mem_map.mp known
    rw [fills.own other listed, Field.fill_eq_ok_iff] at stepped
    obtain ⟨-, held, -, rfl⟩ := stepped
    exact fills.apart field member other listed (Ne.symm different) _ _
  · rw [fills.unknown _ _ _ known] at stepped
    cases stepped
    rfl

include member in
/-- A field that is filled stays as it is, and nothing more stands under its name. -/
theorem reads_of_filled {held : field.Value} (filled : field.get draft = some held)
    (run : (keyed fields).foldlM step draft = .ok final) :
    valuesOf field.name fields = [] ∧ field.get final = some held := by
  induction fields generalizing draft with
  | nil =>
      cases run
      exact ⟨rfl, filled⟩
  | cons entry fields ih =>
      obtain ⟨key, value⟩ := entry
      rw [keyed_cons, List.foldlM_cons] at run
      obtain ⟨next, stepped, later⟩ := bind_eq_ok_iff.mp run
      by_cases same : key = field.name
      · subst same
        rw [(fills.get_of_own member stepped).1] at filled
        cases filled
      · rw [valuesOf_cons_of_ne _ _ same]
        exact ih ((fills.get_of_other member same stepped).trans filled) later

include member in
/-- **A field holds what the data under its name is read as.** -/
theorem reads (empty : field.get draft = none)
    (run : (keyed fields).foldlM step draft = .ok final) :
    Reads field.read (valuesOf field.name fields) (field.get final) := by
  induction fields generalizing draft with
  | nil =>
      cases run
      rw [empty]
      exact .nothing
  | cons entry fields ih =>
      obtain ⟨key, value⟩ := entry
      rw [keyed_cons, List.foldlM_cons] at run
      obtain ⟨next, stepped, later⟩ := bind_eq_ok_iff.mp run
      by_cases same : key = field.name
      · subst same
        obtain ⟨-, held, meant, filled⟩ := fills.get_of_own member stepped
        obtain ⟨alone, kept⟩ := fills.reads_of_filled member filled later
        rw [valuesOf_cons_self, alone, kept]
        exact .single meant
      · rw [valuesOf_cons_of_ne _ _ same]
        exact ih ((fills.get_of_other member same stepped).trans empty) later

/-- A step succeeds if the field of the entry, should there be one, can be filled. -/
theorem exists_step
    (ready : ∀ field ∈ record, field.name = key →
      field.get draft = none ∧ ∃ held, field.read value = .ok held) :
    ∃ next, step draft (.text key, value) = .ok next := by
  by_cases known : key ∈ record.map (·.name)
  · obtain ⟨field, member, rfl⟩ := List.mem_map.mp known
    obtain ⟨empty, held, meant⟩ := ready field member rfl
    refine ⟨field.set draft (some held), ?_⟩
    rw [fills.own field member]
    exact Field.fill_eq_ok_iff.mpr ⟨empty, held, meant, rfl⟩
  · exact ⟨draft, fills.unknown _ _ _ known⟩

/-- Reading succeeds if the data of each field can be read. A field that has nothing more to come
need not be empty, which is what the induction asks for. -/
theorem exists_run
    (readable : ∀ field ∈ record, ∃ held, Reads field.read (valuesOf field.name fields) held ∧
      (held.isSome → field.get draft = none)) :
    ∃ final, (keyed fields).foldlM step draft = .ok final := by
  induction fields generalizing draft with
  | nil => exact ⟨draft, rfl⟩
  | cons entry fields ih =>
      obtain ⟨key, value⟩ := entry
      have ready : ∀ field ∈ record, field.name = key →
          (field.get draft = none ∧ ∃ held, field.read value = .ok held) ∧
            valuesOf field.name fields = [] := by
        intro field member named
        subst named
        obtain ⟨held, reads, empty⟩ := readable field member
        rw [valuesOf_cons_self] at reads
        generalize alone : valuesOf field.name fields = later at reads
        cases reads with
        | single meant => exact ⟨⟨empty rfl, _, meant⟩, rfl⟩
      obtain ⟨next, stepped⟩ := fills.exists_step fun field member named =>
        (ready field member named).1
      have rest : ∀ field ∈ record, ∃ held,
          Reads field.read (valuesOf field.name fields) held ∧
            (held.isSome → field.get next = none) := by
        intro field member
        by_cases same : field.name = key
        · rw [(ready field member same).2]
          exact ⟨none, .nothing, nofun⟩
        · obtain ⟨held, reads, empty⟩ := readable field member
          rw [valuesOf_cons_of_ne _ _ (Ne.symm same)] at reads
          refine ⟨held, reads, fun filled => ?_⟩
          rw [fills.get_of_other member (Ne.symm same) stepped]
          exact empty filled
      obtain ⟨final, later⟩ := ih rest
      refine ⟨final, ?_⟩
      rw [keyed_cons, List.foldlM_cons, stepped]
      exact later

/-- An object is read to its end if each of its fields can be read. -/
theorem exists_run_of_empty (empty : ∀ field ∈ record, field.get draft = none)
    (readable : ∀ field ∈ record, ∃ held, Reads field.read (valuesOf field.name fields) held) :
    ∃ final, (keyed fields).foldlM step draft = .ok final := by
  refine fills.exists_run fun field member => ?_
  obtain ⟨held, reads⟩ := readable field member
  exact ⟨held, reads, fun _ => empty field member⟩

include member in
/-- What is read fills a field with what the data give it. -/
theorem given_iff (empty : field.get draft = none)
    (run : (keyed fields).foldlM step draft = .ok final) {default? : Option field.Value}
    {held : field.Value} :
    Given (ReadAs field.read) default? (valuesOf field.name fields) held ↔
      (field.get final).or default? = some held :=
  (fills.reads member empty run).given_iff

include member in
/-- A field without a default holds something only if there is a datum. -/
theorem given_none_iff (empty : field.get draft = none)
    (run : (keyed fields).foldlM step draft = .ok final) {held : field.Value} :
    Given (ReadAs field.read) none (valuesOf field.name fields) held ↔
      field.get final = some held := by
  rw [fills.given_iff member empty run, Option.or_none]

include member in
/-- A field with a default always holds something in the end. -/
theorem given_default_iff (empty : field.get draft = none)
    (run : (keyed fields).foldlM step draft = .ok final) {default held : field.Value} :
    Given (ReadAs field.read) (some default) (valuesOf field.name fields) held ↔
      (field.get final).getD default = held := by
  rw [fills.given_iff member empty run, Option.or_some, Option.some.injEq]

end IsRecord

end PipelineDepot
