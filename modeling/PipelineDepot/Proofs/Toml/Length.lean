import PipelineDepot.Proofs.Toml.Text
import PipelineDepot.Toml.Statement

/-! # How much of a document is read

No reader gives back more than it is given (`Takes`), so all that is read of a document is read
from it once, and each text in it is shorter than the document by its quotes at least
(`Statement.length_text_of_mem`).
-/

namespace PipelineDepot.Toml

theorem length_skipGap_le (text : List Char) : (skipGap text).length ≤ text.length :=
  (List.dropWhile_suffix _).length_le

theorem length_skipComment_le (text : List Char) : (skipComment text).length ≤ text.length := by
  unfold skipComment
  split
  next rest => exact Nat.le_succ_of_le (List.dropWhile_suffix _).length_le
  next => exact Nat.le_refl _

theorem length_lineEnd?_lt {text rest : List Char} (found : lineEnd? text = some rest) :
    rest.length < text.length := by
  obtain ⟨taken, something, rfl⟩ := lineEnd?_suffix found
  have := List.length_pos_iff.mpr something
  rw [List.length_append]
  omega

theorem length_skipLines_le (limit : Nat) (text : List Char) :
    (skipLines limit text).length ≤ text.length := by
  induction limit generalizing text with
  | zero => exact Nat.le_refl _
  | succ limit ih =>
      have shorter := (length_skipComment_le (skipGap text)).trans (length_skipGap_le text)
      simp only [skipLines]
      split
      next => exact shorter
      next ended => exact (ih _).trans ((length_lineEnd?_lt ended).le.trans shorter)

theorem length_skipInside_le (text : List Char) : (skipInside text).length ≤ text.length :=
  length_skipLines_le _ _

/-- Skipping inside a list gives back no more than it is given. -/
theorem length_le_of_skipInside {text rest : List Char} {c : Char}
    (inside : skipInside text = c :: rest) : rest.length ≤ text.length := by
  have shorter := length_skipInside_le text
  rw [inside] at shorter
  exact Nat.le_of_succ_le shorter

/-- A reader gives back no more than it is given. -/
def Takes {α : Type} (read : List Char → Option (α × List Char)) : Prop :=
  ∀ ⦃text value rest⦄, read text = some (value, rest) → rest.length ≤ text.length

theorem takes_text? : Takes text? := by
  intro text body rest found
  have := text?_length_le found
  omega

theorem takes_name? : Takes name? := by
  intro text name rest found
  unfold name? at found
  split at found
  next =>
    obtain ⟨⟨body, _⟩, read, same⟩ := Option.map_eq_some_iff.mp found
    cases same
    have := shortText?_length_le read
    omega
  next =>
    cases found
    exact (List.drop_suffix _ _).length_le

theorem takes_keyPath? (limit : Nat) : Takes (keyPath? limit) := by
  induction limit with
  | zero => rintro text path rest ⟨⟩
  | succ limit ih =>
      intro text path rest found
      simp only [keyPath?, Option.bind_eq_bind, Option.bind_eq_some_iff] at found
      obtain ⟨⟨name, behind⟩, first, found⟩ := found
      have named := (takes_name? first).trans (length_skipGap_le text)
      have gap := (length_skipGap_le behind).trans named
      split at found
      next more dotted =>
        obtain ⟨⟨path, _⟩, later, same⟩ := Option.bind_eq_some_iff.mp found
        cases same
        rw [dotted] at gap
        exact (ih later).trans ((Nat.le_succ _).trans gap)
      next =>
        cases found
        exact gap

section Values

variable {limit : Nat} (value : ∀ depth, Takes (value? limit depth))
  (items : ∀ depth, Takes (items? limit depth)) (entries : ∀ depth, Takes (entries? limit depth))
  (entry : ∀ depth, Takes ( entry? limit depth))

include items entries in
theorem takes_value?_succ (depth : Nat) : Takes (value? (limit + 1) depth) := by
  intro text read rest found
  rw [value?.eq_def] at found
  dsimp only at found
  split at found
  next =>
    split at found
    next => contradiction
    next =>
      obtain ⟨⟨_, _⟩, read, same⟩ := Option.map_eq_some_iff.mp found
      cases same
      exact Nat.le_succ_of_le (items _ read)
  next =>
    split at found
    next => contradiction
    next =>
      obtain ⟨⟨_, _⟩, read, same⟩ := Option.map_eq_some_iff.mp found
      cases same
      exact Nat.le_succ_of_le (entries _ read)
  case h_3 | h_4 =>
    obtain ⟨⟨_, _⟩, read, same⟩ := Option.map_eq_some_iff.mp found
    cases same
    exact takes_text? read
  next =>
    obtain ⟨_, _, same⟩ := Option.map_eq_some_iff.mp found
    cases same
    exact (List.drop_suffix _ _).length_le

include value items in
theorem takes_items?_succ (depth : Nat) : Takes (items? (limit + 1) depth) := by
  intro text read rest found
  rw [items?.eq_def] at found
  dsimp only at found
  split at found
  next closed =>
    cases found
    exact length_le_of_skipInside closed
  next =>
    obtain ⟨⟨_, behind⟩, first, found⟩ := Option.bind_eq_some_iff.mp found
    have taken := (value _ first).trans (length_skipInside_le text)
    dsimp only at found
    split at found
    next comma =>
      obtain ⟨⟨_, _⟩, later, same⟩ := Option.bind_eq_some_iff.mp found
      cases same
      exact (items _ later).trans ((length_le_of_skipInside comma).trans taken)
    next closed =>
      cases found
      exact (length_le_of_skipInside closed).trans taken
    next => contradiction

include entry entries in
theorem takes_entries?_succ (depth : Nat) : Takes (entries? (limit + 1) depth) := by
  intro text read rest found
  rw [entries?.eq_def] at found
  dsimp only at found
  split at found
  next closed =>
    cases found
    exact length_le_of_skipInside closed
  next =>
    obtain ⟨⟨_, behind⟩, first, found⟩ := Option.bind_eq_some_iff.mp found
    have taken := (entry _ first).trans (length_skipInside_le text)
    dsimp only at found
    split at found
    next comma =>
      obtain ⟨⟨_, _⟩, later, same⟩ := Option.bind_eq_some_iff.mp found
      cases same
      exact (entries _ later).trans ((length_le_of_skipInside comma).trans taken)
    next closed =>
      cases found
      exact (length_le_of_skipInside closed).trans taken
    next => contradiction

include value in
theorem takes_entry?_succ (depth : Nat) : Takes ( entry? (limit + 1) depth) := by
  intro text read rest found
  rw [ entry?.eq_def] at found
  obtain ⟨⟨path, behind⟩, key, found⟩ := Option.bind_eq_some_iff.mp found
  have taken := takes_keyPath? _ key
  dsimp only at found
  split at found
  next =>
    obtain ⟨⟨_, _⟩, read, same⟩ := Option.bind_eq_some_iff.mp found
    cases same
    exact (value _ read).trans ((length_skipGap_le _).trans ((Nat.le_succ _).trans taken))
  next => contradiction

end Values

/-- No reader of a value gives back more than it is given, by induction on the limit. -/
theorem takes_values (limit : Nat) :
    (∀ depth, Takes (value? limit depth)) ∧ (∀ depth, Takes (items? limit depth)) ∧
      (∀ depth, Takes (entries? limit depth)) ∧ (∀ depth, Takes ( entry? limit depth)) := by
  induction limit with
  | zero =>
      refine ⟨?_, ?_, ?_, ?_⟩ <;> intro depth text value rest found
      · rw [value?] at found
        contradiction
      · rw [items?] at found
        contradiction
      · rw [entries?] at found
        contradiction
      · rw [ entry?] at found
        contradiction
  | succ limit ih =>
      obtain ⟨value, items, entries, entry⟩ := ih
      exact ⟨takes_value?_succ items entries, takes_items?_succ value items,
        takes_entries?_succ entries entry, takes_entry?_succ value⟩

/-! ## The texts of a document -/

theorem ofWord?_ne_text (word : List Char) (value : String) :
    Scalar.ofWord? word ≠ some (.text value) := by
  intro same
  unfold Scalar.ofWord? at same
  split at same
  next => cases same
  next =>
    split at same
    next => cases same
    next =>
      split at same
      next => cases same
      next =>
        split at same
        next => cases same
        next =>
          obtain ⟨_, _, same⟩ := Option.map_eq_some_iff.mp same
          cases same

/-- A text is shorter than what it is read from. -/
theorem length_text_of_value? {limit depth : Nat} {text rest : List Char} {value : String}
    (found : value? limit depth text = some (.scalar (.text value), rest)) :
    value.length + 2 ≤ text.length := by
  cases limit with
  | zero =>
      rw [value?] at found
      contradiction
  | succ limit =>
      rw [value?.eq_def] at found
      dsimp only at found
      split at found
      case h_1 | h_2 =>
        split at found
        next => contradiction
        next =>
          obtain ⟨_, _, same⟩ := Option.map_eq_some_iff.mp found
          cases same
      case h_3 | h_4 =>
        obtain ⟨_, read, same⟩ := Option.map_eq_some_iff.mp found
        cases same
        have := text?_length_le read
        rw [String.length_ofList]
        omega
      next =>
        obtain ⟨_, word, same⟩ := Option.map_eq_some_iff.mp found
        cases same
        exact absurd word (ofWord?_ne_text _ _)

namespace Statement

theorem length_lineRest?_le {text rest : List Char} (found : lineRest? text = some rest) :
    rest.length ≤ text.length := by
  have shorter := (length_skipComment_le (skipGap text)).trans (length_skipGap_le text)
  unfold lineRest? at found
  split at found
  next =>
    cases found
    exact Nat.zero_le _
  next => exact (length_lineEnd?_lt found).le.trans shorter

/-- Reading a statement takes something of the text. -/
theorem takes_read? : Takes read? := by
  intro text statement rest found
  unfold read? at found
  split at found
  case h_1 | h_2 =>
    obtain ⟨⟨_, behind⟩, key, found⟩ := Option.bind_eq_some_iff.mp found
    have taken := takes_keyPath? _ key
    dsimp only at found
    split at found
    next =>
      cases found
      simp only [List.length_cons] at taken ⊢
      omega
    next => contradiction
  next =>
    obtain ⟨⟨⟨_, _⟩, _⟩, entry, same⟩ := Option.bind_eq_some_iff.mp found
    cases same
    exact (takes_values _).2.2.2 _ entry

/-- A text that is read is shorter than what it is read from, by its quotes at least. -/
theorem length_text_of_read? {text rest : List Char} {path : KeyPath} {value : String}
    (found : read? text = some (.entry path (.scalar (.text value)), rest)) :
    value.length + 2 ≤ text.length := by
  unfold read? at found
  split at found
  case h_1 | h_2 =>
    obtain ⟨_, _, found⟩ := Option.bind_eq_some_iff.mp found
    dsimp only at found
    split at found <;> cases found
  next =>
    obtain ⟨⟨⟨_, _⟩, _⟩, entry, same⟩ := Option.bind_eq_some_iff.mp found
    cases same
    rw [ entry?.eq_def] at entry
    obtain ⟨⟨_, behind⟩, key, entry⟩ := Option.bind_eq_some_iff.mp entry
    have taken := takes_keyPath? _ key
    dsimp only at entry
    split at entry
    next more =>
      obtain ⟨⟨_, _⟩, read, same⟩ := Option.bind_eq_some_iff.mp entry
      cases same
      have shorter := length_text_of_value? read
      have gap := length_skipGap_le more
      simp only [List.length_cons] at taken
      omega
    next => contradiction

/-- No text of a document is longer than the document. -/
theorem length_text_of_mem {limit : Nat} {text : List Char} {statements : List Statement}
    (found : readUpTo? limit text = some statements) {path : KeyPath} {value : String}
    (member : .entry path (.scalar (.text value)) ∈ statements) :
    value.length + 2 ≤ text.length := by
  induction limit generalizing text statements with
  | zero => contradiction
  | succ limit ih =>
      have inside := length_skipInside_le text
      unfold readUpTo? at found
      split at found
      next =>
        cases found
        cases member
      next =>
        obtain ⟨⟨statement, behind⟩, first, found⟩ := Option.bind_eq_some_iff.mp found
        obtain ⟨next, ended, found⟩ := Option.bind_eq_some_iff.mp found
        obtain ⟨later, rest, same⟩ := Option.bind_eq_some_iff.mp found
        cases same
        obtain rfl | member := List.mem_cons.mp member
        · exact (length_text_of_read? first).trans inside
        · exact (ih rest member).trans
            ((length_lineRest?_le ended).trans ((takes_read? first).trans inside))

end Statement

end PipelineDepot.Toml
