import Mathlib.Data.List.Forall2
import PipelineDepot.Proofs.Toml.Text
import PipelineDepot.Toml.Statement

/-! # Documents read line by line

A line of a document is written from a statement (`Line.render`), and read back as it
(`Line.States.readUpTo?`), so a document of such lines is read as their statements
(`readAll?_lines`). Where the text of a value is not known to be one, `readUpTo?_quoted` says what
is read from its line on.
-/

namespace PipelineDepot.Toml

/-- The name can be written without quotes. -/
def IsBare (name : String) : Prop := name.toList ≠ [] ∧ ∀ c ∈ name.toList, isKeyChar c = true

instance (name : String) : Decidable (IsBare name) :=
  decidable_of_decidable_of_iff (p := name.toList ≠ [] ∧ name.toList.all isKeyChar = true)
    (and_congr_right' List.all_eq_true)

theorem isGap_of_isKeyChar {c : Char} (key : isKeyChar c = true) : isGap c = false := by
  by_contra gap
  simp only [isGap, Bool.not_eq_false, Bool.or_eq_true, beq_iff_eq] at gap
  obtain rfl | rfl := gap <;> contradiction

theorem skipGap_of_not_isGap {c : Char} (other : isGap c = false) (rest : List Char) :
    skipGap (c :: rest) = c :: rest :=
  List.dropWhile_cons_of_neg (by simp [other])

theorem skipGap_of_bare {name : String} (bare : IsBare name) (rest : List Char) :
    skipGap (name.toList ++ rest) = name.toList ++ rest := by
  obtain ⟨nonempty, key⟩ := bare
  cases same : name.toList with
  | nil => exact absurd same nonempty
  | cons c chars =>
      rw [List.cons_append]
      exact skipGap_of_not_isGap (isGap_of_isKeyChar (key c (by simp [same]))) _

/-- A bare name is read up to the first character that is none of its own. -/
theorem name?_of_bare {name : String} (bare : IsBare name) {c : Char}
    (other : isKeyChar c = false) (rest : List Char) :
    name? (name.toList ++ c :: rest) = some (name, c :: rest) := by
  have taken : (name.toList ++ c :: rest).takeWhile isKeyChar = name.toList := by
    rw [List.takeWhile_append_of_pos bare.2, List.takeWhile_cons_of_neg (by simp [other]),
      List.append_nil]
  unfold name?
  rw [taken]
  split
  next same => exact absurd same bare.1
  next => rw [List.drop_left, String.ofList_toList]

/-- A key as it is written, the names apart by dots. -/
def dotted : KeyPath → List Char
  | [] => []
  | [name] => name.toList
  | name :: path => name.toList ++ '.' :: dotted path

/-- A key of bare names is read back up to a character that does not go on with it. -/
theorem keyPath?_dotted {path : KeyPath} (bare : ∀ name ∈ path, IsBare name) (nonempty : path ≠ [])
    {limit : Nat} (enough : path.length ≤ limit) {c : Char} (other : isKeyChar c = false)
    {rest : List Char} (ended : ∀ more, skipGap (c :: rest) ≠ '.' :: more) :
    keyPath? limit (dotted path ++ c :: rest) = some (path, skipGap (c :: rest)) := by
  induction path using dotted.induct generalizing limit with
  | case1 => contradiction
  | case2 name =>
      cases limit with
      | zero => contradiction
      | succ limit =>
          have first := bare name (List.mem_singleton_self name)
          simp only [keyPath?, dotted, skipGap_of_bare first, name?_of_bare first other,
            Option.bind_eq_bind, Option.bind_some]
          rfl
  | case3 name path more ih =>
      cases limit with
      | zero => contradiction
      | succ limit =>
          obtain ⟨first, later⟩ := List.forall_mem_cons.mp bare
          have read := ih later more (Nat.le_of_succ_le_succ enough)
          have dot (rest : List Char) : skipGap ('.' :: rest) = '.' :: rest := rfl
          have cut : dotted (name :: path) = name.toList ++ '.' :: dotted path := by
            rw [dotted]
            exact more
          rw [cut]
          simp only [keyPath?, skipGap_of_bare first, name?_of_bare first (c := '.') rfl, dot,
            Option.bind_eq_bind, Option.bind_some, List.append_assoc, List.cons_append, read]
          rfl

/-! ## Values -/

/-- A value is read from its text at the end of a line. -/
structure IsValue (written : List Char) (value : Written) : Prop where
  start (rest : List Char) : skipGap (written ++ rest) = written ++ rest
  read (limit depth : Nat) (rest : List Char) :
    value? (limit + 1) depth (written ++ '\n' :: rest) = some (value, '\n' :: rest)

/-- A text between quotes. -/
def quoted (text : List Char) : List Char := '"' :: (text ++ ['"'])

theorem value?_quote (limit depth : Nat) (text : List Char) :
    value? (limit + 1) depth ('"' :: text) =
      (text? ('"' :: text)).map fun (body, rest) =>
        (.scalar (.text (String.ofList body)), rest) := by
  rw [value?]

/-- A text that is spelled out is a value when it is quoted. -/
theorem Spells.isValue {text body : List Char} (spelled : Spells text body) :
    IsValue (quoted text) (.scalar (.text (String.ofList body))) where
  start _ := rfl
  read limit depth rest := by
    have whole : quoted text ++ '\n' :: rest = '"' :: (text ++ '"' :: '\n' :: rest) := by
      simp [quoted]
    rw [whole, value?_quote, spelled.text?]
    rfl

theorem value?_of_isWordChar {c : Char} (word : Scalar.isWordChar c = true) (limit depth : Nat)
    (rest : List Char) :
    value? (limit + 1) depth (c :: rest) =
      (Scalar.ofWord? ((c :: rest).take (Scalar.wordLength (c :: rest)))).map fun datum =>
        (.scalar datum, (c :: rest).drop (Scalar.wordLength (c :: rest))) := by
  rw [value?]
  all_goals
    rintro rest ⟨⟩
    contradiction

theorem isValue_bool (value : Bool) :
    IsValue (toString value).toList (.scalar (.bool value)) where
  start _ := by cases value <;> rfl
  read limit depth rest := by
    cases value with
    | false => exact value?_of_isWordChar (c := 'f') rfl limit depth _
    | true => exact value?_of_isWordChar (c := 't') rfl limit depth _

/-! ## Lines -/

/-- A line of a document as it is written, save that a header has an empty line in front. -/
inductive Line
  | header (path : KeyPath)
  /-- An entry with the text of its value. -/
  | entry (name : String) (written : List Char)

namespace Line

/-- The characters of a line. -/
def render : Line → List Char
  | header path => '\n' :: '[' :: (dotted path ++ [']', '\n'])
  | entry name written => name.toList ++ ' ' :: '=' :: ' ' :: (written ++ ['\n'])

/-- What a line states. -/
inductive States : Line → Statement → Prop
  | header {path : KeyPath} (nonempty : path ≠ []) (bare : ∀ name ∈ path, IsBare name) :
      States (header path) (.header path)
  | entry {name : String} {written : List Char} {value : Written} (bare : IsBare name)
      (valued : IsValue written value) : States (entry name written) (.entry [name] value)

end Line

/-- The character is none of those that may stand between statements. -/
def isInk (c : Char) : Bool := !isGap c && c != '#' && c != '\n' && c != '\r'

theorem isInk_of_isKeyChar {c : Char} (key : isKeyChar c = true) : isInk c = true := by
  by_contra blank
  simp only [isInk, isGap_of_isKeyChar key, Bool.not_false, Bool.true_and, Bool.and_eq_true,
    bne_iff_ne, not_and_or, not_not] at blank
  obtain (rfl | rfl) | rfl := blank <;> contradiction

theorem skipLines_of_isInk {c : Char} (ink : isInk c = true) (limit : Nat) (rest : List Char) :
    skipLines limit (c :: rest) = c :: rest := by
  simp only [isInk, Bool.and_eq_true, Bool.not_eq_true', bne_iff_ne] at ink
  obtain ⟨⟨⟨gap, comment⟩, line⟩, carriage⟩ := ink
  cases limit with
  | zero => rfl
  | succ limit =>
      have no_comment : skipComment (c :: rest) = c :: rest := by
        unfold skipComment
        split
        next same => exact absurd (List.cons.inj same).1 comment
        next => rfl
      have no_end : lineEnd? (c :: rest) = none := by
        unfold lineEnd?
        split
        next same => exact absurd (List.cons.inj same).1 line
        next same => exact absurd (List.cons.inj same).1 carriage
        next => rfl
      simp only [skipLines, skipGap_of_not_isGap gap, no_comment, no_end]

theorem exists_cons_of_bare {name : String} (bare : IsBare name) :
    ∃ c chars, name.toList = c :: chars ∧ isKeyChar c = true := by
  obtain ⟨nonempty, key⟩ := bare
  obtain ⟨c, chars, same⟩ := List.exists_cons_of_ne_nil nonempty
  exact ⟨c, chars, same, key c (by simp [same])⟩

/-- A line that begins with a bare key is an entry. -/
theorem readUpTo?_of_isKeyChar {c : Char} (key : isKeyChar c = true) (limit : Nat)
    (rest : List Char) :
    Statement.readUpTo? (limit + 1) (c :: rest) = (do
      let ((path, value), rest) ← entry? (2 * (c :: rest).length + 2) maxDepth (c :: rest)
      let rest ← Statement.lineRest? rest
      let later ← Statement.readUpTo? limit rest
      return .entry path value :: later) := by
  have inside : skipInside (c :: rest) = c :: rest :=
    skipLines_of_isInk (isInk_of_isKeyChar key) _ _
  have entry : Statement.read? (c :: rest) = (do
      let ((path, value), rest) ← entry? (2 * (c :: rest).length + 2) maxDepth (c :: rest)
      return (.entry path value, rest)) := by
    unfold Statement.read?
    split
    next same =>
      cases same
      contradiction
    next same =>
      cases same
      contradiction
    next => rfl
  simp only [Statement.readUpTo?, inside, entry, Option.bind_eq_bind, Option.bind_assoc]
  rfl

/-- An entry is read by its value. -/
theorem readUpTo?_entry {name : String} (bare : IsBare name) (limit : Nat) {text : List Char}
    (start : skipGap text = text) :
    Statement.readUpTo? (limit + 1) (name.toList ++ ' ' :: '=' :: ' ' :: text) = (do
      let (value, rest) ← value? (2 * (name.toList ++ ' ' :: '=' :: ' ' :: text).length + 1)
        maxDepth text
      let rest ← Statement.lineRest? rest
      let later ← Statement.readUpTo? limit rest
      return .entry [name] value :: later) := by
  have key : keyPath? ((name.toList ++ ' ' :: '=' :: ' ' :: text).length + 1)
      (name.toList ++ ' ' :: '=' :: ' ' :: text) = some ([name], '=' :: ' ' :: text) :=
    have single : ∀ other ∈ [name], IsBare other := List.forall_mem_singleton.mpr bare
    keyPath?_dotted single (List.cons_ne_nil _ _) (Nat.succ_le_succ (Nat.zero_le _)) rfl
      (by rintro _ ⟨⟩)
  have gap : skipGap (' ' :: text) = text := by
    rw [skipGap, List.dropWhile_cons_of_pos rfl]
    exact start
  obtain ⟨c, chars, same, first⟩ := exists_cons_of_bare bare
  rw [same, List.cons_append] at key ⊢
  rw [readUpTo?_of_isKeyChar first]
  simp only [ entry?, key, Option.bind_eq_bind, Option.bind_some, gap, Option.bind_assoc]
  rfl

theorem dotted_cons {name : String} {path : KeyPath} :
    ∃ more, dotted (name :: path) = name.toList ++ more := by
  cases path with
  | nil => exact ⟨[], (List.append_nil _).symm⟩
  | cons next path => exact ⟨'.' :: dotted (next :: path), rfl⟩

/-- An entry between quotes is read by its text. -/
theorem readUpTo?_quoted {name : String} (bare : IsBare name) (limit : Nat)
    (text rest : List Char) :
    Statement.readUpTo? (limit + 1) ((Line.entry name (quoted text)).render ++ rest) = (do
      let (body, rest) ← text? ('"' :: (text ++ '"' :: '\n' :: rest))
      let rest ← Statement.lineRest? rest
      let later ← Statement.readUpTo? limit rest
      return .entry [name] (.scalar (.text (String.ofList body))) :: later) := by
  have line : (Line.entry name (quoted text)).render ++ rest =
      name.toList ++ ' ' :: '=' :: ' ' :: '"' :: (text ++ '"' :: '\n' :: rest) := by
    simp [Line.render, quoted]
  rw [line, readUpTo?_entry bare _ (skipGap_of_not_isGap rfl _), value?_quote]
  simp only [Option.map_eq_bind, Option.bind_eq_bind, Option.bind_assoc]
  rfl

theorem exists_cons_of_dotted {path : KeyPath} (nonempty : path ≠ [])
    (bare : ∀ name ∈ path, IsBare name) :
    ∃ c chars, dotted path = c :: chars ∧ isKeyChar c = true := by
  obtain ⟨name, path, rfl⟩ := List.exists_cons_of_ne_nil nonempty
  obtain ⟨c, chars, same, key⟩ := exists_cons_of_bare (bare name List.mem_cons_self)
  obtain ⟨more, whole⟩ := @dotted_cons name path
  exact ⟨c, chars ++ more, by rw [whole, same]; rfl, key⟩

theorem length_le_dotted {path : KeyPath} (bare : ∀ name ∈ path, IsBare name) :
    path.length ≤ (dotted path).length := by
  induction path using dotted.induct with
  | case1 => exact Nat.le_refl _
  | case2 name => exact List.length_pos_iff.mpr (bare name List.mem_cons_self).1
  | case3 name path more ih =>
      have later := ih fun name member => bare name (List.mem_cons_of_mem _ member)
      rw [dotted, List.length_cons, List.length_append, List.length_cons]
      · omega
      · exact more

/-- A header is read by its key. -/
theorem read?_header {path : KeyPath} (nonempty : path ≠ []) (bare : ∀ name ∈ path, IsBare name)
    (rest : List Char) :
    Statement.read? ('[' :: (dotted path ++ ']' :: rest)) = some (.header path, rest) := by
  have key (limit : Nat) (enough : path.length ≤ limit) :
      keyPath? limit (dotted path ++ ']' :: rest) = some (path, ']' :: rest) :=
    keyPath?_dotted bare nonempty enough rfl (by rintro _ ⟨⟩)
  have counted : path.length ≤ (dotted path ++ ']' :: rest).length + 1 := by
    have shorter := length_le_dotted bare
    rw [List.length_append]
    omega
  obtain ⟨c, chars, same, first⟩ := exists_cons_of_dotted nonempty bare
  unfold Statement.read?
  split
  next inner double =>
    rw [same] at double
    cases double
    contradiction
  next inner single =>
    cases single
    simp only [key _ counted, Option.bind_eq_bind, Option.bind_some]
    rfl
  next _ other => exact absurd rfl (other _)

theorem skipInside_newline {c : Char} (ink : isInk c = true) (rest : List Char) :
    skipInside ('\n' :: c :: rest) = c :: rest :=
  skipLines_of_isInk ink _ _

/-- A line is read as what it states. -/
theorem Line.States.readUpTo? {line : Line} {statement : Statement} (states : line.States statement)
    (limit : Nat) (rest : List Char) :
    Statement.readUpTo? (limit + 1) (line.render ++ rest) =
      (Statement.readUpTo? limit rest).map (statement :: ·) := by
  cases states with
  | @header path nonempty bare =>
      have line : (Line.header path).render ++ rest =
          '\n' :: '[' :: (dotted path ++ ']' :: '\n' :: rest) := by
        simp [render]
      rw [line, Statement.readUpTo?, skipInside_newline rfl]
      simp only [read?_header nonempty bare, Option.bind_eq_bind, Option.bind_some]
      rw [Option.map_eq_bind]
      rfl
  | @entry name written value bare valued =>
      have line : (Line.entry name written).render ++ rest =
          name.toList ++ ' ' :: '=' :: ' ' :: (written ++ '\n' :: rest) := by
        simp [render]
      rw [line, readUpTo?_entry bare _ (valued.start _), valued.read]
      rw [Option.map_eq_bind]
      rfl

/-- Lines are read as what they state. -/
theorem readUpTo?_lines {lines : List Line} {statements : List Statement}
    (states : List.Forall₂ Line.States lines statements) (limit : Nat) (rest : List Char) :
    Statement.readUpTo? (limit + lines.length) (lines.flatMap Line.render ++ rest) =
      (Statement.readUpTo? limit rest).map (statements ++ ·) := by
  induction states with
  | nil => simp
  | cons first _ ih =>
      rw [List.flatMap_cons, List.append_assoc, List.length_cons, ← Nat.add_assoc,
        first.readUpTo?, ih, Option.map_map]
      rfl

theorem Line.render_ne_nil (line : Line) : line.render ≠ [] := by
  cases line with
  | header => exact List.cons_ne_nil _ _
  | entry => exact List.append_ne_nil_of_right_ne_nil _ (List.cons_ne_nil _ _)

/-- Every line takes up something of a document. -/
theorem length_le_render (lines : List Line) :
    lines.length ≤ (lines.flatMap Line.render).length := by
  induction lines with
  | nil => exact Nat.le_refl _
  | cons line lines ih =>
      have := List.length_pos_iff.mpr line.render_ne_nil
      rw [List.flatMap_cons, List.length_append, List.length_cons]
      omega

theorem readAll?_newline (rest : List Char) :
    Statement.readAll? ('\n' :: rest) =
      Statement.readUpTo? (('\n' :: rest).length + 1) ('\n' :: rest) :=
  rfl

/-- A document that begins with a header is read line by line. -/
theorem readAll?_lines {path : KeyPath} {lines : List Line} {statements : List Statement}
    (states : List.Forall₂ Line.States (.header path :: lines) statements) (rest : List Char) :
    ∃ limit, rest.length < limit ∧
      Statement.readAll? ((Line.header path :: lines).flatMap Line.render ++ rest) =
        (Statement.readUpTo? limit rest).map (statements ++ ·) := by
  have short := length_le_render (.header path :: lines)
  generalize whole : (Line.header path :: lines).flatMap Line.render ++ rest = text
  have counted : text.length =
      ((Line.header path :: lines).flatMap Line.render).length + rest.length := by
    rw [← whole, List.length_append]
  have newline : Statement.readAll? text = Statement.readUpTo? (text.length + 1) text := by
    rw [← whole]
    exact readAll?_newline _
  refine ⟨text.length + 1 - (Line.header path :: lines).length, by omega, ?_⟩
  rw [newline, ← readUpTo?_lines states, whole]
  congr 1
  omega

end PipelineDepot.Toml
