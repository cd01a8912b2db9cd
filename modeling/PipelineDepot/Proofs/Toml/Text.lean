import PipelineDepot.Toml.Text
import Mathlib.Data.List.TakeWhile

/-! # What a text between quotes is read as

A text on one line between quotes is read as what it spells, and only so: `basicBody` takes the
part up to the closing quote, in which each character stands for itself or is escaped
(`basicBody_eq_some`, `Spells.basicBody`). A text is its own spelling exactly when it is plain, and
no other spelling is as short as what it spells.
-/

namespace PipelineDepot.Toml

/-! ## Spelling -/

/-- The character stands for itself between quotes. -/
def isPlain (c : Char) : Bool := c != '"' && c != '\\' && !isRefused c

/-- Each character of the text stands for itself between quotes. -/
def Plain (text : List Char) : Prop := ∀ c ∈ text, isPlain c = true

instance (text : List Char) : Decidable (Plain text) :=
  decidable_of_decidable_of_iff (p := text.all isPlain = true) List.all_eq_true

/-- What stands behind a backslash is an escape of the character, whatever follows it. -/
structure IsEscape (text : List Char) (c : Char) : Prop where
  nonempty : text ≠ []
  one_line : '\n' ∉ text
  meant (rest : List Char) : escaped? (text ++ rest) = some (c, rest)

/-- A text between quotes and what it spells, each character by itself or by an escape. -/
inductive Spells : List Char → List Char → Prop
  | nil : Spells [] []
  | itself {c : Char} {text body : List Char} (plain : isPlain c = true)
      (later : Spells text body) : Spells (c :: text) (c :: body)
  | escaped {c : Char} {taken text body : List Char} (escape : IsEscape taken c)
      (later : Spells text body) : Spells ('\\' :: (taken ++ text)) (c :: body)

/-- A plain text spells itself. -/
theorem Plain.spells {text : List Char} (plain : Plain text) : Spells text text := by
  induction text with
  | nil => exact .nil
  | cons c text ih =>
      obtain ⟨first, later⟩ := List.forall_mem_cons.mp plain
      exact .itself first (ih later)

namespace Spells

variable {text body : List Char}

/-- A spelling is no shorter than what it spells. -/
theorem length_le (spelled : Spells text body) : body.length ≤ text.length := by
  induction spelled with
  | nil => exact Nat.le_refl _
  | itself _ _ ih => simpa only [List.length_cons, Nat.add_le_add_iff_right] using ih
  | escaped _ _ ih =>
      simp only [List.length_append, List.length_cons]
      omega

/-- A text that is spelled out stays on its line. -/
theorem one_line (spelled : Spells text body) : '\n' ∉ text := by
  induction spelled with
  | nil => exact List.not_mem_nil
  | itself plain _ ih =>
      rw [List.mem_cons, not_or]
      refine ⟨?_, ih⟩
      rintro rfl
      contradiction
  | escaped escape _ ih =>
      simp only [List.mem_cons, List.mem_append, Char.reduceEq, escape.one_line, ih, or_self,
        not_false_eq_true]

/-- A spelling as short as what it spells is plain. -/
theorem plain_of_length_le (spelled : Spells text body) (short : text.length ≤ body.length) :
    Plain body := by
  induction spelled with
  | nil => exact fun _ member => absurd member List.not_mem_nil
  | itself plain _ ih =>
      rw [List.length_cons, List.length_cons, Nat.add_le_add_iff_right] at short
      exact List.forall_mem_cons.mpr ⟨plain, ih short⟩
  | escaped escape later _ =>
      have taken := List.length_pos_iff.mpr escape.nonempty
      have shorter := later.length_le
      simp only [List.length_append, List.length_cons] at short
      omega

end Spells

/-! ## Escapes -/

theorem digit?_of_digitsFrom? {radix before value : Nat} {digits : List Char}
    (found : Text.digitsFrom? radix before digits = some value) {c : Char} (member : c ∈ digits) :
    (Text.digit? c).isSome := by
  induction digits generalizing before with
  | nil => cases member
  | cons first digits ih =>
      unfold Text.digitsFrom? at found
      split at found
      next => contradiction
      next digit known =>
        split at found
        next =>
          obtain rfl | later := List.mem_cons.mp member
          · rw [known]
            rfl
          · exact ih found later
        next => contradiction

theorem firstDigits?_append {radix count : Nat} {digits : List Char}
    (counted : digits.length = count) (rest : List Char) :
    Text.firstDigits? radix count (digits ++ rest) = Text.digits? radix digits := by
  simp only [Text.firstDigits?, List.take_left' counted, counted, Nat.lt_irrefl, ↓reduceIte]

/-- A code point is read from its digits, whatever follows them. -/
theorem codePoint?_eq_some {count : Nat} {text rest : List Char} {c : Char}
    (found : codePoint? count text = some (c, rest)) :
    ∃ digits, '\n' ∉ digits ∧ text = digits ++ rest ∧
      ∀ rest, codePoint? count (digits ++ rest) = some (c, rest) := by
  simp only [codePoint?, Option.bind_eq_bind, Option.bind_eq_some_iff] at found
  obtain ⟨code, read, c, known, same⟩ := found
  cases same
  simp only [Text.firstDigits?] at read
  split at read
  next => contradiction
  next enough =>
    have counted : (text.take count).length = count :=
      List.length_take_of_le ((Nat.le_of_not_lt enough).trans (List.length_take_le' _ _))
    refine ⟨text.take count, ?_, (List.take_append_drop _ _).symm, fun rest => ?_⟩
    · intro member
      unfold Text.digits? at read
      split at read
      next => contradiction
      next => exact absurd (digit?_of_digitsFrom? read member) (by decide)
    · simp only [codePoint?, firstDigits?_append counted, read, known, List.drop_left' counted,
        Option.bind_eq_bind, Option.bind_some]
      rfl

/-- What an escape is read from is one. -/
theorem escaped?_eq_some {text rest : List Char} {c : Char}
    (found : escaped? text = some (c, rest)) :
    ∃ taken, IsEscape taken c ∧ text = taken ++ rest := by
  cases text with
  | nil => cases found
  | cons letter text =>
      simp only [escaped?] at found
      split at found
      next meant known =>
        cases found
        refine ⟨[letter], ⟨List.cons_ne_nil _ _, ?_, fun rest => ?_⟩, rfl⟩
        · rw [List.mem_singleton]
          rintro rfl
          contradiction
        · simp only [escaped?, List.cons_append, List.nil_append, known]
      next count unnamed counted =>
        obtain ⟨digits, one_line, rfl, again⟩ := codePoint?_eq_some found
        refine ⟨letter :: digits, ⟨List.cons_ne_nil _ _, ?_, fun rest => ?_⟩, rfl⟩
        · rw [List.mem_cons, not_or]
          refine ⟨?_, one_line⟩
          rintro rfl
          contradiction
        · simp only [escaped?, List.cons_append, unnamed, counted, again rest]
      next => contradiction

/-- The escape of a character with a code below 256, behind its backslash. -/
def codeEscape (c : Char) : List Char :=
  ['u', '0', '0', Nat.digitChar (c.toNat / 16), Nat.digitChar (c.toNat % 16)]

theorem digit?_digitChar {n : Nat} (small : n < 16) : Text.digit? (Nat.digitChar n) = some n := by
  decide +revert

theorem charOfCode?_toNat (c : Char) : Text.charOfCode? c.toNat = some c := by
  have valid : c.toNat.isValidChar := c.valid
  simp only [Text.charOfCode?, valid, ↓reduceIte, Char.ofNat_toNat]

theorem isAlphanum_digitChar {n : Nat} (small : n < 16) :
    (Nat.digitChar n).isAlphanum = true := by
  decide +revert

/-- An escape by a code has letters and digits only. -/
theorem isAlphanum_codeEscape {c d : Char} (small : c.toNat < 0x100) (member : d ∈ codeEscape c) :
    d.isAlphanum = true := by
  have high : c.toNat / 16 < 16 := by omega
  have low : c.toNat % 16 < 16 := by omega
  simp only [codeEscape, List.mem_cons, List.not_mem_nil, or_false] at member
  obtain rfl | rfl | rfl | rfl | rfl := member
  · rfl
  · rfl
  · rfl
  · exact isAlphanum_digitChar high
  · exact isAlphanum_digitChar low

/-- A character with a code below 256 can be escaped. -/
theorem isEscape_codeEscape {c : Char} (small : c.toNat < 0x100) : IsEscape (codeEscape c) c := by
  have high : c.toNat / 16 < 16 := by omega
  have low : c.toNat % 16 < 16 := by omega
  have whole : c.toNat / 16 * 16 + c.toNat % 16 = c.toNat := by omega
  have zero : Text.digit? '0' = some 0 := rfl
  have digits : Text.digits? 16 (codeEscape c).tail = some c.toNat := by
    simp only [codeEscape, List.tail_cons, Text.digits?, Text.digitsFrom?, zero,
      digit?_digitChar high, digit?_digitChar low, high, low, whole, Nat.zero_mul, Nat.zero_add,
      reduceCtorEq, ↓reduceIte, Nat.reduceLT]
  refine ⟨List.cons_ne_nil _ _, ?_, fun rest => ?_⟩
  · exact fun member => absurd (isAlphanum_codeEscape small member) (by decide)
  · have counted : escaped? (codeEscape c ++ rest) = codePoint? 4 ((codeEscape c).tail ++ rest) :=
      rfl
    have first : Text.firstDigits? 16 4 ((codeEscape c).tail ++ rest) = some c.toNat :=
      (firstDigits?_append rfl rest).trans digits
    simp only [counted, codePoint?, first, Option.bind_eq_bind, Option.bind_some,
      charOfCode?_toNat]
    rfl

theorem basicBody_of_isPlain {c : Char} (plain : isPlain c = true) (limit : Nat)
    (text : List Char) :
    basicBody (limit + 1) (c :: text) =
      (basicBody limit text).map fun (body, rest) => (c :: body, rest) := by
  simp only [isPlain, Bool.and_eq_true, bne_iff_ne, ne_eq, Bool.not_eq_true'] at plain
  obtain ⟨⟨quote, backslash⟩, kept⟩ := plain
  rw [basicBody, if_neg (by rw [kept]; decide)]
  · exact quote
  · exact backslash

/-- What is spelled is read back. -/
theorem Spells.basicBody {text body : List Char} (spelled : Spells text body) {limit : Nat}
    (enough : body.length < limit) (rest : List Char) :
    basicBody limit (text ++ '"' :: rest) = some (body, rest) := by
  induction spelled generalizing limit with
  | nil =>
      cases limit with
      | zero => contradiction
      | succ limit => rfl
  | itself plain _ ih =>
      cases limit with
      | zero => contradiction
      | succ limit =>
          rw [List.cons_append, basicBody_of_isPlain plain, ih (Nat.lt_of_succ_lt_succ enough)]
          rfl
  | escaped escape _ ih =>
      cases limit with
      | zero => contradiction
      | succ limit =>
          simp only [List.cons_append, List.append_assoc, PipelineDepot.Toml.basicBody,
            escape.meant, Option.bind_eq_bind, Option.bind_some,
            ih (Nat.lt_of_succ_lt_succ enough)]
          rfl

/-- What is read on one line was spelled up to the closing quote. -/
theorem basicBody_eq_some {limit : Nat} {text body rest : List Char}
    (found : basicBody limit text = some (body, rest)) :
    ∃ taken, Spells taken body ∧ text = taken ++ '"' :: rest := by
  fun_induction basicBody limit text generalizing body with
  | case1 => contradiction
  | case2 => contradiction
  | case3 =>
      cases found
      exact ⟨[], .nil, rfl⟩
  | case4 limit text ih =>
      simp only [Option.bind_eq_bind, Option.bind_eq_some_iff] at found
      obtain ⟨⟨c, behind⟩, meant, ⟨later, _⟩, read, same⟩ := found
      cases same
      obtain ⟨spelling, escape, rfl⟩ := escaped?_eq_some meant
      obtain ⟨taken, spelled, rfl⟩ := ih _ read
      exact ⟨_, .escaped escape spelled, by simp⟩
  | case5 => contradiction
  | case6 limit c text quote backslash kept ih =>
      rw [Option.map_eq_some_iff] at found
      obtain ⟨⟨later, _⟩, read, same⟩ := found
      cases same
      obtain ⟨taken, spelled, rfl⟩ := ih read
      exact ⟨_, .itself (by simp_all [isPlain]) spelled, rfl⟩

/-! ## A text behind a quote -/

/-- A text with fewer than two quotes behind the first one is on one line. -/
theorem text?_of_single {text : List Char} (single : ∀ more, text ≠ '"' :: '"' :: more) :
    text? ('"' :: text) = basicBody (text.length + 1) text := by
  unfold text?
  split
  next same => exact absurd (List.cons.inj same).2 (single _)
  next same => cases same
  next => rfl

/-- What is spelled on a line is read back. -/
theorem Spells.text? {text body : List Char} (spelled : Spells text body) (rest : List Char) :
    text? ('"' :: (text ++ '"' :: '\n' :: rest)) = some (body, '\n' :: rest) := by
  rw [text?_of_single]
  · apply spelled.basicBody
    have shorter := spelled.length_le
    simp only [List.length_append]
    omega
  · intro more same
    cases spelled with
    | nil => cases same
    | itself plain later =>
        rw [List.cons_append, List.cons.injEq] at same
        rw [same.1] at plain
        exact absurd plain (by decide)
    | escaped => cases same

/-! ## Texts on several lines -/

/-- The text runs up to three marks, and what is read of it is no longer. -/
def ClosedBy (mark : Char) (text body rest : List Char) : Prop :=
  ∃ taken, body.length ≤ taken.length ∧ text = taken ++ mark :: mark :: mark :: rest

/-- What is read from a step and the steps behind it is no longer than its text. -/
theorem ClosedBy.step {mark : Char} {text body rest : List Char}
    (closed : ClosedBy mark text body rest) {lead gone : List Char}
    (shorter : lead.length ≤ gone.length) :
    ClosedBy mark (gone ++ text) (lead ++ body) rest := by
  obtain ⟨taken, short, rfl⟩ := closed
  refine ⟨gone ++ taken, ?_, (List.append_assoc _ _ _).symm⟩
  rw [List.length_append, List.length_append]
  exact Nat.add_le_add shorter short

theorem ClosedBy.of_map {mark : Char} (lead gone : List Char) {text body rest : List Char}
    {read : Option (List Char × List Char)}
    (closed : ∀ {body}, read = some (body, rest) → ClosedBy mark text body rest)
    (shorter : lead.length ≤ gone.length)
    (found : read.map (fun (body, rest) => (lead ++ body, rest)) = some (body, rest)) :
    ClosedBy mark (gone ++ text) body rest := by
  rw [Option.map_eq_some_iff] at found
  obtain ⟨⟨later, _⟩, read, same⟩ := found
  cases same
  exact (closed read).step shorter

theorem closing?_eq_some {mark : Char} {text body rest : List Char}
    (found : closing? mark text = some (body, rest)) : ClosedBy mark text body rest := by
  simp only [closing?] at found
  split at found
  next enough =>
    cases found
    generalize counted : (text.takeWhile (· == mark)).length = count at enough ⊢
    have marks : text.takeWhile (· == mark) = List.replicate count mark := by
      rw [← counted]
      exact List.eq_replicate_of_mem fun c member =>
        beq_iff_eq.mp (List.mem_takeWhile_imp (p := (· == mark)) member)
    have whole := List.takeWhile_append_dropWhile (p := (· == mark)) (l := text)
    rw [marks] at whole
    have bound : min (count - 3) 2 ≤ count - 3 := Nat.min_le_left _ _
    generalize min (count - 3) 2 = kept at bound ⊢
    have parted : List.replicate count mark =
        List.replicate kept mark ++ (List.replicate 3 mark ++
          List.replicate (count - (kept + 3)) mark) := by
      rw [List.replicate_append_replicate, List.replicate_append_replicate]
      congr 1
      omega
    refine ⟨List.replicate kept mark, Nat.le_refl _, ?_⟩
    rw [← whole, List.drop_append_of_le_length (by rw [List.length_replicate]; omega),
      List.drop_replicate, parted]
    simp only [List.append_assoc, List.replicate]
    rfl
  next => contradiction

theorem lineEnd?_suffix {text rest : List Char} (found : lineEnd? text = some rest) :
    ∃ taken, taken ≠ [] ∧ text = taken ++ rest := by
  unfold lineEnd? at found
  split at found
  next =>
    cases found
    exact ⟨['\n'], List.cons_ne_nil _ _, rfl⟩
  next =>
    cases found
    exact ⟨['\r', '\n'], List.cons_ne_nil _ _, rfl⟩
  next => contradiction

theorem continued?_suffix {text rest : List Char} (found : continued? text = some rest) :
    rest <:+ text := by
  obtain ⟨next, ended, rfl⟩ := Option.map_eq_some_iff.mp found
  obtain ⟨taken, -, behind⟩ := lineEnd?_suffix ended
  have line : next <:+ skipGap text := ⟨taken, behind.symm⟩
  exact (List.dropWhile_suffix _).trans (line.trans (List.dropWhile_suffix _))

/-- A text over several lines is closed by three quotes. -/
theorem basicLines_closed {limit : Nat} {text body rest : List Char}
    (found : basicLines limit text = some (body, rest)) : ClosedBy '"' text body rest := by
  fun_induction basicLines limit text generalizing body with
  | case1 => contradiction
  | case2 => contradiction
  | case3 _ _ _ _ closing =>
      cases found
      exact closing?_eq_some closing
  | case4 limit text goOn behind continued =>
      rename_i ih
      obtain ⟨taken, rfl⟩ := continued?_suffix continued
      exact ClosedBy.of_map [] ('\\' :: taken) (ih _) (Nat.zero_le _) found
  | case5 => contradiction
  | case6 limit text goOn _ meant behind escaped =>
      rename_i ih
      obtain ⟨taken, -, rfl⟩ := escaped?_eq_some escaped
      exact ClosedBy.of_map [meant] ('\\' :: taken) (ih _)
        (Nat.succ_le_succ (Nat.zero_le _)) found
  | case7 limit c text _ goOn _ behind ended =>
      rename_i ih
      obtain ⟨taken, something, same⟩ := lineEnd?_suffix ended
      rw [same]
      exact ClosedBy.of_map ['\n'] taken (ih _) (List.length_pos_iff.mpr something) found
  | case8 => contradiction
  | case9 limit c text =>
      rename_i ih
      exact ClosedBy.of_map [c] [c] (ih _) (Nat.le_refl _) found

theorem literalLines_closed {limit : Nat} {text body rest : List Char}
    (found : literalLines limit text = some (body, rest)) : ClosedBy '\'' text body rest := by
  fun_induction literalLines limit text generalizing body with
  | case1 => contradiction
  | case2 => contradiction
  | case3 _ _ _ _ closing =>
      cases found
      exact closing?_eq_some closing
  | case4 limit c text _ goOn behind ended =>
      rename_i ih
      obtain ⟨taken, something, same⟩ := lineEnd?_suffix ended
      rw [same]
      exact ClosedBy.of_map ['\n'] taken (ih _) (List.length_pos_iff.mpr something) found
  | case5 => contradiction
  | case6 limit c text =>
      rename_i ih
      exact ClosedBy.of_map [c] [c] (ih _) (Nat.le_refl _) found

/-! ## What a text takes -/

/-- A text over several lines is shorter than what it is read from, at least by the three marks at
its end. -/
theorem ClosedBy.length_le {mark : Char} {text body rest : List Char}
    (closed : ClosedBy mark text body rest) : body.length + rest.length + 3 ≤ text.length := by
  obtain ⟨taken, shorter, rfl⟩ := closed
  simp only [List.length_append, List.length_cons]
  omega

theorem literalBody_eq_some {text body rest : List Char}
    (found : literalBody text = some (body, rest)) : text = body ++ '\'' :: rest := by
  simp only [literalBody] at found
  split at found
  next behind =>
    cases found
    rw [← behind]
    exact (List.prefix_iff_eq_append.mp (List.takeWhile_prefix _)).symm
  next => contradiction

/-- A text on one line stands between two marks. -/
theorem shortText?_length_le {text body rest : List Char}
    (found : shortText? text = some (body, rest)) :
    body.length + rest.length + 2 ≤ text.length := by
  unfold shortText? at found
  split at found
  next =>
    obtain ⟨taken, spelled, rfl⟩ := basicBody_eq_some found
    have shorter := spelled.length_le
    simp only [List.length_append, List.length_cons]
    omega
  next =>
    rw [literalBody_eq_some found]
    simp only [List.length_append, List.length_cons]
    omega
  next => contradiction

theorem getD_lineEnd?_suffix (text : List Char) : (lineEnd? text).getD text <:+ text := by
  cases ended : lineEnd? text with
  | none => exact List.suffix_refl _
  | some rest =>
      obtain ⟨taken, -, rfl⟩ := lineEnd?_suffix ended
      exact List.suffix_append _ _

/-- A text stands between two marks or more. -/
theorem text?_length_le {text body rest : List Char}
    (found : text? text = some (body, rest)) : body.length + rest.length + 2 ≤ text.length := by
  unfold text? at found
  split at found
  next text =>
    have shorter := (basicLines_closed found).length_le
    have less := (getD_lineEnd?_suffix text).length_le
    simp only [List.length_cons]
    omega
  next text =>
    have shorter := (literalLines_closed found).length_le
    have less := (getD_lineEnd?_suffix text).length_le
    simp only [List.length_cons]
    omega
  next => exact shortText?_length_le found

/-- What spells itself up to the end of its line is plain. -/
theorem Spells.plain_of_eq_append {text taken behind rest : List Char} (spelled : Spells taken text)
    (same : text ++ '"' :: '\n' :: behind = taken ++ '"' :: rest) :
    Plain text ∧ rest = '\n' :: behind := by
  have shorter := spelled.length_le
  have one_line := spelled.one_line
  obtain ⟨more, rfl, left⟩ | ⟨more, rfl, left⟩ := List.append_eq_append_iff.mp same
  · cases more with
    | nil =>
        cases left
        exact ⟨spelled.plain_of_length_le (by simp), rfl⟩
    | cons quote more =>
        cases more with
        | nil => cases left
        | cons next more =>
            -- The spelling would run over the end of the line.
            cases left
            exact absurd (by simp) one_line
  · have empty : more = [] := by
      rw [List.length_append] at shorter
      exact List.length_eq_zero_iff.mp (by omega)
    subst empty
    cases left
    exact ⟨spelled.plain_of_length_le (by simp), rfl⟩

/-- A text that is read as itself is plain, unless the reading goes on to three quotes behind it. -/
theorem plain_of_text? {text behind rest : List Char}
    (found : text? ('"' :: (text ++ '"' :: '\n' :: behind)) = some (text, rest)) :
    Plain text ∧ rest = '\n' :: behind ∨ ∃ gone, behind = gone ++ '"' :: '"' :: '"' :: rest := by
  by_cases single : ∀ more, text ++ '"' :: '\n' :: behind ≠ '"' :: '"' :: more
  · left
    rw [text?_of_single single] at found
    obtain ⟨taken, spelled, same⟩ := basicBody_eq_some found
    exact spelled.plain_of_eq_append same
  · right
    simp only [ne_eq, not_forall, not_not] at single
    obtain ⟨more, same⟩ := single
    rw [same] at found
    obtain ⟨taken, long, closed⟩ := basicLines_closed found
    obtain ⟨skipped, whole⟩ := getD_lineEnd?_suffix more
    rw [closed, ← List.append_assoc] at whole
    rw [← whole] at same
    -- What is read is as long as the text, and two quotes of the text are not read.
    have beyond : (text ++ ['"', '\n']).length ≤ ('"' :: '"' :: (skipped ++ taken)).length := by
      simp only [List.length_append, List.length_cons, List.length_nil]
      omega
    obtain ⟨gone, run⟩ := List.prefix_of_prefix_length_le
      (show text ++ ['"', '\n'] <+: text ++ '"' :: '\n' :: behind from ⟨behind, by simp⟩)
      (show '"' :: '"' :: (skipped ++ taken) <+: text ++ '"' :: '\n' :: behind from
        ⟨'"' :: '"' :: '"' :: rest, by rw [same]; rfl⟩) beyond
    refine ⟨gone, ?_⟩
    have same : text ++ ['"', '\n'] ++ behind =
        text ++ ['"', '\n'] ++ (gone ++ '"' :: '"' :: '"' :: rest) := by
      rw [← List.append_assoc, run, List.append_assoc]
      exact same
    exact List.append_cancel_left same

end PipelineDepot.Toml
