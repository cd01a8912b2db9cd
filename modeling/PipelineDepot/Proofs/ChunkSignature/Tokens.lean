import PipelineDepot.Proofs.ChunkSignature.Strip

/-! # Tokens of byte strings

A byte string and its tokens determine each other: the tokens read from bytes are normal, which
means that runs are not empty and no two of them meet (`Token.Normal`), and normal tokens are
read back from the bytes they make up (`Token.ofBytes_toBytes`). A byte that is no word byte
parts what stands before it from what stands behind it (`Token.ofBytes_append_cons`).

So the bytes at the head of a content decide whether it starts with a header (`Headed`), and
stripping is a recursion on bytes: a header at the head goes (`strip_of_headed`), and without one
the first byte stays (`strip_cons`).
-/

namespace PipelineDepot.ChunkSignature

/-- The bytes start with a word byte. -/
def startsWithWord (content : Bytes) : Bool := content.head?.any isWord

/-- One or more word bytes. -/
structure IsRun (run : Bytes) : Prop where
  some_ : run ≠ []
  words : ∀ byte ∈ run, isWord byte = true

theorem isRun_of_all {run : Bytes} (some_ : run ≠ []) (words : run.all isWord = true) :
    IsRun run :=
  ⟨some_, List.all_eq_true.mp words⟩

theorem isRun_singleton {byte : UInt8} (word : isWord byte = true) : IsRun [byte] :=
  ⟨List.cons_ne_nil _ _, List.forall_mem_singleton.mpr word⟩

theorem IsRun.cons {byte : UInt8} {run : Bytes} (word : isWord byte = true) (isRun : IsRun run) :
    IsRun (byte :: run) :=
  ⟨List.cons_ne_nil _ _, List.forall_mem_cons.mpr ⟨word, isRun.words⟩⟩

/-- Bytes that start with a word byte are a whole run and what is behind it. -/
theorem exists_run_of_startsWithWord {content : Bytes} (starts : startsWithWord content = true) :
    ∃ run rest, content = run ++ rest ∧ IsRun run ∧ startsWithWord rest = false := by
  induction content with
  | nil => cases starts
  | cons byte rest ih =>
      have word : isWord byte = true := starts
      cases next : startsWithWord rest with
      | false => exact ⟨[byte], rest, rfl, isRun_singleton word, next⟩
      | true =>
          obtain ⟨run, behind, rfl, isRun, stops⟩ := ih next
          exact ⟨byte :: run, behind, rfl, isRun.cons word, stops⟩

namespace Token

/-- The tokens start with a run. -/
def startsWithRun : List Token → Bool
  | word _ :: _ => true
  | _ => false

/-- The shape of the tokens that are read from bytes: runs are not empty, hold word bytes only
and do not meet, and every other token is no word byte. -/
inductive Normal : List Token → Prop
  | nil : Normal []
  | other {byte : UInt8} {tokens : List Token} :
      isWord byte = false → Normal tokens → Normal (.other byte :: tokens)
  | word {run : Bytes} {tokens : List Token} :
      IsRun run → startsWithRun tokens = false → Normal tokens → Normal (.word run :: tokens)

theorem Normal.tail {token : Token} {tokens : List Token} (normal : Normal (token :: tokens)) :
    Normal tokens := by
  cases normal with
  | other _ rest => exact rest
  | word _ _ rest => exact rest

/-! ## Reading -/

theorem cons_of_not_isWord {byte : UInt8} (apart : isWord byte = false) (tokens : List Token) :
    cons byte tokens = other byte :: tokens := by
  simp only [cons, apart, Bool.false_eq_true, ↓reduceIte]

theorem cons_word {byte : UInt8} (isWord_ : isWord byte = true) (run : Bytes)
    (tokens : List Token) : cons byte (word run :: tokens) = word (byte :: run) :: tokens := by
  simp only [cons, isWord_, ↓reduceIte]

theorem cons_of_not_startsWithRun {byte : UInt8} (isWord_ : isWord byte = true)
    {tokens : List Token} (apart : startsWithRun tokens = false) :
    cons byte tokens = word [byte] :: tokens := by
  unfold cons
  rw [if_pos isWord_]
  split
  next => cases apart
  next => rfl

/-- A word byte in front makes the run at the head longer, or is a run of its own. -/
theorem cons_cases {byte : UInt8} (isWord_ : isWord byte = true) (tokens : List Token) :
    (∃ run rest, tokens = word run :: rest ∧ cons byte tokens = word (byte :: run) :: rest) ∨
      (startsWithRun tokens = false ∧ cons byte tokens = word [byte] :: tokens) := by
  cases starts : startsWithRun tokens with
  | false => exact Or.inr ⟨rfl, cons_of_not_startsWithRun isWord_ starts⟩
  | true =>
      unfold startsWithRun at starts
      split at starts
      next run rest => exact Or.inl ⟨run, rest, rfl, cons_word isWord_ run rest⟩
      next => cases starts

/-- A byte in front of normal tokens gives normal tokens. -/
theorem Normal.cons {byte : UInt8} {tokens : List Token} (normal : Normal tokens) :
    Normal (Token.cons byte tokens) := by
  cases kind : isWord byte with
  | false =>
      rw [cons_of_not_isWord kind]
      exact .other kind normal
  | true =>
      rcases cons_cases kind tokens with ⟨run, rest, rfl, same⟩ | ⟨apart, same⟩
      · rw [same]
        cases normal with
        | word isRun between rest => exact .word (isRun.cons kind) between rest
      · rw [same]
        exact .word (isRun_singleton kind) apart normal

/-- The tokens of a content keep no two runs side by side. -/
theorem normal_ofBytes (content : Bytes) : Normal (ofBytes content) := by
  induction content with
  | nil => exact .nil
  | cons byte rest ih => exact ih.cons

theorem startsWithRun_ofBytes (content : Bytes) :
    startsWithRun (ofBytes content) = startsWithWord content := by
  cases content with
  | nil => rfl
  | cons byte rest =>
      change startsWithRun (cons byte (ofBytes rest)) = isWord byte
      cases kind : isWord byte with
      | false =>
          rw [cons_of_not_isWord kind]
          rfl
      | true =>
          rcases cons_cases kind (ofBytes rest) with ⟨_, _, _, same⟩ | ⟨_, same⟩ <;>
          · rw [same]
            rfl

/-- A whole run at the head is one token. -/
theorem foldr_cons_run {run : Bytes} (isRun : IsRun run) {tokens : List Token}
    (apart : startsWithRun tokens = false) : run.foldr cons tokens = word run :: tokens := by
  obtain ⟨some_, words⟩ := isRun
  induction run with
  | nil => exact (some_ rfl).elim
  | cons byte run ih =>
      obtain ⟨head, tail⟩ := List.forall_mem_cons.mp words
      rw [List.foldr_cons]
      by_cases last : run = []
      · subst last
        exact cons_of_not_startsWithRun head apart
      · rw [ih last tail, cons_word head]

theorem ofBytes_run_append {run rest : Bytes} (isRun : IsRun run)
    (stops : startsWithWord rest = false) : ofBytes (run ++ rest) = word run :: ofBytes rest := by
  rw [ofBytes, List.foldr_append]
  exact foldr_cons_run isRun ((startsWithRun_ofBytes rest).trans stops)

/-- **Normal tokens are read back from the bytes they make up.** -/
theorem ofBytes_toBytes {tokens : List Token} (normal : Normal tokens) :
    ofBytes (toBytes tokens) = tokens := by
  induction normal with
  | nil => rfl
  | @other byte tokens apart _ ih =>
      change cons byte (ofBytes (toBytes tokens)) = _
      rw [ih, cons_of_not_isWord apart]
  | @word run tokens isRun apart _ ih =>
      change ofBytes (run ++ toBytes tokens) = _
      rw [ofBytes, List.foldr_append]
      change run.foldr cons (ofBytes (toBytes tokens)) = _
      rw [ih, foldr_cons_run isRun apart]

theorem cons_append_other (byte mark : UInt8) (front back : List Token) :
    cons byte (front ++ other mark :: back) = cons byte front ++ other mark :: back := by
  cases kind : isWord byte with
  | false => rw [cons_of_not_isWord kind, cons_of_not_isWord kind, List.cons_append]
  | true =>
      rcases cons_cases kind front with ⟨run, rest, rfl, same⟩ | ⟨apart, same⟩
      · rw [same, List.cons_append, cons_word kind, List.cons_append]
      · rw [same, List.cons_append, cons_of_not_startsWithRun kind]
        cases front with
        | nil => rfl
        | cons token rest =>
            cases token with
            | word run => cases apart
            | other kept => rfl

/-- **A byte that is no word byte parts the tokens.** -/
theorem ofBytes_append_cons {mark : UInt8} (apart : isWord mark = false) (front back : Bytes) :
    ofBytes (front ++ mark :: back) = ofBytes front ++ other mark :: ofBytes back := by
  induction front with
  | nil => exact cons_of_not_isWord apart (ofBytes back)
  | cons byte front ih =>
      change cons byte (ofBytes (front ++ mark :: back)) = cons byte (ofBytes front) ++ _
      rw [ih, cons_append_other]

end Token

/-! ## Headers in bytes -/

/-- The tokens of the literal in a header. -/
def literalTokens : List Token :=
  [.other 59, .word chunkWord, .other 45, .word signatureWord, .other 61]

/-- The literal in a header. -/
def literal : Bytes := Token.toBytes literalTokens

example : literal = Bytes.ofText ";chunk-signature=" := by decide

theorem ofBytes_literal_append (back : Bytes) :
    Token.ofBytes (literal ++ back) = literalTokens ++ Token.ofBytes back :=
  rfl

/-- The tokens start with a header exactly when its seven tokens come first. -/
theorem afterHeader?_eq_some_iff {tokens rest : List Token} :
    afterHeader? tokens = some rest ↔ ∃ size signature, tokens = header size signature ++ rest := by
  constructor
  · exact eq_header_append_of_afterHeader?
  · rintro ⟨size, signature, rfl⟩
    rfl

/-- Which run the size is plays no part. -/
theorem afterHeader?_word (run other : Bytes) (tokens : List Token) :
    afterHeader? (.word run :: tokens) = afterHeader? (.word other :: tokens) := by
  have same (first second : Bytes) (rest : List Token)
      (found : afterHeader? (.word first :: tokens) = some rest) :
      afterHeader? (.word second :: tokens) = some rest := by
    obtain ⟨size, signature, split⟩ := afterHeader?_eq_some_iff.mp found
    have behind := (List.cons.inj split).2
    exact afterHeader?_eq_some_iff.mpr ⟨second, signature, congrArg (Token.word second :: ·) behind⟩
  apply Option.ext
  intro rest
  exact ⟨same run other rest, same other run rest⟩

/-- The content starts with a whole header, and `rest` is behind it. -/
inductive Headed : Bytes → Bytes → Prop
  | intro {size signature rest : Bytes} : IsRun size → IsRun signature →
      startsWithWord rest = false → Headed (size ++ (literal ++ (signature ++ rest))) rest

/-- A header at the front of a content is one at the front of its tokens. -/
theorem Headed.ofBytes_eq {content rest : Bytes} (headed : Headed content rest) :
    ∃ size signature, Token.ofBytes content = header size signature ++ Token.ofBytes rest := by
  obtain ⟨isSize, isSignature, stops⟩ := headed
  rename_i size signature
  refine ⟨size, signature, ?_⟩
  rw [Token.ofBytes_run_append isSize rfl, ofBytes_literal_append,
    Token.ofBytes_run_append isSignature stops]
  rfl

/-- Where the tokens start with a header, so do the bytes. -/
theorem headed_of_afterHeader? {content : Bytes} {tokens : List Token}
    (found : afterHeader? (Token.ofBytes content) = some tokens) :
    Headed content (Token.toBytes tokens) := by
  obtain ⟨size, signature, split⟩ := afterHeader?_eq_some_iff.mp found
  have whole := Token.toBytes_ofBytes content
  have normal := Token.normal_ofBytes content
  rw [split] at normal whole
  have last : Token.Normal (.word signature :: tokens) := normal.tail.tail.tail.tail.tail.tail
  cases normal with
  | word isSize =>
      cases last with
      | word isSignature apart normal =>
          have stops : startsWithWord (Token.toBytes tokens) = false := by
            rw [← Token.startsWithRun_ofBytes, Token.ofBytes_toBytes normal]
            exact apart
          exact whole ▸ .intro isSize isSignature stops

/-- The tokens of a content start with a header just when the content does. -/
theorem isSome_afterHeader?_iff (content : Bytes) :
    (afterHeader? (Token.ofBytes content)).isSome = true ↔ ∃ rest, Headed content rest := by
  rw [Option.isSome_iff_exists]
  constructor
  · rintro ⟨tokens, found⟩
    exact ⟨_, headed_of_afterHeader? found⟩
  · rintro ⟨rest, headed⟩
    exact ⟨_, afterHeader?_eq_some_iff.mpr headed.ofBytes_eq⟩

theorem strip_nil : strip [] = [] := by
  rw [strip, Token.ofBytes, List.foldr_nil, dropHeaders_nil, Token.toBytes, List.flatMap_nil]

/-- **A header at the head goes.** -/
theorem strip_of_headed {content rest : Bytes} (headed : Headed content rest) :
    strip content = strip rest := by
  have found := afterHeader?_eq_some_iff.mpr headed.ofBytes_eq
  rw [strip, dropHeaders_of_some found, strip]

/-- **Without a header at the head the first byte stays.** -/
theorem strip_cons {byte : UInt8} {content : Bytes}
    (bare : ∀ rest, ¬ Headed (byte :: content) rest) :
    strip (byte :: content) = byte :: strip content := by
  have absent : afterHeader? (Token.cons byte (Token.ofBytes content)) = none := by
    rw [← Option.not_isSome_iff_eq_none]
    exact fun found => not_exists.mpr bare ((isSome_afterHeader?_iff _).mp found)
  change Token.toBytes (dropHeaders (Token.cons byte (Token.ofBytes content))) =
    byte :: Token.toBytes (dropHeaders (Token.ofBytes content))
  cases kind : isWord byte with
  | false =>
      rw [Token.cons_of_not_isWord kind] at absent ⊢
      rw [dropHeaders_of_none absent]
      rfl
  | true =>
      rcases Token.cons_cases kind (Token.ofBytes content) with
        ⟨run, tokens, split, same⟩ | ⟨-, same⟩
      · rw [same] at absent ⊢
        rw [dropHeaders_of_none absent, split,
          dropHeaders_of_none ((afterHeader?_word run _ tokens).trans absent)]
        rfl
      · rw [same] at absent ⊢
        rw [dropHeaders_of_none absent]
        rfl

theorem hasHeader_cons (byte : UInt8) (tokens : List Token) :
    hasHeader (Token.cons byte tokens) =
      ((afterHeader? (Token.cons byte tokens)).isSome || hasHeader tokens) := by
  cases kind : isWord byte with
  | false =>
      rw [Token.cons_of_not_isWord kind]
      rfl
  | true =>
      rcases Token.cons_cases kind tokens with ⟨run, rest, rfl, same⟩ | ⟨-, same⟩
      · rw [same, hasHeader, hasHeader, afterHeader?_word run (byte :: run), ← Bool.or_assoc,
          Bool.or_self]
      · rw [same]
        rfl

/-- **A content carries a header at its head or behind its first byte.** -/
theorem contains_cons_iff (byte : UInt8) (content : Bytes) :
    contains (byte :: content) = true ↔
      (∃ rest, Headed (byte :: content) rest) ∨ contains content = true := by
  rw [← isSome_afterHeader?_iff, ← Bool.or_eq_true]
  exact Bool.eq_iff_iff.mp (hasHeader_cons byte (Token.ofBytes content))

end PipelineDepot.ChunkSignature
