import PipelineDepot.ChunkSignature

/-! # What stripping changes

Tokens lose nothing of a byte string (`Token.toBytes_ofBytes`), a header is a block of seven of
them (`eq_header_append_of_afterHeader?`), and every header takes bytes with it. So stripping
changes exactly the contents that carry a header, and makes these shorter.
-/

namespace PipelineDepot.ChunkSignature

namespace Token

@[simp]
theorem toBytes_cons (token : Token) (tokens : List Token) :
    toBytes (token :: tokens) = token.bytes ++ toBytes tokens :=
  List.flatMap_cons

@[simp]
theorem toBytes_append (front back : List Token) :
    toBytes (front ++ back) = toBytes front ++ toBytes back :=
  List.flatMap_append

theorem toBytes_cons_byte (byte : UInt8) (tokens : List Token) :
    toBytes (cons byte tokens) = byte :: toBytes tokens := by
  unfold cons
  split
  · split
    · simp only [toBytes_cons, bytes, List.cons_append]
    · simp only [toBytes_cons, bytes, List.cons_append, List.nil_append]
  · simp only [toBytes_cons, bytes, List.cons_append, List.nil_append]

/-- The tokens of a byte string make it up again. -/
theorem toBytes_ofBytes (content : Bytes) : toBytes (ofBytes content) = content := by
  induction content with
  | nil => rfl
  | cons byte rest ih =>
      change toBytes (cons byte (ofBytes rest)) = byte :: rest
      rw [toBytes_cons_byte, ih]

end Token

/-- The tokens of a header. -/
def header (size signature : Bytes) : List Token :=
  [.word size, .other 59, .word chunkWord, .other 45, .word signatureWord, .other 61,
    .word signature]

/-- Tokens that start with a header are a header and the rest. -/
theorem eq_header_append_of_afterHeader? {tokens rest : List Token}
    (found : afterHeader? tokens = some rest) :
    ∃ size signature, tokens = header size signature ++ rest := by
  unfold afterHeader? at found
  split at found
  next size semicolon first hyphen second equals signature behind =>
    split at found
    next literal =>
      obtain ⟨rfl, rfl, rfl, rfl, rfl⟩ := literal
      obtain rfl := Option.some.inj found
      exact ⟨size, signature, rfl⟩
    next => simp only [reduceCtorEq] at found
  next => simp only [reduceCtorEq] at found

/-- Taking a header out takes bytes out. -/
theorem length_toBytes_lt_of_afterHeader? {tokens rest : List Token}
    (found : afterHeader? tokens = some rest) :
    (Token.toBytes rest).length < (Token.toBytes tokens).length := by
  obtain ⟨size, signature, rfl⟩ := eq_header_append_of_afterHeader? found
  simp only [header, Token.toBytes_append, Token.toBytes_cons, Token.bytes, List.length_append,
    List.length_singleton]
  omega

theorem dropHeaders_of_some {tokens rest : List Token} (found : afterHeader? tokens = some rest) :
    dropHeaders tokens = dropHeaders rest := by
  rw [dropHeaders]
  split
  next behind here => rw [Option.some.inj (here.symm.trans found)]
  next absent => simp only [found, reduceCtorEq] at absent

theorem dropHeaders_of_none {token : Token} {rest : List Token}
    (absent : afterHeader? (token :: rest) = none) :
    dropHeaders (token :: rest) = token :: dropHeaders rest := by
  rw [dropHeaders]
  split
  next behind here => simp only [absent, reduceCtorEq] at here
  next => rfl

@[simp]
theorem dropHeaders_nil : dropHeaders [] = [] := by
  rw [dropHeaders]
  rfl

/-- Tokens without a header stay as they are. -/
theorem dropHeaders_eq_self {tokens : List Token} (clean : hasHeader tokens = false) :
    dropHeaders tokens = tokens := by
  induction tokens with
  | nil => exact dropHeaders_nil
  | cons token rest ih =>
      simp only [hasHeader, Bool.or_eq_false_iff, Option.isSome_eq_false_iff,
        Option.isNone_iff_eq_none] at clean
      rw [dropHeaders_of_none clean.1, ih clean.2]

/-- Taking headers out makes nothing longer. -/
theorem length_toBytes_dropHeaders_le (tokens : List Token) :
    (Token.toBytes (dropHeaders tokens)).length ≤ (Token.toBytes tokens).length := by
  -- The recursion of `dropHeaders` goes on behind a header, so its own induction is used.
  fun_induction dropHeaders tokens with
  | case1 tokens rest found ih =>
      have shorter := length_toBytes_lt_of_afterHeader? found
      exact Nat.le_trans ih (Nat.le_of_lt shorter)
  | case2 => exact Nat.le_refl _
  | case3 token rest absent ih =>
      simp only [Token.toBytes_cons, List.length_append]
      omega

/-- With a header among them, tokens get shorter. -/
theorem length_toBytes_dropHeaders_lt {tokens : List Token} (found : hasHeader tokens = true) :
    (Token.toBytes (dropHeaders tokens)).length < (Token.toBytes tokens).length := by
  induction tokens with
  | nil => simp only [hasHeader, Bool.false_eq_true] at found
  | cons token rest ih =>
      cases here : afterHeader? (token :: rest) with
      | some behind =>
          rw [dropHeaders_of_some here]
          exact Nat.lt_of_le_of_lt (length_toBytes_dropHeaders_le behind)
            (length_toBytes_lt_of_afterHeader? here)
      | none =>
          simp only [hasHeader, here, Option.isSome_none, Bool.false_or] at found
          have shorter := ih found
          rw [dropHeaders_of_none here]
          simp only [Token.toBytes_cons, List.length_append]
          omega

/-- A content that carries a header gets shorter. -/
theorem length_strip_lt {content : Bytes} (found : contains content = true) :
    (strip content).length < content.length := by
  have shorter := length_toBytes_dropHeaders_lt found
  rwa [Token.toBytes_ofBytes] at shorter

/-- Stripping leaves a content alone exactly when it carries no header. -/
theorem strip_eq_self_iff (content : Bytes) :
    strip content = content ↔ contains content = false := by
  constructor
  · intro same
    apply Bool.eq_false_iff.mpr
    intro found
    have shorter := length_strip_lt found
    rw [same] at shorter
    exact Nat.lt_irrefl _ shorter
  · intro clean
    rw [strip, dropHeaders_eq_self clean, Token.toBytes_ofBytes]

/-- A content with a chunk header and a byte that is no text. -/
def signedContent : Bytes :=
  [56, 59, 99, 104, 117, 110, 107, 45, 115, 105, 103, 110, 97, 116, 117, 114, 101, 61, 48, 102, 255]

example : strip signedContent = [255] := by cbv

end PipelineDepot.ChunkSignature
