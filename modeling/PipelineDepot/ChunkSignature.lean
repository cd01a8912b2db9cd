import PipelineDepot.Bytes

/-! # Chunk signatures

A single-part download may carry the headers of a chunked upload: a size, the literal
`;chunk-signature=` and a signature, where size and signature are runs of word bytes
(`0-9`, `A-Z`, `a-z` and `_`). `ChunkSignature.strip` removes every header and keeps all other
bytes.

A byte string is read as a list of tokens, maximal runs of word bytes and single other bytes.
A header is then a fixed pattern of seven tokens, and removing the headers is one pass from
left to right over the tokens.
-/

namespace PipelineDepot.ChunkSignature

/-- The bytes that sizes and signatures are made of. -/
def isWord (byte : UInt8) : Bool :=
  (48 ≤ byte && byte ≤ 57) || (65 ≤ byte && byte ≤ 90) || byte == 95 ||
    (97 ≤ byte && byte ≤ 122)

/-- A maximal run of word bytes, or one other byte. -/
inductive Token
  | word (run : Bytes)
  | other (byte : UInt8)
  deriving DecidableEq

namespace Token

/-- The bytes a token stands for. -/
def bytes : Token → Bytes
  | word run => run
  | other byte => [byte]

/-- Puts one byte in front of a list of tokens. -/
def cons (byte : UInt8) (tokens : List Token) : List Token :=
  if isWord byte then
    match tokens with
    | word run :: rest => word (byte :: run) :: rest
    | rest => word [byte] :: rest
  else other byte :: tokens

/-- The tokens of a byte string. -/
def ofBytes (content : Bytes) : List Token :=
  content.foldr cons []

/-- The byte string that tokens make up. -/
def toBytes (tokens : List Token) : Bytes :=
  tokens.flatMap bytes

end Token

/-- The first word of the literal, `chunk`. -/
def chunkWord : Bytes := [99, 104, 117, 110, 107]

/-- The second word of the literal, `signature`. -/
def signatureWord : Bytes := [115, 105, 103, 110, 97, 116, 117, 114, 101]

/-- The tokens behind a header, if the tokens start with one. -/
def afterHeader? : List Token → Option (List Token)
  | .word _ :: .other semicolon :: .word first :: .other hyphen :: .word second ::
      .other equals :: .word _ :: rest =>
    if semicolon = 59 ∧ first = chunkWord ∧ hyphen = 45 ∧ second = signatureWord ∧ equals = 61
    then some rest else none
  | _ => none

/-- What is left behind a header is shorter. -/
theorem length_lt_of_afterHeader? {tokens rest : List Token}
    (found : afterHeader? tokens = some rest) : rest.length < tokens.length := by
  unfold afterHeader? at found
  split at found
  · split at found
    · simp only [Option.some.injEq] at found
      subst found
      simp only [List.length_cons]
      omega
    · simp at found
  · simp at found

/-- The tokens that are left when every header, from the left, is taken out. -/
def dropHeaders (tokens : List Token) : List Token :=
  match _found : afterHeader? tokens with
  | some rest => dropHeaders rest
  | none =>
    match tokens with
    | [] => []
    | token :: rest => token :: dropHeaders rest
termination_by tokens.length
decreasing_by
  · exact length_lt_of_afterHeader? _found
  · simp

/-- The content without its chunk headers. -/
def strip (content : Bytes) : Bytes :=
  Token.toBytes (dropHeaders (Token.ofBytes content))

/-- Some header stands among the tokens. -/
def hasHeader : List Token → Bool
  | [] => false
  | token :: rest => (afterHeader? (token :: rest)).isSome || hasHeader rest

/-- The content carries a chunk header. -/
def contains (content : Bytes) : Bool :=
  hasHeader (Token.ofBytes content)

end PipelineDepot.ChunkSignature
