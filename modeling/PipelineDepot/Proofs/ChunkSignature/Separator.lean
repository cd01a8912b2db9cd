import PipelineDepot.Proofs.ChunkSignature.Tokens

/-! # Separators

A header is made of word bytes, `;`, `-` and `=`. Any other byte separates (`Separates`): no header
reaches over it, so what stands before it and what stands behind it are searched each for itself
(`strip_append_cons`, `contains_append_cons`).

The line breaks of a chunked upload are such bytes. Each chunk is a frame around its payload
(`Frame`), and stripping takes every header out and leaves the line breaks with what stripping
makes of the payloads (`strip_frames`); payloads without a header stay as they are.
-/

namespace PipelineDepot.ChunkSignature

open Token

/-- The bytes of the literal that are no word bytes: `;`, `-` and `=`. -/
def literalMarks : Bytes := [59, 45, 61]

/-- The byte stands in no header. -/
def Separates (mark : UInt8) : Prop := isWord mark = false ∧ mark ∉ literalMarks

instance : DecidablePred Separates := fun _ => inferInstanceAs (Decidable (_ ∧ _))

section Tokens

variable {mark : UInt8} (separates : Separates mark)
include separates

/-- No header reaches over a separator. -/
theorem Separates.not_mem_header (size signature : Bytes) :
    other mark ∉ header size signature := by
  have unmarked := separates.2
  rw [literalMarks, List.mem_cons, List.mem_cons, List.mem_singleton, not_or, not_or] at unmarked
  obtain ⟨notSemicolon, notHyphen, notEquals⟩ := unmarked
  simp only [header, List.mem_cons, other.injEq, reduceCtorEq, notSemicolon, notHyphen, notEquals,
    List.not_mem_nil, or_self, not_false_eq_true]

/-- **No header reaches over a separator.** -/
theorem Separates.afterHeader?_append (front back : List Token) :
    afterHeader? (front ++ other mark :: back) =
      (afterHeader? front).map (· ++ other mark :: back) := by
  apply Option.ext
  intro rest
  rw [afterHeader?_eq_some_iff, Option.map_eq_some_iff]
  constructor
  · rintro ⟨size, signature, split⟩
    rcases List.append_eq_append_iff.mp split with ⟨between, whole, behind⟩ | ⟨between, whole, rfl⟩
    · -- The header takes the whole front, and nothing more: the next token is the separator.
      cases between with
      | nil =>
          rw [List.append_nil] at whole
          exact ⟨[], afterHeader?_eq_some_iff.mpr ⟨size, signature, by rw [List.append_nil, whole]⟩,
            behind⟩
      | cons token between =>
          obtain ⟨rfl, -⟩ := List.cons.inj behind
          have member : other mark ∈ header size signature :=
            whole ▸ List.mem_append_right front List.mem_cons_self
          exact (separates.not_mem_header size signature member).elim
    · exact ⟨between, afterHeader?_eq_some_iff.mpr ⟨size, signature, whole⟩, rfl⟩
  · rintro ⟨between, found, rfl⟩
    obtain ⟨size, signature, rfl⟩ := afterHeader?_eq_some_iff.mp found
    exact ⟨size, signature, List.append_assoc _ _ _⟩

/-- Headers are dropped on each side of a separator for itself. -/
theorem Separates.dropHeaders_append (front back : List Token) :
    dropHeaders (front ++ other mark :: back) =
      dropHeaders front ++ other mark :: dropHeaders back := by
  -- The search goes on behind a header, so the induction is the one of the search.
  fun_induction dropHeaders front with
  | case1 front rest found ih =>
      have reached := separates.afterHeader?_append front back
      rw [found, Option.map_some] at reached
      rw [dropHeaders_of_some reached, ih]
  | case2 => exact dropHeaders_of_none rfl
  | case3 token rest absent ih =>
      have missed := separates.afterHeader?_append (token :: rest) back
      rw [absent, Option.map_none, List.cons_append] at missed
      rw [List.cons_append, dropHeaders_of_none missed, ih, List.cons_append]

theorem Separates.hasHeader_append (front back : List Token) :
    hasHeader (front ++ other mark :: back) = (hasHeader front || hasHeader back) := by
  induction front with
  | nil => rfl
  | cons token front ih =>
      have here := separates.afterHeader?_append (token :: front) back
      rw [List.cons_append] at here
      rw [List.cons_append, hasHeader, hasHeader, here, ih, Option.isSome_map, Bool.or_assoc]

/-! ## Contents -/

/-- **What stands on either side of a separator is stripped for itself.** -/
theorem strip_append_cons (front back : Bytes) :
    strip (front ++ mark :: back) = strip front ++ mark :: strip back := by
  rw [strip, ofBytes_append_cons separates.1, separates.dropHeaders_append, toBytes_append,
    toBytes_cons]
  rfl

/-- A content with a separator holds a header when one of its two sides does. -/
theorem contains_append_cons (front back : Bytes) :
    contains (front ++ mark :: back) = (contains front || contains back) := by
  rw [contains, ofBytes_append_cons separates.1, separates.hasHeader_append]
  rfl

end Tokens

/-! ## Chunked uploads -/

/-- The two bytes that end a line, CR and LF. -/
def lineBreak : Bytes := [13, 10]

/-- Stripping works on each side of a line break for itself. -/
theorem strip_append_lineBreak (front back : Bytes) :
    strip (front ++ (lineBreak ++ back)) = strip front ++ (lineBreak ++ strip back) := by
  have first : Separates 13 := by decide
  have second : Separates 10 := by decide
  change strip (front ++ 13 :: ([] ++ 10 :: back)) = _
  rw [strip_append_cons first, strip_append_cons second, strip_nil]
  rfl

theorem strip_lineBreak_append (back : Bytes) :
    strip (lineBreak ++ back) = lineBreak ++ strip back := by
  have split := strip_append_lineBreak [] back
  rwa [strip_nil, List.nil_append, List.nil_append] at split

/-- A chunk of a signed upload. -/
structure Frame where
  size : Bytes
  signature : Bytes
  payload : Bytes
  isSize : IsRun size
  isSignature : IsRun signature

namespace Frame

/-- The chunk as it is sent: the header, the payload, and a line break behind each. -/
def bytes (frame : Frame) : Bytes :=
  frame.size ++ (literal ++ (frame.signature ++ (lineBreak ++ (frame.payload ++ lineBreak))))

/-- The chunk without its header. -/
def body (frame : Frame) : Bytes := lineBreak ++ (frame.payload ++ lineBreak)

/-- A frame in front loses its header and leaves the rest alone. -/
theorem strip_bytes_append (frame : Frame) (rest : Bytes) :
    strip (frame.bytes ++ rest) =
      lineBreak ++ (strip frame.payload ++ lineBreak) ++ strip rest := by
  have whole : frame.bytes ++ rest = frame.size ++ (literal ++ (frame.signature ++
      (lineBreak ++ (frame.payload ++ (lineBreak ++ rest))))) := by
    simp only [bytes, List.append_assoc]
  rw [whole, strip_of_headed (.intro frame.isSize frame.isSignature rfl), strip_lineBreak_append,
    strip_append_lineBreak, List.append_assoc, List.append_assoc]

/-- **Every header of a chunked upload goes, and nothing else does.** -/
theorem strip_frames (frames : List Frame) :
    strip (frames.flatMap bytes) =
      frames.flatMap fun frame => lineBreak ++ (strip frame.payload ++ lineBreak) := by
  induction frames with
  | nil => exact strip_nil
  | cons frame rest ih =>
      rw [List.flatMap_cons, List.flatMap_cons, strip_bytes_append, ih]

/-- Frames whose payloads hold no header are stripped to their bodies, however many they are. -/
theorem strip_frames_of_unsigned {frames : List Frame}
    (unsigned : ∀ frame ∈ frames, contains frame.payload = false) :
    strip (frames.flatMap bytes) = frames.flatMap body := by
  rw [strip_frames, List.flatMap_def, List.flatMap_def]
  congr 1
  apply List.map_congr_left
  intro frame member
  rw [(strip_eq_self_iff _).mpr (unsigned frame member), body]

end Frame

/-- **Stripping is local to separators.** A separator parts a content into two that are stripped
and searched each for itself. So a chunked upload whose payloads carry no header is stripped to its
payloads, each with the line breaks around it. -/
theorem strip_local :
    (∀ mark, Separates mark → ∀ front back,
      strip (front ++ [mark] ++ back) = strip front ++ [mark] ++ strip back ∧
      contains (front ++ [mark] ++ back) = (contains front || contains back)) ∧
    ∀ frames : List Frame, (∀ frame ∈ frames, contains frame.payload = false) →
      strip (frames.flatMap Frame.bytes) = frames.flatMap Frame.body := by
  constructor
  · intro mark separates front back
    rw [List.append_assoc, List.append_assoc, List.singleton_append]
    exact ⟨strip_append_cons separates front back, contains_append_cons separates front back⟩
  · intro frames
    exact Frame.strip_frames_of_unsigned

/-- An upload in two chunks. The literal in the first payload is no header. -/
def twoChunks : List Frame :=
  [⟨Bytes.ofText "15", Bytes.ofText "f00", Bytes.ofText "a;chunk-signature=-b",
      isRun_of_all nofun rfl, isRun_of_all nofun rfl⟩,
    ⟨Bytes.ofText "0", Bytes.ofText "ba4", [], isRun_of_all nofun rfl, isRun_of_all nofun rfl⟩]

/-- A blank parts two headers that would share a run, and both chunks lose theirs. -/
theorem strip_local_twoChunks :
    Separates 32 ∧
    strip (Bytes.ofText "1;chunk-signature=2" ++ [32] ++ Bytes.ofText "3;chunk-signature=4") =
      [32] ∧
    (∀ frame ∈ twoChunks, contains frame.payload = false) ∧
    strip (twoChunks.flatMap Frame.bytes) =
      Bytes.ofText "\r\na;chunk-signature=-b\r\n\r\n\r\n" := by
  have separates : Separates 32 := by decide
  have unsigned : ∀ frame ∈ twoChunks, contains frame.payload = false := by decide
  refine ⟨separates, ?_, unsigned, ?_⟩
  · have front : strip (Bytes.ofText "1;chunk-signature=2") = [] := by decide +kernel
    have back : strip (Bytes.ofText "3;chunk-signature=4") = [] := by decide +kernel
    rw [(strip_local.1 32 separates _ _).1, front, back]
    rfl
  · rw [strip_local.2 twoChunks unsigned]
    decide

end PipelineDepot.ChunkSignature
