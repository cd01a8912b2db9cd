import PipelineDepot.Bytes
import PipelineDepot.Yaml.Token
import PipelineDepot.Yaml.Token.Scalars

/-! # Cutting a text into tokens

The scanner goes through a text once. It keeps the column of every open block collection, whose
start and end it marks, and for every level of flow collections the last place where a simple key
may have started: the mark of such a key is put in when its colon is found, on the same line and
at most 1024 characters later.

A reader takes the tokens while they are made, and waits where a simple key may still turn up. So
when the text cannot be cut any further, the tokens from the first open simple key on are not
given out (`Scanner.settled`).
-/

namespace PipelineDepot.Yaml

/-- A place where a simple key may have started. -/
structure SimpleKey where
  /-- Nothing else can stand here, so the colon has to come. -/
  required : Bool
  /-- The number of tokens before the key. -/
  token : Nat
  index : Nat
  line : Nat
  column : Nat

/-- The state of a scanner. -/
structure Scanner where
  here : Cursor
  /-- The tokens so far, the last one first. -/
  tokens : List Token
  /-- The number of tokens so far. -/
  count : Nat
  /-- The column of the innermost open block collection. -/
  indent : Int
  /-- The columns of those around it. -/
  outer : List Int
  /-- A simple key may start at the next token. -/
  keyAllowed : Bool
  /-- The open simple key of the innermost flow level. -/
  key? : Option SimpleKey
  /-- Those of the levels around it. -/
  outerKeys : List (Option SimpleKey)

namespace Scanner

/-- The scanner at the start of a text. -/
def start (text : List Char) : Scanner where
  here := .start text
  tokens := []
  count := 0
  indent := -1
  outer := []
  keyAllowed := true
  key? := none
  outerKeys := []

variable (s : Scanner)

/-- The scanner is inside a flow collection. -/
def inFlow : Bool := !s.outerKeys.isEmpty

/-- Puts a token behind the others. -/
def emit (token : Token) : Scanner :=
  { s with tokens := token :: s.tokens, count := s.count + 1 }

/-- Puts a token behind the first `place` tokens. -/
def emitAt (place : Nat) (token : Token) : Scanner :=
  let later := s.count - place
  { s with
    tokens := s.tokens.take later ++ token :: s.tokens.drop later
    count := s.count + 1 }

/-- A simple key can no longer be completed here. -/
def isStale (key : SimpleKey) : Bool :=
  key.line < s.here.line || key.index + 1024 < s.here.index

/-- Gives up a simple key that can no longer be completed; none if its colon had to come. -/
def refresh (key? : Option SimpleKey) : Option (Option SimpleKey) :=
  match key? with
  | none => some none
  | some key =>
    if s.isStale key then (if key.required then none else some none) else some (some key)

/-- Gives up all simple keys that can no longer be completed. -/
def dropStale : Option Scanner := do
  let key? ← s.refresh s.key?
  let outerKeys ← s.outerKeys.mapM s.refresh
  return { s with key? := key?, outerKeys := outerKeys }

/-- Gives up the open simple key of this level. -/
def dropKey : Option Scanner :=
  if s.key?.any (·.required) then none else some { s with key? := none }

/-- Notes that a simple key may start here. -/
def saveKey : Option Scanner :=
  if s.keyAllowed then do
    let s ← s.dropKey
    return { s with
      key? := some {
        required := !s.inFlow && s.indent == s.here.column
        token := s.count
        index := s.here.index
        line := s.here.line
        column := s.here.column } }
  else some s

/-- Opens a block collection at a column, unless one is open there; `place` tells behind how many
tokens its start goes. -/
def openBlock (column : Nat) (place : Nat) (token : Token) : Scanner :=
  if !s.inFlow && s.indent < column then
    { s.emitAt place token with indent := column, outer := s.indent :: s.outer }
  else s

/-- Closes the block collections that stand right of a column. -/
def closeBlocks (column : Int) : Scanner :=
  if s.inFlow then s else go s.outer s
where
  /-- Closes one collection after the other. -/
  go : List Int → Scanner → Scanner
    | [], s => s
    | next :: outer, s =>
      if column < s.indent then
        go outer { s.emit .blockEnd with indent := next, outer := outer }
      else s

/-- Goes over blanks, comments and line ends to the next token, over at most `limit` lines. A tab
is blank where no simple key may start. -/
def toNextToken : Nat → Scanner → Scanner
  | 0, s => s
  | limit + 1, s =>
    let here := if s.here.column = 0 ∧ s.here.sees '\ufeff' then s.here.skip else s.here
    let tabs := s.inFlow || !s.keyAllowed
    let here := here.skipWhile fun c => c == ' ' || (tabs && c == '\t')
    let here := if here.sees '#' then here.skipLine else here
    if here.atBreak then
      toNextToken limit
        { s with here := here.readBreak.2, keyAllowed := s.keyAllowed || !s.inFlow }
    else { s with here := here }

/-- The tokens of a document mark. -/
def documentMark (token : Token) : Option Scanner := do
  let s ← (s.closeBlocks (-1)).dropKey
  return { s.emit token with keyAllowed := false, here := s.here.skipMany 3 }

/-- The start of a flow collection. -/
def flowStart (token : Token) : Option Scanner := do
  let s ← s.saveKey
  return { s.emit token with
    keyAllowed := true, here := s.here.skip, key? := none, outerKeys := s.key? :: s.outerKeys }

/-- The end of a flow collection. -/
def flowEnd (token : Token) : Option Scanner := do
  let s ← s.dropKey
  let s :=
    match s.outerKeys with
    | [] => s
    | key? :: outerKeys => { s with key? := key?, outerKeys := outerKeys }
  return { s.emit token with keyAllowed := false, here := s.here.skip }

/-- The comma of a flow collection. -/
def flowEntry : Option Scanner := do
  let s ← s.dropKey
  return { s.emit .flowEntry with keyAllowed := true, here := s.here.skip }

/-- The dash of a block sequence. -/
def blockEntry : Option Scanner := do
  let s ←
    if s.inFlow then some s
    else if s.keyAllowed then
      some (s.openBlock s.here.column s.count .blockSequenceStart)
    else none
  let s ← s.dropKey
  return { s.emit .blockEntry with keyAllowed := true, here := s.here.skip }

/-- The question mark of a key. -/
def explicitKey : Option Scanner := do
  let s ←
    if s.inFlow then some s
    else if s.keyAllowed then
      some (s.openBlock s.here.column s.count .blockMappingStart)
    else none
  let s ← s.dropKey
  return { s.emit .key with keyAllowed := !s.inFlow, here := s.here.skip }

/-- The colon of a value, which completes an open simple key. -/
def colon : Option Scanner :=
  match s.key? with
  | some key =>
    let s := s.emitAt key.token .key
    let s := s.openBlock key.column key.token .blockMappingStart
    some { s.emit .value with key? := none, keyAllowed := false, here := s.here.skip }
  | none =>
    let opened :=
      if s.inFlow then some s
      else if s.keyAllowed then
        some (s.openBlock s.here.column s.count .blockMappingStart)
      else none
    opened.map fun s =>
      { s.emit .value with keyAllowed := !s.inFlow, here := s.here.skip }

/-- Reads the name of an anchor or an alias behind its mark. -/
def anchorName (here : Cursor) : Option (List Char × Cursor) :=
  let (name, behind) := here.takeWhile isNameChar
  let ends := behind.atWordEnd || behind.next?.any fun c => "?:,]\x7d%@`".toList.contains c
  if name = [] ∨ !ends then none else some (name, behind)

/-- The mark of an anchor or an alias. -/
def anchorMark (token : List Char → Token) : Option Scanner := do
  let s ← s.saveKey
  let (name, behind) ← anchorName s.here.skip
  return { s.emit (token name) with keyAllowed := false, here := behind }

/-- The characters of a tag; in a tag between angle brackets some more. -/
def isTagChar (verbatim : Bool) (c : Char) : Bool :=
  isNameChar c || ";/?:@&=+$.%!~*'()".toList.contains c || (verbatim && ",[]".toList.contains c)

/-- Reads the bytes of one escaped character of a tag: percent signs with two digits each, of
which `more` are still to come. -/
def escapedBytes : Nat → List Char → Option (List UInt8 × List Char)
  | 0, rest => some ([], rest)
  | more + 1, '%' :: a :: b :: rest => do
    let byte ← Text.digits? 16 [a, b]
    if byte / 64 = 2 then
      let (bytes, rest) ← escapedBytes more rest
      return (UInt8.ofNat byte :: bytes, rest)
    else none
  | _ + 1, _ => none

/-- Reads an escaped character of a tag, its first byte telling how many bytes follow. -/
def escapedChar : List Char → Option (List UInt8 × List Char)
  | '%' :: a :: b :: rest => do
    let byte ← Text.digits? 16 [a, b]
    let more ←
      if byte < 128 then some 0
      else if byte / 32 = 6 then some 1
      else if byte / 16 = 14 then some 2
      else if byte / 8 = 30 then some 3
      else none
    let (bytes, rest) ← escapedBytes more rest
    return (UInt8.ofNat byte :: bytes, rest)
  | _ => none

/-- The characters of a run of tag characters, at most `limit` of them, with its escaped
characters put in. -/
def unescapeTag : Nat → List Char → Option (List Char)
  | 0, _ => some []
  | _ + 1, [] => some []
  | limit + 1, '%' :: rest => do
    let (bytes, rest) ← escapedChar ('%' :: rest)
    let text ← Bytes.toText? bytes
    let later ← unescapeTag limit rest
    return text.toList ++ later
  | limit + 1, c :: rest => do
    let later ← unescapeTag limit rest
    return c :: later

/-- Reads a run of tag characters. -/
def tagText (verbatim : Bool) (here : Cursor) : Option (List Char × Cursor) :=
  let (run, behind) := here.takeWhile (isTagChar verbatim)
  (unescapeTag run.length run).map fun text => (text, behind)

/-- Reads a handle: an exclamation mark, a name, and the second mark if there is one. -/
def tagHandle (here : Cursor) : List Char × Cursor :=
  let (name, behind) := here.skip.takeWhile isNameChar
  if behind.sees '!' then ('!' :: name ++ ['!'], behind.skip) else ('!' :: name, behind)

/-- Reads the handle and the suffix of a tag. -/
def tagParts (here : Cursor) : Option (List Char × List Char × Cursor) :=
  match here.rest with
  | _ :: '<' :: _ => do
    let (suffix, behind) ← tagText true (here.skipMany 2)
    if suffix = [] ∨ !behind.sees '>' then none else some ([], suffix, behind.skip)
  | _ =>
    let (handle, behind) := tagHandle here
    if 1 < handle.length ∧ handle.getLast? = some '!' then do
      let (suffix, behind) ← tagText false behind
      if suffix = [] then none else some (handle, suffix, behind)
    else do
      let (text, behind) ← tagText false behind
      let suffix := handle.drop 1 ++ text
      if suffix = [] then some ([], ['!'], behind) else some (['!'], suffix, behind)

/-- The mark of a tag. -/
def tagMark : Option Scanner := do
  let s ← s.saveKey
  let (handle, suffix, behind) ← tagParts s.here
  if behind.atWordEnd || (s.inFlow && behind.sees ',') then
    return { s.emit (.tag handle suffix) with keyAllowed := false, here := behind }
  else none

/-- Reads a decimal number of at most nine digits. -/
def directiveNumber (here : Cursor) : Option (Nat × Cursor) :=
  let (digits, behind) := here.takeWhile Char.isDigit
  if digits = [] ∨ 9 < digits.length then none
  else some (digits.foldl (fun n c => 10 * n + (c.toNat - '0'.toNat)) 0, behind)

/-- Reads a directive behind its percent sign. -/
def directiveBody (here : Cursor) : Option (Token × Cursor) := do
  let (name, behind) := here.takeWhile isNameChar
  if !behind.atWordEnd then none
  else
    let here := behind.skipWhile isGap
    if name = "YAML".toList then
      let (major, here) ← directiveNumber here
      if !here.sees '.' then none
      else
        let (minor, here) ← directiveNumber here.skip
        return (.versionDirective major minor, here)
    else if name = "TAG".toList then
      if !here.sees '!' then none
      else
        let (handle, here) := tagHandle here
        if handle ≠ ['!'] ∧ handle.getLast? ≠ some '!' then none
        else if !here.atGap then none
        else
          let (lead, here) ← tagText true (here.skipWhile isGap)
          if lead = [] ∨ !here.atWordEnd then none
          else return (.tagDirective handle lead, here)
    else none

/-- A directive, up to the end of its line. -/
def directive : Option Scanner := do
  let s ← (s.closeBlocks (-1)).dropKey
  let (token, here) ← directiveBody s.here.skip
  let gap := here.skipWhile isGap
  let here := if gap.sees '#' then gap.skipLine else gap
  if !here.atLineEnd then none
  else return { s.emit token with keyAllowed := false, here := here.readBreak.2 }

/-- A block scalar of fewer than `limit` characters. -/
def blockScalar (limit : Nat) (isLiteral : Bool) : Option Scanner := do
  let s ← s.dropKey
  let (text, behind) ← Block.read limit isLiteral s.indent s.here.skip
  let style : ScalarStyle := if isLiteral then .literal else .folded
  return { s.emit (.scalar text style) with keyAllowed := true, here := behind }

/-- A quoted scalar of fewer than `limit` characters. -/
def quotedScalar (limit : Nat) (quote : Char) : Option Scanner := do
  let s ← s.saveKey
  let (text, behind) ← Quoted.read limit quote s.here.skip
  let style : ScalarStyle := if quote = '\'' then .singleQuoted else .doubleQuoted
  return { s.emit (.scalar text style) with keyAllowed := false, here := behind }

/-- A plain scalar of fewer than `limit` characters. -/
def plainScalar (limit : Nat) : Option Scanner := do
  let s ← s.saveKey
  let found ← Plain.read limit s.inFlow (s.indent + 1).toNat s.here
  return { s.emit (.scalar found.text .plain) with
    keyAllowed := found.broken, here := found.behind }

/-- The characters that no plain scalar starts with. -/
def isIndicator (c : Char) : Bool :=
  "-?:,[]\x7b\x7d#&*!|>'\"%@`".toList.contains c

/-- A plain scalar may start here. -/
def plainStarts : Bool :=
  match s.here.rest with
  | [] => false
  | c :: rest =>
    let followed := rest.head?.any fun d => !isGap d && !isBreak d
    (!isGap c && !isBreak c && !isIndicator c) ||
      (c == '-' && rest.head?.all fun d => !isGap d) ||
      (!s.inFlow && (c == '?' || c == ':') && followed)

/-- The next token, of fewer than `limit` characters, and what goes with it; none where no token
can start. -/
def nextToken (limit : Nat) : Option Scanner :=
  let wordEnds := s.here.skip.atWordEnd
  match s.here.next? with
  | none => none
  | some c =>
    if s.here.column = 0 ∧ c = '%' then s.directive
    else if s.here.column = 0 ∧ s.here.seesMark '-' then s.documentMark .documentStart
    else if s.here.column = 0 ∧ s.here.seesMark '.' then s.documentMark .documentEnd
    else if c = '[' then s.flowStart .flowSequenceStart
    else if c = '\x7b' then s.flowStart .flowMappingStart
    else if c = ']' then s.flowEnd .flowSequenceEnd
    else if c = '\x7d' then s.flowEnd .flowMappingEnd
    else if c = ',' then s.flowEntry
    else if c = '-' ∧ wordEnds then s.blockEntry
    else if c = '?' ∧ (s.inFlow ∨ wordEnds) then s.explicitKey
    else if c = ':' ∧ (s.inFlow ∨ wordEnds) then s.colon
    else if c = '*' then s.anchorMark .alias
    else if c = '&' then s.anchorMark .anchor
    else if c = '!' then s.tagMark
    else if c = '|' ∧ !s.inFlow then s.blockScalar limit true
    else if c = '>' ∧ !s.inFlow then s.blockScalar limit false
    else if c = '\'' ∨ c = '"' then s.quotedScalar limit c
    else if s.plainStarts then s.plainScalar limit
    else none

/-- The end of the text, which is also the end of its line. -/
def finish : Option Scanner := do
  let s ← (s.closeBlocks (-1)).dropKey
  return s.emit .streamEnd

/-- One step to the next token, over fewer than `limit` characters. -/
def step (limit : Nat) : Option Scanner := do
  let s ← (s.toNextToken limit).dropStale
  let s := s.closeBlocks s.here.column
  if s.here.atEnd then s.finish else s.nextToken limit

/-- The number of tokens that are given out when the text cannot be cut any further. -/
def settled : Nat :=
  let waiting := (s.key? :: s.outerKeys).filterMap fun key? =>
    key?.bind fun key => if s.isStale key && !key.required then none else some key.token
  waiting.foldl min s.count

/-- All tokens, of a text with fewer than `limit` characters. -/
def run : Nat → Scanner → Tokens
  | 0, s => ⟨s.tokens.reverse, false⟩
  | limit + 1, s =>
    match s.step (limit + 1) with
    | none => ⟨s.tokens.reverse.take s.settled, false⟩
    | some next =>
      if next.tokens.head? = some .streamEnd then ⟨next.tokens.reverse, true⟩
      else run limit next

end Scanner

/-- The characters that a YAML text may hold. -/
def isTextChar (c : Char) : Bool :=
  let code := c.toNat
  code == 9 || code == 10 || code == 13 || (0x20 ≤ code && code ≤ 0x7E) || code == 0x85 ||
    (0xA0 ≤ code && code ≤ 0xFFFD) || 0x10000 ≤ code

/-- The tokens of a text. A text with other characters than those allowed has none. -/
def Tokens.ofText (text : List Char) : Tokens :=
  if text.all isTextChar then Scanner.run (text.length + 2) (Scanner.start text)
  else ⟨[], false⟩

end PipelineDepot.Yaml
