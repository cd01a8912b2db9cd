import PipelineDepot.Yaml.Token

/-! # The structure of YAML texts

Tokens give a sequence of marks and nodes: documents, lists and maps that start and end, scalars
and aliases. What the text leaves out is put in: a missing node is an empty plain scalar.

The reading works through an agenda, the constructs that are still open, the innermost first. An
agenda entry is a place of the grammar, and each step looks at the next token to decide what comes
at that place.
-/

namespace PipelineDepot.Yaml

/-- The marks on a node: the name it can be referred to by, and its tag. -/
structure Marks where
  anchor? : Option (List Char) := none
  tag? : Option (List Char) := none
  deriving DecidableEq, Repr

/-- One element of the structure of a text. -/
inductive Mark
  | documentStart
  | documentEnd
  | streamEnd
  | alias (name : List Char)
  | scalar (text : List Char) (style : ScalarStyle) (marks : Marks)
  | listStart (marks : Marks)
  | listEnd
  | mapStart (marks : Marks)
  | mapEnd
  deriving DecidableEq, Repr

/-- A place of the grammar. -/
inductive Goal
  /-- A document or the end of the text; only the first document goes without a mark. -/
  | document (first : Bool)
  | documentContent
  | documentEnd
  | blockNode
  | blockItem
  /-- An item of a list that stands at the column of the map around it. -/
  | flatItem
  | blockKey
  | blockValue
  | flowItem (first : Bool)
  /-- A key, a value and the end of a map with one entry inside a flow list. -/
  | pairKey
  | pairValue
  | pairEnd
  | flowKey (first : Bool)
  | flowValue
  /-- The value of a key without a colon. -/
  | missingValue
  deriving DecidableEq, Repr

/-- How far a text has been read. -/
structure Structure where
  tokens : List Token
  agenda : List Goal
  /-- What the handles of tags stand for. -/
  handles : List (List Char × List Char)

namespace Structure

/-- What the handles of tags stand for in a document without directives of its own. -/
def defaultHandles : List (List Char × List Char) :=
  [(['!'], ['!']), (['!', '!'], "tag:yaml.org,2002:".toList)]

/-- An element, and what is left to read. -/
abbrev Step := Option (Mark × Structure)

variable (s : Structure)

/-- Goes on behind the next token. -/
def drop : Structure := { s with tokens := s.tokens.drop 1 }

/-- Goes on at other places. -/
def goOn (agenda : List Goal) : Structure := { s with agenda := agenda }

/-- An empty scalar in place of a missing node. -/
def emptyScalar (marks : Marks := {}) : Mark := .scalar [] .plain marks

/-- The tag that a handle and a suffix make. -/
def fullTag? (handle suffix : List Char) : Option (List Char) :=
  if handle = [] then some suffix else (s.handles.lookup handle).map (· ++ suffix)

/-- Reads the anchor and the tag in front of a node, in either order. -/
def marks : Option (Marks × Structure) :=
  match s.tokens with
  | .anchor name :: .tag handle suffix :: rest =>
    (s.fullTag? handle suffix).map fun tag => (⟨some name, some tag⟩, { s with tokens := rest })
  | .anchor name :: rest => some (⟨some name, none⟩, { s with tokens := rest })
  | .tag handle suffix :: .anchor name :: rest =>
    (s.fullTag? handle suffix).map fun tag => (⟨some name, some tag⟩, { s with tokens := rest })
  | .tag handle suffix :: rest =>
    (s.fullTag? handle suffix).map fun tag => (⟨none, some tag⟩, { s with tokens := rest })
  | _ => some ({}, s)

/-- Reads the start of a node; `rest` are the places behind it. A flow collection holds flow nodes
only, and the keys and values of a block map may be lists that stand at its own column. -/
def node (block flat : Bool) (rest : List Goal) : Step :=
  match s.tokens with
  | [] => none
  | .alias name :: _ => some (.alias name, s.drop.goOn rest)
  | _ =>
    match s.marks with
    | none => none
    | some (marks, s) =>
      match s.tokens with
      | .blockEntry :: _ =>
        if flat then some (.listStart marks, s.goOn (.flatItem :: rest))
        else if marks = {} then none
        else some (emptyScalar marks, s.goOn rest)
      | .scalar text style :: _ => some (.scalar text style marks, s.drop.goOn rest)
      | .flowSequenceStart :: _ =>
        some (.listStart marks, s.drop.goOn (.flowItem true :: rest))
      | .flowMappingStart :: _ => some (.mapStart marks, s.drop.goOn (.flowKey true :: rest))
      | .blockSequenceStart :: _ =>
        if block then some (.listStart marks, s.drop.goOn (.blockItem :: rest))
        else if marks = {} then none
        else some (emptyScalar marks, s.goOn rest)
      | .blockMappingStart :: _ =>
        if block then some (.mapStart marks, s.drop.goOn (.blockKey :: rest))
        else if marks = {} then none
        else some (emptyScalar marks, s.goOn rest)
      | [] => none
      | _ => if marks = {} then none else some (emptyScalar marks, s.goOn rest)

/-- Reads the directives in front of a document, of which there may be one version. -/
def directives (handles : List (List Char × List Char)) (versioned : Bool) :
    List Token → Option (List Token × List (List Char × List Char))
  | .versionDirective major minor :: rest =>
    if versioned || major ≠ 1 || (minor ≠ 1 && minor ≠ 2) then none
    else directives handles true rest
  | .tagDirective handle lead :: rest =>
    if (handles.lookup handle).isSome then none
    else directives (handles ++ [(handle, lead)]) versioned rest
  | tokens => some (tokens, handles ++ defaultHandles)

/-- Reads the start of a document or the end of the text. -/
def document (first : Bool) (rest : List Goal) : Step :=
  let tokens := if first then s.tokens else s.tokens.dropWhile (· = .documentEnd)
  match tokens with
  | [] => none
  | .streamEnd :: _ => some (.streamEnd, { s with tokens := tokens.drop 1, agenda := [] })
  | next :: _ =>
    let marked :=
      match next with
      | .versionDirective _ _ | .tagDirective _ _ | .documentStart => true
      | _ => false
    if first && !marked then
      some (.documentStart,
        { s with agenda := .blockNode :: .documentEnd :: rest, handles := defaultHandles })
    else
      match directives [] false tokens with
      | some (.documentStart :: tokens, handles) =>
        some (.documentStart,
          { tokens, handles, agenda := .documentContent :: .documentEnd :: rest })
      | _ => none

/-- Reads the element at the innermost open place. -/
def step : Step :=
  match s.agenda with
  | [] => none
  | goal :: rest =>
    match s.tokens with
    | [] => none
    | next :: later =>
      let after := s.drop
      /- An empty scalar where one of the `stops` follows, and a node otherwise. -/
      let nodeUnless (s : Structure) (stops : List Token) (block flat : Bool) (rest : List Goal) :
          Step :=
        match s.tokens with
        | [] => none
        | token :: _ =>
          if token ∈ stops then some (emptyScalar, s.goOn rest) else s.node block flat rest
      match goal with
      | .document first => s.document first rest
      | .documentContent =>
        match next with
        | .versionDirective _ _ | .tagDirective _ _ =>
          some (emptyScalar, s.goOn rest)
        | _ => nodeUnless s [.documentStart, .documentEnd, .streamEnd] true false rest
      | .documentEnd =>
        let s := if next = .documentEnd then after else s
        some (.documentEnd, s.goOn (.document false :: rest))
      | .blockNode => s.node true false rest
      | .blockItem =>
        match next with
        | .blockEntry => nodeUnless after [.blockEntry, .blockEnd] true false (goal :: rest)
        | .blockEnd => some (.listEnd, after.goOn rest)
        | _ => none
      | .flatItem =>
        match next with
        | .blockEntry =>
          nodeUnless after [.blockEntry, .key, .value, .blockEnd] true false (goal :: rest)
        | _ => some (.listEnd, s.goOn rest)
      | .blockKey =>
        match next with
        | .key => nodeUnless after [.key, .value, .blockEnd] true true (.blockValue :: rest)
        | .blockEnd => some (.mapEnd, after.goOn rest)
        | _ => none
      | .blockValue =>
        match next with
        | .value => nodeUnless after [.key, .value, .blockEnd] true true (.blockKey :: rest)
        | _ => some (emptyScalar, s.goOn (.blockKey :: rest))
      | .flowItem first =>
        if next = .flowSequenceEnd then some (.listEnd, after.goOn rest)
        else
          let s? := if first then some s else if next = .flowEntry then some after else none
          match s? with
          | none => none
          | some s =>
            match s.tokens with
            | [] => none
            | .key :: _ => some (.mapStart {}, s.drop.goOn (.pairKey :: .flowItem false :: rest))
            | .flowSequenceEnd :: _ => some (.listEnd, s.drop.goOn rest)
            | _ => s.node false false (.flowItem false :: rest)
      | .pairKey =>
        if next ∈ [.value, .flowEntry, .flowSequenceEnd] then
          some (emptyScalar, { s with tokens := later, agenda := .pairValue :: rest })
        else s.node false false (.pairValue :: rest)
      | .pairValue =>
        match next with
        | .value => nodeUnless after [.flowEntry, .flowSequenceEnd] false false (.pairEnd :: rest)
        | _ => some (emptyScalar, s.goOn (.pairEnd :: rest))
      | .pairEnd => some (.mapEnd, s.goOn rest)
      | .flowKey first =>
        if next = .flowMappingEnd then some (.mapEnd, after.goOn rest)
        else
          let s? := if first then some s else if next = .flowEntry then some after else none
          match s? with
          | none => none
          | some s =>
            match s.tokens with
            | [] => none
            | .key :: _ =>
              nodeUnless s.drop [.value, .flowEntry, .flowMappingEnd] false false
                (.flowValue :: rest)
            | .flowMappingEnd :: _ => some (.mapEnd, s.drop.goOn rest)
            | _ => s.node false false (.missingValue :: rest)
      | .flowValue =>
        match next with
        | .value =>
          nodeUnless after [.flowEntry, .flowMappingEnd] false false (.flowKey false :: rest)
        | _ => some (emptyScalar, s.goOn (.flowKey false :: rest))
      | .missingValue => some (emptyScalar, s.goOn (.flowKey false :: rest))

/-- The elements that can be read in at most `limit` steps. -/
def marksUpTo : Nat → Structure → List Mark
  | 0, _ => []
  | limit + 1, s =>
    match s.step with
    | none => []
    | some (mark, next) => mark :: marksUpTo limit next

/-- The elements of a text, up to its end or to the first place that fits no rule. A token takes
at most four steps. -/
def ofTokens (tokens : List Token) : List Mark :=
  marksUpTo (4 * tokens.length + 8) ⟨tokens, [.document true], []⟩

end Structure

end PipelineDepot.Yaml
