import DocSamples.Yaml.Token

namespace DocSamples.Yaml

/-! # Nodes

The tokens of a text make one tree of scalars, sequences and mappings.  What is
left out where a node may stand is an empty plain scalar.  A node with a name can
be put where its name is said again.
-/

inductive Node where
  /-- A scalar without a tag means what its text does if it is plain. -/
  | scalar (text : List Char) (isPlain : Bool) (tag : Option String)
  | sequence (items : List Node) (tag : Option String)
  | mapping (entries : List (Node × Node)) (tag : Option String)
deriving Repr

namespace Node

def nothing : Node := .scalar [] true none

/-- What is left of the tokens, and what names and handles of tags stand for. -/
structure Reader where
  tokens : List Token
  named : List (List Char × Node) := []
  handles : List (List Char × List Char) := []

namespace Reader

def standardHandles : List (List Char × List Char) :=
  [(['!'], ['!']), (['!', '!'], "tag:yaml.org,2002:".toList)]

end Reader

abbrev Reading := StateT Reader (Except Fault)

/-- The next token, which there is none of at the end of the text. -/
def peek : Reading (Option Token) := do
  match (← get).tokens with
  | .broken fault :: _ => throw fault
  | tokens => return tokens.head?

def advance : Reading Unit :=
  modify fun reader => { reader with tokens := reader.tokens.tail }

/-- Whether the next token is of some kind; then it is passed over. -/
def accept (token : Token) : Reading Bool := do
  if (← peek) = some token then
    advance
    return true
  else return false

def expect (token : Token) : Reading Unit := do
  unless ← accept token do throw .malformed

/-! Tokens after which a node has been left out, by the place where it may stand. -/

def endsEntry : Token → Bool
  | .entry | .blockEnd => true
  | _ => false

def endsBareEntry : Token → Bool
  | .entry | .key | .value | .blockEnd => true
  | _ => false

def endsMappingPart : Token → Bool
  | .key | .value | .blockEnd => true
  | _ => false

def endsFlowSequencePart : Token → Bool
  | .value | .flowEntry | .flowSequenceEnd => true
  | _ => false

def endsFlowMappingPart : Token → Bool
  | .value | .flowEntry | .flowMappingEnd => true
  | _ => false

/-- The name and the tag in front of a node. -/
structure Properties where
  name : Option (List Char) := none
  tag : Option TagText := none

def readName : Reading (Option (List Char)) := do
  match ← peek with
  | some (.anchor name) => advance; return some name
  | _ => return none

def readTag : Reading (Option TagText) := do
  match ← peek with
  | some (.tag tag) => advance; return some tag
  | _ => return none

/-- Reads a name and a tag, in either order and each once at most. -/
def readProperties : Reading Properties := do
  match ← readName with
  | some name => return { name, tag := ← readTag }
  | none =>
      match ← readTag with
      | some tag => return { name := ← readName, tag }
      | none => return {}

/-- The full text of a tag. -/
def tagOf (tag : TagText) : Reading (List Char) := do
  match tag.handle with
  | none => return tag.suffix
  | some handle =>
      match (← get).handles.lookup handle with
      | some meaning => return meaning ++ tag.suffix
      | none => throw .malformed

/-- Lets a name stand for a node from here on. -/
def register (name : Option (List Char)) (node : Node) : Reading Node := do
  match name with
  | none => return node
  | some name =>
      modify fun reader => { reader with named := (name, node) :: reader.named }
      return node

def checkNew (name : Option (List Char)) : Reading Unit := do
  match name with
  | none => return
  | some name => if ((← get).named.lookup name).isSome then throw .malformed

/-- Passes over the comma before all entries of a flow but the first. -/
def afterComma (isFirst : Bool) : Reading Unit :=
  if isFirst then return else expect .flowEntry

/-- A node of which there are only properties. -/
def parseNothing (name : Option (List Char)) (tag : Option String) (isMark : Bool) :
    Reading Node :=
  if name.isSome || tag.isSome || isMark then register name (.scalar [] true tag)
  else throw .malformed

mutual

/-- A node.  `inBlock` allows blocks, `bare` sequences without indentation. -/
def parse (fuel : Nat) (inBlock bare : Bool) : Reading Node :=
  match fuel with
  | 0 => throw .malformed
  | fuel + 1 => do
      match ← peek with
      | some (.reference name) =>
          advance
          match (← get).named.lookup name with
          | some node => return node
          | none => throw .malformed
      | _ =>
          let properties ← readProperties
          let full ← properties.tag.mapM tagOf
          -- A mark alone is no tag, but makes a scalar a plain one.
          let isMark := full = some ['!']
          let tag := if isMark then none else full.map String.ofList
          parseContent fuel inBlock bare properties.name tag isMark

/-- What stands behind the properties of a node. -/
def parseContent (fuel : Nat) (inBlock bare : Bool) (name : Option (List Char))
    (tag : Option String) (isMark : Bool) : Reading Node :=
  match fuel with
  | 0 => throw .malformed
  | fuel + 1 => do
      let next ← peek
      checkNew name
      -- Inside of itself a collection is not known yet.
      match next with
      | some (.scalar text isPlain) =>
          advance
          register name (.scalar text (isPlain || isMark) tag)
      | some .flowSequenceStart =>
          advance
          let _ ← register name (.sequence [] tag)
          register name (.sequence (← parseFlowItems fuel true) tag)
      | some .flowMappingStart =>
          advance
          let _ ← register name (.mapping [] tag)
          register name (.mapping (← parseFlowEntries fuel true) tag)
      | some .entry =>
          if bare then
            let _ ← register name (.sequence [] tag)
            register name (.sequence (← parseBareEntries fuel) tag)
          else parseNothing name tag isMark
      | some .sequenceStart =>
          if inBlock then
            advance
            let _ ← register name (.sequence [] tag)
            register name (.sequence (← parseEntries fuel) tag)
          else parseNothing name tag isMark
      | some .mappingStart =>
          if inBlock then
            advance
            let _ ← register name (.mapping [] tag)
            register name (.mapping (← parsePairs fuel) tag)
          else parseNothing name tag isMark
      | _ => parseNothing name tag isMark

/-- A node, or nothing before certain tokens. -/
def parseUnless (fuel : Nat) (ends : Token → Bool) (inBlock bare : Bool) : Reading Node :=
  match fuel with
  | 0 => throw .malformed
  | fuel + 1 => do
      if (← peek).any ends then return nothing else parse fuel inBlock bare

/-- The entries of a block sequence up to its end. -/
def parseEntries (fuel : Nat) : Reading (List Node) :=
  match fuel with
  | 0 => throw .malformed
  | fuel + 1 => do
      if ← accept .entry then
        let item ← parseUnless fuel endsEntry true false
        return item :: (← parseEntries fuel)
      else
        expect .blockEnd
        return []

/-- The entries of a sequence without indentation. -/
def parseBareEntries (fuel : Nat) : Reading (List Node) :=
  match fuel with
  | 0 => throw .malformed
  | fuel + 1 => do
      if ← accept .entry then
        let item ← parseUnless fuel endsBareEntry true false
        return item :: (← parseBareEntries fuel)
      else return []

/-- The keys and values of a block mapping up to its end. -/
def parsePairs (fuel : Nat) : Reading (List (Node × Node)) :=
  match fuel with
  | 0 => throw .malformed
  | fuel + 1 => do
      if ← accept .key then
        let key ← parseUnless fuel endsMappingPart true true
        let value ← parseValue fuel endsMappingPart true
        return (key, value) :: (← parsePairs fuel)
      else
        expect .blockEnd
        return []

/-- What stands after the mark of a value, or nothing if there is no mark. -/
def parseValue (fuel : Nat) (ends : Token → Bool) (inBlock : Bool) : Reading Node :=
  match fuel with
  | 0 => throw .malformed
  | fuel + 1 => do
      if ← accept .value then parseUnless fuel ends inBlock inBlock else return nothing

/-- The items of a flow sequence; a key with a value is a mapping of one entry. -/
def parseFlowItems (fuel : Nat) (isFirst : Bool) : Reading (List Node) :=
  match fuel with
  | 0 => throw .malformed
  | fuel + 1 => do
      if ← accept .flowSequenceEnd then return []
      else
        afterComma isFirst
        if ← accept .flowSequenceEnd then return []
        else if ← accept .key then
          let key ← parseUnless fuel endsFlowSequencePart false false
          let value ← parseValue fuel endsFlowSequencePart false
          return .mapping [(key, value)] none :: (← parseFlowItems fuel false)
        else
          let item ← parse fuel false false
          return item :: (← parseFlowItems fuel false)

/-- The entries of a flow mapping; a node alone is a key without a value. -/
def parseFlowEntries (fuel : Nat) (isFirst : Bool) : Reading (List (Node × Node)) :=
  match fuel with
  | 0 => throw .malformed
  | fuel + 1 => do
      if ← accept .flowMappingEnd then return []
      else
        afterComma isFirst
        if ← accept .flowMappingEnd then return []
        else if ← accept .key then
          let key ← parseUnless fuel endsFlowMappingPart false false
          let value ← parseValue fuel endsFlowMappingPart false
          return (key, value) :: (← parseFlowEntries fuel false)
        else
          let key ← parse fuel false false
          return (key, nothing) :: (← parseFlowEntries fuel false)

end

/-! ## Documents -/

/-- Notes what a directive says; each thing is said once, and of versions only the
first is known. -/
def takeDirective (hasVersion : Bool) (directive : Directive) : Reading Bool := do
  match directive with
  | .other => return hasVersion
  | .version major => if hasVersion || major ≠ 1 then throw .malformed else return true
  | .handle handle meaning =>
      if ((← get).handles.lookup handle).isSome then throw .malformed
      else
        modify fun reader => { reader with handles := (handle, meaning) :: reader.handles }
        return hasVersion

def readDirectives (fuel : Nat) (hasVersion : Bool) : Reading Unit :=
  match fuel with
  | 0 => return
  | fuel + 1 => do
      match ← peek with
      | some (.directive directive) =>
          advance
          readDirectives fuel (← takeDirective hasVersion directive)
      | _ => return

def skipDocumentEnds (fuel : Nat) : Reading Unit :=
  match fuel with
  | 0 => return
  | fuel + 1 => do if ← accept .documentEnd then skipDocumentEnds fuel

/-- The directives of a document and the mark at its start. -/
def readStart (fuel : Nat) : Reading Unit := do
  modify fun reader => { reader with handles := [] }
  readDirectives fuel false
  expect .documentStart
  modify fun reader => { reader with handles := reader.handles ++ Reader.standardHandles }

def endsDocument : Token → Bool
  | .directive _ | .documentStart | .documentEnd => true
  | _ => false

/-- The node of a document, up to the end of all tokens. -/
def readRoot (fuel : Nat) : Reading Node := do
  let root ← match ← peek with
    | some (.directive _) | some .documentStart => do
        readStart fuel
        match ← peek with
        | none => pure nothing
        | some token => if endsDocument token then pure nothing else parse fuel true false
    | _ => parse fuel true false
  skipDocumentEnds fuel
  if (← peek).isSome then
    -- A second document is refused when its start has been read.
    readStart fuel
    throw .malformed
  return root

/-- The only document of some tokens; there may be none. -/
def ofTokens (tokens : List Token) : Except Fault (Option Node) :=
  let reader : Reader := { tokens, handles := Reader.standardHandles }
  let read : Reading (Option Node) := do
    match ← peek with
    | none => return none
    | some _ => return some (← readRoot (5 * tokens.length + 5))
  read.run' reader

end Node

end DocSamples.Yaml
