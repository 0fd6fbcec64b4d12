import ClientGen.Yaml.Scalar
import ClientGen.Yaml.Token

/-!
# Nodes of a YAML document

The tree that the tokens of a document form, each node with its type. An alias stands for the node
with its anchor; that node must be complete.
-/

namespace ClientGen
namespace Yaml

/-- A node of a document. -/
inductive Node
  | scalar (tag : Tag) (text : String)
  | list (tag : Tag) (items : List Node)
  | map (tag : Tag) (entries : List (Node × Node))

namespace Node

def tag : Node → Tag
  | .scalar t _ => t
  | .list t _ => t
  | .map t _ => t

/-- The node where nothing is written. -/
def empty : Node := .scalar .null ""

/-- What remains to be read, the anchors so far and the handles of the document. The anchor of a
collection has no node until the collection is complete. -/
structure Source where
  tokens : List Token
  anchors : List (String × Option Node)
  handles : List (String × String)

/-- Anchor and tag of a node, each at most once and in any order. -/
def properties (tokens : List Token) : Option String × Option WrittenTag × List Token :=
  match tokens with
  | .anchor a :: .tag t :: rest => (some a, some t, rest)
  | .tag t :: .anchor a :: rest => (some a, some t, rest)
  | .anchor a :: rest => (some a, none, rest)
  | .tag t :: rest => (none, some t, rest)
  | _ => (none, none, tokens)

/-- The full name of a written tag. -/
def tagName (handles : List (String × String)) (t : WrittenTag) : Except Fault String :=
  match t.handle with
  | none => .ok t.rest
  | some h =>
    match handles.lookup h with
    | some lead => .ok (lead ++ t.rest)
    | none => .error .malformed

/-- The type of a scalar: by its form if it is plain or has the tag of no meaning. -/
def scalarTag (name : Option String) (plain : Bool) (text : String) : Tag :=
  match name with
  | none => if plain then Scalar.plainTag text else .text
  | some n => if n == "!" then Scalar.plainTag text else Tag.ofName n

/-- The type of a collection, `usual` if no other is stated. -/
def collectionTag (name : Option String) (usual : Tag) : Tag :=
  match name with
  | none => usual
  | some n => if n == "!" then usual else Tag.ofName n

namespace Source

/-- Names a node that is not complete yet. -/
def announce (s : Source) (anchor : Option String) : Except Fault Source :=
  match anchor with
  | none => .ok s
  | some a =>
    match s.anchors.lookup a with
    | some _ => .error .malformed
    | none => .ok { s with anchors := (a, none) :: s.anchors }

/-- Gives the anchor its node. -/
def settle (s : Source) (anchor : Option String) (n : Node) : Source :=
  match anchor with
  | none => s
  | some a => { s with anchors := (a, some n) :: s.anchors }

def rest (s : Source) (tokens : List Token) : Source :=
  { s with tokens := tokens }

end Source

/-- Whether the entry of a block sequence is empty: the next entry or the end follows. -/
def endsEntry : List Token → Bool
  | .blockEntry :: _ | .blockEnd :: _ => true
  | _ => false

/-- Whether the next token belongs to the mapping around an entry. -/
def endsPart : List Token → Bool
  | .key :: _ | .value :: _ | .blockEnd :: _ => true
  | _ => false

def endsIndentless (ts : List Token) : Bool :=
  endsEntry ts || endsPart ts

def endsFlowKey : List Token → Bool
  | .value :: _ | .flowEntry :: _ | .flowSequenceEnd :: _ => true
  | _ => false

def endsFlowMapKey : List Token → Bool
  | .value :: _ | .flowEntry :: _ | .flowMappingEnd :: _ => true
  | _ => false

def endsFlowValue : List Token → Bool
  | .flowEntry :: _ | .flowSequenceEnd :: _ => true
  | _ => false

def endsFlowMapValue : List Token → Bool
  | .flowEntry :: _ | .flowMappingEnd :: _ => true
  | _ => false

mutual

/-- The node at the front of the tokens. In a block it may be a block collection, and as part of a
mapping also a sequence at the indentation of the mapping. -/
def read (block indentless : Bool) : Nat → Source → Except Fault (Node × Source)
  | 0, _ => .error .malformed
  | fuel + 1, s =>
    match s.tokens with
    | .alias a :: rest =>
      match s.anchors.lookup a with
      | some (some n) => .ok (n, s.rest rest)
      | _ => .error .malformed
    | _ => do
      let (anchor, written, tokens) := properties s.tokens
      let name ← written.mapM (tagName s.handles)
      let s ← (s.rest tokens).announce anchor
      let (n, s) ← match tokens with
        | .blockEntry :: _ =>
          if indentless then readIndentless (collectionTag name .list) fuel [] s
          else if anchor.isSome || written.isSome then
            pure (.scalar (scalarTag name true "") "", s)
          else throw .malformed
        | .scalar text plain :: rest => pure (.scalar (scalarTag name plain text) text, s.rest rest)
        | .flowSequenceStart :: rest =>
          readFlowList (collectionTag name .list) fuel true [] (s.rest rest)
        | .flowMappingStart :: rest =>
          readFlowMap (collectionTag name .map) fuel true [] (s.rest rest)
        | .blockSequenceStart :: rest =>
          if block then readBlockList (collectionTag name .list) fuel [] (s.rest rest)
          else if anchor.isSome || written.isSome then
            pure (.scalar (scalarTag name true "") "", s)
          else throw .malformed
        | .blockMappingStart :: rest =>
          if block then readBlockMap (collectionTag name .map) fuel [] (s.rest rest)
          else if anchor.isSome || written.isSome then
            pure (.scalar (scalarTag name true "") "", s)
          else throw .malformed
        | _ =>
          if anchor.isSome || written.isSome then pure (.scalar (scalarTag name true "") "", s)
          else throw .malformed
      return (n, s.settle anchor n)

/-- The entries of a block sequence and its end. -/
def readBlockList (tag : Tag) : Nat → List Node → Source → Except Fault (Node × Source)
  | 0, _, _ => .error .malformed
  | fuel + 1, done, s =>
    match s.tokens with
    | .blockEntry :: rest =>
      if endsEntry rest then readBlockList tag fuel (empty :: done) (s.rest rest)
      else do
        let (n, s) ← read true false fuel (s.rest rest)
        readBlockList tag fuel (n :: done) s
    | .blockEnd :: rest => .ok (.list tag done.reverse, s.rest rest)
    | _ => .error .malformed

/-- The entries of a sequence at the indentation of the mapping around it. -/
def readIndentless (tag : Tag) : Nat → List Node → Source → Except Fault (Node × Source)
  | 0, _, _ => .error .malformed
  | fuel + 1, done, s =>
    match s.tokens with
    | .blockEntry :: rest =>
      if endsIndentless rest then readIndentless tag fuel (empty :: done) (s.rest rest)
      else do
        let (n, s) ← read true false fuel (s.rest rest)
        readIndentless tag fuel (n :: done) s
    | _ => .ok (.list tag done.reverse, s)

/-- The entries of a block mapping and its end. -/
def readBlockMap (tag : Tag) : Nat → List (Node × Node) → Source → Except Fault (Node × Source)
  | 0, _, _ => .error .malformed
  | fuel + 1, done, s =>
    match s.tokens with
    | .blockEnd :: rest => .ok (.map tag done.reverse, s.rest rest)
    | .key :: rest => do
      let (k, s) ← if endsPart rest then pure (empty, s.rest rest)
        else read true true fuel (s.rest rest)
      let (v, s) ← match s.tokens with
        | .value :: rest =>
          if endsPart rest then pure (empty, s.rest rest) else read true true fuel (s.rest rest)
        | _ => pure (empty, s)
      readBlockMap tag fuel ((k, v) :: done) s
    | _ => .error .malformed

/-- The entries of a flow sequence and its end. An entry with a key is a mapping of its own. -/
def readFlowList (tag : Tag) :
    Nat → Bool → List Node → Source → Except Fault (Node × Source)
  | 0, _, _, _ => .error .malformed
  | fuel + 1, first, done, s =>
    match s.tokens with
    | .flowSequenceEnd :: rest => .ok (.list tag done.reverse, s.rest rest)
    | tokens => do
      let tokens ←
        if first then pure tokens
        else match tokens with
          | .flowEntry :: rest => pure rest
          | _ => throw .malformed
      match tokens with
      | .flowSequenceEnd :: rest => return (.list tag done.reverse, s.rest rest)
      | .key :: rest =>
        let (k, s) ← if endsFlowKey rest then pure (empty, s.rest rest)
          else read false false fuel (s.rest rest)
        let (v, s) ← match s.tokens with
          | .value :: rest =>
            if endsFlowValue rest then pure (empty, s.rest rest)
            else read false false fuel (s.rest rest)
          | _ => pure (empty, s)
        readFlowList tag fuel false (.map .map [(k, v)] :: done) s
      | _ =>
        let (n, s) ← read false false fuel (s.rest tokens)
        readFlowList tag fuel false (n :: done) s

/-- The entries of a flow mapping and its end. -/
def readFlowMap (tag : Tag) :
    Nat → Bool → List (Node × Node) → Source → Except Fault (Node × Source)
  | 0, _, _, _ => .error .malformed
  | fuel + 1, first, done, s =>
    match s.tokens with
    | .flowMappingEnd :: rest => .ok (.map tag done.reverse, s.rest rest)
    | tokens => do
      let tokens ←
        if first then pure tokens
        else match tokens with
          | .flowEntry :: rest => pure rest
          | _ => throw .malformed
      match tokens with
      | .flowMappingEnd :: rest => return (.map tag done.reverse, s.rest rest)
      | .key :: rest =>
        let (k, s) ← if endsFlowMapKey rest then pure (empty, s.rest rest)
          else read false false fuel (s.rest rest)
        let (v, s) ← match s.tokens with
          | .value :: rest =>
            if endsFlowMapValue rest then pure (empty, s.rest rest)
            else read false false fuel (s.rest rest)
          | _ => pure (empty, s)
        readFlowMap tag fuel false ((k, v) :: done) s
      | _ =>
        let (k, s) ← read false false fuel (s.rest tokens)
        readFlowMap tag fuel false ((k, empty) :: done) s

end

/-- The handles that every document has. -/
def usualHandles : List (String × String) :=
  [("!", "!"), ("!!", Tag.lead)]

/-- The directives at the front of a document: the version at most once and only the first major one,
and each handle at most once. -/
def directives (seen : Bool) (handles : List (String × String)) :
    List Token → Except Fault (List (String × String) × List Token)
  | .directive (.version major) :: rest =>
    if seen || major ≠ 1 then .error .malformed else directives true handles rest
  | .directive (.handle h lead) :: rest =>
    match handles.lookup h with
    | some _ => .error .malformed
    | none => directives seen ((h, lead) :: handles) rest
  | .directive .other :: rest => directives seen handles rest
  | tokens => .ok (handles ++ usualHandles, tokens)

/-- Whether no content follows the line that starts a document. -/
def isEmptyDocument : List Token → Bool
  | .directive _ :: _ | .documentStart :: _ | .documentEnd :: _ | .streamEnd :: _ => true
  | _ => false

/-- Whether only ends of documents and the end of the stream are left. -/
def atEnd : List Token → Bool
  | [.streamEnd] => true
  | .documentEnd :: rest => atEnd rest
  | _ => false

/-- The document that the tokens form; a stream may be empty and holds no second document. -/
def ofTokens (tokens : List Token) : Except Fault (Option Node) := do
  let fuel := 2 * tokens.length + 4
  match tokens with
  | [.streamEnd] => return none
  | .directive _ :: _ | .documentStart :: _ =>
    let (handles, tokens) ← directives false [] tokens
    match tokens with
    | .documentStart :: rest =>
      if isEmptyDocument rest then
        if atEnd rest then return some empty else throw .malformed
      else
        let (n, s) ← read true false fuel ⟨rest, [], handles⟩
        if atEnd s.tokens then return some n else throw .malformed
    | _ => throw .malformed
  | _ =>
    let (n, s) ← read true false fuel ⟨tokens, [], usualHandles⟩
    if atEnd s.tokens then return some n else throw .malformed

end Node
end Yaml
end ClientGen
