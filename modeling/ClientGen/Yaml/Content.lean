import ClientGen.Yaml.Node

/-!
# Values of nodes

The value of a document is built from its root to its leaves: all nodes of one depth come before the
deeper ones, so of several faults the one at the least depth counts. A collection merges the mappings
under its merge keys in front of its own entries.
-/

namespace ClientGen
namespace Yaml

/-- The value of a node, the fault of the node itself, and the first fault inside it with its depth
below the node. -/
structure Content where
  value : Value
  own : Option Fault
  inner : Option (Nat × Fault)

namespace Content

def ofExcept : Except Fault Value → Content
  | .ok v => ⟨v, none, none⟩
  | .error f => ⟨.null, some f, none⟩

/-- The fault of least depth; of equals the first. -/
def shallower (a b : Option (Nat × Fault)) : Option (Nat × Fault) :=
  match a, b with
  | none, b => b
  | a, none => a
  | some (m, f), some (n, g) => if n < m then some (n, g) else some (m, f)

/-- The first fault in a row of parts of one collection. -/
def faultOf (parts : List Content) : Option (Nat × Fault) :=
  match parts.findSome? fun p => p.own with
  | some f => some (0, f)
  | none =>
    parts.foldl (fun acc p => shallower acc (p.inner.map fun (d, f) => (d + 1, f))) none

/-- A collection with the given parts. -/
def collection (value : Value) (parts : List Content) : Content :=
  ⟨value, none, faultOf parts⟩

/-- A collection that its node cannot give. -/
def misfit (value : Value) : Content :=
  ⟨value, none, some (0, .malformed)⟩

end Content

namespace Node

/-- A lone equals sign as a key is text. -/
def asKey : Node → Node
  | .scalar .value text => .scalar .text text
  | n => n

/-- The entries of a mapping with those under its merge keys in front. Of a list of mappings the
last one comes first. -/
def merged : Nat → List (Node × Node) → Option (List (Node × Node))
  | 0, _ => none
  | fuel + 1, entries =>
    let rec go (front own : List (Node × Node)) :
        List (Node × Node) → Option (List (Node × Node))
      | [] => some (front ++ own.reverse)
      | (k, v) :: rest =>
        if k.tag = .merge then
          match v with
          | .map _ es => do
            let es ← merged fuel es
            go (front ++ es) own rest
          | .list _ items => do
            let parts ← items.mapM fun
              | .map _ es => merged fuel es
              | _ => none
            go (front ++ parts.reverse.flatten) own rest
          | _ => none
        else go front ((k.asKey, v) :: own) rest
    go [] [] entries

/-- The text of a scalar; a mapping stands for what it has under a lone equals sign. -/
def scalarText? : Nat → Node → Option String
  | 0, _ => none
  | _ + 1, .scalar _ s => some s
  | _ + 1, .list _ _ => none
  | fuel + 1, .map _ entries => do
    let (_, v) ← entries.find? fun e => e.1.tag = .value
    scalarText? fuel v

/-- The value of a node up to a depth. -/
def content : Nat → Node → Content
  | 0, _ => ⟨.null, some .malformed, none⟩
  | fuel + 1, n =>
    let entryContents (entries : List (Node × Node)) : Option (List (Content × Content)) :=
      (merged fuel entries).map fun es => es.map fun e => (content fuel e.1, content fuel e.2)
    /- A key that cannot be one is a fault between key and value. -/
    let parts (es : List (Content × Content)) : List Content :=
      es.flatMap fun (k, v) =>
        if k.value.isKey then [k, v] else [k, ⟨.null, some .malformed, none⟩]
    let entries (es : List (Content × Content)) : List (Value × Value) :=
      Value.ofEntries (es.map fun (k, v) => (k.value, v.value))
    match n.tag with
    | .list =>
      match n with
      | .list _ items =>
        let cs := items.map (content fuel)
        .collection (.list (cs.map Content.value)) cs
      | _ => .misfit (.list [])
    | .map =>
      match n with
      | .map _ es =>
        match entryContents es with
        | some cs => .collection (.map (entries cs)) (parts cs)
        | none => .misfit (.map [])
      | _ => .misfit (.map [])
    | .set =>
      match n with
      | .map _ es =>
        match entryContents es with
        | some cs => .collection (.set ((entries cs).map Prod.fst)) (parts cs)
        | none => .misfit (.set [])
      | _ => .misfit (.set [])
    | .orderedMap | .pairs =>
      match n with
      | .list _ items =>
        let cs := items.map fun
          | .map _ [(k, v)] => some (content fuel k, content fuel v)
          | _ => none
        let parts := cs.flatMap fun
          | some (k, v) => [k, v]
          | none => [⟨.null, some .malformed, none⟩]
        let values := cs.filterMap fun c => c.map fun (k, v) => Value.pair k.value v.value
        .collection (.list values) parts
      | _ => .misfit (.list [])
    | tag =>
      match scalarText? (fuel + 1) n with
      | some s => .ofExcept (Scalar.valueOf tag s)
      | none => ⟨.null, some .malformed, none⟩

mutual

/-- The number of nested nodes on the longest way down. -/
def depth : Node → Nat
  | .scalar _ _ => 1
  | .list _ items => depths items + 1
  | .map _ entries => entryDepths entries + 1

def depths : List Node → Nat
  | [] => 0
  | n :: rest => max n.depth (depths rest)

def entryDepths : List (Node × Node) → Nat
  | [] => 0
  | (k, v) :: rest => max (max k.depth v.depth) (entryDepths rest)

end

/-- The value of a document. -/
def value (n : Node) : Except Fault Value :=
  let c := n.content (n.depth + 1)
  match c.own, c.inner with
  | some f, _ => .error f
  | none, some (_, f) => .error f
  | none, none => .ok c.value

end Node

/-- Whether a text may hold the character. -/
def isAllowed (c : Char) : Bool :=
  let n := c.toNat
  n == 9 || n == 10 || n == 13 || (0x20 ≤ n && n ≤ 0x7E) || n == 0x85 || (0xA0 ≤ n && n ≤ 0xD7FF) ||
    (0xE000 ≤ n && n ≤ 0xFFFD) || 0x10000 ≤ n

/-- The value that a whole text writes. -/
def read (cs : List Char) : Except Fault Value := do
  if !cs.all isAllowed then throw .malformed
  match ← Node.ofTokens (← tokens cs) with
  | none => return .null
  | some n => n.value

end Yaml
end ClientGen
