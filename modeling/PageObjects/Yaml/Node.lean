/-
  PageObjects.Yaml.Node

  The documents of a YAML text. A node is a scalar, a sequence, a mapping, or a
  reference to a node that has a name; the named nodes of a document are kept beside
  it, so a reference may stand inside the node it refers to.
-/

import PageObjects.Yaml.Token

namespace PageObjects
namespace Yaml

/-- A node of a document. A reference is the number of a named node. -/
inductive Node where
  | scalar (style : ScalarStyle) (tag : Option String) (text : String)
  | sequence (items : List Node)
  | mapping (pairs : List (Node × Node))
  | reference (number : Nat)
deriving Repr, Inhabited

/-- A document: its top node and its named nodes. -/
structure Document where
  root : Node
  named : List (Nat × Node)
deriving Repr

namespace Node

/-- A node that is not written. -/
def missing : Node := .scalar .plain none ""

/-- What is known while nodes are read: the tokens left, the names with their numbers, the named
    nodes read so far, and the handles of tags. -/
structure Reader where
  tokens : List Token
  names : List (List Char × Nat) := []
  count : Nat := 0
  named : List (Nat × Node) := []
  handles : List (List Char × List Char) := []

namespace Reader

/-- The next token. -/
def peek (r : Reader) : Token :=
  r.tokens.head?.getD .streamEnd

/-- Passes a token. -/
def skip (r : Reader) : Reader :=
  { r with tokens := r.tokens.drop 1 }

/-- Gives a name to the next node. -/
def name (written : List Char) (r : Reader) : Reader :=
  { r with names := (written, r.count) :: r.names, count := r.count + 1 }

/-- Keeps a node under its number, if it has one. -/
def keep (number : Option Nat) (node : Node) (r : Reader) : Reader :=
  match number with
  | some n => { r with named := (n, node) :: r.named }
  | none => r

/-- The tag with the given handle and suffix. -/
def resolveTag? (handle suffix : List Char) (r : Reader) : Option String :=
  if handle.isEmpty then some (String.ofList suffix)
  else (r.handles.lookup handle).map fun start => String.ofList (start ++ suffix)

end Reader

/-- What may stand before a node: a name and a tag, in either order. -/
structure Properties where
  number : Option Nat := none
  tag : Option String := none

/-- Reads what stands before a node. -/
def properties? (r : Reader) : Option (Properties × Reader) :=
  match r.tokens with
  | .anchor name :: .tag handle suffix :: _ => do
    let r := r.skip.name name
    let tag ← r.resolveTag? handle suffix
    some ({ number := some (r.count - 1), tag := some tag }, r.skip)
  | .tag handle suffix :: .anchor name :: _ => do
    let tag ← r.resolveTag? handle suffix
    let r := r.skip.name name
    some ({ number := some (r.count - 1), tag := some tag }, r.skip)
  | .anchor name :: _ =>
    let r := r.skip.name name
    some ({ number := some (r.count - 1) }, r)
  | .tag handle suffix :: _ => do
    let tag ← r.resolveTag? handle suffix
    some ({ tag := some tag }, r.skip)
  | _ => some ({}, r)

/-- Whether a key without a node ends at this token. -/
def endsBlockPart : Token → Bool
  | .key | .value | .blockEnd => true
  | _ => false

/-- Whether a part of a flow mapping ends at this token. -/
def endsFlowPart : Token → Bool
  | .value | .flowEntry | .flowMappingEnd => true
  | _ => false

/-- Whether a part of a pair in a flow sequence ends at this token. -/
def endsPairPart : Token → Bool
  | .value | .flowEntry | .flowSequenceEnd => true
  | _ => false

mutual

/-- Reads a node; in a block it may be a block, as the part of a mapping also a sequence that is
    not indented. -/
def node? (inBlock unindented : Bool) (fuel : Nat) (r : Reader) : Option (Node × Reader) :=
  match fuel with
  | 0 => none
  | fuel + 1 =>
    match r.peek with
    | .aliasOf name => do
      let number ← r.names.lookup name
      some (.reference number, r.skip)
    | _ => do
      let (props, r) ← properties? r
      let finish (result : Option (Node × Reader)) : Option (Node × Reader) :=
        result.map fun (node, r) => (node, r.keep props.number node)
      match r.peek with
      | .blockEntry =>
        if unindented then finish ((unindentedEntries? fuel r).map fun (items, r) => (.sequence items, r))
        else if props.number.isSome || props.tag.isSome then
          finish (some (.scalar .plain props.tag "", r))
        else none
      | .scalar style text =>
        finish (some (.scalar style props.tag (String.ofList text), r.skip))
      | .flowSequenceStart => 
        finish ((flowEntries? true fuel r.skip).map fun (items, r) => (.sequence items, r))
      | .flowMappingStart =>
        finish ((flowPairs? true fuel r.skip).map fun (pairs, r) => (.mapping pairs, r))
      | token =>
        if inBlock && token == .blockSequenceStart then
          finish ((blockEntries? fuel r.skip).map fun (items, r) => (.sequence items, r))
        else if inBlock && token == .blockMappingStart then
          finish ((blockPairs? fuel r.skip).map fun (pairs, r) => (.mapping pairs, r))
        else if props.number.isSome || props.tag.isSome then
          finish (some (.scalar .plain props.tag "", r))
        else none

/-- Reads the entries of a block sequence up to its end. -/
def blockEntries? (fuel : Nat) (r : Reader) : Option (List Node × Reader) :=
  match fuel with
  | 0 => none
  | fuel + 1 =>
    match r.peek with
    | .blockEntry => do
      let r := r.skip
      let (item, r) ←
        if r.peek == .blockEntry || r.peek == .blockEnd then some (missing, r)
        else node? true false fuel r
      let (items, r) ← blockEntries? fuel r
      some (item :: items, r)
    | .blockEnd => some ([], r.skip)
    | _ => none

/-- Reads entries as long as there are any. -/
def unindentedEntries? (fuel : Nat) (r : Reader) : Option (List Node × Reader) :=
  match fuel with
  | 0 => none
  | fuel + 1 =>
    match r.peek with
    | .blockEntry => do
      let r := r.skip
      let (item, r) ←
        if r.peek == .blockEntry || endsBlockPart r.peek then some (missing, r)
        else node? true false fuel r
      let (items, r) ← unindentedEntries? fuel r
      some (item :: items, r)
    | _ => some ([], r)

/-- Reads the pairs of a block mapping up to its end. -/
def blockPairs? (fuel : Nat) (r : Reader) : Option (List (Node × Node) × Reader) :=
  match fuel with
  | 0 => none
  | fuel + 1 =>
    match r.peek with
    | .key => do
      let r := r.skip
      let (key, r) ←
        if endsBlockPart r.peek then some (missing, r) else node? true true fuel r
      let (value, r) ← blockValue? fuel r
      let (pairs, r) ← blockPairs? fuel r
      some ((key, value) :: pairs, r)
    | .blockEnd => some ([], r.skip)
    | _ => none

/-- Reads the value of a pair of a block mapping, if there is one. -/
def blockValue? (fuel : Nat) (r : Reader) : Option (Node × Reader) :=
  match fuel with
  | 0 => none
  | fuel + 1 =>
    if r.peek == .value then
      if endsBlockPart r.skip.peek then some (missing, r.skip) else node? true true fuel r.skip
    else some (missing, r)

/-- Reads the items of a flow sequence up to its end; all but the first have a comma before. -/
def flowEntries? (isFirst : Bool) (fuel : Nat) (r : Reader) : Option (List Node × Reader) :=
  match fuel with
  | 0 => none
  | fuel + 1 =>
    if r.peek == .flowSequenceEnd then some ([], r.skip)
    else do
      let r ← if isFirst then some r else if r.peek == .flowEntry then some r.skip else none
      if r.peek == .flowSequenceEnd then some ([], r.skip)
      else
        let (item, r) ←
          if r.peek == .key then (flowPair? fuel r.skip).map fun (pair, r) => (.mapping [pair], r)
          else node? false false fuel r
        let (items, r) ← flowEntries? false fuel r
        some (item :: items, r)

/-- Reads a pair that stands for itself in a flow sequence. Where its key is missing, the token
    in its place is passed. -/
def flowPair? (fuel : Nat) (r : Reader) : Option ((Node × Node) × Reader) :=
  match fuel with
  | 0 => none
  | fuel + 1 => do
    let (key, r) ←
      if endsPairPart r.peek then some (missing, r.skip) else node? false false fuel r
    if r.peek == .value then
      let (value, r) ←
        if r.skip.peek == .flowEntry || r.skip.peek == .flowSequenceEnd then some (missing, r.skip)
        else node? false false fuel r.skip
      some ((key, value), r)
    else some ((key, missing), r)

/-- Reads the pairs of a flow mapping up to its end; all but the first have a comma before. -/
def flowPairs? (isFirst : Bool) (fuel : Nat) (r : Reader) :
    Option (List (Node × Node) × Reader) :=
  match fuel with
  | 0 => none
  | fuel + 1 =>
    if r.peek == .flowMappingEnd then some ([], r.skip)
    else do
      let r ← if isFirst then some r else if r.peek == .flowEntry then some r.skip else none
      if r.peek == .flowMappingEnd then some ([], r.skip)
      else
        let (pair, r) ←
          if r.peek == .key then flowKey? fuel r.skip
          else (node? false false fuel r).map fun (key, r) => ((key, missing), r)
        let (pairs, r) ← flowPairs? false fuel r
        some (pair :: pairs, r)

/-- Reads a pair of a flow mapping behind the mark of its key. -/
def flowKey? (fuel : Nat) (r : Reader) : Option ((Node × Node) × Reader) :=
  match fuel with
  | 0 => none
  | fuel + 1 => do
    let (key, r) ←
      if endsFlowPart r.peek then some (missing, r) else node? false false fuel r
    if r.peek == .value then
      let (value, r) ←
        if r.skip.peek == .flowEntry || r.skip.peek == .flowMappingEnd then some (missing, r.skip)
        else node? false false fuel r.skip
      some ((key, value), r)
    else some ((key, missing), r)

end

end Node

namespace Document

/-- The handles of tags that need no directive. -/
def defaultHandles : List (List Char × List Char) :=
  [(['!'], ['!']), (['!', '!'], "tag:yaml.org,2002:".toList)]

/-- Reads the directives before a document; no version and no handle may be told twice. -/
def directives? (version : Bool) (handles : List (List Char × List Char)) :
    List Token → Option (List (List Char × List Char) × List Token)
  | .directive name a b :: rest =>
    if name = "YAML".toList then
      if version || Text.digitsNat? 10 a != some 1
          || !(Text.digitsNat? 10 b == some 1 || Text.digitsNat? 10 b == some 2) then none
      else directives? true handles rest
    else if (handles.lookup a).isSome then none
    else directives? version ((a, b) :: handles) rest
  | rest => some (handles, rest)

/-- Whether a document without content ends at this token. -/
def endsContent : Token → Bool
  | .directive _ _ _ | .documentStart | .documentEnd | .streamEnd => true
  | _ => false

/-- The documents of a list of tokens. Only the first may begin without its mark. -/
def all? (isFirst : Bool) : (fuel : Nat) → List Token → Option (List Document)
  | 0, _ => none
  | fuel + 1, tokens => do
    let tokens := if isFirst then tokens else tokens.dropWhile (· == .documentEnd)
    if tokens.head? = some .streamEnd ∨ tokens.isEmpty then some []
    else
      let (handles, behind) ← directives? false [] tokens
      let marked := behind.head? == some .documentStart
      if !marked && (!isFirst || behind.length != tokens.length) then none
      let start : Node.Reader :=
        { tokens := if marked then behind.drop 1 else behind, handles := handles ++ defaultHandles }
      let (root, r) ←
        if marked && endsContent start.peek then some (Node.missing, start)
        else Node.node? true false (4 * tokens.length + 4) start
      let tokens := if r.peek == .documentEnd then r.tokens.drop 1 else r.tokens
      let others ← all? false fuel tokens
      some ({ root, named := r.named } :: others)

/-- The documents of a text, if it is in the language. -/
def ofText? (text : String) : Option (List Document) := do
  let tokens ← Token.ofText? text
  all? true (tokens.length + 1) tokens

/-- The node that a reference refers to; any other node is itself. -/
def follow (d : Document) : Node → Node
  | .reference number => (d.named.lookup number).getD Node.missing
  | node => node

end Document

end Yaml
end PageObjects
