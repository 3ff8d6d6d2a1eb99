import Moderation.Yaml.Token
/-!
# Nodes of YAML texts

The tree that a sequence of tokens stands for: scalars, sequences and mappings, each with the tag
and the anchor it may carry, and aliases, which stand for the node with their anchor.  What is left
out where a node is expected is an empty plain scalar.

The tree is read by recursive descent.  Between two calls at least every other takes a token, which
bounds their depth.
-/

namespace Moderation.Yaml

/-- What a node can carry: its anchor and its tag. -/
structure Properties where
  anchor : Option String := none
  tag : Option String := none
  deriving DecidableEq, Repr

/-- A node; its aliases are named by anchors of some type. -/
inductive Node (α : Type) where
  | reference (target : α)
  | scalar (properties : Properties) (plain : Bool) (text : String)
  | sequence (properties : Properties) (items : List (Node α))
  | mapping (properties : Properties) (entries : List (Node α × Node α))

namespace Node

/-- The node that is left out. -/
def empty : Node String := .scalar {} true ""

/-- The meanings of the handles of tags, first come first served. -/
abbrev Handles := List (String × String)

/-- The handles that every document knows. -/
def knownHandles : Handles := [("!", "!"), ("!!", "tag:yaml.org,2002:")]

/-- A tag in full. -/
def fullTag (handles : Handles) (t : TagText) : Option String :=
  if t.handle.isEmpty then some t.rest
  else (handles.find? (·.1 = t.handle)).map fun (_, meaning) => meaning ++ t.rest

/-- The properties at the front of some tokens: an anchor and a tag, in either order. -/
def properties? (handles : Handles) : List Token → Option (Properties × List Token)
  | .anchor a :: .tag t :: rest => (fullTag handles t).map fun tag => (⟨some a, some tag⟩, rest)
  | .tag t :: .anchor a :: rest => (fullTag handles t).map fun tag => (⟨some a, some tag⟩, rest)
  | .anchor a :: rest => some (⟨some a, none⟩, rest)
  | .tag t :: rest => (fullTag handles t).map fun tag => (⟨none, some tag⟩, rest)
  | tokens => some ({}, tokens)

/-- Whether some tokens begin with one of a few. -/
def headIn (few : List Token) (tokens : List Token) : Bool := tokens.head?.any few.contains

mutual

/-- Reads a node, in block or flow style; where a sequence may go without indentation, it begins
with its first item. -/
def read (handles : Handles) (block loose : Bool) (fuel : Nat) (tokens : List Token) :
    Option (Node String × List Token) :=
  match fuel with
  | 0 => none
  | fuel + 1 =>
    match tokens with
    | .reference a :: rest => some (.reference a, rest)
    | tokens => do
      let (p, tokens) ← properties? handles tokens
      match tokens with
      | .scalar plain s :: rest => some (.scalar p plain s, rest)
      | .flowSequenceStart :: rest => do
        let (items, rest) ← flowItems handles true fuel rest
        return (.sequence p items, rest)
      | .flowMappingStart :: rest => do
        let (entries, rest) ← flowEntries handles true fuel rest
        return (.mapping p entries, rest)
      | tokens =>
        if loose && headIn [.blockEntry] tokens then do
          let (items, rest) ← looseItems handles fuel tokens
          return (.sequence p items, rest)
        else if block && headIn [.blockSequenceStart] tokens then do
          let (items, rest) ← blockItems handles fuel (tokens.drop 1)
          return (.sequence p items, rest)
        else if block && headIn [.blockMappingStart] tokens then do
          let (entries, rest) ← blockEntries handles fuel (tokens.drop 1)
          return (.mapping p entries, rest)
        else if p.anchor.isSome || p.tag.isSome then some (.scalar p true "", tokens)
        else none

/-- Reads a node, or leaves it out before one of a few tokens. -/
def readOr (handles : Handles) (block loose : Bool) (few : List Token) (fuel : Nat)
    (tokens : List Token) : Option (Node String × List Token) :=
  match fuel with
  | 0 => none
  | fuel + 1 =>
    if headIn few tokens then some (empty, tokens) else read handles block loose fuel tokens

/-- Reads the items of a block sequence. -/
def blockItems (handles : Handles) (fuel : Nat) (tokens : List Token) :
    Option (List (Node String) × List Token) :=
  match fuel with
  | 0 => none
  | fuel + 1 =>
    match tokens with
    | .blockEnd :: rest => some ([], rest)
    | .blockEntry :: rest => do
      let (item, rest) ← readOr handles true false [.blockEntry, .blockEnd] fuel rest
      let (items, rest) ← blockItems handles fuel rest
      return (item :: items, rest)
    | _ => none

/-- Reads the items of a block sequence without indentation, which ends where no item follows. -/
def looseItems (handles : Handles) (fuel : Nat) (tokens : List Token) :
    Option (List (Node String) × List Token) :=
  match fuel with
  | 0 => none
  | fuel + 1 =>
    match tokens with
    | .blockEntry :: rest => do
      let (item, rest) ← readOr handles true false [.blockEntry, .key, .value, .blockEnd] fuel rest
      let (items, rest) ← looseItems handles fuel rest
      return (item :: items, rest)
    | tokens => some ([], tokens)

/-- Reads the entries of a block mapping. -/
def blockEntries (handles : Handles) (fuel : Nat) (tokens : List Token) :
    Option (List (Node String × Node String) × List Token) :=
  match fuel with
  | 0 => none
  | fuel + 1 =>
    match tokens with
    | .blockEnd :: rest => some ([], rest)
    | .key :: rest => do
      let (key, rest) ← readOr handles true true [.key, .value, .blockEnd] fuel rest
      let (value, rest) ← entryValue handles true [.key, .value, .blockEnd] fuel rest
      let (entries, rest) ← blockEntries handles fuel rest
      return ((key, value) :: entries, rest)
    | _ => none

/-- Reads the value of an entry, which is left out without a colon or before one of a few tokens. -/
def entryValue (handles : Handles) (block : Bool) (few : List Token) (fuel : Nat)
    (tokens : List Token) : Option (Node String × List Token) :=
  match fuel with
  | 0 => none
  | fuel + 1 =>
    match tokens with
    | .value :: rest => readOr handles block block few fuel rest
    | tokens => some (empty, tokens)

/-- Reads the items of a flow sequence.  An item with a key is a mapping of one entry; if its key is
left out, the token after it is passed over. -/
def flowItems (handles : Handles) (first : Bool) (fuel : Nat) (tokens : List Token) :
    Option (List (Node String) × List Token) :=
  match fuel with
  | 0 => none
  | fuel + 1 =>
    match tokens with
    | .flowSequenceEnd :: rest => some ([], rest)
    | tokens => do
      let tokens ← if first then some tokens
        else if headIn [.flowEntry] tokens then some (tokens.drop 1) else none
      match tokens with
      | .flowSequenceEnd :: rest => some ([], rest)
      | .key :: rest => do
        let (key, rest) ←
          if headIn [.value, .flowEntry, .flowSequenceEnd] rest then some (empty, rest.drop 1)
          else read handles false false fuel rest
        let (value, rest) ← entryValue handles false [.flowEntry, .flowSequenceEnd] fuel rest
        let (items, rest) ← flowItems handles false fuel rest
        return (.mapping {} [(key, value)] :: items, rest)
      | tokens => do
        let (item, rest) ← read handles false false fuel tokens
        let (items, rest) ← flowItems handles false fuel rest
        return (item :: items, rest)

/-- Reads the entries of a flow mapping; one without a key mark has no value. -/
def flowEntries (handles : Handles) (first : Bool) (fuel : Nat) (tokens : List Token) :
    Option (List (Node String × Node String) × List Token) :=
  match fuel with
  | 0 => none
  | fuel + 1 =>
    match tokens with
    | .flowMappingEnd :: rest => some ([], rest)
    | tokens => do
      let tokens ← if first then some tokens
        else if headIn [.flowEntry] tokens then some (tokens.drop 1) else none
      match tokens with
      | .flowMappingEnd :: rest => some ([], rest)
      | .key :: rest => do
        let (key, rest) ← readOr handles false false [.value, .flowEntry, .flowMappingEnd] fuel rest
        let (value, rest) ← entryValue handles false [.flowEntry, .flowMappingEnd] fuel rest
        let (entries, rest) ← flowEntries handles false fuel rest
        return ((key, value) :: entries, rest)
      | tokens => do
        let (key, rest) ← read handles false false fuel tokens
        let (entries, rest) ← flowEntries handles false fuel rest
        return ((key, empty) :: entries, rest)

end

/-- The directives at the front of some tokens, checked: one version at most, 1.1 or 1.2, and one
meaning for each handle.  The answer is the meanings, and what follows. -/
def directives? (versioned : Bool) (handles : Handles) : List Token → Option (Handles × List Token)
  | .directive (.version major minor) :: rest =>
    if versioned || major ≠ 1 || (minor ≠ 1 && minor ≠ 2) then none
    else directives? true handles rest
  | .directive (.tag handle meaning) :: rest =>
    if handles.any (·.1 = handle) then none
    else directives? versioned (handles ++ [(handle, meaning)]) rest
  | tokens => some (handles ++ knownHandles, tokens)

/-- Whether some tokens begin a document with its directives or its marker. -/
def isExplicit : List Token → Bool
  | .directive _ :: _ => true
  | .documentStart :: _ => true
  | _ => false

/-- Whether the content of a document is left out before some tokens. -/
def isBare : List Token → Bool
  | [] => true
  | .documentEnd :: _ => true
  | tokens => isExplicit tokens

/-- The node of the only document in some tokens. -/
def ofTokens? (tokens : List Token) : Option (Node String) := do
  let fuel := 2 * tokens.length + 4
  let (root, rest) ←
    if tokens.isEmpty then some (empty, [])
    else if isExplicit tokens then do
      let (handles, rest) ← directives? false [] tokens
      if !headIn [.documentStart] rest then none
      else if isBare (rest.drop 1) then some (empty, rest.drop 1)
      else read handles true false fuel (rest.drop 1)
    else read knownHandles true false fuel tokens
  if (rest.dropWhile (· = .documentEnd)).isEmpty then some root else none

end Node
end Moderation.Yaml
