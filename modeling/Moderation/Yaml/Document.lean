import Moderation.Yaml.Node
import Moderation.Yaml.Plain
/-!
# What YAML texts stand for

The value of the only document in a YAML text.  An alias stands for the node with its anchor, which
may hold the alias itself; two bounds keep a text from standing for too much: collections nest at
most 128 deep, and the number of aliases that are followed is at most a hundred times that of the
**marks** in the text, which are its scalars, its aliases and both ends of its collections.

The number of a new anchor is the number of the names that are known before it.  Anchors of one
number are not told apart: an alias stands for the last of them.  They only meet where a name is
given again.
-/

namespace Moderation.Yaml

/-- The number of each name of an anchor. -/
abbrev AnchorNumbers := List (String × Nat)

/-- How many names of anchors are known. -/
def AnchorNumbers.size (numbers : AnchorNumbers) : Nat := (numbers.map (·.1)).eraseDups.length

/-- Gives a new anchor, if there is one, its number. -/
def AnchorNumbers.learn (name : Option String) (numbers : AnchorNumbers) :
    AnchorNumbers × Option Nat :=
  match name with
  | some name => ((name, numbers.size) :: numbers, some numbers.size)
  | none => (numbers, none)

namespace Node

mutual

/-- A node with the numbers of anchors for their names, the numbers known after it, and the nodes
with an anchor, in the order of the text.  An alias without an anchor before it has no number. -/
def number? (numbers : AnchorNumbers) : Node String →
    Option (Node Nat × AnchorNumbers × List (Nat × Node Nat))
  | .reference a => (numbers.lookup a).map fun n => (.reference n, numbers, [])
  | .scalar p plain s =>
    let (numbers, id) := numbers.learn p.anchor
    some (.scalar p plain s, numbers, (id.map (·, .scalar p plain s)).toList)
  | .sequence p items =>
    let (numbers, id) := numbers.learn p.anchor
    (numberItems? numbers items).map fun (items, numbers, known) =>
      (.sequence p items, numbers, (id.map (·, .sequence p items)).toList ++ known)
  | .mapping p entries =>
    let (numbers, id) := numbers.learn p.anchor
    (numberEntries? numbers entries).map fun (entries, numbers, known) =>
      (.mapping p entries, numbers, (id.map (·, .mapping p entries)).toList ++ known)

/-- The same for the items of a sequence. -/
def numberItems? (numbers : AnchorNumbers) : List (Node String) →
    Option (List (Node Nat) × AnchorNumbers × List (Nat × Node Nat))
  | [] => some ([], numbers, [])
  | item :: rest =>
    match number? numbers item with
    | none => none
    | some (item, numbers, first) =>
      (numberItems? numbers rest).map fun (rest, numbers, known) =>
        (item :: rest, numbers, first ++ known)

/-- The same for the entries of a mapping. -/
def numberEntries? (numbers : AnchorNumbers) : List (Node String × Node String) →
    Option (List (Node Nat × Node Nat) × AnchorNumbers × List (Nat × Node Nat))
  | [] => some ([], numbers, [])
  | (key, value) :: rest =>
    match number? numbers key with
    | none => none
    | some (key, numbers, first) =>
      match number? numbers value with
      | none => none
      | some (value, numbers, second) =>
        (numberEntries? numbers rest).map fun (rest, numbers, known) =>
          ((key, value) :: rest, numbers, first ++ second ++ known)

end

mutual

/-- How many marks a node has. -/
def marks {α : Type} : Node α → Nat
  | .reference _ => 1
  | .scalar .. => 1
  | .sequence _ items => 2 + itemMarks items
  | .mapping _ entries => 2 + entryMarks entries

/-- How many marks some items have. -/
def itemMarks {α : Type} : List (Node α) → Nat
  | [] => 0
  | item :: rest => marks item + itemMarks rest

/-- How many marks some entries have. -/
def entryMarks {α : Type} : List (Node α × Node α) → Nat
  | [] => 0
  | (key, value) :: rest => marks key + marks value + entryMarks rest

end

end Node

/-! ## Scalars -/

/-- The tags that say what a scalar is. -/
def coreTag (name : String) : String := "tag:yaml.org,2002:" ++ name

/-- What a scalar with a tag stands for that is none of the text's own. -/
def taggedScalar? (tag s : String) : Option Json :=
  if tag = coreTag "bool" then (truth? s).map .bool
  else if tag = coreTag "int" then ((integer? s.toList).filter isWord).map .int
  else if tag = coreTag "float" then real? s
  else if tag = coreTag "null" then if isNothing s then some .null else none
  else some (.string s)

/-- What a scalar without a tag stands for: a text, unless it is plain. -/
def untaggedScalar? (plain : Bool) (s : String) : Option Json :=
  if plain then plainValue? s else some (.string s)

/-- The tag of a node that is one of the text's own, which begin with an exclamation mark.  That
mark alone is no tag of a scalar. -/
def ownTag? (isScalar : Bool) (tag : Option String) : Option String :=
  tag.filter fun t => t.startsWith "!" && !(isScalar && t = "!")

/-- A value under a tag of the text's own is the only member of an object. -/
def underTag (tag : Option String) (j : Json) : Json :=
  match tag with
  | some t => .object [("!" ++ (if t = "!" then t else String.ofList (t.toList.drop 1)), j)]
  | none => j

/-- What a scalar stands for. -/
def scalarValue? (p : Properties) (plain : Bool) (s : String) : Option Json :=
  match ownTag? true p.tag, p.tag.filter (· ≠ "!") with
  | some tag, _ => (untaggedScalar? plain s).map (underTag (some tag))
  | none, some tag => taggedScalar? tag s
  | none, none => untaggedScalar? plain s

/-! ## Keys -/

/-- The keys that a member of an object can have. -/
inductive MemberKey where
  | bool (b : Bool)
  | int (n : Int)
  | float (x : Double)
  | string (s : String)
  deriving DecidableEq, Repr

namespace MemberKey

/-- The key that a value makes. -/
def ofJson? : Json → Option MemberKey
  | .bool b => some (.bool b)
  | .int n => some (.int n)
  | .float x => some (.float x)
  | .string s => some (.string s)
  | _ => none

/-- The name of a member with a key. -/
def name : MemberKey → String
  | .bool b => (Json.bool b).render
  | .int n => (Json.int n).render
  | .float x => (Json.float x).render
  | .string s => s

end MemberKey

/-- The members of an object, if their keys can be names and no key is given twice. -/
def membersOf? (entries : List (Json × Json)) : Option (List (String × Json)) := do
  let keys ← entries.mapM fun e => MemberKey.ofJson? e.1
  if keys.eraseDups.length = keys.length then
    some (List.zip (keys.map MemberKey.name) (entries.map (·.2)))
  else none

/-! ## Aliases -/

/-- How deep collections may nest. -/
def depthLimit : Nat := 128

/-- How many aliases may be followed for each mark in a text. -/
def aliasesPerMark : Nat := 100

/-- The nodes with an anchor, by its number; of several with one number the last is meant. -/
abbrev Anchored := List (Nat × Node Nat)

/-- The node with an anchor. -/
def Anchored.find? (known : Anchored) (id : Nat) : Option (Node Nat) :=
  (known.reverse.find? (·.1 = id)).map (·.2)

/-- What can still be done: how many aliases may be followed. -/
abbrev Budget := StateT Nat Option

/-- The node that a node stands for, which is no alias. -/
def followed (known : Anchored) : Node Nat → Budget (Node Nat)
  | .reference id => fun budget => if budget = 0 then none else (known.find? id).map (·, budget - 1)
  | node => pure node

/-- What a node stands for, collections nested no deeper than a bound. -/
def nodeValue (known : Anchored) : Nat → Node Nat → Budget Json
  | 0, node => do
    match ← followed known node with
    | .scalar p plain s => liftM (scalarValue? p plain s)
    | _ => failure
  | depth + 1, node => do
    match ← followed known node with
    | .reference _ => failure
    | .scalar p plain s => liftM (scalarValue? p plain s)
    | .sequence p items => do
      let items ← items.mapM (nodeValue known depth)
      return underTag (ownTag? false p.tag) (.array items)
    | .mapping p entries => do
      let entries ← entries.mapM fun (key, value) => do
        let key ← nodeValue known depth key
        let value ← nodeValue known depth value
        return (key, value)
      let members ← liftM (membersOf? entries)
      return underTag (ownTag? false p.tag) (.object members)

/-- What a YAML text stands for. -/
def value? (s : String) : Option Json := do
  let root ← Node.ofTokens? (← Token.ofText? s)
  let (node, _, known) ← root.number? []
  let (j, _) ← nodeValue known depthLimit node (aliasesPerMark * root.marks)
  return j

end Moderation.Yaml
