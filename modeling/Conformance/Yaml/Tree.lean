import Conformance.Yaml.Node
import Conformance.Yaml.Token.Lexer

/-!
# YAML documents as trees

* `Tree` : a document without anchors and aliases;
* `Node.number?` : anchors and aliases by number;
* `Node.expand?` : a node with every alias replaced by what it stands for;
* `Tree.parse?` : the tree of a text.
-/

namespace Conformance.Yaml

/-- A document without anchors and aliases. -/
inductive Tree where
  /-- No document at all. -/
  | void
  | scalar (tag : Option String) (value : String) (style : ScalarStyle)
  | sequence (tag : Option String) (items : List Tree)
  | mapping (tag : Option String) (entries : List (Tree × Tree))
  deriving Repr, Inhabited

/-! ## Names -/

/-- The anchors that were seen, with their numbers, each name once. -/
abbrev Names := List (String × Nat)

/-- Gives an anchor the number of names before it. A name that is used again keeps the count, so
that the next new name gets the same number. -/
def Names.define (names : Names) (name : String) : Names :=
  (name, names.length) :: names.filter fun e => e.1 ≠ name

namespace Node

/-- The properties in front of a node with the anchor by number, and the names after it. -/
def numberProps (names : Names) (props : Properties String) : Properties Nat × Names :=
  match props.anchor with
  | some a => (⟨some names.length, props.tag⟩, names.define a)
  | none => (⟨none, props.tag⟩, names)

mutual

/-- A node with anchors and aliases by number. An alias needs an anchor before it; of two anchors
of one name it means the later. -/
def number? (names : Names) : WrittenNode → Option (Node Nat × Names)
  | .alias name => (names.lookup name).map fun n => (.alias n, names)
  | .scalar props value style =>
    let (props, names) := numberProps names props
    some (.scalar props value style, names)
  | .sequence props items => do
    let (props, names) := numberProps names props
    let (items, names) ← numberItems? names items
    return (.sequence props items, names)
  | .mapping props entries => do
    let (props, names) := numberProps names props
    let (entries, names) ← numberEntries? names entries
    return (.mapping props entries, names)

/-- Items with anchors and aliases by number. -/
def numberItems? (names : Names) : List WrittenNode → Option (List (Node Nat) × Names)
  | [] => some ([], names)
  | item :: items => do
    let (item, names) ← number? names item
    let (items, names) ← numberItems? names items
    return (item :: items, names)

/-- Entries with anchors and aliases by number. -/
def numberEntries? (names : Names) :
    List (WrittenNode × WrittenNode) → Option (List (Node Nat × Node Nat) × Names)
  | [] => some ([], names)
  | (key, value) :: entries => do
    let (key, names) ← number? names key
    let (value, names) ← number? names value
    let (entries, names) ← numberEntries? names entries
    return ((key, value) :: entries, names)

end

/-! ## What numbers stand for -/

/-- The definition of a node, if it has an anchor. -/
def definition (props : Properties Nat) (node : Node Nat) : List (Nat × Node Nat) :=
  props.anchor.toList.map fun n => (n, node)

mutual

/-- The nodes with anchors, in the order in which they start. -/
def definitions : Node Nat → List (Nat × Node Nat)
  | .alias _ => []
  | .scalar props value style => definition props (.scalar props value style)
  | .sequence props items => definition props (.sequence props items) ++ itemDefinitions items
  | .mapping props entries => definition props (.mapping props entries) ++ entryDefinitions entries

/-- The nodes with anchors among items. -/
def itemDefinitions : List (Node Nat) → List (Nat × Node Nat)
  | [] => []
  | item :: items => definitions item ++ itemDefinitions items

/-- The nodes with anchors among entries. -/
def entryDefinitions : List (Node Nat × Node Nat) → List (Nat × Node Nat)
  | [] => []
  | (key, value) :: entries => definitions key ++ definitions value ++ entryDefinitions entries

end

mutual

/-- How many marks and scalars a node is written with: two marks for a collection. -/
def weight : Node Nat → Nat
  | .alias _ => 1
  | .scalar _ _ _ => 1
  | .sequence _ items => itemsWeight items + 2
  | .mapping _ entries => entriesWeight entries + 2

/-- The weight of items. -/
def itemsWeight : List (Node Nat) → Nat
  | [] => 0
  | item :: items => weight item + itemsWeight items

/-- The weight of entries. -/
def entriesWeight : List (Node Nat × Node Nat) → Nat
  | [] => 0
  | (key, value) :: entries => weight key + weight value + entriesWeight entries

end

/-! ## Expansion -/

/-- How deep collections may be nested. -/
def depthLimit : Nat := 128

/-- How often aliases may be followed for each unit of weight. -/
def repetitionLimit : Nat := 100

/-- The node that an alias stands for, and how many aliases may be followed after it. Of two
definitions of a number the later counts. -/
def follow? (defs : List (Nat × Node Nat)) (budget : Nat) : Node Nat → Option (Node Nat × Nat)
  | .alias n =>
    match budget with
    | 0 => none
    | budget + 1 => (defs.reverse.lookup n).map fun node => (node, budget)
  | node => some (node, budget)

/-- Items with their aliases replaced by `expand`. -/
def expandItems? (expand : Nat → Node Nat → Option (Tree × Nat)) (budget : Nat) :
    List (Node Nat) → Option (List Tree × Nat)
  | [] => some ([], budget)
  | item :: items => do
    let (item, budget) ← expand budget item
    let (items, budget) ← expandItems? expand budget items
    return (item :: items, budget)

/-- Entries with their aliases replaced by `expand`. -/
def expandEntries? (expand : Nat → Node Nat → Option (Tree × Nat)) (budget : Nat) :
    List (Node Nat × Node Nat) → Option (List (Tree × Tree) × Nat)
  | [] => some ([], budget)
  | (key, value) :: entries => do
    let (key, budget) ← expand budget key
    let (value, budget) ← expand budget value
    let (entries, budget) ← expandEntries? expand budget entries
    return ((key, value) :: entries, budget)

/-- A node with its aliases replaced, at most `depth` collections deep, and how many more aliases
may be followed. -/
def expand? (defs : List (Nat × Node Nat)) : Nat → Nat → Node Nat → Option (Tree × Nat)
  | 0, budget, node =>
    match follow? defs budget node with
    | some (.scalar props value style, budget) => some (.scalar props.tag value style, budget)
    | _ => none
  | depth + 1, budget, node =>
    match follow? defs budget node with
    | some (.scalar props value style, budget) => some (.scalar props.tag value style, budget)
    | some (.sequence props items, budget) =>
      (expandItems? (expand? defs depth) budget items).map fun r => (.sequence props.tag r.1, r.2)
    | some (.mapping props entries, budget) =>
      (expandEntries? (expand? defs depth) budget entries).map fun r =>
        (.mapping props.tag r.1, r.2)
    | _ => none

/-- The tree of a node. -/
def toTree? (node : WrittenNode) : Option Tree := do
  let (node, _) ← number? [] node
  let (tree, _) ← expand? (definitions node) depthLimit (repetitionLimit * weight node) node
  return tree

end Node

/-- The tree of a text with at most one document. -/
def Tree.parse? (text : String) : Option Tree := do
  match ← Node.document? (← Token.scan? text) with
  | some node => node.toTree?
  | none => return .void

end Conformance.Yaml
