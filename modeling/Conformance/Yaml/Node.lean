import Conformance.Yaml.Token

/-!
# Nodes of a YAML document

* `Node` : the structure of a document as it is written, with anchors and aliases by name;
* `TagTable` : what the handles of tags stand for;
* `Node.document?` : the node of a text with one document.
-/

namespace Conformance.Yaml

/-- What is written in front of a node: a name for it, and its type. Names are of type `ρ`. -/
structure Properties (ρ : Type) where
  anchor : Option ρ := none
  tag : Option String := none
  deriving DecidableEq, Repr

/-- A node as it is written. -/
inductive Node (ρ : Type) where
  /-- The node that was named so. -/
  | alias (name : ρ)
  | scalar (props : Properties ρ) (value : String) (style : ScalarStyle)
  | sequence (props : Properties ρ) (items : List (Node ρ))
  | mapping (props : Properties ρ) (entries : List (Node ρ × Node ρ))
  deriving Repr, Inhabited

/-- A node with names as they are written. -/
abbrev WrittenNode := Node String

/-- The node where nothing is written. -/
def Node.blank (props : Properties String) : WrittenNode := .scalar props "" .plain

/-- What the handles of tags stand for. -/
abbrev TagTable := List (String × String)

namespace TagTable

/-- The handles that need no directive. -/
def default : TagTable := [("!", "!"), ("!!", "tag:yaml.org,2002:")]

/-- The tag that a handle and a suffix denote. -/
def resolve? (tags : TagTable) (handle suffix : String) : Option String :=
  if handle.isEmpty then some suffix else (tags.lookup handle).map (· ++ suffix)

end TagTable

namespace Node

/-- The anchor and the tag in front of a node, in any order. -/
def properties? (tags : TagTable) : List Token → Option (Properties String × List Token)
  | .anchor a :: .tag h s :: rest => do return (⟨some a, some (← tags.resolve? h s)⟩, rest)
  | .tag h s :: .anchor a :: rest => do return (⟨some a, some (← tags.resolve? h s)⟩, rest)
  | .anchor a :: rest => some (⟨some a, none⟩, rest)
  | .tag h s :: rest => do return (⟨none, some (← tags.resolve? h s)⟩, rest)
  | rest => some ({}, rest)

/-- Whether the next token is one of the given ones; then nothing is written before it. -/
def startsWith (ends : List Token) : List Token → Bool
  | t :: _ => ends.contains t
  | [] => true

/-- The tokens before which a part of a block mapping may be blank. -/
def mappingEnds : List Token := [.key, .value, .blockEnd]

/-- The blank node with the given properties; it needs at least one. -/
def orBlank? (props : Properties String) (tokens : List Token) :
    Option (WrittenNode × List Token) :=
  if props.anchor.isSome || props.tag.isSome then some (.blank props, tokens) else none

/-- The tokens behind the comma between two items; there is none before the first one. -/
def separated? (first : Bool) (tokens : List Token) : Option (List Token) :=
  if first then some tokens
  else
    match tokens with
    | .flowEntry :: rest => some rest
    | _ => none

mutual

/-- A node. Blocks may start only where `block` says so; `indentless` allows a sequence whose items
stand in the column of the key before it. -/
def node? (tags : TagTable) (block indentless : Bool) :
    Nat → List Token → Option (WrittenNode × List Token)
  | 0, _ => none
  | _ + 1, .alias name :: rest => some (.alias name, rest)
  | fuel + 1, tokens => do
    let (props, tokens) ← properties? tags tokens
    match tokens with
    | .blockEntry :: _ =>
      if indentless then do
        let (items, rest) ← indentlessItems? tags fuel tokens
        return (.sequence props items, rest)
      else orBlank? props tokens
    | .scalar value style :: rest => some (.scalar props value style, rest)
    | .flowSequenceStart :: rest => do
      let (items, rest) ← flowItems? tags true fuel rest
      return (.sequence props items, rest)
    | .flowMappingStart :: rest => do
      let (entries, rest) ← flowEntries? tags true fuel rest
      return (.mapping props entries, rest)
    | .blockSequenceStart :: rest =>
      if block then do
        let (items, rest) ← blockItems? tags fuel rest
        return (.sequence props items, rest)
      else orBlank? props tokens
    | .blockMappingStart :: rest =>
      if block then do
        let (entries, rest) ← blockEntries? tags fuel rest
        return (.mapping props entries, rest)
      else orBlank? props tokens
    | _ => orBlank? props tokens

/-- A node, or the blank one if one of the tokens `ends` comes next. -/
def nodeUnless? (tags : TagTable) (ends : List Token) (block indentless : Bool) :
    Nat → List Token → Option (WrittenNode × List Token)
  | 0, _ => none
  | fuel + 1, tokens =>
    if startsWith ends tokens then some (.blank {}, tokens)
    else node? tags block indentless fuel tokens

/-- The items of a block sequence. -/
def blockItems? (tags : TagTable) : Nat → List Token → Option (List WrittenNode × List Token)
  | fuel + 1, .blockEntry :: rest => do
    let (item, rest) ← nodeUnless? tags [.blockEntry, .blockEnd] true false fuel rest
    let (items, rest) ← blockItems? tags fuel rest
    return (item :: items, rest)
  | _ + 1, .blockEnd :: rest => some ([], rest)
  | _, _ => none

/-- The items of a sequence in the column of its key; what follows them is not part of it. -/
def indentlessItems? (tags : TagTable) : Nat → List Token → Option (List WrittenNode × List Token)
  | 0, _ => none
  | fuel + 1, .blockEntry :: rest => do
    let (item, rest) ← nodeUnless? tags (.blockEntry :: mappingEnds) true false fuel rest
    let (items, rest) ← indentlessItems? tags fuel rest
    return (item :: items, rest)
  | _ + 1, rest => some ([], rest)

/-- The entries of a block mapping. -/
def blockEntries? (tags : TagTable) :
    Nat → List Token → Option (List (WrittenNode × WrittenNode) × List Token)
  | fuel + 1, .key :: rest => do
    let (key, rest) ← nodeUnless? tags mappingEnds true true fuel rest
    let (value, rest) ← blockValue? tags fuel rest
    let (entries, rest) ← blockEntries? tags fuel rest
    return ((key, value) :: entries, rest)
  | _ + 1, .blockEnd :: rest => some ([], rest)
  | _, _ => none

/-- The value of an entry of a block mapping. -/
def blockValue? (tags : TagTable) : Nat → List Token → Option (WrittenNode × List Token)
  | fuel + 1, .value :: rest => nodeUnless? tags mappingEnds true true fuel rest
  | _, rest => some (.blank {}, rest)

/-- The items of a sequence in brackets; a comma stands between two of them. -/
def flowItems? (tags : TagTable) (first : Bool) :
    Nat → List Token → Option (List WrittenNode × List Token)
  | _ + 1, .flowSequenceEnd :: rest => some ([], rest)
  | fuel + 1, tokens => do
    let tokens ← separated? first tokens
    match tokens with
    | .flowSequenceEnd :: rest => some ([], rest)
    | .key :: rest => do
      let (key, rest) ← pairKey? tags fuel rest
      let (value, rest) ← flowValue? tags .flowSequenceEnd fuel rest
      let (items, rest) ← flowItems? tags false fuel rest
      return (.mapping {} [(key, value)] :: items, rest)
    | _ => do
      let (item, rest) ← node? tags false false fuel tokens
      let (items, rest) ← flowItems? tags false fuel rest
      return (item :: items, rest)
  | 0, _ => none

/-- The key of a single entry in brackets. A blank one takes the token behind it along. -/
def pairKey? (tags : TagTable) : Nat → List Token → Option (WrittenNode × List Token)
  | 0, _ => none
  | fuel + 1, tokens =>
    if startsWith [.value, .flowEntry, .flowSequenceEnd] tokens then
      some (.blank {}, tokens.tail)
    else node? tags false false fuel tokens

/-- The value of an entry in brackets or braces. -/
def flowValue? (tags : TagTable) (close : Token) :
    Nat → List Token → Option (WrittenNode × List Token)
  | fuel + 1, .value :: rest => nodeUnless? tags [.flowEntry, close] false false fuel rest
  | _, rest => some (.blank {}, rest)

/-- The entries of a mapping in braces; a comma stands between two of them. -/
def flowEntries? (tags : TagTable) (first : Bool) :
    Nat → List Token → Option (List (WrittenNode × WrittenNode) × List Token)
  | _ + 1, .flowMappingEnd :: rest => some ([], rest)
  | fuel + 1, tokens => do
    let tokens ← separated? first tokens
    match tokens with
    | .flowMappingEnd :: rest => some ([], rest)
    | .key :: rest => do
      let (key, rest) ←
        nodeUnless? tags [.value, .flowEntry, .flowMappingEnd] false false fuel rest
      let (value, rest) ← flowValue? tags .flowMappingEnd fuel rest
      let (entries, rest) ← flowEntries? tags false fuel rest
      return ((key, value) :: entries, rest)
    | _ => do
      let (key, rest) ← node? tags false false fuel tokens
      let (entries, rest) ← flowEntries? tags false fuel rest
      return ((key, .blank {}) :: entries, rest)
  | 0, _ => none

end

/-! ## Documents -/

/-- Reads the directives of a document: at most one version, which has to be known, and each
handle once. -/
def directives? (version : Bool) (tags : TagTable) : List Token → Option (TagTable × List Token)
  | .version major minor :: rest =>
    if version || major ≠ 1 || (minor ≠ 1 && minor ≠ 2) then none
    else directives? true tags rest
  | .tagDirective handle start :: rest =>
    if (tags.lookup handle).isSome then none
    else directives? version (tags ++ [(handle, start)]) rest
  | rest => some (tags, rest)

/-- Whether a token can come before the document mark. -/
def isDirective : Token → Bool
  | .version _ _ => true
  | .tagDirective _ _ => true
  | _ => false

/-- The node of a document, and the tokens behind it. Directives need a document mark; behind a
mark nothing needs to be written. -/
def content? (tokens : List Token) : Option (WrittenNode × List Token) := do
  let fuel := 3 * tokens.length + 3
  let (given, rest) ← directives? false [] tokens
  let tags := given ++ TagTable.default
  match rest with
  | .documentStart :: rest =>
    if rest.head?.any (fun t => isDirective t || t = .documentStart || t = .documentEnd ||
        t = .streamEnd) then
      some (.blank {}, rest)
    else node? tags true false fuel rest
  | _ => if tokens.head?.any isDirective then none else node? tags true false fuel rest

/-- The node of a text with exactly one document, where `none` is the text without one. -/
def document? : List Token → Option (Option WrittenNode)
  | [.streamEnd] => some none
  | tokens => do
    let (node, rest) ← content? tokens
    match rest.dropWhile (· = .documentEnd) with
    | [.streamEnd] => some (some node)
    | _ => none

end Node

end Conformance.Yaml
