import Conformance.Data

/-!
# Writing JSON

* `escapeChar` : one character inside a string;
* `Data.compact` : a tree on one line, without blanks;
* `Data.pretty` : a tree with one item or entry a line and two blanks for each level.
-/

namespace Conformance.Json

/-- A hexadecimal digit in lower case. -/
def hexDigit (n : Nat) : Char := Nat.digitChar (n % 16)

/-- One character as it is written inside a string. -/
def escapeChar (c : Char) : List Char :=
  if c = '"' then ['\\', '"']
  else if c = '\\' then ['\\', '\\']
  else if c = '\x08' then ['\\', 'b']
  else if c = '\t' then ['\\', 't']
  else if c = '\n' then ['\\', 'n']
  else if c = '\x0c' then ['\\', 'f']
  else if c = '\r' then ['\\', 'r']
  else if c.toNat < 0x20 then ['\\', 'u', '0', '0', hexDigit (c.toNat / 16), hexDigit c.toNat]
  else [c]

/-- A string with its quotes. -/
def writeText (s : String) : List Char := '"' :: (s.toList.flatMap escapeChar ++ ['"'])

/-- A key; keys that are not names have no JSON form and are written as empty names. -/
def writeKey : Key → List Char
  | .name s => writeText s
  | .position n => writeText (toString n)
  | .other => writeText ""

/-- A tree without a list or mapping inside. -/
def writeScalar : Data → List Char
  | .null => "null".toList
  | .bool true => "true".toList
  | .bool false => "false".toList
  | .int i => (toString i).toList
  | .float w => w.toList
  | .text s => writeText s
  | .list _ => []
  | .map _ => []

mutual

/-- A tree on one line. -/
def writeCompact : Data → List Char
  | .list items => '[' :: (writeItems items ++ [']'])
  | .map entries => '\x7b' :: (writeEntries entries ++ ['\x7d'])
  | d => writeScalar d

/-- The items of a list, separated by commas. -/
def writeItems : List Data → List Char
  | [] => []
  | [d] => writeCompact d
  | d :: rest => writeCompact d ++ ',' :: writeItems rest

/-- The entries of a mapping, separated by commas. -/
def writeEntries : List (Key × Data) → List Char
  | [] => []
  | [(k, d)] => writeKey k ++ ':' :: writeCompact d
  | (k, d) :: rest => writeKey k ++ ':' :: (writeCompact d ++ ',' :: writeEntries rest)

end

/-- A line end and the blanks of a level. -/
def newLine (level : Nat) : List Char := '\n' :: List.replicate (2 * level) ' '

mutual

/-- A tree over several lines, at the given level. -/
def writePretty (level : Nat) : Data → List Char
  | .list [] => ['[', ']']
  | .list items => '[' :: (prettyItems (level + 1) items ++ (newLine level ++ [']']))
  | .map [] => ['\x7b', '\x7d']
  | .map entries => '\x7b' :: (prettyEntries (level + 1) entries ++ (newLine level ++ ['\x7d']))
  | d => writeScalar d

/-- The items of a list, each on a line of its own. -/
def prettyItems (level : Nat) : List Data → List Char
  | [] => []
  | [d] => newLine level ++ writePretty level d
  | d :: rest => newLine level ++ (writePretty level d ++ ',' :: prettyItems level rest)

/-- The entries of a mapping, each on a line of its own. -/
def prettyEntries (level : Nat) : List (Key × Data) → List Char
  | [] => []
  | [(k, d)] => newLine level ++ (writeKey k ++ ':' :: ' ' :: writePretty level d)
  | (k, d) :: rest =>
    newLine level ++ (writeKey k ++ ':' :: ' ' :: (writePretty level d ++
      ',' :: prettyEntries level rest))

end

end Conformance.Json

namespace Conformance

/-- A tree as JSON on one line. -/
def Data.compact (d : Data) : String := String.ofList (Json.writeCompact d)

/-- A tree as JSON over several lines. -/
def Data.pretty (d : Data) : String := String.ofList (Json.writePretty 0 d)

end Conformance
