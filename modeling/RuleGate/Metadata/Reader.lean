import RuleGate.Metadata.Basic
import RuleGate.Text.Lines

/-!
Reading a metadata block line by line. A line `key: value` stores a scalar, a line `key:` opens a
list, and the lines that start with a dash are the list's items: a scalar, a map on one line
(`- a: 1, b: 2`), or a map that goes on over further lines that are indented by more than two bytes.
Blank lines and lines that start with `#` count nowhere, and every other line is ignored.
-/

namespace RuleGate.Metadata

open Text

def isQuote (c : Char) : Bool :=
  c == '"' || c == '\''

def dropOpeningQuote : List Char → List Char
  | c :: rest => if isQuote c then rest else c :: rest
  | [] => []

/-- Removes at most one quote character at either end; the two ends need not agree. -/
def unquote (s : List Char) : List Char :=
  (dropOpeningQuote (dropOpeningQuote s).reverse).reverse

/-- Whether a text is the given lower-case word, in whatever case its ASCII letters are written. -/
def isWord (word : String) (s : List Char) : Bool :=
  s.map Char.toLower == word.toList

/-- The value of `key: value`: the text without quotes, or a truth value if that text is `true` or
`false` in any case. -/
def Value.ofText (s : List Char) : Value :=
  let bare := unquote s
  if isWord "true" bare then .bool true
  else if isWord "false" bare then .bool false
  else .scalar (String.ofList bare)

/-- The two sides of the first colon, each trimmed and without its quotes. -/
def pair? (s : List Char) : Option (String × String) :=
  (splitFirst? ':' s).map fun (key, value) =>
    (String.ofList (unquote (trim key)), String.ofList (unquote (trim value)))

/-- The map written as `a: 1, b: 2`; parts without a colon are dropped. -/
def inlineMap (s : List Char) : Dictionary String :=
  Dictionary.ofList ((splitAll ',' s).filterMap pair?)

/-- The list that is being read, if any, and its last item while that may still grow. A map begins
to grow with its first pair and loses none, so it is never empty when the list takes it. -/
inductive OpenList where
  | none
  | list (key : String) (items : List Item)
  | growing (key : String) (items : List Item) (pairs : Dictionary String)
  deriving DecidableEq

/-- The values stored so far, and the list that is being read. -/
structure Scan where
  stored : Metadata
  openList : OpenList
  deriving DecidableEq

namespace Scan

def start : Scan :=
  ⟨Dictionary.empty, .none⟩

/-- The values stored once the open list is closed. -/
def close (s : Scan) : Metadata :=
  match s.openList with
  | .none => s.stored
  | .list key items => s.stored.insert key (.list items)
  -- No map without pairs gets here, so none need be left out; `readItem` relies on that too.
  | .growing key items pairs => s.stored.insert key (.list (items ++ [.map pairs]))

/-- Reads a line `key: value` or `key:`, which closes the open list. -/
def readKey (s : Scan) (line : List Char) : Scan :=
  match splitFirst? ':' line with
  | none => ⟨s.close, .none⟩
  | some (key, value) =>
    let key := String.ofList (trim key)
    let value := trim value
    if value.isEmpty then ⟨s.close, .list key []⟩
    else ⟨s.close.insert key (Value.ofText value), .none⟩

/-- The list after an item, given by the text that follows its dash. -/
def addItem (key : String) (items : List Item) (text : List Char) : OpenList :=
  if text.contains ':' && text.contains ',' then .list key (items ++ [.map (inlineMap text)])
  else
    match pair? text with
    | some (k, v) => .growing key items (Dictionary.empty.insert k v)
    | none => .list key (items ++ [.scalar (String.ofList (unquote text))])

/-- Reads an item of the open list, given by the text that follows its dash. -/
def readItem (s : Scan) (text : List Char) : Scan :=
  match s.openList with
  | .none => s
  | .list key items => ⟨s.stored, addItem key items text⟩
  | .growing key items pairs => ⟨s.stored, addItem key (items ++ [.map pairs]) text⟩

/-- Reads one more pair of the map that is still growing. -/
def readPair (s : Scan) (text : List Char) : Scan :=
  match s.openList, pair? text with
  | .growing key items pairs, some (k, v) => ⟨s.stored, .growing key items (pairs.insert k v)⟩
  | _, _ => s

def inList (s : Scan) : Bool :=
  s.openList != .none

def readLine (s : Scan) (line : List Char) : Scan :=
  match trim line with
  | [] => s
  | '#' :: _ => s
  | c :: rest =>
    if indent line == 0 && line.contains ':' && c != '-' then s.readKey line
    else if c == '-' && s.inList then s.readItem (trim rest)
    else if 2 < indent line && (c :: rest).contains ':' then s.readPair (c :: rest)
    else s

end Scan

def ofText (text : List Char) : Metadata :=
  ((lines text).foldl Scan.readLine Scan.start).close

end RuleGate.Metadata
