import RuleGate.Regex.Pattern
import RuleGate.Text.Hexadecimal
import RuleGate.Text.Lines
import RuleGate.Unicode.Property

/-!
Reading the text of a pattern. A reader takes what is left of the text and gives what it has read
with what is left behind it; it gives nothing for a text that is no pattern. Under one of the
switches, blank characters and comments may stand between the parts of a pattern.
-/

namespace RuleGate.Regex

open Text

/-- What is left of a pattern, whether blank characters are ignored in it, and the names of the
groups that have begun. -/
structure Cursor where
  rest : List Char
  ignoresBlanks : Bool
  names : List (List Char)

/-- A step of reading. -/
abbrev Reader (α : Type) : Type :=
  StateT Cursor Option α

namespace Reader

def malformed {α : Type} : Reader α := fun _ => none

/-- The next character, if there is one; it stays where it is. -/
def peek? : Reader (Option Char) := fun c =>
  some (c.rest.head?, c)

/-- The next character, which there must be; it stays where it is. -/
def peek : Reader Char := do
  match ← peek? with
  | some c => pure c
  | none => malformed

def rest : Reader (List Char) := fun c =>
  some (c.rest, c)

/-- Goes on at the given characters. -/
def goOn (text : List Char) : Reader Unit := fun c =>
  some ((), { c with rest := text })

def pass : Reader Unit := fun c =>
  some ((), { c with rest := c.rest.drop 1 })

/-- What is left behind blank characters and comments, perhaps from within a comment. A comment goes
from a sharp to the end of the line. -/
def behindBlanks (inComment : Bool) : List Char → List Char
  | [] => []
  | c :: rest =>
    if inComment then behindBlanks (c != '\n') rest
    else if isBlank c then behindBlanks false rest
    else if c = '#' then behindBlanks true rest
    else c :: rest

/-- Goes past blank characters and comments, if they are ignored. -/
def passBlanks : Reader Unit := fun c =>
  some ((), if c.ignoresBlanks then { c with rest := behindBlanks false c.rest } else c)

/-- Goes past the next character, and past the blanks behind it. -/
def advance : Reader Unit := do
  pass
  passBlanks

def takeWhileLoop (test : Char → Bool) : Nat → List Char → Reader (List Char)
  | 0, read => pure read.reverse
  | fuel + 1, read => do
    match ← peek? with
    | none => pure read.reverse
    | some c =>
      if test c then
        advance
        takeWhileLoop test fuel (c :: read)
      else pure read.reverse

/-- The characters that pass a test, without the blanks between them. -/
def takeWhile (test : Char → Bool) : Reader (List Char) := do
  takeWhileLoop test (← rest).length []

/-- Goes past the next character if it is a question mark, which a repetition may end with, and
tells whether it is one. -/
def passLazyMark : Reader Bool := do
  if (← peek?) == some '?' then
    pass
    pure true
  else pure false

/-! ### Escapes -/

def charOf (n : Nat) : Reader Char :=
  if 0x10FFFF < n || (0xD800 ≤ n && n ≤ 0xDFFF) then malformed else pure (Char.ofNat n)

/-- Reads a number of hexadecimal digits onto a number that has begun. -/
def hexDigits : Nat → Nat → Reader Nat
  | 0, n => pure n
  | count + 1, n => do
    match hexValue? (← peek) with
    | none => malformed
    | some d =>
      advance
      hexDigits count (16 * n + d)

/-- Reads a character that is written by its code point: in braces, or with as many digits as the
letter of the escape asks for. -/
def hexEscape (digits : Nat) : Reader Literal := do
  advance
  if (← peek) = '\x7b' then
    advance
    let written ← takeWhile (· != '\x7d')
    let _ ← peek
    advance
    match hexNumber? written with
    | none => malformed
    | some n =>
      if written.isEmpty then malformed
      else
        let c ← charOf n
        pure ⟨c, false⟩
  else
    let n ← hexDigits digits 0
    let c ← charOf n
    pure ⟨c, digits == 2⟩

/-- A name in braces: a property and its value with a mark between them, or one name. -/
def classNameOf (written : List Char) : ClassName :=
  match cutAt? ['!', '='] written with
  | some (property, value) => .value property value
  | none =>
    match splitFirst? ':' written with
    | some (property, value) => .value property value
    | none =>
      match splitFirst? '=' written with
      | some (property, value) => .value property value
      | none => .name written

/-- Reads the name of a class, which is one letter or stands in braces. -/
def className : Reader ClassName := do
  advance
  let c ← peek
  if c = '\x7b' then
    advance
    let written ← takeWhile (· != '\x7d')
    let _ ← peek
    pass
    pure (classNameOf written)
  else if c = '\\' then malformed
  else
    advance
    pure (.name [c])

/-- The names that may follow the letter of a word boundary. -/
def boundaryNames : List (String × Assertion) :=
  [("start", .wordStart), ("end", .wordEnd), ("start-half", .wordStartHalf),
    ("end-half", .wordEndHalf)]

/-- Whether the name of a word boundary can hold a character. -/
def isBoundaryChar (c : Char) : Bool :=
  c.isAlpha || c == '-'

/-- Reads what follows the letter of a word boundary. A brace opens a name, unless what stands in it
cannot be one; then it is left to be read as a repetition. -/
def wordBoundary : Reader Assertion := do
  let behind ← rest
  if behind.head? != some '\x7b' then pure .wordBoundary
  else
    advance
    if isBoundaryChar (← peek) then
      let name ← takeWhile isBoundaryChar
      if (← peek) != '\x7d' then malformed
      else
        pass
        match boundaryNames.lookup (String.ofList name) with
        | some kind => pure kind
        | none => malformed
    else
      goOn behind
      pure .wordBoundary

/-- The characters that letters behind a backslash stand for. -/
def controlEscape? : Char → Option Char
  | 'a' => some '\x07'
  | 'f' => some '\x0c'
  | 't' => some '\t'
  | 'n' => some '\n'
  | 'r' => some '\r'
  | 'v' => some '\x0b'
  | _ => none

/-- The places that characters behind a backslash stand for. -/
def assertionEscape? : Char → Option Assertion
  | 'A' => some .textStart
  | 'z' => some .textEnd
  | 'B' => some .notWordBoundary
  | '<' => some .wordStart
  | '>' => some .wordEnd
  | _ => none

/-- The classes that letters behind a backslash stand for. -/
def shortEscape? : Char → Option (Bool × ShortClass)
  | 'd' => some (false, .digit)
  | 'D' => some (true, .digit)
  | 's' => some (false, .space)
  | 'S' => some (true, .space)
  | 'w' => some (false, .word)
  | 'W' => some (true, .word)
  | _ => none

/-- Whether a character stands for itself behind a backslash: an ASCII character that is neither a
letter nor a digit nor an angle bracket. -/
def isPlainEscape (c : Char) : Bool :=
  c.toNat < 0x80 && !c.isAlphanum && c != '<' && c != '>'

/-- Reads an escape that is one character long. -/
def simpleEscape (c : Char) : Reader Pattern := do
  pass
  if isPlainEscape c then pure (.literal ⟨c, false⟩)
  else
    match controlEscape? c, shortEscape? c, assertionEscape? c with
    | some char, _, _ => pure (.literal ⟨char, false⟩)
    | _, some (negated, kind), _ => pure (.short negated kind)
    | _, _, some kind => pure (.assertion kind)
    | _, _, _ =>
      if c = 'b' then return .assertion (← wordBoundary)
      else malformed

def escape : Reader Pattern := do
  pass
  let c ← peek
  if c = 'x' then return .literal (← hexEscape 2)
  else if c = 'u' then return .literal (← hexEscape 4)
  else if c = 'U' then return .literal (← hexEscape 8)
  else if c = 'p' then return .named false (← className)
  else if c = 'P' then return .named true (← className)
  else simpleEscape c

/-! ### Classes -/

def asciiClasses : List (String × List (Nat × Nat)) :=
  [("alnum", [(0x30, 0x39), (0x41, 0x5A), (0x61, 0x7A)]),
    ("alpha", [(0x41, 0x5A), (0x61, 0x7A)]),
    ("ascii", [(0x00, 0x7F)]),
    ("blank", [(0x09, 0x09), (0x20, 0x20)]),
    ("cntrl", [(0x00, 0x1F), (0x7F, 0x7F)]),
    ("digit", [(0x30, 0x39)]),
    ("graph", [(0x21, 0x7E)]),
    ("lower", [(0x61, 0x7A)]),
    ("print", [(0x20, 0x7E)]),
    ("punct", [(0x21, 0x2F), (0x3A, 0x40), (0x5B, 0x60), (0x7B, 0x7E)]),
    ("space", [(0x09, 0x0D), (0x20, 0x20)]),
    ("upper", [(0x41, 0x5A)]),
    ("word", [(0x30, 0x39), (0x41, 0x5A), (0x5F, 0x5F), (0x61, 0x7A)]),
    ("xdigit", [(0x30, 0x39), (0x41, 0x46), (0x61, 0x66)])]

/-- The named ASCII class that a text begins with, and what follows it. -/
def asciiClass? : List Char → Option (ClassItem × List Char)
  | '[' :: ':' :: rest =>
    let (negated, rest) :=
      match rest with
      | '^' :: behind => (true, behind)
      | _ => (false, rest)
    match splitFirst? ':' rest with
    | some (name, ']' :: behind) =>
      (asciiClasses.lookup (String.ofList name)).map fun ranges => (.ascii negated ranges, behind)
    | _ => none
  | _ => none

/-- The first character of a text that is neither blank nor the first sharp; if there is none, the
first of all. -/
def firstVisible? (text : List Char) : Option Char :=
  match text.dropWhile isBlank with
  | '#' :: behind => (behind.dropWhile isBlank).head?.or text.head?
  | c :: _ => some c
  | [] => text.head?

/-- The character behind the next one; if blanks are ignored, the first visible one. -/
def peekSecond? : Reader (Option Char) := fun c =>
  some (if c.ignoresBlanks then firstVisible? (c.rest.drop 1) else (c.rest.drop 1).head?, c)

/-- Reads a character of a class, or an escape in it. -/
def classAtom : Reader Pattern := do
  let c ← peek
  if c = '\\' then escape
  else
    pass
    pure (.literal ⟨c, false⟩)

/-- A character or an escape as a part of a class, in which no place can be asked for. -/
def itemOf : Pattern → Reader ClassItem
  | .literal l => pure (.literal l)
  | .short negated kind => pure (.short negated kind)
  | .named negated name => pure (.named negated name)
  | _ => malformed

/-- Reads a range, or a part of a class that is no range. A hyphen before a closing bracket or
before another hyphen makes no range. -/
def classRange : Reader ClassItem := do
  let first ← classAtom
  passBlanks
  let mark ← peek
  let second ← peekSecond?
  if mark != '-' || second == some ']' || second == some '-' then itemOf first
  else
    advance
    let last ← classAtom
    match first, last with
    | .literal a, .literal b => if b.char < a.char then malformed else pure (.range a b)
    | _, _ => malformed

/-- An operator and its left side. -/
abbrev LeftSide := Option (ClassOp × ClassItem)

def combine (left : LeftSide) (items : List ClassItem) : ClassItem :=
  match left with
  | none => .ofItems items
  | some (kind, item) => .op kind item (.ofItems items)

def classOp? : List Char → Option ClassOp
  | '&' :: '&' :: _ => some .intersection
  | '-' :: '-' :: _ => some .difference
  | '~' :: '~' :: _ => some .symmetricDifference
  | _ => none

/-- Reads the parts of a class up to its closing bracket. The parts since the last operator are
given backwards. -/
def classLoop (nested : Reader ClassItem) : Nat → LeftSide → List ClassItem → Reader ClassItem
  | 0, _, _ => malformed
  | fuel + 1, left, items => do
    passBlanks
    let c ← peek
    let behind ← rest
    if c = ']' then
      pass
      pure (combine left items.reverse)
    else if c = '[' then
      match asciiClass? behind with
      | some (item, after) =>
        goOn after
        classLoop nested fuel left (item :: items)
      | none =>
        let item ← nested
        classLoop nested fuel left (item :: items)
    else
      match classOp? behind with
      | some kind =>
        goOn (behind.drop 2)
        classLoop nested fuel (some (kind, combine left items.reverse)) []
      | none =>
        let item ← classRange
        classLoop nested fuel left (item :: items)

/-- Reads the hyphens that a class may begin with. -/
def leadingHyphens : Nat → List ClassItem → Reader (List ClassItem)
  | 0, items => pure items
  | fuel + 1, items => do
    if (← peek) = '-' then
      advance
      leadingHyphens fuel (.literal ⟨'-', false⟩ :: items)
    else pure items

/-- Reads what a class may begin with: hyphens, or a closing bracket that does not close it. -/
def leadingItems : Reader (List ClassItem) := do
  let items ← leadingHyphens (← rest).length []
  if items.isEmpty && (← peek) == ']' then
    advance
    let _ ← peek
    pure [.literal ⟨']', false⟩]
  else pure items

/-- Reads a bracketed class, from its opening bracket on, in which at most `room` classes lie inside
each other. -/
def classIn : Nat → Reader ClassItem
  | 0 => malformed
  | room + 1 => do
    advance
    let negated := (← peek) == '^'
    if negated then advance
    let items ← leadingItems
    let item ← classLoop (classIn room) ((← rest).length + 1) none items
    pure (.bracketed negated item)

/-! ### Groups -/

def flagOf? : Char → Option Flag
  | 'i' => some .ignoreCase
  | 'm' => some .multiLine
  | 's' => some .dotMatchesNewline
  | 'U' => some .swapGreed
  | 'u' => some .unicode
  | 'R' => some .crlf
  | 'x' => some .ignoreWhitespace
  | _ => none

/-- The switches that letters stand for; none may occur twice. -/
def flagsOf? (letters : List Char) : Option (List Flag) :=
  (letters.mapM flagOf?).bind fun flags => if flags.eraseDups == flags then some flags else none

/-- The change that letters and a minus write: what stands before the minus is turned on, and what
stands behind it, of which there must be something, is turned off. -/
def flagChangeOf? (written : List Char) : Option FlagChange := do
  match splitFirst? '-' written with
  | none => return ⟨← flagsOf? written, []⟩
  | some (on, off) =>
    let all ← flagsOf? (on ++ off)
    if off.isEmpty then none
    else return ⟨all.take on.length, all.drop on.length⟩

/-- How a group opens: as a group, or as a change of switches up to the end of the group around
it. -/
inductive Opening where
  | group (captures : Bool) (change : FlagChange)
  | change (change : FlagChange)

def noChange : FlagChange :=
  ⟨[], []⟩

/-- Whether the name of a group can begin with a character. -/
def beginsName (c : Char) : Bool :=
  c == '_' || Unicode.alphabetic.contains c.toNat

def continuesName (c : Char) : Bool :=
  beginsName c || c == '.' || c == '[' || c == ']' ||
    (Unicode.anyCategory ["Nd", "Nl", "No"]).contains c.toNat

/-- Reads the name of a group, and the angle bracket behind it. No two groups have one name. -/
def groupName : Reader Unit := fun c =>
  match splitFirst? '>' c.rest with
  | none => none
  | some (name, behind) =>
    match name with
    | [] => none
    | first :: more =>
      if beginsName first && more.all continuesName && !c.names.contains name then
        some ((), { c with rest := behind, names := name :: c.names })
      else none

/-- Reads how a group opens, from its parenthesis on. -/
def opening : Reader Opening := do
  advance
  match ← rest with
  | '?' :: '=' :: _ | '?' :: '!' :: _ | '?' :: '<' :: '=' :: _ | '?' :: '<' :: '!' :: _ => malformed
  | '?' :: 'P' :: '<' :: behind =>
    goOn behind
    groupName
    pure (.group true noChange)
  | '?' :: '<' :: behind =>
    goOn behind
    groupName
    pure (.group true noChange)
  | '?' :: behind =>
    let written := behind.takeWhile fun c => c != ':' && c != ')'
    match flagChangeOf? written, behind.drop written.length with
    | some change, ':' :: after =>
      goOn after
      pure (.group false change)
    | some change, ')' :: after =>
      if written.isEmpty then malformed
      else
        goOn after
        pure (.change change)
    | _, _ => malformed
  | _ => pure (.group true noChange)

/-! ### Repetitions -/

/-- Whether a part can be repeated. -/
def isRepeatable : Pattern → Bool
  | .empty | .flags _ => false
  | _ => true

/-- The greatest number that a repetition can name. -/
def maxCount : Nat := 0xFFFFFFFF

/-- Reads the number of a repetition, with the blanks around it. -/
def count : Reader Nat := do
  goOn ((← rest).dropWhile isBlank)
  let digits ← takeWhile Char.isDigit
  let _ ← takeWhile isBlank
  if digits.isEmpty then malformed
  else
    let n := digits.foldl (fun n d => 10 * n + (d.toNat - 0x30)) 0
    if maxCount < n then malformed else pure n

def counts : Reader (Nat × Option Nat) := do
  advance
  let least ← count
  if (← peek) = ',' then
    advance
    if (← peek) = '\x7d' then pure (least, none)
    else
      let most ← count
      pure (least, some most)
  else pure (least, some least)

def countedRepetition (body : Pattern) : Reader Pattern := do
  let (least, most) ← counts
  if (← peek) != '\x7d' then malformed
  else
    advance
    let isLazy ← passLazyMark
    if most.any (· < least) then malformed
    else pure (.repeated body least most isLazy)

/-- Reads a repetition of a part by one of the marks `?`, `*` and `+`. -/
def markedRepetition (body : Pattern) (mark : Char) : Reader Pattern := do
  pass
  let isLazy ← passLazyMark
  if mark = '?' then pure (.repeated body 0 (some 1) isLazy)
  else if mark = '*' then pure (.repeated body 0 none isLazy)
  else pure (.repeated body 1 none isLazy)

/-! ### Whole patterns -/

/-- Reads a part that is neither a group nor a repetition. -/
def atom : Reader Pattern := do
  match ← peek with
  | '\\' => escape
  | '[' =>
    match ← classIn maxDepth with
    | .bracketed negated item => pure (.bracketed negated item)
    | _ => malformed
  | '.' =>
    pass
    pure .dot
  | '^' =>
    pass
    pure (.assertion .lineStart)
  | '$' =>
    pass
    pure (.assertion .lineEnd)
  | c =>
    pass
    pure (.literal ⟨c, false⟩)

/-- Reads the repetition of the last of the parts, which are given backwards. -/
def repetition (mark : Char) : List Pattern → Reader (List Pattern)
  | [] => malformed
  | body :: before => do
    if !isRepeatable body then malformed
    else
      let repeated ←
        if mark = '\x7b' then countedRepetition body else markedRepetition body mark
      pure (repeated :: before)

/-- Reads parts up to the end of the branch. -/
def partsLoop (group : Reader Pattern) : Nat → List Pattern → Reader (List Pattern)
  | 0, _ => malformed
  | fuel + 1, parts => do
    passBlanks
    match ← peek? with
    | none | some ')' | some '|' => pure parts.reverse
    | some '(' =>
      let part ← group
      partsLoop group fuel (part :: parts)
    | some c =>
      if c = '?' || c = '*' || c = '+' || c = '\x7b' then
        let parts ← repetition c parts
        partsLoop group fuel parts
      else
        let part ← atom
        partsLoop group fuel (part :: parts)

/-- Reads branches up to the end of the group. -/
def branchesLoop (group : Reader Pattern) : Nat → List Pattern → Reader (List Pattern)
  | 0, _ => malformed
  | fuel + 1, branches => do
    let parts ← partsLoop group ((← rest).length + 1) []
    let branches := .ofParts parts :: branches
    if (← peek?) == some '|' then
      pass
      branchesLoop group fuel branches
    else pure branches.reverse

/-- Reads a pattern up to the end of the group it stands in. -/
def branchesOf (group : Reader Pattern) : Reader Pattern := do
  let branches ← branchesLoop group ((← rest).length + 1) []
  pure (.ofBranches branches)

def ignoresBlanks : Reader Bool := fun c =>
  some (c.ignoresBlanks, c)

def setIgnoresBlanks (value : Bool) : Reader Unit := fun c =>
  some ((), { c with ignoresBlanks := value })

/-- Has blanks ignored as a change of switches says. -/
def changeBlanks (change : FlagChange) : Reader Unit := do
  match change.state? .ignoreWhitespace with
  | some value => setIgnoresBlanks value
  | none => pure ()

/-- Reads a group or a change of switches, from its parenthesis on. At most `room` groups lie inside
each other. -/
def groupIn (room : Nat) : Reader Pattern := do
  match ← opening with
  | .change change =>
    changeBlanks change
    pure (.flags change)
  | .group captures change =>
    match room with
    | 0 => malformed
    | less + 1 =>
      let outside ← ignoresBlanks
      changeBlanks change
      let body ← branchesOf (groupIn less)
      if (← peek) != ')' then malformed
      else
        setIgnoresBlanks outside
        pass
        pure (.group captures change body)

end Reader

def Pattern.ofText? (text : String) : Option Pattern :=
  match Reader.branchesOf (Reader.groupIn maxDepth) ⟨text.toList, false, []⟩ with
  | some (pattern, c) => if c.rest.isEmpty && pattern.depth ≤ maxDepth then some pattern else none
  | none => none

end RuleGate.Regex
