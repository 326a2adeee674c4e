import RuleGate.Json.Error
import RuleGate.Text.Blank

/-!
Reading JSON from left to right. A reader takes what is left of the text, with the place reached in
it, and gives a value with what is left behind it, or the first error. Values that are kept are read
strictly; values that nobody asks for are skipped, which checks only that they are well formed and
knows no limit on depth or on the size of numbers.
-/

namespace RuleGate.Json

/-- What is left of a text, and the place reached in it. -/
structure Cursor where
  rest : List Char
  position : Position

def Position.next (p : Position) (c : Char) : Position :=
  if c = '\n' then ⟨p.line + 1, 0⟩ else ⟨p.line, p.column + c.utf8Size⟩

/-- The place after a number of further bytes, which may end inside a character. -/
def Position.afterBytes (p : Position) : Nat → List Char → Position
  | _, [] => p
  | n, c :: rest =>
    if n = 0 then p
    else if c.utf8Size ≤ n then afterBytes (p.next c) (n - c.utf8Size) rest
    else ⟨p.line, p.column + n⟩

def Cursor.start (text : String) : Cursor :=
  ⟨text.toList, ⟨1, 0⟩⟩

/-- The place after the first byte of what is left. -/
def Cursor.nextByte (c : Cursor) : Position :=
  c.position.afterBytes 1 c.rest

/-- A step of reading. -/
abbrev Reader (α : Type) : Type :=
  StateT Cursor (Except Error) α

namespace Reader

/-- Stops at the place reached. -/
def fail {α : Type} (cause : Cause) : Reader α := fun c =>
  .error ⟨cause, c.position⟩

/-- Stops behind the first byte of what is left. -/
def failNext {α : Type} (cause : Cause) : Reader α := fun c =>
  .error ⟨cause, c.nextByte⟩

/-- The next character, which stays where it is. -/
def peek? : Reader (Option Char) := fun c =>
  .ok (c.rest.head?, c)

def advance : Reader Unit := fun c =>
  match c.rest with
  | [] => .ok ((), c)
  | char :: rest => .ok ((), ⟨rest, c.position.next char⟩)

/-- The number of characters left, which bounds every loop over them. -/
def remaining : Reader Nat := fun c =>
  .ok (c.rest.length, c)

/-- The longest beginning whose characters pass a test. -/
def takeWhileFrom (test : Char → Bool) : List Char → Position → List Char → List Char × Cursor
  | [], p, taken => (taken.reverse, ⟨[], p⟩)
  | c :: rest, p, taken =>
    if test c then takeWhileFrom test rest (p.next c) (c :: taken)
    else (taken.reverse, ⟨c :: rest, p⟩)

def takeWhile (test : Char → Bool) : Reader (List Char) := fun c =>
  .ok (takeWhileFrom test c.rest c.position [])

/-- The four characters that may stand between values. -/
def isSpace (c : Char) : Bool :=
  c == ' ' || c == '\n' || c == '\t' || c == '\r'

/-- Goes past space, and shows the character behind it. -/
def peekPastSpace? : Reader (Option Char) := do
  let _ ← takeWhile isSpace
  peek?

/-- Goes past the given letters. -/
def letters : List Char → Reader Unit
  | [] => pure ()
  | letter :: more => do
    match ← peek? with
    | none => fail .endInValue
    | some c =>
      if c = letter then
        advance
        letters more
      else failNext .expectedIdentifier

/-! ### Numbers -/

/-- The greatest whole number that a significand may reach. -/
def maxSignificand : Nat := 0xFFFFFFFFFFFFFFFF

/-- Appends digits to a significand as long as it does not pass its greatest value. The second
number counts the digits that were left over. -/
def appendDigits (significand : Nat) : List Char → Nat × Nat
  | [] => (significand, 0)
  | d :: rest =>
    let longer := 10 * significand + (d.toNat - 0x30)
    if longer ≤ maxSignificand then appendDigits longer rest else (significand, rest.length + 1)

def signed (negative : Bool) (x : Binary64) : Number :=
  .real (if negative then x.neg else x)

/-- The number `significand * 10 ^ exponent`. -/
def decimal (negative : Bool) (significand : Nat) (exponent : Int) : Reader Number :=
  match Binary64.ofDecimal? significand exponent with
  | some x => pure (signed negative x)
  | none => fail .numberOutOfRange

/-- The greatest value that the digits of an exponent may reach. -/
def maxExponent : Nat := 0x7FFFFFFF

/-- Reads the digits of an exponent. None if they pass the greatest value; reading then stands
behind the first digit that is too much. -/
def exponentDigits : Nat → Nat → Reader (Option Nat)
  | 0, value => pure (some value)
  | fuel + 1, value => do
    match ← peek? with
    | none => pure (some value)
    | some d =>
      if d.isDigit then
        advance
        let longer := 10 * value + (d.toNat - 0x30)
        if longer ≤ maxExponent then exponentDigits fuel longer else pure none
      else pure (some value)

/-- Goes past a sign, if one comes next, and tells whether it is a minus. -/
def exponentSign : Reader Bool := do
  match ← peek? with
  | some '+' =>
    advance
    pure false
  | some '-' =>
    advance
    pure true
  | _ => pure false

/-- A number whose exponent is too large: zero if the exponent is negative or the digits before it
are all zero. -/
def beyondExponents (negative below : Bool) (significand : Nat) : Reader Number := do
  if significand != 0 && !below then fail .numberOutOfRange
  else
    let _ ← takeWhile Char.isDigit
    pure (signed negative Binary64.zero)

/-- Reads an exponent, from its letter on, and gives the number it ends. -/
def exponent (negative : Bool) (significand : Nat) (scale : Int) : Reader Number := do
  advance
  let below ← exponentSign
  match ← peek? with
  | none => fail .endInValue
  | some d =>
    if d.isDigit then
      match ← exponentDigits (← remaining) 0 with
      | some value =>
        decimal negative significand (if below then scale - value else scale + value)
      | none => beyondExponents negative below significand
    else failNext .invalidNumber

/-- Reads a fraction, from its point on, and gives the number it ends. -/
def fraction (negative : Bool) (significand : Nat) (scale : Int) : Reader Number := do
  advance
  let digits ← takeWhile Char.isDigit
  if digits.isEmpty then
    match ← peek? with
    | none => fail .endInValue
    | some _ => failNext .invalidNumber
  else
    let (longer, left) := appendDigits significand digits
    let scale := scale - ((digits.length : Int) - left)
    match ← peek? with
    | some 'e' | some 'E' => exponent negative longer scale
    | _ => decimal negative longer scale

/-- The greatest magnitude that a negative whole number may have. -/
def maxNegative : Nat := 0x8000000000000000

/-- A number without fraction and exponent: a whole number if it fits 64 bits, signed when it is
negative. Minus zero does not fit. -/
def whole (negative : Bool) (significand : Nat) : Reader Number :=
  if negative then
    if significand = 0 || maxNegative < significand then decimal true significand 0
    else pure (.integer (-significand))
  else pure (.integer significand)

/-- What follows the digits before the point. -/
def afterDigits (negative : Bool) (digits : List Char) : Reader Number := do
  let (significand, left) := appendDigits 0 digits
  match ← peek? with
  | some '.' => fraction negative significand left
  | some 'e' | some 'E' => exponent negative significand left
  | _ => if left = 0 then whole negative significand else decimal negative significand left

/-- Reads a number, whose minus sign has been read. -/
def number (negative : Bool) : Reader Number := do
  match ← peek? with
  | none => fail .endInValue
  | some '0' =>
    advance
    match ← peek? with
    | none => afterDigits negative []
    | some d => if d.isDigit then failNext .invalidNumber else afterDigits negative []
  | some d =>
    if d.isDigit then
      let digits ← takeWhile Char.isDigit
      afterDigits negative digits
    else failNext .invalidNumber

/-! ### Strings -/

/-- Reads the four bytes of a hexadecimal escape. All four are gone past even if the first is no
digit. -/
def fourHexDigits : Reader Nat := fun c =>
  let four := c.rest.take 4
  if Text.byteCount four < 4 then
    .error ⟨.endInString, c.position.afterBytes 4 c.rest⟩
  else
    match Text.hexNumber? four with
    | some n => .ok (n, ⟨c.rest.drop 4, c.position.afterBytes 4 c.rest⟩)
    | none => .error ⟨.invalidEscape, c.position.afterBytes 4 c.rest⟩

/-- Whether a number is the second half of a surrogate pair. -/
def isLowSurrogate (n : Nat) : Bool :=
  0xDC00 ≤ n && n ≤ 0xDFFF

/-- Whether a number is the first half of a surrogate pair. -/
def isHighSurrogate (n : Nat) : Bool :=
  0xD800 ≤ n && n ≤ 0xDBFF

/-- Goes past a character that the second half of a surrogate pair begins with. -/
def pairLetter (letter : Char) : Reader Unit := do
  match ← peek? with
  | none => fail .endInString
  | some c => if c = letter then advance else failNext .endOfHexEscape

/-- Reads a hexadecimal escape behind its letter. A character beyond the basic plane is written as a
surrogate pair. -/
def hexEscape : Reader Char := do
  let n ← fourHexDigits
  if isLowSurrogate n then fail .loneSurrogate
  else if isHighSurrogate n then
    pairLetter '\\'
    pairLetter 'u'
    let m ← fourHexDigits
    if isLowSurrogate m then pure (Char.ofNat (0x10000 + (n - 0xD800) * 0x400 + (m - 0xDC00)))
    else fail .loneSurrogate
  else pure (Char.ofNat n)

/-- The character that a letter behind a backslash stands for. -/
def shortEscape? : Char → Option Char
  | '"' => some '"'
  | '\\' => some '\\'
  | '/' => some '/'
  | 'b' => some '\x08'
  | 'f' => some '\x0c'
  | 'n' => some '\n'
  | 'r' => some '\r'
  | 't' => some '\t'
  | _ => none

/-- Reads an escape behind its backslash. -/
def escape : Reader Char := do
  match ← peek? with
  | none => fail .endInString
  | some 'u' =>
    advance
    hexEscape
  | some c =>
    match shortEscape? c with
    | some char =>
      advance
      pure char
    | none => failNext .invalidEscape

/-- The characters of a string up to its closing quote. -/
def stringLoop : Nat → List Char → Reader String
  | 0, _ => fail .endInString
  | fuel + 1, read => do
    match ← peek? with
    | none => fail .endInString
    | some '"' =>
      advance
      pure (String.ofList read.reverse)
    | some '\\' =>
      advance
      let c ← escape
      stringLoop fuel (c :: read)
    | some c =>
      if c.toNat < 0x20 then failNext .controlCharacter
      else
        advance
        stringLoop fuel (c :: read)

/-- Reads a string behind its opening quote. -/
def string : Reader String := do
  stringLoop ((← remaining) + 1) []

/-! ### Arrays, objects and values -/

/-- Goes to the next item of an array, or to its end, which is gone past. -/
def nextItem (first : Bool) : Reader Bool := do
  match ← peekPastSpace? with
  | none => fail .endInList
  | some ']' => pure false
  | some c =>
    if first then pure true
    else if c = ',' then
      advance
      match ← peekPastSpace? with
      | none => fail .endInValue
      | some ']' => failNext .trailingComma
      | some _ => pure true
    else failNext .expectedCommaOrBracket

def nextKey (first : Bool) : Reader Bool := do
  match ← peekPastSpace? with
  | none => fail .endInObject
  | some '\x7d' => pure false
  | some c =>
    if first then
      if c = '"' then pure true else failNext .keyNotString
    else if c = ',' then
      advance
      match ← peekPastSpace? with
      | none => fail .endInValue
      | some '"' => pure true
      | some '\x7d' => failNext .trailingComma
      | some _ => failNext .keyNotString
    else failNext .expectedCommaOrBrace

def colon : Reader Unit := do
  match ← peekPastSpace? with
  | none => fail .endInObject
  | some ':' => advance
  | some _ => failNext .expectedColon

/-- The items of an array up to its end, each read by `item`. -/
def itemLoop (item : Reader Json) : Nat → Bool → List Json → Reader (List Json)
  | 0, _, _ => fail .endInList
  | fuel + 1, first, read => do
    if ← nextItem first then
      let value ← item
      itemLoop item fuel false (value :: read)
    else
      advance
      pure read.reverse

/-- The members of an object, up to its end: `member` takes each key and what has been read before
it. The end is not gone past. -/
def memberLoop {σ : Type} (member : σ → String → Reader σ) : Nat → Bool → σ → Reader σ
  | 0, _, _ => fail .endInObject
  | fuel + 1, first, read => do
    if ← nextKey first then
      advance
      let key ← string
      let read ← member read key
      memberLoop member fuel false read
    else pure read

/-- Reads an array behind its opening bracket. -/
def array (item : Reader Json) : Reader (List Json) := do
  itemLoop item ((← remaining) + 1) true []

/-- Reads an object behind its opening brace. Of two members with one key the later counts. -/
def object (value : Reader Json) : Reader (Dictionary Json) := do
  let read ← memberLoop
    (fun (members : Dictionary Json) key => do
      colon
      return members.insert key (← value))
    ((← remaining) + 1) true Dictionary.empty
  advance
  pure read

/-- Reads a value. An array or object is left to `container`, which is given its bracket. -/
def valueWith (container : Char → Reader Json) : Reader Json := do
  match ← peekPastSpace? with
  | none => fail .endInValue
  | some 'n' =>
    advance
    letters ['u', 'l', 'l']
    pure .null
  | some 't' =>
    advance
    letters ['r', 'u', 'e']
    pure (.bool true)
  | some 'f' =>
    advance
    letters ['a', 'l', 's', 'e']
    pure (.bool false)
  | some '-' =>
    advance
    return .number (← number true)
  | some '"' =>
    advance
    return .string (← string)
  | some c =>
    if c.isDigit then return .number (← number false)
    else if c = '[' || c = '\x7b' then container c
    else failNext .expectedValue

/-- Reads a value in which at most `room` arrays and objects lie inside each other. -/
def value : Nat → Reader Json
  | 0 => valueWith fun _ => failNext .tooDeep
  | room + 1 => valueWith fun bracket => do
    advance
    if bracket = '[' then return .array (← array (value room))
    else return .object (← object (value room)).entries

/-! ### Skipping -/

/-- Goes past an escape behind its backslash. Surrogates need not be paired. -/
def skipEscape : Reader Unit := do
  match ← peek? with
  | none => fail .endInString
  | some 'u' =>
    advance
    let _ ← fourHexDigits
  | some c => if (shortEscape? c).isSome then advance else failNext .invalidEscape

/-- Goes past a string up to its closing quote. -/
def skipStringLoop : Nat → Reader Unit
  | 0 => fail .endInString
  | fuel + 1 => do
    match ← peek? with
    | none => fail .endInString
    | some '"' => advance
    | some '\\' =>
      advance
      skipEscape
      skipStringLoop fuel
    | some c =>
      if c.toNat < 0x20 then fail .controlCharacter
      else
        advance
        skipStringLoop fuel

def skipString : Reader Unit := do
  skipStringLoop ((← remaining) + 1)

/-- Goes past an exponent, from its letter on. -/
def skipExponent : Reader Unit := do
  advance
  let _ ← exponentSign
  let digits ← takeWhile Char.isDigit
  if digits.isEmpty then failNext .invalidNumber

/-- Goes past the exponent, if there is one. -/
def skipExponent? : Reader Unit := do
  match ← peek? with
  | some 'e' | some 'E' => skipExponent
  | _ => pure ()

def skipNumber : Reader Unit := do
  let digits ← do
    match ← peek? with
    | some '0' =>
      advance
      match ← peek? with
      | some d => if d.isDigit then failNext .invalidNumber else pure ['0']
      | none => pure ['0']
    | _ => takeWhile Char.isDigit
  if digits.isEmpty then failNext .invalidNumber
  match ← peek? with
  | some '.' =>
    advance
    let digits ← takeWhile Char.isDigit
    if digits.isEmpty then failNext .invalidNumber
    skipExponent?
  | _ => skipExponent?

def skipKey : Reader Unit := do
  match ← peekPastSpace? with
  | none => fail .endInObject
  | some '"' =>
    advance
    skipString
    colon
  | some _ => failNext .keyNotString

/-- Where the skipping of a value stands: before a value, behind an opening bracket, or behind a
value. -/
inductive SkipState where
  | value
  | opened
  | done

/-- Goes past a value. The stack holds the opening brackets that are not yet closed. -/
def skipLoop : Nat → SkipState → List Char → Reader Unit
  | 0, _, _ => fail .endInValue
  | _ + 1, .done, [] => pure ()
  | fuel + 1, .value, stack => do
    match ← peekPastSpace? with
    | none => fail .endInValue
    | some 'n' =>
      advance
      letters ['u', 'l', 'l']
      skipLoop fuel .done stack
    | some 't' =>
      advance
      letters ['r', 'u', 'e']
      skipLoop fuel .done stack
    | some 'f' =>
      advance
      letters ['a', 'l', 's', 'e']
      skipLoop fuel .done stack
    | some '-' =>
      advance
      skipNumber
      skipLoop fuel .done stack
    | some '"' =>
      advance
      skipString
      skipLoop fuel .done stack
    | some c =>
      if c.isDigit then
        skipNumber
        skipLoop fuel .done stack
      else if c = '[' || c = '\x7b' then
        advance
        skipLoop fuel .opened (c :: stack)
      else failNext .expectedValue
  | _ + 1, .opened, [] => fail .endInValue
  | fuel + 1, state, bracket :: stack => do
    let isList := bracket == '['
    match ← peekPastSpace? with
    | none => fail (if isList then .endInList else .endInObject)
    | some c =>
      if c = (if isList then ']' else '\x7d') then
        advance
        skipLoop fuel .done stack
      else
        match state with
        | .done =>
          if c = ',' then
            advance
            unless isList do skipKey
            skipLoop fuel .value (bracket :: stack)
          else failNext (if isList then .expectedCommaOrBracket else .expectedCommaOrBrace)
        | _ =>
          unless isList do skipKey
          skipLoop fuel .value (bracket :: stack)

/-- Goes past a value of any depth. -/
def skip : Reader Unit := do
  skipLoop (2 * (← remaining) + 2) .value []

/-- Reads a whole text, around which there may only be space. -/
def whole? {α : Type} (reader : Reader α) (text : String) : Except Error α :=
  let all : Reader α := do
    let a ← reader
    match ← peekPastSpace? with
    | none => pure a
    | some _ => failNext .trailingCharacters
  (all (Cursor.start text)).map Prod.fst

end Reader

end RuleGate.Json
