import IncokitE2ee.Hex
import IncokitE2ee.JsonValue
import IncokitE2ee.Outcome

set_option autoImplicit false

/- JSON text: a compact writer, and a reader that counts how deep it may still
go. Errors do not carry the line and column. -/
namespace Json

section Writer

def lowerDigit (value : Nat) : Char := (Hex.upperDigit value).toLower

/-- Quotes, backslashes and control characters are escaped, nothing else is. -/
def escape (char : Char) : List Char :=
  if char = '"' then ['\\', '"']
  else if char = '\\' then ['\\', '\\']
  else if char = '\x08' then ['\\', 'b']
  else if char = '\t' then ['\\', 't']
  else if char = '\n' then ['\\', 'n']
  else if char = '\x0c' then ['\\', 'f']
  else if char = '\r' then ['\\', 'r']
  else if char.toNat < 32 then
    ['\\', 'u', '0', '0', lowerDigit (char.toNat / 16), lowerDigit (char.toNat % 16)]
  else [char]

def quote (text : String) : List Char := '"' :: (text.toList.flatMap escape ++ ['"'])

def writeInteger (value : Integer) : List Char :=
  if value.val < 0 then '-' :: Nat.toDigits 10 value.val.natAbs
  else Nat.toDigits 10 value.val.natAbs

mutual

def write : Tree → List Char
  | .null => ['n', 'u', 'l', 'l']
  | .bool true => ['t', 'r', 'u', 'e']
  | .bool false => ['f', 'a', 'l', 's', 'e']
  | .number value => writeInteger value
  | .string text => quote text
  | .array items => '[' :: ([','].intercalate (writeItems items) ++ [']'])
  | .object members => '{' :: ([','].intercalate (writeMembers members) ++ ['}'])

def writeItems : List Tree → List (List Char)
  | [] => []
  | item :: rest => write item :: writeItems rest

def writeMembers : List (String × Tree) → List (List Char)
  | [] => []
  | (name, item) :: rest => (quote name ++ ':' :: write item) :: writeMembers rest

end

end Writer

section Reader

/-- A reader takes one `α` off the front of a text. -/
abbrev Reader (α : Type) := List Char → Except String (α × List Char)

variable {α : Type}

def isBlank (char : Char) : Bool :=
  char = ' ' || char = '\n' || char = '\t' || char = '\r'

def skipBlanks (text : List Char) : List Char := text.dropWhile isBlank

def unescape (kind : Char) : Option Char :=
  if kind = '"' then some '"'
  else if kind = '\\' then some '\\'
  else if kind = '/' then some '/'
  else if kind = 'b' then some '\x08'
  else if kind = 'f' then some '\x0c'
  else if kind = 'n' then some '\n'
  else if kind = 'r' then some '\r'
  else if kind = 't' then some '\t'
  else none

/-- Four hex digits, as one UTF-16 unit. -/
def hexUnit (a b c d : Char) : Option Nat := do
  let a ← Hex.toDigit 16 a
  let b ← Hex.toDigit 16 b
  let c ← Hex.toDigit 16 c
  let d ← Hex.toDigit 16 d
  return ((a * 16 + b) * 16 + c) * 16 + d

def push (char : Char) (read : Except String (List Char × List Char)) :
    Except String (List Char × List Char) :=
  read.map fun (chars, rest) => (char :: chars, rest)

/-- What a UTF-16 unit stands for: a leading surrogate has to be followed by a
trailing one, the others are characters. -/
def readUnit : Option Nat → Option Nat → Except String (Nat ⊕ Char)
  | _, none => .error "invalid escape"
  | none, some unit =>
      if 0xD800 ≤ unit ∧ unit < 0xDC00 then .ok (.inl unit)
      else if 0xDC00 ≤ unit ∧ unit < 0xE000 then .error "lone leading surrogate in hex escape"
      else .ok (.inr (Char.ofNat unit))
  | some leading, some unit =>
      if 0xDC00 ≤ unit ∧ unit < 0xE000 then
        .ok (.inr (Char.ofNat ((leading - 0xD800) * 0x400 + (unit - 0xDC00) + 0x10000)))
      else .error "lone leading surrogate in hex escape"

/-- The characters up to the closing quote, behind a leading surrogate if one is
pending. -/
def readChars : Option Nat → Reader (List Char)
  | pending, '\\' :: 'u' :: a :: b :: c :: d :: rest =>
      match readUnit pending (hexUnit a b c d) with
      | .error error => .error error
      | .ok (.inl leading) => readChars (some leading) rest
      | .ok (.inr char) => push char (readChars none rest)
  | some _, _ => .error "lone leading surrogate in hex escape"
  | none, [] => .error "EOF while parsing a string"
  | none, '"' :: rest => .ok ([], rest)
  | none, '\\' :: kind :: rest =>
      match unescape kind with
      | none => .error "invalid escape"
      | some char => push char (readChars none rest)
  | none, char :: rest =>
      if char.toNat < 32 then .error "control character found while parsing a string"
      else push char (readChars none rest)

/-- An integer behind its sign. A fraction, an exponent and a value out of range
make a floating-point number, which is none of these values. -/
def readMagnitude (negative : Bool) : Reader Integer := fun text =>
  let digits := text.takeWhile Char.isDigit
  let rest := text.dropWhile Char.isDigit
  let magnitude := Nat.ofDigitChars 10 digits 0
  let value : Int := if negative then -(magnitude : Int) else magnitude
  if digits = [] then .error "expected value"
  else if digits.length ≠ 1 ∧ digits.head? = some '0' then .error "invalid number"
  else if rest.head? = some '.' ∨ rest.head? = some 'e' ∨ rest.head? = some 'E' ∨
      (negative = true ∧ magnitude = 0) then .error "floating-point number"
  else if range : -2 ^ 63 ≤ value ∧ value < 2 ^ 64 then .ok (⟨value, range⟩, rest)
  else .error "floating-point number"

def readInteger : Reader Integer
  | '-' :: rest => readMagnitude true rest
  | text => readMagnitude false text

/-- Further items, each behind a comma, up to the closing bracket. -/
def readMore (read : Reader α) (close : Char) : Nat → Reader (List α)
  | 0, _ => .error "EOF while parsing"
  | fuel + 1, text =>
      match skipBlanks text with
      | [] => .error "EOF while parsing"
      | char :: rest =>
          if char = close then .ok ([], rest)
          else if char = ',' then do
            let (item, rest) ← read rest
            let (items, rest) ← readMore read close fuel rest
            return (item :: items, rest)
          else .error "expected a comma or the closing bracket"

/-- The items of an array or an object, behind its opening bracket. -/
def readItems (read : Reader α) (close : Char) : Reader (List α) := fun text =>
  match skipBlanks text with
  | [] => .error "EOF while parsing"
  | char :: rest =>
      if char = close then .ok ([], rest)
      else do
        let (item, rest) ← read (char :: rest)
        let (items, rest) ← readMore read close rest.length rest
        return (item :: items, rest)

def readMember (read : Reader Tree) : Reader (String × Tree) := fun text =>
  match skipBlanks text with
  | '"' :: rest => do
      let (name, rest) ← readChars none rest
      match skipBlanks rest with
      | ':' :: rest => do
          let (item, rest) ← read rest
          return ((String.ofList name, item), rest)
      | _ => .error "expected a colon"
  | _ => .error "key must be a string"

def readWord (word : List Char) (tree : Tree) : Reader Tree := fun text =>
  if word.isPrefixOf text then .ok (tree, text.drop word.length) else .error "expected ident"

/-- One value. Arrays and objects are entered with the reader for what they
hold, if there is one. -/
def readWith (inner : Option (Reader Tree)) : Reader Tree := fun text =>
  match skipBlanks text with
  | [] => .error "EOF while parsing a value"
  | char :: rest =>
      if char = 'n' then readWord ['u', 'l', 'l'] .null rest
      else if char = 't' then readWord ['r', 'u', 'e'] (.bool true) rest
      else if char = 'f' then readWord ['a', 'l', 's', 'e'] (.bool false) rest
      else if char = '"' then do
        let (chars, rest) ← readChars none rest
        return (.string (String.ofList chars), rest)
      else if char = '[' then
        match inner with
        | none => .error "recursion limit exceeded"
        | some read => do
            let (items, rest) ← readItems read ']' rest
            return (.array items, rest)
      else if char = '{' then
        match inner with
        | none => .error "recursion limit exceeded"
        | some read => do
            let (members, rest) ← readItems (readMember read) '}' rest
            return (.object (BTreeMap.collect members), rest)
      else do
        let (value, rest) ← readInteger (char :: rest)
        return (.number value, rest)

/-- A value whose arrays and objects nest at most this deep. -/
def readTree : (levels : Nat) → Reader Tree
  | 0 => readWith none
  | levels + 1 => readWith (some (readTree levels))

/-- A whole text that is one value. -/
def readText (levels : Nat) (text : List Char) : Except String Tree := do
  let (tree, rest) ← readTree levels text
  if skipBlanks rest = [] then .ok tree else .error "trailing characters"

end Reader

section Accepting

variable {α : Type} {read : Reader α} {close : Char} {text rest : List Char}

/-- What a successful read of further items did. -/
theorem readMore_eq_ok {fuel : Nat} {items : List α}
    (success : readMore read close (fuel + 1) text = .ok (items, rest)) :
    (skipBlanks text = close :: rest ∧ items = []) ∨
      ∃ behind item middle others, skipBlanks text = ',' :: behind ∧
        read behind = .ok (item, middle) ∧
        readMore read close fuel middle = .ok (others, rest) ∧ items = item :: others := by
  rw [readMore] at success
  split at success
  · cases success
  rename_i char behind found
  split at success
  · rename_i closing
    cases success
    exact .inl ⟨by rw [found, closing], rfl⟩
  split at success
  · rename_i comma
    obtain ⟨⟨item, middle⟩, here, more⟩ := (Outcome.bind_eq_ok_iff _ _ _).mp success
    obtain ⟨⟨others, final⟩, later, joined⟩ := (Outcome.bind_eq_ok_iff _ _ _).mp more
    cases joined
    exact .inr ⟨behind, item, middle, others, by rw [found, comma], here, later, rfl⟩
  · cases success

theorem readItems_eq_ok {items : List α} (success : readItems read close text = .ok (items, rest)) :
    (skipBlanks text = close :: rest ∧ items = []) ∨
      ∃ item middle others, read (skipBlanks text) = .ok (item, middle) ∧
        readMore read close middle.length middle = .ok (others, rest) ∧
        items = item :: others := by
  rw [readItems] at success
  split at success
  · cases success
  rename_i char behind found
  split at success
  · rename_i closing
    cases success
    exact .inl ⟨by rw [found, closing], rfl⟩
  · obtain ⟨⟨item, middle⟩, here, more⟩ := (Outcome.bind_eq_ok_iff _ _ _).mp success
    obtain ⟨⟨others, final⟩, later, joined⟩ := (Outcome.bind_eq_ok_iff _ _ _).mp more
    cases joined
    exact .inr ⟨item, middle, others, by rw [found, here], later, rfl⟩

theorem readMember_eq_ok {read : Reader Tree} {member : String × Tree}
    (success : readMember read text = .ok (member, rest)) :
    ∃ quoted chars behind item colon, skipBlanks text = '"' :: quoted ∧
      readChars none quoted = .ok (chars, behind) ∧ skipBlanks behind = ':' :: colon ∧
      read colon = .ok (item, rest) ∧ member = (String.ofList chars, item) := by
  rw [readMember] at success
  split at success
  · rename_i quoted found
    obtain ⟨⟨chars, behind⟩, name, after⟩ := (Outcome.bind_eq_ok_iff _ _ _).mp success
    dsimp only at after
    split at after
    · rename_i colon found'
      obtain ⟨⟨item, final⟩, inner, joined⟩ := (Outcome.bind_eq_ok_iff _ _ _).mp after
      cases joined
      exact ⟨quoted, chars, behind, item, colon, found, name, found', inner, rfl⟩
    · cases after
  · cases success

theorem readWord_eq_ok {word : List Char} {tree found : Tree}
    (success : readWord word tree text = .ok (found, rest)) : text = word ++ rest ∧ found = tree := by
  rw [readWord] at success
  split at success
  · rename_i starts
    cases success
    obtain ⟨rest, joined⟩ := List.isPrefixOf_iff_prefix.mp starts
    rw [← joined, List.drop_left]
    exact ⟨rfl, rfl⟩
  · cases success

/-- The kinds of value, each behind its first character. -/
inductive Opened (inner : Option (Reader Tree)) (rest : List Char) : List Char → Tree → Prop where
  | word (first : Char) (word : List Char) (tree : Tree)
      (known : (first, word, tree) ∈
        [('n', ['u', 'l', 'l'], .null), ('t', ['r', 'u', 'e'], .bool true),
          ('f', ['a', 'l', 's', 'e'], .bool false)]) :
      Opened inner rest (first :: (word ++ rest)) tree
  | string (behind chars : List Char) (read : readChars none behind = .ok (chars, rest)) :
      Opened inner rest ('"' :: behind) (.string (String.ofList chars))
  | array (reader : Reader Tree) (entered : inner = some reader) (behind : List Char)
      (items : List Tree) (read : readItems reader ']' behind = .ok (items, rest)) :
      Opened inner rest ('[' :: behind) (.array items)
  | object (reader : Reader Tree) (entered : inner = some reader) (behind : List Char)
      (members : List (String × Tree))
      (read : readItems (readMember reader) '}' behind = .ok (members, rest)) :
      Opened inner rest ('{' :: behind) (.object (BTreeMap.collect members))
  | number (text : List Char) (value : Integer) (read : readInteger text = .ok (value, rest)) :
      Opened inner rest text (.number value)

/-- What a successful read of a value did. -/
theorem opened_of_readWith {inner : Option (Reader Tree)} {tree : Tree}
    (success : readWith inner text = .ok (tree, rest)) : Opened inner rest (skipBlanks text) tree := by
  rw [readWith] at success
  split at success
  · cases success
  rename_i char behind found
  rw [found]
  split at success
  · rename_i null
    obtain ⟨split, same⟩ := readWord_eq_ok success
    rw [split, same, null]
    exact .word _ _ _ (by simp)
  split at success
  · rename_i yes
    obtain ⟨split, same⟩ := readWord_eq_ok success
    rw [split, same, yes]
    exact .word _ _ _ (by simp)
  split at success
  · rename_i no
    obtain ⟨split, same⟩ := readWord_eq_ok success
    rw [split, same, no]
    exact .word _ _ _ (by simp)
  split at success
  · rename_i quote
    obtain ⟨⟨chars, final⟩, string, joined⟩ := (Outcome.bind_eq_ok_iff _ _ _).mp success
    cases joined
    rw [quote]
    exact .string behind chars string
  split at success
  · rename_i bracket
    cases inner with
    | none => cases success
    | some reader =>
        obtain ⟨⟨items, final⟩, list, joined⟩ := (Outcome.bind_eq_ok_iff _ _ _).mp success
        cases joined
        rw [bracket]
        exact .array reader rfl behind items list
  split at success
  · rename_i brace
    cases inner with
    | none => cases success
    | some reader =>
        obtain ⟨⟨members, final⟩, list, joined⟩ := (Outcome.bind_eq_ok_iff _ _ _).mp success
        cases joined
        rw [brace]
        exact .object reader rfl behind members list
  · obtain ⟨⟨value, final⟩, integer, joined⟩ := (Outcome.bind_eq_ok_iff _ _ _).mp success
    cases joined
    exact .number _ value integer

theorem readText_eq_ok {levels : Nat} {tree : Tree} (success : readText levels text = .ok tree) :
    ∃ rest, readTree levels text = .ok (tree, rest) ∧ skipBlanks rest = [] := by
  obtain ⟨⟨found, rest⟩, read, whole⟩ := (Outcome.bind_eq_ok_iff _ _ _).mp success
  dsimp only at whole
  split at whole
  · rename_i ended
    cases whole
    exact ⟨rest, read, ended⟩
  · cases whole

end Accepting

end Json
