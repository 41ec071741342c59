import IncokitE2ee.Hex

set_option autoImplicit false

/- The JSON texts of RFC 8259, as sets of character lists, and what such a text
may begin with. -/
namespace Json.Grammar

def Blank (char : Char) : Prop := char = ' ' ∨ char = '\t' ∨ char = '\n' ∨ char = '\r'

def Blanks (text : List Char) : Prop := ∀ char ∈ text, Blank char

/-- One or more digits. -/
def Digits (text : List Char) : Prop := text ≠ [] ∧ ∀ char ∈ text, char.isDigit = true

/-- An integer part: zero, or digits that do not begin with zero. -/
def Whole (text : List Char) : Prop := Digits text ∧ (text.length = 1 ∨ text.head? ≠ some '0')

def Fraction (text : List Char) : Prop := text = [] ∨ ∃ digits, Digits digits ∧ text = '.' :: digits

def Exponent (text : List Char) : Prop :=
  text = [] ∨ ∃ mark sign digits, (mark = 'e' ∨ mark = 'E') ∧
    (sign = [] ∨ sign = ['+'] ∨ sign = ['-']) ∧ Digits digits ∧ text = mark :: (sign ++ digits)

/-- An optional minus, an integer part, and then a fraction and an exponent. -/
inductive Number : List Char → Prop where
  | positive (whole fraction exponent : List Char) :
      Whole whole → Fraction fraction → Exponent exponent →
      Number (whole ++ (fraction ++ exponent))
  | negative (whole fraction exponent : List Char) :
      Whole whole → Fraction fraction → Exponent exponent →
      Number ('-' :: (whole ++ (fraction ++ exponent)))

/-- What stands between two quotation marks: a quotation mark, a backslash and a
control character only as an escape. -/
inductive Chars : List Char → Prop where
  | nil : Chars []
  | plain (char : Char) (rest : List Char) :
      char ≠ '"' → char ≠ '\\' → 32 ≤ char.toNat → Chars rest → Chars (char :: rest)
  | named (kind : Char) (rest : List Char) :
      kind ∈ ['"', '\\', '/', 'b', 'f', 'n', 'r', 't'] → Chars rest →
      Chars ('\\' :: kind :: rest)
  | unit (a b c d : Char) (rest : List Char) :
      (∀ digit ∈ [a, b, c, d], Hex.isAsciiHexdigit digit = true) → Chars rest →
      Chars ('\\' :: 'u' :: a :: b :: c :: d :: rest)

inductive Quoted : List Char → Prop where
  | mk (body : List Char) : Chars body → Quoted ('"' :: (body ++ ['"']))

section Parts

variable (inner : List Char → Prop)

/-- The inner text with blanks around it. -/
inductive Padded : List Char → Prop where
  | mk (before text after : List Char) : Blanks before → inner text → Blanks after →
      Padded (before ++ (text ++ after))

/-- One or more of the inner texts with commas between them. -/
inductive Separated : List Char → Prop where
  | last (text : List Char) : inner text → Separated text
  | more (text rest : List Char) : inner text → Separated rest → Separated (text ++ ',' :: rest)

/-- A name, a colon and the inner text. -/
inductive Member : List Char → Prop where
  | mk (name item : List Char) : Padded Quoted name → inner item → Member (name ++ ':' :: item)

end Parts

inductive Value : List Char → Prop where
  | null : Value ['n', 'u', 'l', 'l']
  | true : Value ['t', 'r', 'u', 'e']
  | false : Value ['f', 'a', 'l', 's', 'e']
  | number (text : List Char) : Number text → Value text
  | string (text : List Char) : Quoted text → Value text
  | emptyArray (blanks : List Char) : Blanks blanks → Value ('[' :: (blanks ++ [']']))
  | array (items : List Char) : Separated (Padded Value) items → Value ('[' :: (items ++ [']']))
  | emptyObject (blanks : List Char) : Blanks blanks → Value ('{' :: (blanks ++ ['}']))
  | object (members : List Char) :
      Separated (Member (Padded Value)) members → Value ('{' :: (members ++ ['}']))

/-- A JSON text: a value with blanks around it. -/
def Text (text : List Char) : Prop := Padded Value text

/-- The characters that a value can begin with. -/
def Begins (char : Char) : Prop :=
  char ∈ ['n', 't', 'f', '-', '"', '[', '{'] ∨ char.isDigit = true

/-- By cases on the value: each begins with a character of its own kind. -/
theorem Value.begins {text : List Char} (value : Value text) :
    ∃ first rest, text = first :: rest ∧ Begins first := by
  cases value with
  | null => exact ⟨'n', _, rfl, .inl (by decide)⟩
  | true => exact ⟨'t', _, rfl, .inl (by decide)⟩
  | false => exact ⟨'f', _, rfl, .inl (by decide)⟩
  | string text quoted =>
      cases quoted
      exact ⟨'"', _, rfl, .inl (by decide)⟩
  | emptyArray => exact ⟨'[', _, rfl, .inl (by decide)⟩
  | array => exact ⟨'[', _, rfl, .inl (by decide)⟩
  | emptyObject => exact ⟨'{', _, rfl, .inl (by decide)⟩
  | object => exact ⟨'{', _, rfl, .inl (by decide)⟩
  | number text number =>
      cases number with
      | negative => exact ⟨'-', _, rfl, .inl (by decide)⟩
      | positive whole fraction exponent integer =>
          cases whole with
          | nil => exact absurd rfl integer.1.1
          | cons first rest => exact ⟨first, _, rfl, .inr (integer.1.2 first List.mem_cons_self)⟩

/-- A JSON text begins with a blank or as a value does. -/
theorem Text.begins {text : List Char} (grammatical : Text text) :
    ∃ first rest, text = first :: rest ∧ (Blank first ∨ Begins first) := by
  cases grammatical with
  | mk before inner after blanks value _ =>
      cases before with
      | nil =>
          obtain ⟨first, rest, spelled, begins⟩ := value.begins
          rw [spelled]
          exact ⟨first, _, rfl, .inr begins⟩
      | cons first rest => exact ⟨first, _, rfl, .inl (blanks first List.mem_cons_self)⟩

/-- No JSON text begins with any other character. -/
theorem not_text_cons {char : Char} (solid : ¬ Blank char) (foreign : ¬ Begins char)
    (rest : List Char) : ¬ Text (char :: rest) := by
  intro grammatical
  obtain ⟨first, tail, spelled, begins⟩ := grammatical.begins
  injection spelled with same
  rw [← same] at begins
  exact begins.elim solid foreign

section Padding

theorem Blanks.append {before after : List Char} (blanks : Blanks before)
    (blanks' : Blanks after) : Blanks (before ++ after) := by
  intro char member
  exact (List.mem_append.mp member).elim (blanks char) (blanks' char)

/-- A set of texts that is closed under blanks in front and behind. -/
structure Absorbs (inner : List Char → Prop) : Prop where
  front : ∀ blanks text, Blanks blanks → inner text → inner (blanks ++ text)
  back : ∀ text blanks, inner text → Blanks blanks → inner (text ++ blanks)

theorem Padded.absorbs (inner : List Char → Prop) : Absorbs (Padded inner) := by
  constructor
  · intro blanks text front padded
    cases padded with
    | mk before text after before' value after' =>
        rw [← List.append_assoc]
        exact .mk _ text after (front.append before') value after'
  · intro text blanks padded back
    cases padded with
    | mk before text after before' value after' =>
        rw [List.append_assoc, List.append_assoc]
        exact .mk before text _ before' value (after'.append back)

theorem Member.absorbs {inner : List Char → Prop} (absorbs : Absorbs inner) :
    Absorbs (Member inner) := by
  constructor
  · intro blanks text front member
    cases member with
    | mk name item quoted value =>
        rw [← List.append_assoc]
        exact .mk _ item ((Padded.absorbs Quoted).front blanks name front quoted) value
  · intro text blanks member back
    cases member with
    | mk name item quoted value =>
        rw [List.append_assoc, List.cons_append]
        exact .mk name _ quoted (absorbs.back item blanks value back)

end Padding

end Json.Grammar
