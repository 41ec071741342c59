import IncokitE2ee.JsonGrammar
import IncokitE2ee.JsonText
import IncokitE2ee.Outcome

set_option autoImplicit false

/- The reader accepts only texts of the grammar. -/
namespace Json

open Grammar

/-- What the reader takes off the front of a text is of the given form. -/
def Takes {α : Type} (read : Reader α) (form : List Char → Prop) : Prop :=
  ∀ text item rest, read text = .ok (item, rest) → ∃ front, text = front ++ rest ∧ form front

theorem isBlank_iff (char : Char) : isBlank char = true ↔ Blank char := by
  simp only [isBlank, Blank, Bool.or_eq_true, decide_eq_true_eq]
  tauto

theorem skipBlanks_split (text : List Char) :
    ∃ blanks, text = blanks ++ skipBlanks text ∧ Blanks blanks := by
  refine ⟨text.takeWhile isBlank, List.takeWhile_append_dropWhile.symm, ?_⟩
  intro char member
  exact (isBlank_iff char).mp (List.all_eq_true.mp List.all_takeWhile char member)

section Leaves

theorem push_eq_ok {char : Char} {read : Except String (List Char × List Char)}
    {chars rest : List Char} (success : push char read = .ok (chars, rest)) :
    ∃ tail, read = .ok (tail, rest) := by
  cases read with
  | error error => cases success
  | ok pair =>
      obtain ⟨tail, behind⟩ := pair
      cases success
      exact ⟨tail, rfl⟩

theorem hexUnit_digits {a b c d : Char} {unit : Nat} (read : hexUnit a b c d = some unit) :
    ∀ digit ∈ [a, b, c, d], Hex.isAsciiHexdigit digit = true := by
  simp only [hexUnit, Option.bind_eq_bind, Option.bind_eq_some_iff] at read
  obtain ⟨_, first, _, second, _, third, _, fourth, _⟩ := read
  simp only [List.forall_mem_cons, List.not_mem_nil, false_implies, implies_true, and_true]
  exact ⟨(Hex.toDigit_eq_some first).1, (Hex.toDigit_eq_some second).1,
    (Hex.toDigit_eq_some third).1, (Hex.toDigit_eq_some fourth).1⟩

theorem readUnit_some {pending unit : Option Nat} {result : Nat ⊕ Char}
    (read : readUnit pending unit = .ok result) : ∃ value, unit = some value := by
  cases unit with
  | none =>
      unfold readUnit at read
      cases read
  | some value => exact ⟨value, rfl⟩

theorem unescape_kind {kind char : Char} (named : unescape kind = some char) :
    kind ∈ ['"', '\\', '/', 'b', 'f', 'n', 'r', 't'] := by
  simp only [List.mem_cons, List.not_mem_nil, or_false]
  unfold unescape at named
  repeat' split at named
  all_goals tauto

/-- A string from behind its opening quotation mark on. -/
def Closed (text : List Char) : Prop := ∃ body, text = body ++ ['"'] ∧ Chars body

/-- A character or an escape in front of a string belongs to it. -/
theorem closed_append (head : List Char) (form : ∀ body, Chars body → Chars (head ++ body))
    {text rest : List Char} (taken : ∃ front, text = front ++ rest ∧ Closed front) :
    ∃ front, head ++ text = front ++ rest ∧ Closed front := by
  obtain ⟨front, split, body, quoted, chars⟩ := taken
  refine ⟨head ++ front, by rw [split, List.append_assoc], head ++ body, ?_, form body chars⟩
  rw [quoted, List.append_assoc]

/-- By induction on the reads: each takes off one character, or one escape. -/
theorem readChars_takes (pending : Option Nat) : Takes (readChars pending) Closed := by
  intro text item rest success
  fun_induction readChars pending text generalizing item rest with
  | case1 | case4 | case5 | case7 | case9 => cases success
  | case6 behind =>
      cases success
      exact ⟨['"'], rfl, [], rfl, .nil⟩
  | case2 pending a b c d behind leading unit ih =>
      obtain ⟨value, read⟩ := readUnit_some unit
      exact closed_append ['\\', 'u', a, b, c, d]
        (fun body => .unit a b c d body (hexUnit_digits read)) (ih item rest success)
  | case3 pending a b c d behind char unit ih =>
      obtain ⟨value, read⟩ := readUnit_some unit
      obtain ⟨tail, later⟩ := push_eq_ok success
      exact closed_append ['\\', 'u', a, b, c, d]
        (fun body => .unit a b c d body (hexUnit_digits read)) (ih tail rest later)
  | case8 kind behind _ char named ih =>
      obtain ⟨tail, later⟩ := push_eq_ok success
      exact closed_append ['\\', kind] (fun body => .named kind body (unescape_kind named))
        (ih tail rest later)
  | case10 char behind _ unquoted noEscape printable ih =>
      obtain ⟨tail, later⟩ := push_eq_ok success
      have unescaped : char ≠ '\\' := by
        -- A last backslash is taken as it stands, but then no quotation mark follows.
        intro slash
        cases behind with
        | nil => cases later
        | cons kind more => exact noEscape kind more slash rfl
      exact closed_append [char]
        (fun body => .plain char body unquoted unescaped (Nat.le_of_not_lt printable))
        (ih tail rest later)

/-- An integer without its sign. -/
theorem readMagnitude_takes (negative : Bool) : Takes (readMagnitude negative) Whole := by
  intro text value rest success
  simp only [readMagnitude] at success
  split at success
  · cases success
  rename_i some_digit
  split at success
  · cases success
  rename_i leading
  split at success
  · cases success
  have behind : rest = text.dropWhile Char.isDigit := by
    split at success <;> split at success <;> cases success <;> rfl
  refine ⟨text.takeWhile Char.isDigit, ?_,
    ⟨some_digit, List.all_eq_true.mp List.all_takeWhile⟩, ?_⟩
  · rw [behind]
    exact List.takeWhile_append_dropWhile.symm
  · tauto

theorem readInteger_takes : Takes readInteger Number := by
  intro text value rest success
  unfold readInteger at success
  split at success
  · obtain ⟨whole, split, integer⟩ := readMagnitude_takes true _ value rest success
    refine ⟨'-' :: whole, by rw [split, List.cons_append], ?_⟩
    have number := Number.negative whole [] [] integer (.inl rfl) (.inl rfl)
    rwa [List.append_nil, List.append_nil] at number
  · obtain ⟨whole, split, integer⟩ := readMagnitude_takes false _ value rest success
    refine ⟨whole, split, ?_⟩
    have number := Number.positive whole [] [] integer (.inl rfl) (.inl rfl)
    rwa [List.append_nil, List.append_nil] at number

end Leaves

section Lists

variable {α : Type} {read : Reader α} {form : List Char → Prop}

/-- Behind an item: the rest of the list and its closing bracket. -/
theorem readMore_takes (takes : Takes read form) (absorbs : Absorbs form) (close : Char)
    (fuel : Nat) {first text : List Char} {items : List α} {rest : List Char} (item : form first)
    (success : readMore read close fuel text = .ok (items, rest)) :
    ∃ body, text = body ++ close :: rest ∧ Separated form (first ++ body) := by
  induction fuel generalizing first text items with
  | zero => cases success
  | succ fuel ih =>
      obtain ⟨blanks, split, front⟩ := skipBlanks_split text
      have ended := absorbs.back first blanks item front
      rcases readMore_eq_ok success with closing | more
      · rw [closing.1] at split
        exact ⟨blanks, split, .last _ ended⟩
      · obtain ⟨behind, next, middle, others, comma, here, later, _⟩ := more
        obtain ⟨second, taken, item'⟩ := takes behind next middle here
        obtain ⟨body, remaining, separated⟩ := ih item' later
        refine ⟨blanks ++ ',' :: (second ++ body), ?_, ?_⟩
        · rw [split, comma, taken, remaining]
          simp only [List.append_assoc, List.cons_append]
        · rw [← List.append_assoc]
          exact .more _ _ ended separated

/-- The items of a list, up to its closing bracket. -/
def Listed (form : List Char → Prop) (close : Char) (text : List Char) : Prop :=
  ∃ body, text = body ++ [close] ∧ (Blanks body ∨ Separated form body)

theorem readItems_takes (takes : Takes read form) (absorbs : Absorbs form) (close : Char) :
    Takes (readItems read close) (Listed form close) := by
  intro text items rest success
  obtain ⟨blanks, split, front⟩ := skipBlanks_split text
  rcases readItems_eq_ok success with closing | more
  · refine ⟨blanks ++ [close], ?_, blanks, rfl, .inl front⟩
    rw [split, closing.1, List.append_assoc]
    rfl
  · obtain ⟨next, middle, others, here, later, _⟩ := more
    obtain ⟨first, taken, item⟩ := takes _ next middle here
    obtain ⟨body, remaining, separated⟩ := readMore_takes takes absorbs close _
      (absorbs.front blanks first front item) later
    refine ⟨blanks ++ first ++ body ++ [close], ?_, _, rfl, .inr separated⟩
    rw [split, taken, remaining]
    simp only [List.append_assoc, List.cons_append, List.nil_append]

end Lists

section Values

theorem readMember_takes {read : Reader Tree} {form : List Char → Prop} (takes : Takes read form) :
    Takes (readMember read) (Member form) := by
  intro text member rest success
  obtain ⟨blanks, split, front⟩ := skipBlanks_split text
  obtain ⟨quoted, name, behind, item, colon, found, chars, found', inner, _⟩ :=
    readMember_eq_ok success
  obtain ⟨middle, split', front'⟩ := skipBlanks_split behind
  obtain ⟨_, taken, body, closed, inside⟩ := readChars_takes none quoted name behind chars
  obtain ⟨last, remaining, value⟩ := takes colon item rest inner
  rw [found] at split
  rw [found'] at split'
  refine ⟨blanks ++ ('"' :: (body ++ ['"']) ++ middle) ++ ':' :: last, ?_, ?_⟩
  · rw [split, taken, closed, split', remaining]
    simp only [List.append_assoc, List.cons_append, List.nil_append]
  · exact .mk _ last (.mk blanks _ middle front (.mk body inside) front') value

/-- What a reader takes behind an opening character. -/
theorem Takes.cons {α : Type} {read : Reader α} {form : List Char → Prop} (takes : Takes read form)
    (opening : Char) {text rest : List Char} {item : α} (success : read text = .ok (item, rest)) :
    ∃ body, opening :: text = (opening :: body) ++ rest ∧ form body := by
  obtain ⟨body, taken, formed⟩ := takes text item rest success
  exact ⟨body, by rw [taken, List.cons_append], formed⟩

/-- By cases on what the text opens with: each is a value of its own kind. -/
theorem value_of_opened {inner : Option (Reader Tree)}
    (takes : ∀ read ∈ inner, Takes read (Padded Grammar.Value)) {text rest : List Char}
    {tree : Tree} (opened : Opened inner rest text tree) :
    ∃ value, text = value ++ rest ∧ Grammar.Value value := by
  cases opened with
  | word first word tree known =>
      refine ⟨first :: word, rfl, ?_⟩
      simp only [List.mem_cons, Prod.mk.injEq, List.not_mem_nil, or_false] at known
      rcases known with ⟨rfl, rfl, _⟩ | ⟨rfl, rfl, _⟩ | ⟨rfl, rfl, _⟩
      · exact .null
      · exact .true
      · exact .false
  | string behind chars read =>
      obtain ⟨_, taken, body, rfl, inside⟩ := (readChars_takes none).cons '"' read
      exact ⟨_, taken, .string _ (.mk body inside)⟩
  | array reader entered behind items read =>
      have list := readItems_takes (takes reader entered) (Padded.absorbs Grammar.Value) ']'
      obtain ⟨_, taken, body, rfl, inside⟩ := list.cons '[' read
      exact ⟨_, taken, inside.elim (.emptyArray body) (.array body)⟩
  | object reader entered behind members read =>
      have list := readItems_takes (readMember_takes (takes reader entered))
        (Member.absorbs (Padded.absorbs Grammar.Value)) '}'
      obtain ⟨_, taken, body, rfl, inside⟩ := list.cons '{' read
      exact ⟨_, taken, inside.elim (.emptyObject body) (.object body)⟩
  | number _ integer read =>
      obtain ⟨number, taken, form⟩ := readInteger_takes _ integer rest read
      exact ⟨number, taken, .number number form⟩

theorem readWith_takes (inner : Option (Reader Tree))
    (takes : ∀ read ∈ inner, Takes read (Padded Grammar.Value)) :
    Takes (readWith inner) (Padded Grammar.Value) := by
  intro text tree rest success
  obtain ⟨blanks, split, front⟩ := skipBlanks_split text
  obtain ⟨value, taken, form⟩ := value_of_opened takes (opened_of_readWith success)
  have none_after : Blanks [] := by
    intro char impossible
    cases impossible
  refine ⟨blanks ++ (value ++ []), ?_, .mk blanks value [] front form none_after⟩
  rw [split, taken, List.append_nil, List.append_assoc]

theorem readTree_takes (levels : Nat) : Takes (readTree levels) (Padded Grammar.Value) := by
  induction levels with
  | zero => exact readWith_takes none fun read impossible => by cases impossible
  | succ levels ih =>
      apply readWith_takes
      intro read same
      cases same
      exact ih

/-- Every text that is read is a text of the grammar. -/
theorem text_of_readText (levels : Nat) (text : List Char) (tree : Tree)
    (success : readText levels text = .ok tree) : Text text := by
  obtain ⟨rest, read, ended⟩ := readText_eq_ok success
  obtain ⟨padded, split, value⟩ := readTree_takes levels text tree rest read
  obtain ⟨blanks, trailing, back⟩ := skipBlanks_split rest
  rw [ended, List.append_nil] at trailing
  rw [split, trailing]
  exact (Padded.absorbs Grammar.Value).back padded blanks value back

end Values

end Json
