import IncokitE2ee.JsonText
import IncokitE2ee.Outcome

set_option autoImplicit false

/- The reader gives back what the writer was given, down to the depth it may go. -/
namespace Json

/-- What may follow a value: the end, a comma or a closing bracket. -/
def Stops (rest : List Char) : Prop :=
  ∀ char ∈ rest.head?, char = ',' ∨ char = ']' ∨ char = '}'

theorem stops_nil : Stops [] := by
  intro char member
  cases member

theorem stops_cons {char : Char} (rest : List Char)
    (closes : char = ',' ∨ char = ']' ∨ char = '}') : Stops (char :: rest) := by
  intro other member
  rw [List.head?_cons, Option.mem_def, Option.some.injEq] at member
  exact member ▸ closes

/-- The reader takes this text off for that item. -/
def Reads {α : Type} (read : Reader α) (text : List Char) (item : α) : Prop :=
  ∀ rest, Stops rest → read (text ++ rest) = .ok (item, rest)

/-- The reader refuses this text, whatever follows. -/
def Refuses {α : Type} (read : Reader α) (text : List Char) : Prop :=
  ∀ rest, Stops rest → Outcome.Failed (read (text ++ rest))

theorem not_refuses_of_reads {α : Type} {read : Reader α} {text : List Char} {item : α}
    (reads : Reads read text item) : ¬ Refuses read text := by
  intro refuses
  obtain ⟨error, failed⟩ := refuses [] stops_nil
  rw [reads [] stops_nil] at failed
  cases failed

section Strings

theorem toDigit_lowerDigit {value : Nat} (small : value < 16) :
    Hex.toDigit 16 (lowerDigit value) = some value := by
  have table : ∀ value, value < 16 → Hex.toDigit 16 (lowerDigit value) = some value := by decide
  exact table value small

/-- An escaped control character reads as its code. -/
theorem hexUnit_control {code : Nat} (control : code < 32) :
    hexUnit '0' '0' (lowerDigit (code / 16)) (lowerDigit (code % 16)) = some code := by
  have zero : Hex.toDigit 16 '0' = some 0 := by decide
  have high := toDigit_lowerDigit (show code / 16 < 16 by omega)
  have low := toDigit_lowerDigit (show code % 16 < 16 by omega)
  have joined : ((0 * 16 + 0) * 16 + code / 16) * 16 + code % 16 = code := by omega
  simp only [hexUnit, zero, high, low, Option.bind_eq_bind, Option.bind_some, joined]
  rfl

theorem readChars_plain {char : Char} (rest : List Char) (unquoted : char ≠ '"')
    (unescaped : char ≠ '\\') (printable : ¬ char.toNat < 32) :
    readChars none (char :: rest) = push char (readChars none rest) := by
  rw [readChars, if_neg printable] <;> simp [unquoted, unescaped]

theorem readChars_named {kind char : Char} (rest : List Char) (named : unescape kind = some char) :
    readChars none ('\\' :: kind :: rest) = push char (readChars none rest) := by
  have notUnit : kind ≠ 'u' := by
    rintro rfl
    cases named
  rw [readChars]
  · rw [named]
  · intro a b c d tail unit
    exact absurd unit notUnit

theorem readChars_unit {a b c d : Char} {unit : Nat} (rest : List Char)
    (spelled : hexUnit a b c d = some unit) (single : unit < 0xD800) :
    readChars none ('\\' :: 'u' :: a :: b :: c :: d :: rest) =
      push (Char.ofNat unit) (readChars none rest) := by
  have notLeading : ¬ (0xD800 ≤ unit ∧ unit < 0xDC00) := by omega
  have notTrailing : ¬ (0xDC00 ≤ unit ∧ unit < 0xE000) := by omega
  have character : readUnit none (hexUnit a b c d) = .ok (.inr (Char.ofNat unit)) := by
    rw [spelled, readUnit, if_neg notLeading, if_neg notTrailing]
  simp only [readChars, character]

/-- One case for each escape, and one for the characters that have none. -/
theorem readChars_escape (char : Char) (rest : List Char) :
    readChars none (escape char ++ rest) = push char (readChars none rest) := by
  unfold escape
  split
  · rename_i same
    rw [same]
    exact readChars_named rest rfl
  split
  · rename_i same
    rw [same]
    exact readChars_named rest rfl
  split
  · rename_i same
    rw [same]
    exact readChars_named rest rfl
  split
  · rename_i same
    rw [same]
    exact readChars_named rest rfl
  split
  · rename_i same
    rw [same]
    exact readChars_named rest rfl
  split
  · rename_i same
    rw [same]
    exact readChars_named rest rfl
  split
  · rename_i same
    rw [same]
    exact readChars_named rest rfl
  split
  · rename_i control
    have spelled := readChars_unit rest (hexUnit_control control) (by omega)
    rw [Char.ofNat_toNat] at spelled
    exact spelled
  · rename_i unquoted unescaped _ _ _ _ _ printable
    exact readChars_plain rest unquoted unescaped printable

theorem readChars_quoted (chars rest : List Char) :
    readChars none (chars.flatMap escape ++ '"' :: rest) = .ok (chars, rest) := by
  induction chars with
  | nil => rw [List.flatMap_nil, List.nil_append, readChars]
  | cons char chars ih =>
      rw [List.flatMap_cons, List.append_assoc, readChars_escape, ih]
      rfl

/-- A quoted text reads back behind its opening quote. -/
theorem quote_append (text : String) (rest : List Char) :
    quote text ++ rest = '"' :: (text.toList.flatMap escape ++ '"' :: rest) := by
  simp only [quote, List.cons_append, List.append_assoc, List.nil_append]

end Strings

section Integers

theorem takeWhile_digits (number : Nat) {rest : List Char} (stops : Stops rest) :
    (Nat.toDigits 10 number ++ rest).takeWhile Char.isDigit = Nat.toDigits 10 number ∧
      (Nat.toDigits 10 number ++ rest).dropWhile Char.isDigit = rest := by
  have digits : ∀ char ∈ Nat.toDigits 10 number, char.isDigit = true := fun char member =>
    Nat.isDigit_of_mem_toDigits (by decide) (by decide) member
  have after : rest.takeWhile Char.isDigit = [] ∧ rest.dropWhile Char.isDigit = rest := by
    cases rest with
    | nil => exact ⟨rfl, rfl⟩
    | cons char tail =>
        have noDigit : char.isDigit = false := by
          rcases stops char rfl with rfl | rfl | rfl <;> rfl
        simp only [List.takeWhile_cons, List.dropWhile_cons, noDigit]
        exact ⟨rfl, rfl⟩
  rw [List.takeWhile_append_of_pos digits, List.dropWhile_append_of_pos digits, after.1, after.2,
    List.append_nil]
  exact ⟨rfl, rfl⟩

/-- No number but zero is written with a zero in front. -/
theorem head?_toDigits (number : Nat) (positive : 0 < number) :
    (Nat.toDigits 10 number).head? ≠ some '0' := by
  induction number using Nat.strongRecOn with
  | ind number ih =>
      by_cases small : number < 10
      · have table : ∀ digit, digit < 10 → 0 < digit →
            (Nat.toDigits 10 digit).head? ≠ some '0' := by decide
        exact table number small positive
      · have shorter := ih (number / 10) (by omega) (by omega)
        rw [Nat.toDigits_of_base_le (by decide) (by omega), List.head?_append_of_ne_nil _
          Nat.toDigits_ne_nil]
        exact shorter

theorem toDigits_leading (number : Nat) :
    ¬ ((Nat.toDigits 10 number).length ≠ 1 ∧ (Nat.toDigits 10 number).head? = some '0') := by
  rintro ⟨long, zero⟩
  by_cases positive : 0 < number
  · exact head?_toDigits number positive zero
  · have none : number = 0 := by omega
    subst none
    exact long rfl

theorem stops_notFloat {rest : List Char} (stops : Stops rest) :
    ¬ (rest.head? = some '.' ∨ rest.head? = some 'e' ∨ rest.head? = some 'E') := by
  intro float
  have next : ∀ char, rest.head? = some char → char = ',' ∨ char = ']' ∨ char = '}' := stops
  rcases float with dot | small | large
  · exact absurd (next _ dot) (by decide)
  · exact absurd (next _ small) (by decide)
  · exact absurd (next _ large) (by decide)

/-- Past the sign, the digits of an integer read as its value. -/
theorem readMagnitude_digits (negative : Bool) (value : Integer)
    (signed : (if negative then -(value.val.natAbs : Int) else value.val.natAbs) = value.val)
    (nonzero : ¬ (negative = true ∧ value.val.natAbs = 0)) {rest : List Char}
    (stops : Stops rest) :
    readMagnitude negative (Nat.toDigits 10 value.val.natAbs ++ rest) = .ok (value, rest) := by
  obtain ⟨digits, after⟩ := takeWhile_digits value.val.natAbs stops
  have plain := stops_notFloat stops
  have notFloat : ¬ (rest.head? = some '.' ∨ rest.head? = some 'e' ∨ rest.head? = some 'E' ∨
      (negative = true ∧ value.val.natAbs = 0)) := by
    tauto
  simp only [readMagnitude, digits, after, Nat.ofDigitChars_ten_toDigits, signed,
    if_neg Nat.toDigits_ne_nil, if_neg (toDigits_leading _), if_neg notFloat, dif_pos value.property]

theorem toDigits_eq_cons (number : Nat) :
    ∃ digit rest, Nat.toDigits 10 number = digit :: rest ∧ digit.isDigit = true := by
  cases digits : Nat.toDigits 10 number with
  | nil => exact absurd digits Nat.toDigits_ne_nil
  | cons digit rest =>
      have member : digit ∈ Nat.toDigits 10 number := by
        rw [digits]
        exact List.mem_cons_self
      exact ⟨digit, rest, rfl, Nat.isDigit_of_mem_toDigits (by decide) (by decide) member⟩

theorem readInteger_writeInteger (value : Integer) :
    Reads readInteger (writeInteger value) value := by
  intro rest stops
  by_cases negative : value.val < 0
  · rw [writeInteger, if_pos negative, List.cons_append, readInteger]
    exact readMagnitude_digits true value (by rw [if_pos rfl]; omega) (by omega) stops
  · obtain ⟨digit, more, digits, isDigit⟩ := toDigits_eq_cons value.val.natAbs
    have unsigned : digit ≠ '-' := by
      rintro rfl
      cases isDigit
    have direct : readInteger (Nat.toDigits 10 value.val.natAbs ++ rest) =
        readMagnitude false (Nat.toDigits 10 value.val.natAbs ++ rest) := by
      rw [digits, List.cons_append, readInteger]
      intro tail same
      injection same with minus
      exact unsigned minus
    rw [writeInteger, if_neg negative, direct]
    exact readMagnitude_digits false value (by rw [if_neg (by decide)]; omega) (by simp) stops

end Integers

section Collections

variable {α : Type} (read : Reader α) (w : α → List Char) (close : Char)

theorem skipBlanks_cons {char : Char} (rest : List Char) (solid : isBlank char = false) :
    skipBlanks (char :: rest) = char :: rest := by
  rw [skipBlanks, List.dropWhile_cons, solid]
  rfl

/-- A text that no reader of a list takes for blanks or for the list's end. -/
def Opens (text : List Char) : Prop :=
  ∃ char rest, text = char :: rest ∧ isBlank char = false ∧ char ≠ ']' ∧ char ≠ '}'

/-- The items behind the first one, as they are written. -/
def further (items : List α) : List Char := items.flatMap fun item => ',' :: w item

theorem further_cons (item : α) (items : List α) :
    further w (item :: items) = ',' :: (w item ++ further w items) := rfl

theorem intercalate_comma (first : α) (items : List α) :
    [','].intercalate ((first :: items).map w) = w first ++ further w items := by
  induction items generalizing first with
  | nil =>
      rw [List.map_cons, List.map_nil, List.intercalate_singleton]
      exact (List.append_nil _).symm
  | cons second items ih =>
      have tail := ih second
      rw [List.map_cons] at tail ⊢
      rw [List.map_cons, List.intercalate_cons_cons, tail, further_cons, List.append_assoc,
        List.singleton_append]

variable {read w} in
/-- Behind an item that is read, the refused one is among the others. -/
theorem refused_later {first : α} {items : List α} (here : Reads read (w first) first)
    (refused : ∃ item ∈ first :: items, Refuses read (w item)) :
    ∃ item ∈ items, Refuses read (w item) := by
  obtain ⟨item, member, refuses⟩ := refused
  rcases List.mem_cons.mp member with rfl | member
  · exact absurd refuses (not_refuses_of_reads here)
  · exact ⟨item, member, refuses⟩

theorem length_further (items : List α) (rest : List Char) :
    items.length < (further w items ++ close :: rest).length := by
  induction items with
  | nil => exact Nat.succ_pos _
  | cons item items ih =>
      rw [further_cons, List.cons_append, List.length_cons, List.length_cons, List.append_assoc,
        List.length_append]
      omega

/-- The first item is read, and then the others behind it. -/
theorem next_reads (more : Reader (List α)) {text tail rest : List Char} {first : α}
    {items : List α} (here : read text = .ok (first, tail))
    (there : more tail = .ok (items, rest)) :
    (do
      let (item, rest) ← read text
      let (items, rest) ← more rest
      return (item :: items, rest)) = .ok (first :: items, rest) := by
  rw [here]
  simp only [there, Outcome.bind_ok]
  rfl

/-- If one of the items is refused, so is the list: the first one, or the others. -/
theorem next_refuses (more : Reader (List α)) {tail : List Char} {first : α} {items : List α}
    (stops : Stops tail) (each : Reads read (w first) first ∨ Refuses read (w first))
    (refused : ∃ item ∈ first :: items, Refuses read (w item))
    (later : (∃ item ∈ items, Refuses read (w item)) → Outcome.Failed (more tail)) :
    Outcome.Failed (do
      let (item, rest) ← read (w first ++ tail)
      let (items, rest) ← more rest
      return (item :: items, rest)) := by
  rcases each with here | here
  · obtain ⟨error, failed⟩ := later (refused_later here refused)
    rw [here tail stops]
    simp only [failed, Outcome.bind_ok, Outcome.bind_error]
    exact ⟨error, rfl⟩
  · obtain ⟨error, failed⟩ := here tail stops
    rw [failed]
    exact ⟨error, rfl⟩

variable {close} (closes : close = ']' ∨ close = '}')

include closes

theorem close_solid : isBlank close = false ∧ ',' ≠ close := by
  rcases closes with rfl | rfl <;> decide

theorem further_stops (items : List α) (rest : List Char) :
    Stops (further w items ++ close :: rest) := by
  cases items with
  | nil => exact stops_cons rest (.inr closes)
  | cons item items => exact stops_cons _ (.inl rfl)

theorem readMore_close (fuel : Nat) (rest : List Char) :
    readMore read close (fuel + 1) (close :: rest) = .ok ([], rest) := by
  rw [readMore, skipBlanks_cons rest (close_solid closes).1]
  exact if_pos rfl

/-- Behind a comma the next item is read, and then the others. -/
theorem readMore_comma (fuel : Nat) (text : List Char) :
    readMore read close (fuel + 1) (',' :: text) = (do
      let (item, rest) ← read text
      let (items, rest) ← readMore read close fuel rest
      return (item :: items, rest)) := by
  rw [readMore, skipBlanks_cons text (by decide)]
  simp only [if_neg (close_solid closes).2, if_true]

theorem readMore_further (items : List α) (reads : ∀ item ∈ items, Reads read (w item) item)
    (fuel : Nat) (enough : items.length < fuel) (rest : List Char) :
    readMore read close fuel (further w items ++ close :: rest) = .ok (items, rest) := by
  induction items generalizing fuel with
  | nil =>
      cases fuel with
      | zero => cases enough
      | succ fuel => exact readMore_close read closes fuel rest
  | cons item items ih =>
      cases fuel with
      | zero => cases enough
      | succ fuel =>
          have here := reads item List.mem_cons_self _ (further_stops w closes items rest)
          have there := ih (fun other member => reads other (List.mem_cons_of_mem _ member)) fuel
            (Nat.lt_of_succ_lt_succ enough)
          rw [further_cons, List.cons_append, List.append_assoc, readMore_comma read closes]
          exact next_reads read (readMore read close fuel) here there

theorem readMore_refuses (items : List α)
    (each : ∀ item ∈ items, Reads read (w item) item ∨ Refuses read (w item))
    (refused : ∃ item ∈ items, Refuses read (w item)) (fuel : Nat) (rest : List Char) :
    Outcome.Failed (readMore read close fuel (further w items ++ close :: rest)) := by
  induction items generalizing fuel with
  | nil =>
      obtain ⟨item, member, -⟩ := refused
      cases member
  | cons item items ih =>
      cases fuel with
      | zero => exact ⟨_, rfl⟩
      | succ fuel =>
          have stops := further_stops w closes items rest
          rw [further_cons, List.cons_append, List.append_assoc, readMore_comma read closes]
          apply next_refuses read w (readMore read close fuel) stops (each item List.mem_cons_self)
            refused
          intro later
          exact ih (fun other member => each other (List.mem_cons_of_mem _ member)) later fuel

/-- Two ways into a list: it is empty, or its first item does not look like its end. -/
theorem readItems_nil (rest : List Char) :
    readItems read close ([','].intercalate (([] : List α).map w) ++ close :: rest) =
      .ok ([], rest) := by
  change readItems read close (close :: rest) = _
  rw [readItems, skipBlanks_cons rest (close_solid closes).1]
  exact if_pos rfl

theorem readItems_cons (first : α) (items : List α) (opens : Opens (w first)) (rest : List Char) :
    readItems read close ([','].intercalate ((first :: items).map w) ++ close :: rest) = (do
      let (item, rest) ← read (w first ++ (further w items ++ close :: rest))
      let (items, rest) ← readMore read close rest.length rest
      return (item :: items, rest)) := by
  obtain ⟨char, tail, text, solid, notBracket, notBrace⟩ := opens
  have different : char ≠ close := by
    rcases closes with rfl | rfl
    · exact notBracket
    · exact notBrace
  rw [intercalate_comma, List.append_assoc, text, List.cons_append, readItems,
    skipBlanks_cons _ solid]
  exact if_neg different

theorem readItems_written (items : List α) (opens : ∀ item ∈ items, Opens (w item))
    (reads : ∀ item ∈ items, Reads read (w item) item) (rest : List Char) :
    readItems read close ([','].intercalate (items.map w) ++ close :: rest) =
      .ok (items, rest) := by
  cases items with
  | nil => exact readItems_nil read w closes rest
  | cons first items =>
      have here := reads first List.mem_cons_self _ (further_stops w closes items rest)
      have there := readMore_further read w closes items
        (fun item member => reads item (List.mem_cons_of_mem _ member)) _
        (length_further w close items rest) rest
      rw [readItems_cons read w closes first items (opens first List.mem_cons_self) rest]
      exact next_reads read (fun rest => readMore read close rest.length rest) here there

theorem readItems_refuses (items : List α) (opens : ∀ item ∈ items, Opens (w item))
    (each : ∀ item ∈ items, Reads read (w item) item ∨ Refuses read (w item))
    (refused : ∃ item ∈ items, Refuses read (w item)) (rest : List Char) :
    Outcome.Failed
      (readItems read close ([','].intercalate (items.map w) ++ close :: rest)) := by
  cases items with
  | nil =>
      obtain ⟨item, member, -⟩ := refused
      cases member
  | cons first items =>
      have stops := further_stops w closes items rest
      rw [readItems_cons read w closes first items (opens first List.mem_cons_self) rest]
      apply next_refuses read w (fun rest => readMore read close rest.length rest) stops
        (each first List.mem_cons_self) refused
      intro later
      exact readMore_refuses read w closes items
        (fun other member => each other (List.mem_cons_of_mem _ member)) later
        (further w items ++ close :: rest).length rest

end Collections

section Members

variable (read : Reader Tree)

/-- A member, as it is written. -/
def writeMember (member : String × Tree) : List Char := quote member.1 ++ ':' :: write member.2

theorem writeItems_eq (items : List Tree) : writeItems items = items.map write := by
  induction items with
  | nil => rfl
  | cons item items ih => rw [writeItems, ih, List.map_cons]

theorem writeMembers_eq (members : List (String × Tree)) :
    writeMembers members = members.map writeMember := by
  induction members with
  | nil => rfl
  | cons member members ih =>
      rw [writeMembers, ih, List.map_cons]
      rfl

theorem readMember_append (member : String × Tree) (rest : List Char) :
    readMember read (writeMember member ++ rest) = (do
      let (item, rest) ← read (write member.2 ++ rest)
      return ((member.1, item), rest)) := by
  rw [writeMember, List.append_assoc, quote_append, readMember, skipBlanks_cons _ (by decide)]
  simp only [List.cons_append, readChars_quoted, Outcome.bind_ok, skipBlanks_cons _
    (show isBlank ':' = false by decide), String.ofList_toList]

theorem readMember_written (member : String × Tree) (reads : Reads read (write member.2) member.2) :
    Reads (readMember read) (writeMember member) member := by
  intro rest stops
  rw [readMember_append, reads rest stops]
  rfl

theorem readMember_refuses (member : String × Tree) (refuses : Refuses read (write member.2)) :
    Refuses (readMember read) (writeMember member) := by
  intro rest stops
  obtain ⟨error, failed⟩ := refuses rest stops
  rw [readMember_append, failed]
  exact ⟨error, rfl⟩

theorem writeMember_opens (member : String × Tree) : Opens (writeMember member) := by
  rw [writeMember, quote_append]
  exact ⟨'"', _, rfl, by decide⟩

end Members

end Json
