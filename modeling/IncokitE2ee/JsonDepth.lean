import IncokitE2ee.JsonRoundTrip

set_option autoImplicit false

/- Which of the texts it writes the reader takes back: those of trees that nest
no deeper than it may go. -/
namespace Json

section OneLevel

/-- A number starts with a digit or a minus sign. -/
theorem writeInteger_eq_cons (value : Integer) :
    ∃ char rest, writeInteger value = char :: rest ∧
      ∀ other : Char, other ≠ '-' → other.isDigit = false → char ≠ other := by
  rw [writeInteger]
  by_cases negative : value.val < 0
  · rw [if_pos negative]
    exact ⟨'-', _, rfl, fun other notMinus _ => Ne.symm notMinus⟩
  · rw [if_neg negative]
    obtain ⟨digit, rest, digits, isDigit⟩ := toDigits_eq_cons value.val.natAbs
    refine ⟨digit, rest, digits, ?_⟩
    rintro other - notDigit rfl
    rw [isDigit] at notDigit
    cases notDigit

theorem write_opens (tree : Tree) : Opens (write tree) := by
  cases tree with
  | null => exact ⟨'n', _, rfl, by decide⟩
  | bool value =>
      cases value with
      | true => exact ⟨'t', _, rfl, by decide⟩
      | false => exact ⟨'f', _, rfl, by decide⟩
  | number value =>
      obtain ⟨char, rest, text, other⟩ := writeInteger_eq_cons value
      refine ⟨char, rest, text, ?_, other ']' (by decide) (by decide),
        other '}' (by decide) (by decide)⟩
      simp only [isBlank, other ' ' (by decide) (by decide), other '\n' (by decide) (by decide),
        other '\t' (by decide) (by decide), other '\r' (by decide) (by decide), decide_false,
        Bool.or_self]
  | string text => exact ⟨'"', _, rfl, by decide⟩
  | array items => exact ⟨'[', _, rfl, by decide⟩
  | object members => exact ⟨'{', _, rfl, by decide⟩

variable (inner : Option (Reader Tree)) (read : Reader Tree)

theorem readWith_number (value : Integer) :
    Reads (readWith inner) (writeInteger value) (.number value) := by
  intro rest stops
  have number := readInteger_writeInteger value rest stops
  obtain ⟨char, tail, text, other⟩ := writeInteger_eq_cons value
  obtain ⟨_, _, opened, solid, -⟩ := write_opens (.number value)
  rw [write, text] at opened
  injection opened with same
  rw [text, List.cons_append] at number ⊢
  rw [readWith, skipBlanks_cons _ (same ▸ solid)]
  simp only [other 'n' (by decide) (by decide), other 't' (by decide) (by decide),
    other 'f' (by decide) (by decide), other '"' (by decide) (by decide),
    other '[' (by decide) (by decide), other '{' (by decide) (by decide), if_false, number,
    Outcome.bind_ok]
  rfl

theorem readWith_quote (rest : List Char) :
    readWith inner ('"' :: rest) = (do
      let (chars, rest) ← readChars none rest
      return (.string (String.ofList chars), rest)) := by
  rw [readWith, skipBlanks_cons _ (by decide)]
  rfl

theorem readWith_string (text : String) : Reads (readWith inner) (quote text) (.string text) := by
  intro rest _
  rw [quote_append, readWith_quote, readChars_quoted]
  change Except.ok (Tree.string (String.ofList text.toList), rest) = _
  rw [String.ofList_toList]

theorem readWith_array (rest : List Char) :
    readWith (some read) ('[' :: rest) = (do
      let (items, rest) ← readItems read ']' rest
      return (.array items, rest)) := by
  rw [readWith, skipBlanks_cons _ (by decide)]
  rfl

theorem readWith_object (rest : List Char) :
    readWith (some read) ('{' :: rest) = (do
      let (members, rest) ← readItems (readMember read) '}' rest
      return (.object (BTreeMap.collect members), rest)) := by
  rw [readWith, skipBlanks_cons _ (by decide)]
  rfl

theorem write_array_append (items : List Tree) (rest : List Char) :
    write (.array items) ++ rest =
      '[' :: ([','].intercalate (items.map write) ++ ']' :: rest) := by
  rw [write, writeItems_eq, List.cons_append, List.append_assoc, List.singleton_append]

theorem write_object_append (members : List (String × Tree)) (rest : List Char) :
    write (.object members) ++ rest =
      '{' :: ([','].intercalate (members.map writeMember) ++ '}' :: rest) := by
  rw [write, writeMembers_eq, List.cons_append, List.append_assoc, List.singleton_append]

theorem readWith_items (items : List Tree) (reads : ∀ item ∈ items, Reads read (write item) item) :
    Reads (readWith (some read)) (write (.array items)) (.array items) := by
  intro rest _
  rw [write_array_append, readWith_array, readItems_written read write (.inl rfl) items
    (fun item _ => write_opens item) reads rest]
  rfl

theorem readWith_members (members : List (String × Tree)) (ascending : BTreeMap.Ascending members)
    (reads : ∀ member ∈ members, Reads read (write member.2) member.2) :
    Reads (readWith (some read)) (write (.object members)) (.object members) := by
  intro rest _
  rw [write_object_append, readWith_object, readItems_written (readMember read) writeMember
    (.inr rfl) members (fun member _ => writeMember_opens member)
    (fun member inside => readMember_written read member (reads member inside)) rest]
  change Except.ok (Tree.object (BTreeMap.collect members), rest) = _
  rw [BTreeMap.collect_of_ascending members ascending]

theorem readWith_items_refuses (items : List Tree)
    (each : ∀ item ∈ items, Reads read (write item) item ∨ Refuses read (write item))
    (refused : ∃ item ∈ items, Refuses read (write item)) :
    Refuses (readWith (some read)) (write (.array items)) := by
  intro rest _
  obtain ⟨error, failed⟩ := readItems_refuses read write (.inl rfl) items
    (fun item _ => write_opens item) each refused rest
  rw [write_array_append, readWith_array, failed]
  exact ⟨error, rfl⟩

theorem readWith_members_refuses (members : List (String × Tree))
    (each : ∀ member ∈ members, Reads read (write member.2) member.2 ∨
      Refuses read (write member.2))
    (refused : ∃ member ∈ members, Refuses read (write member.2)) :
    Refuses (readWith (some read)) (write (.object members)) := by
  intro rest _
  have eachMember : ∀ member ∈ members, Reads (readMember read) (writeMember member) member ∨
      Refuses (readMember read) (writeMember member) := by
    intro member inside
    rcases each member inside with reads | refuses
    · exact .inl (readMember_written read member reads)
    · exact .inr (readMember_refuses read member refuses)
  have refusedMember : ∃ member ∈ members, Refuses (readMember read) (writeMember member) := by
    obtain ⟨member, inside, refuses⟩ := refused
    exact ⟨member, inside, readMember_refuses read member refuses⟩
  obtain ⟨error, failed⟩ := readItems_refuses (readMember read) writeMember (.inr rfl) members
    (fun member _ => writeMember_opens member) eachMember refusedMember rest
  rw [write_object_append, readWith_object, failed]
  exact ⟨error, rfl⟩

/-- No array or object is entered without a reader for what it holds. -/
theorem readWith_none_refuses (tree : Tree) (deep : 0 < tree.depth) :
    Refuses (readWith none) (write tree) := by
  intro rest _
  cases tree with
  | array items =>
      rw [write_array_append, readWith, skipBlanks_cons _ (by decide)]
      exact ⟨_, rfl⟩
  | object members =>
      rw [write_object_append, readWith, skipBlanks_cons _ (by decide)]
      exact ⟨_, rfl⟩
  | _ => cases deep

/-- Values that are no array or object are read whatever they hold. -/
theorem readWith_flat (tree : Tree) (flat : tree.depth = 0) :
    Reads (readWith inner) (write tree) tree := by
  cases tree with
  | null =>
      intro rest _
      rfl
  | bool value =>
      intro rest _
      cases value <;> rfl
  | number value => exact readWith_number inner value
  | string text => exact readWith_string inner text
  | array items => cases flat
  | object members => cases flat

end OneLevel

/-- By induction on the levels: an item of a tree nests one level less. -/
theorem readTree_written (levels : Nat) (tree : Tree) (ordered : tree.Ordered)
    (shallow : tree.depth ≤ levels) : Reads (readTree levels) (write tree) tree := by
  induction levels generalizing tree with
  | zero => exact readWith_flat none tree (Nat.le_zero.mp shallow)
  | succ levels ih =>
      cases tree with
      | array items =>
          have each := (Tree.orderedItems_iff items).mp ordered
          have depths := (Tree.depthItems_le_iff items levels).mp (Nat.le_of_succ_le_succ shallow)
          exact readWith_items _ items fun item member =>
            ih item (each item member) (depths item member)
      | object members =>
          have each := (Tree.orderedMembers_iff members).mp ordered.2
          have depths :=
            (Tree.depthMembers_le_iff members levels).mp (Nat.le_of_succ_le_succ shallow)
          exact readWith_members _ members ordered.1 fun member inside =>
            ih member.2 (each member inside) (depths member inside)
      | _ => exact readWith_flat _ _ rfl

theorem readTree_refuses (levels : Nat) (tree : Tree) (ordered : tree.Ordered)
    (deep : levels < tree.depth) : Refuses (readTree levels) (write tree) := by
  induction levels generalizing tree with
  | zero => exact readWith_none_refuses tree deep
  | succ levels ih =>
      have either : ∀ item : Tree, item.Ordered →
          Reads (readTree levels) (write item) item ∨ Refuses (readTree levels) (write item) := by
        intro item inside
        by_cases shallow : item.depth ≤ levels
        · exact .inl (readTree_written levels item inside shallow)
        · exact .inr (ih item inside (Nat.lt_of_not_le shallow))
      cases tree with
      | array items =>
          have each := (Tree.orderedItems_iff items).mp ordered
          obtain ⟨item, member, deeper⟩ :=
            (Tree.lt_depthItems_iff items levels).mp (Nat.lt_of_succ_lt_succ deep)
          exact readWith_items_refuses _ items (fun other inside => either other (each other inside))
            ⟨item, member, ih item (each item member) deeper⟩
      | object members =>
          have each := (Tree.orderedMembers_iff members).mp ordered.2
          obtain ⟨member, inside, deeper⟩ :=
            (Tree.lt_depthMembers_iff members levels).mp (Nat.lt_of_succ_lt_succ deep)
          exact readWith_members_refuses _ members
            (fun other inside => either other.2 (each other inside))
            ⟨member, inside, ih member.2 (each member inside) deeper⟩
      | _ => cases deep

section Accepted

variable {α : Type} {read : Reader α} {holds : α → Prop}

/-- Everything that the reader returns has the property. -/
def Yields (read : Reader α) (holds : α → Prop) : Prop :=
  ∀ text item rest, read text = .ok (item, rest) → holds item

theorem readMore_yields (yields : Yields read holds) (close : Char) (fuel : Nat) :
    Yields (readMore read close fuel) fun items => ∀ item ∈ items, holds item := by
  induction fuel with
  | zero =>
      intro text items rest success
      cases success
  | succ fuel ih =>
      intro text items rest success
      rcases readMore_eq_ok success with ended | more
      · rw [ended.2]
        exact List.forall_mem_nil _
      · obtain ⟨_, item, middle, others, _, here, later, joined⟩ := more
        rw [joined]
        exact List.forall_mem_cons.mpr ⟨yields _ item middle here, ih _ others _ later⟩

theorem readItems_yields (yields : Yields read holds) (close : Char) :
    Yields (readItems read close) fun items => ∀ item ∈ items, holds item := by
  intro text items rest success
  rcases readItems_eq_ok success with ended | more
  · rw [ended.2]
    exact List.forall_mem_nil _
  · obtain ⟨item, middle, others, here, later, joined⟩ := more
    rw [joined]
    exact List.forall_mem_cons.mpr ⟨yields _ item middle here,
      readMore_yields yields close _ _ others _ later⟩

theorem readMember_yields {read : Reader Tree} {holds : Tree → Prop} (yields : Yields read holds) :
    Yields (readMember read) fun member => holds member.2 := by
  intro text member rest success
  obtain ⟨_, _, _, item, colon, _, _, _, inner, same⟩ := readMember_eq_ok success
  rw [same]
  exact yields colon item rest inner

/-- Objects are read into maps, so their members are in order. -/
theorem readWith_ordered (inner : Option (Reader Tree))
    (yields : ∀ read ∈ inner, Yields read Tree.Ordered) :
    Yields (readWith inner) Tree.Ordered := by
  intro text tree rest success
  have opened := opened_of_readWith success
  generalize skipBlanks text = front at opened
  cases opened with
  | word first word tree known =>
      simp only [List.mem_cons, Prod.mk.injEq, List.not_mem_nil, or_false] at known
      rcases known with ⟨_, _, rfl⟩ | ⟨_, _, rfl⟩ | ⟨_, _, rfl⟩ <;> trivial
  | string => trivial
  | array read entered behind items list =>
      exact (Tree.orderedItems_iff items).mpr
        (readItems_yields (yields read entered) ']' behind items rest list)
  | object read entered behind members list =>
      have each :=
        readItems_yields (readMember_yields (yields read entered)) '}' behind members rest list
      exact ⟨BTreeMap.collect_ascending members, (Tree.orderedMembers_iff _).mpr
        fun member inside => each member (BTreeMap.mem_collect inside)⟩
  | number => trivial

theorem readTree_ordered (levels : Nat) : Yields (readTree levels) Tree.Ordered := by
  induction levels with
  | zero => exact readWith_ordered none fun read impossible => by cases impossible
  | succ levels ih =>
      apply readWith_ordered
      intro read same
      cases same
      exact ih

/-- What is read nests at most one level deeper than what the inner reader returns. -/
theorem readWith_depth (inner : Option (Reader Tree)) (limit : Nat)
    (yields : ∀ read ∈ inner, ∃ below, below < limit ∧
      Yields read fun tree => tree.depth ≤ below) :
    Yields (readWith inner) fun tree => tree.depth ≤ limit := by
  intro text tree rest success
  have opened := opened_of_readWith success
  generalize skipBlanks text = front at opened
  cases opened with
  | word first word tree known =>
      simp only [List.mem_cons, Prod.mk.injEq, List.not_mem_nil, or_false] at known
      rcases known with ⟨_, _, rfl⟩ | ⟨_, _, rfl⟩ | ⟨_, _, rfl⟩ <;> exact Nat.zero_le limit
  | string => exact Nat.zero_le limit
  | array read entered behind items list =>
      obtain ⟨below, less, shallow⟩ := yields read entered
      have each := readItems_yields shallow ']' behind items rest list
      exact Nat.le_trans (Nat.succ_le_succ ((Tree.depthItems_le_iff items below).mpr each)) less
  | object read entered behind members list =>
      obtain ⟨below, less, shallow⟩ := yields read entered
      have each := readItems_yields (readMember_yields shallow) '}' behind members rest list
      exact Nat.le_trans (Nat.succ_le_succ ((Tree.depthMembers_le_iff _ below).mpr
        fun member inside => each member (BTreeMap.mem_collect inside))) less
  | number => exact Nat.zero_le limit

theorem readTree_depth (levels : Nat) :
    Yields (readTree levels) fun tree => tree.depth ≤ levels := by
  induction levels with
  | zero => exact readWith_depth none 0 fun read impossible => by cases impossible
  | succ levels ih =>
      apply readWith_depth
      intro read same
      cases same
      exact ⟨levels, Nat.lt_succ_self levels, ih⟩

theorem readText_depth (levels : Nat) (text : List Char) (tree : Tree)
    (success : readText levels text = .ok tree) : tree.depth ≤ levels := by
  obtain ⟨rest, read, _⟩ := readText_eq_ok success
  exact readTree_depth levels text tree rest read

theorem readText_ordered (levels : Nat) (text : List Char) (tree : Tree)
    (success : readText levels text = .ok tree) : tree.Ordered := by
  obtain ⟨rest, read, _⟩ := readText_eq_ok success
  exact readTree_ordered levels text tree rest read

end Accepted

/-- A whole text is taken back exactly when its tree is no deeper than allowed. -/
theorem readText_write (levels : Nat) (value : Value) (shallow : value.depth ≤ levels) :
    readText levels (write value.val) = .ok value.val := by
  have read := readTree_written levels value.val value.property shallow [] stops_nil
  rw [List.append_nil] at read
  rw [readText, read]
  rfl

theorem readText_refuses (levels : Nat) (value : Value) (deep : levels < value.depth) :
    Outcome.Failed (readText levels (write value.val)) := by
  obtain ⟨error, failed⟩ := readTree_refuses levels value.val value.property deep [] stops_nil
  rw [List.append_nil] at failed
  rw [readText, failed]
  exact ⟨error, rfl⟩

end Json
