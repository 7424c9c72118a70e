import VisitorLink.Json.Reader
import VisitorLink.Json.Writer
import VisitorLink.Proofs.Text.Digits

/-!
# Layouts of a document

The compact and the indented form of a document differ in the gaps between their tokens and in
nothing else. A layout says which gaps there are; reading passes over them.

Main statement: a plain value is read back from its document, be it compact (`Json.read?_compact`)
or indented (`Json.read?_indented`).
-/

namespace VisitorLink

namespace Json

/-- A value that its document tells in full: its texts and keys denote characters, and its numbers
are whole. -/
inductive Plain : Json → Prop
  | null : Plain .null
  | bool (value : Bool) : Plain (.bool value)
  | whole (negative : Bool) (n : Nat) : Plain (.num ⟨negative, n, none, none⟩)
  | text (s : String) : Plain (.text s)
  | array {items : List Json} (plain : ∀ item ∈ items, Plain item) : Plain (.arr items)
  | object {members : List (String × Json)} (plain : ∀ member ∈ members, Plain member.2) :
      Plain (.object members)

/-! ## Layouts -/

/-- The gaps in a document. -/
structure Layout where
  /-- What stands before an item of a level, and before the bracket that closes the next one. -/
  gap : Nat → List Char
  /-- What stands between the colon of a member and its value. -/
  space : List Char
  gap_isGap : ∀ level, ∀ c ∈ gap level, isGap c = true
  space_isGap : ∀ c ∈ space, isGap c = true

namespace Layout

/-- The layout without gaps. -/
def compact : Layout where
  gap _ := []
  space := []
  gap_isGap _ _ member := absurd member List.not_mem_nil
  space_isGap _ member := absurd member List.not_mem_nil

/-- The layout that gives each item a line of its own. -/
def indented : Layout where
  gap := newline
  space := [' ']
  gap_isGap level c member := by
    rcases List.mem_cons.1 member with rfl | member
    · rfl
    · rw [List.eq_of_mem_replicate member]
      rfl
  space_isGap c member := by
    rw [List.mem_singleton.1 member]
    rfl

variable (layout : Layout)

mutual

/-- The form of a value on the given level. -/
def write (level : Nat) : Json → List Char
  | .arr (item :: items) =>
      '[' :: (layout.gap (level + 1) ++ (write (level + 1) item ++ writeItems level items))
  | .obj ((key, value) :: members) =>
      '\x7b' :: (layout.gap (level + 1) ++
        (writeText key ++ ':' :: (layout.space ++ (write (level + 1) value ++
          writeMembers level members))))
  | value => writeCompact value

/-- The items after the first one, and the closing bracket. -/
def writeItems (level : Nat) : List Json → List Char
  | [] => layout.gap level ++ [']']
  | item :: items =>
      ',' :: (layout.gap (level + 1) ++ (write (level + 1) item ++ writeItems level items))

/-- The members after the first one, and the closing brace. -/
def writeMembers (level : Nat) : List (Option String × Json) → List Char
  | [] => layout.gap level ++ ['\x7d']
  | (key, value) :: members =>
      ',' :: (layout.gap (level + 1) ++
        (writeText key ++ ':' :: (layout.space ++ (write (level + 1) value ++
          writeMembers level members))))

end

end Layout

mutual

/-- The layout without gaps is the compact form. -/
theorem write_compact (level : Nat) :
    ∀ value, Layout.compact.write level value = writeCompact value
  | .null => rfl
  | .bool _ => rfl
  | .num _ => rfl
  | .str _ => rfl
  | .arr [] => rfl
  | .obj [] => rfl
  | .arr (item :: items) => by
      rw [Layout.write, writeCompact, write_compact, writeItems_compact]
      rfl
  | .obj ((key, value) :: members) => by
      rw [Layout.write, writeCompact, write_compact, writeMembers_compact]
      simp only [List.append_assoc, List.cons_append]
      rfl

/-- The items without gaps are those of the compact form. -/
theorem writeItems_compact (level : Nat) :
    ∀ items, Layout.compact.writeItems level items = writeItems items
  | [] => rfl
  | item :: items => by
      rw [Layout.writeItems, writeItems, write_compact, writeItems_compact]
      rfl

/-- The members without gaps are those of the compact form. -/
theorem writeMembers_compact (level : Nat) :
    ∀ members, Layout.compact.writeMembers level members = writeMembers members
  | [] => rfl
  | (key, value) :: members => by
      rw [Layout.writeMembers, writeMembers, write_compact, writeMembers_compact]
      simp only [List.append_assoc, List.cons_append]
      rfl

end

mutual

/-- The layout with a line for each item is the indented form. -/
theorem write_indented (level : Nat) :
    ∀ value, Layout.indented.write level value = writeIndented level value
  | .null => rfl
  | .bool _ => rfl
  | .num _ => rfl
  | .str _ => rfl
  | .arr [] => rfl
  | .obj [] => rfl
  | .arr (item :: items) => by
      rw [Layout.write, writeIndented, write_indented, writeItems_indented]
      simp only [List.append_assoc, List.cons_append]
      rfl
  | .obj ((key, value) :: members) => by
      rw [Layout.write, writeIndented, write_indented, writeMembers_indented]
      simp only [List.append_assoc, List.cons_append]
      rfl

/-- The items on lines of their own are those of the indented form. -/
theorem writeItems_indented (level : Nat) :
    ∀ items, Layout.indented.writeItems level items = writeIndentedItems level items
  | [] => rfl
  | item :: items => by
      rw [Layout.writeItems, writeIndentedItems, write_indented, writeItems_indented]
      simp only [List.append_assoc, List.cons_append]
      rfl

/-- The members on lines of their own are those of the indented form. -/
theorem writeMembers_indented (level : Nat) :
    ∀ members, Layout.indented.writeMembers level members = writeIndentedMembers level members
  | [] => rfl
  | (key, value) :: members => by
      rw [Layout.writeMembers, writeIndentedMembers, write_indented, writeMembers_indented]
      simp only [List.append_assoc, List.cons_append]
      rfl

end

/-! ## Gaps -/

/-- All of a gap is skipped. -/
theorem skipGap_append {gap : List Char} (blank : ∀ c ∈ gap, isGap c = true) (rest : List Char) :
    skipGap (gap ++ rest) = skipGap rest :=
  List.dropWhile_append_of_pos blank

/-- Nothing is skipped in front of a character that is no gap. -/
theorem skipGap_cons {c : Char} (solid : isGap c = false) (rest : List Char) :
    skipGap (c :: rest) = c :: rest :=
  List.dropWhile_cons_of_neg (Bool.eq_false_iff.1 solid)

/-- Whether a character may stand right behind a value. -/
def isEnd (c : Char) : Bool :=
  isGap c || c == ',' || c == ']' || c == '\x7d'

/-- A text that does not go on with the value in front of it. -/
def Ends (rest : List Char) : Prop :=
  ∀ c ∈ rest.head?, isEnd c = true

/-- Nothing goes on with a value at the end of the document. -/
theorem ends_nil : Ends [] := by
  intro c member
  cases member

/-- A character that may stand right behind a value ends it. -/
theorem ends_cons {c : Char} (ends : isEnd c = true) (rest : List Char) : Ends (c :: rest) := by
  rintro d ⟨⟩
  exact ends

/-- A gap in front of what ends a value ends it as well. -/
theorem ends_append {gap rest : List Char} (blank : ∀ c ∈ gap, isGap c = true)
    (ends : Ends rest) : Ends (gap ++ rest) := by
  cases gap with
  | nil => exact ends
  | cons c gap =>
      have first := blank c (List.mem_cons_self ..)
      exact ends_cons (by simp only [isEnd, first, Bool.true_or]) _

/-- What may stand right behind a value does not go on with a numeral. -/
theorem not_numeral_of_isEnd {c : Char} (ends : isEnd c = true) :
    c.isDigit = false ∧ c ≠ '.' ∧ c ≠ 'e' ∧ c ≠ 'E' := by
  have marks : c = ' ' ∨ c = '\n' ∨ c = '\r' ∨ c = '\t' ∨ c = ',' ∨ c = ']' ∨ c = '\x7d' := by
    simpa only [isEnd, isGap, Bool.or_eq_true, beq_iff_eq, or_assoc] using ends
  rcases marks with rfl | rfl | rfl | rfl | rfl | rfl | rfl <;> decide

/-! ## Numerals -/

/-- The digits of a number are read back, up to what follows. -/
theorem whole?_ofNat (n : Nat) {rest : List Char} (ends : ∀ c ∈ rest.head?, c.isDigit = false) :
    whole? (Text.Decimal.ofNat n ++ rest) = some (n, rest) := by
  rcases Nat.eq_zero_or_pos n with rfl | positive
  · rfl
  · obtain ⟨c, digits, shape, -⟩ := Text.Decimal.ofNat_head n
    have first := Text.Decimal.head_ofNat_ne_zero positive shape
    have all : ∀ c ∈ Text.Decimal.ofNat n, c.isDigit = true :=
      fun _ => Text.Decimal.isDigit_of_mem_ofNat
    have taken := Text.Decimal.takeWhile_digits all ends
    have left := Text.Decimal.dropWhile_digits all ends
    have value := Text.Decimal.value_ofNat n
    have nonempty := Text.Decimal.ofNat_ne_nil n
    unfold whole?
    split
    · rename_i rest' same
      rw [shape] at same
      exact absurd (List.cons.inj same).1 first
    · simp only [taken, left, nonempty, value, ↓reduceIte]

/-- The magnitude of a whole number is read back, up to what follows. -/
theorem magnitude?_ofNat (negative : Bool) (n : Nat) {rest : List Char} (ends : Ends rest) :
    magnitude? negative (Text.Decimal.ofNat n ++ rest) =
      some (⟨negative, n, none, none⟩, rest) := by
  have stops : ∀ c ∈ rest.head?, c.isDigit = false ∧ c ≠ '.' ∧ c ≠ 'e' ∧ c ≠ 'E' :=
    fun c member => not_numeral_of_isEnd (ends c member)
  have fraction : fraction? rest = some (none, rest) := by
    unfold fraction?
    split
    · exact absurd rfl (stops _ rfl).2.1
    · rfl
  have exponent : exponent? rest = some (none, rest) := by
    unfold exponent?
    split
    · exact absurd rfl (stops _ rfl).2.2.1
    · exact absurd rfl (stops _ rfl).2.2.2
    · rfl
  unfold magnitude?
  rw [whole?_ofNat n fun c member => (stops c member).1]
  simp only [Option.bind_eq_bind, Option.bind_some, fraction, exponent, Option.pure_def]

/-- A whole number is read back with its sign, up to what follows. -/
theorem numeral?_writeNumeral (negative : Bool) (n : Nat) {rest : List Char} (ends : Ends rest) :
    numeral? (writeNumeral ⟨negative, n, none, none⟩ ++ rest) =
      some (⟨negative, n, none, none⟩, rest) := by
  have digits : writeNumeral ⟨negative, n, none, none⟩ =
      (if negative then ['-'] else []) ++ Text.Decimal.ofNat n := by
    simp only [writeNumeral, Option.elim_none, List.append_nil]
  rw [digits]
  cases negative with
  | true => exact magnitude?_ofNat true n ends
  | false =>
      obtain ⟨c, front, shape, digit⟩ := Text.Decimal.ofNat_head n
      rw [← magnitude?_ofNat false n ends]
      simp only [Bool.false_eq_true, ↓reduceIte, List.nil_append, shape, List.cons_append]
      unfold numeral?
      split
      · rename_i same
        obtain ⟨rfl, -⟩ := List.cons.inj same
        exact absurd digit (by decide)
      · rfl

/-! ## Values -/

/-- A numeral is read back as a value. -/
theorem value?_writeNumeral (fuel : Nat) (negative : Bool) (n : Nat) {rest : List Char}
    (ends : Ends rest) :
    value? (fuel + 1) (writeNumeral ⟨negative, n, none, none⟩ ++ rest) =
      some (.num ⟨negative, n, none, none⟩, rest) := by
  obtain ⟨c, front, shape, first⟩ : ∃ c front,
      writeNumeral ⟨negative, n, none, none⟩ = c :: front ∧ (c = '-' ∨ c.isDigit = true) := by
    cases negative with
    | true => exact ⟨'-', _, rfl, .inl rfl⟩
    | false =>
        obtain ⟨c, front, shape, digit⟩ := Text.Decimal.ofNat_head n
        refine ⟨c, front, ?_, .inr digit⟩
        simp only [writeNumeral, Bool.false_eq_true, ↓reduceIte, List.nil_append, Option.elim_none,
          List.append_nil, shape]
  have reads := numeral?_writeNumeral negative n ends
  rw [shape, List.cons_append] at reads ⊢
  have last : value? (fuel + 1) (c :: (front ++ rest)) =
      (numeral? (c :: (front ++ rest))).map fun read => (.num read.1, read.2) := by
    unfold value?
    split
    case h_7 => rfl
    all_goals
      rename_i same
      obtain ⟨rfl, -⟩ := List.cons.inj same
      rcases first with first | first <;> exact absurd first (by decide)
  rw [last, reads]
  rfl

/-- A text is read back as a value, whatever follows it. -/
theorem value?_writeText (fuel : Nat) (text : String) (rest : List Char) :
    value? (fuel + 1) (writeText (some text) ++ rest) = some (.text text, rest) := by
  change Option.map _ (Text.read? ((Text.write text.toList ++ ['"']) ++ rest)) = _
  rw [List.append_assoc, List.singleton_append, Text.read?_write]
  rfl

/-- A bracket opens an array, which may be empty. -/
theorem value?_bracket (fuel : Nat) (rest : List Char) :
    value? (fuel + 1) ('[' :: rest) =
      match skipGap rest with
      | ']' :: rest => some (.arr [], rest)
      | rest => (items? fuel rest).map fun (items, rest) => (.arr items, rest) := rfl

/-- A brace opens an object, which may be empty. -/
theorem value?_brace (fuel : Nat) (rest : List Char) :
    value? (fuel + 1) ('\x7b' :: rest) =
      match skipGap rest with
      | '\x7d' :: rest => some (.obj [], rest)
      | rest => (members? fuel rest).map fun (members, rest) => (.obj members, rest) := rfl

section Layouts

variable (layout : Layout)

/-- A value starts with a character that is neither a gap nor a closing bracket. -/
theorem write_head (level : Nat) {value : Json} (plain : Plain value) :
    ∃ c rest, layout.write level value = c :: rest ∧ isGap c = false ∧ c ≠ ']' := by
  cases plain with
  | null => exact ⟨_, _, rfl, rfl, by decide⟩
  | bool value => cases value <;> exact ⟨_, _, rfl, rfl, by decide⟩
  | whole negative n =>
      cases negative with
      | true => exact ⟨'-', _, rfl, rfl, by decide⟩
      | false =>
          obtain ⟨c, front, shape, digit⟩ := Text.Decimal.ofNat_head n
          refine ⟨c, front, ?_, ?_, ?_⟩
          · simp only [Layout.write, writeCompact, writeNumeral, Bool.false_eq_true, ↓reduceIte,
              List.nil_append, Option.elim_none, List.append_nil, shape]
          · cases gap : isGap c with
            | false => rfl
            | true =>
                have ends : isEnd c = true := by simp only [isEnd, gap, Bool.true_or]
                exact absurd digit (Bool.eq_false_iff.1 (not_numeral_of_isEnd ends).1)
          · rintro rfl
            exact absurd digit (by decide)
  | text s => exact ⟨'"', _, rfl, rfl, by decide⟩
  | @array items _ => cases items <;> exact ⟨'[', _, rfl, rfl, by decide⟩
  | @object members _ => cases members <;> exact ⟨'\x7b', _, rfl, rfl, by decide⟩

/-- The form of a value does not start with a gap. -/
theorem skipGap_write (level : Nat) {value : Json} (plain : Plain value) (rest : List Char) :
    skipGap (layout.write level value ++ rest) = layout.write level value ++ rest := by
  obtain ⟨c, front, shape, solid, -⟩ := write_head layout level plain
  rw [shape]
  exact skipGap_cons solid _

/-- Reading a value takes a call. -/
theorem exists_fuel {level fuel : Nat} {value : Json} (plain : Plain value)
    (enough : 2 * (layout.write level value).length ≤ fuel) : ∃ less, fuel = less + 1 := by
  obtain ⟨c, front, shape, -⟩ := write_head layout level plain
  rw [shape, List.length_cons] at enough
  exact Nat.exists_eq_succ_of_ne_zero (by omega)

/-- The items after the first one do not go on with it. -/
theorem ends_writeItems (level : Nat) (items : List Json) (rest : List Char) :
    Ends (layout.writeItems level items ++ rest) := by
  cases items with
  | nil =>
      rw [Layout.writeItems, List.append_assoc]
      exact ends_append (layout.gap_isGap level) (ends_cons rfl _)
  | cons item items => exact ends_cons rfl _

/-- The members after the first one do not go on with it. -/
theorem ends_writeMembers (level : Nat) (members : List (Option String × Json))
    (rest : List Char) : Ends (layout.writeMembers level members ++ rest) := by
  cases members with
  | nil =>
      rw [Layout.writeMembers, List.append_assoc]
      exact ends_append (layout.gap_isGap level) (ends_cons rfl _)
  | cons member members => exact ends_cons rfl _

/-- A value is read back from its form in front of any text that does not go on with it, if twice
its length is enough. -/
def Reads (value : Json) : Prop :=
  ∀ (level fuel : Nat) (rest : List Char), 2 * (layout.write level value).length ≤ fuel →
    Ends rest → value? fuel (layout.write level value ++ rest) = some (value, rest)

variable {layout}

/-- Items are read back if each of them is. -/
theorem items?_write {item : Json} {items : List Json}
    (plain : ∀ other ∈ item :: items, Plain other)
    (reads : ∀ other ∈ item :: items, Reads layout other) (level fuel : Nat) (rest : List Char)
    (enough : 2 * ((layout.write (level + 1) item).length +
      (layout.writeItems level items).length) + 1 ≤ fuel) :
    items? fuel (layout.write (level + 1) item ++ (layout.writeItems level items ++ rest)) =
      some (item :: items, rest) := by
  induction items generalizing item fuel with
  | nil =>
      obtain ⟨fuel, rfl⟩ := Nat.exists_eq_succ_of_ne_zero (Nat.ne_of_gt (Nat.zero_lt_of_lt enough))
      have first := reads item (List.mem_cons_self ..) (level + 1) fuel
        (layout.writeItems level [] ++ rest) (by omega) (ends_writeItems layout level [] rest)
      have closes : skipGap (layout.writeItems level [] ++ rest) = ']' :: rest := by
        rw [Layout.writeItems, List.append_assoc, skipGap_append (layout.gap_isGap level)]
        rfl
      rw [items?, first]
      simp only [Option.bind_eq_bind, Option.bind_some, closes, Option.pure_def]
  | cons next items ih =>
      obtain ⟨fuel, rfl⟩ := Nat.exists_eq_succ_of_ne_zero (Nat.ne_of_gt (Nat.zero_lt_of_lt enough))
      have first := reads item (List.mem_cons_self ..) (level + 1) fuel
        (layout.writeItems level (next :: items) ++ rest) (by omega)
        (ends_writeItems layout level (next :: items) rest)
      have length : (layout.writeItems level (next :: items)).length =
          (layout.gap (level + 1)).length + ((layout.write (level + 1) next).length +
            (layout.writeItems level items).length) + 1 := by
        simp only [Layout.writeItems, List.length_cons, List.length_append]
      have follow := ih (fun other mem => plain other (List.mem_cons_of_mem _ mem))
        (fun other mem => reads other (List.mem_cons_of_mem _ mem)) fuel (by omega)
      have goes : skipGap (layout.writeItems level (next :: items) ++ rest) =
          ',' :: (layout.gap (level + 1) ++ (layout.write (level + 1) next ++
            (layout.writeItems level items ++ rest))) := by
        simp only [Layout.writeItems, List.cons_append, List.append_assoc]
        exact skipGap_cons rfl _
      have starts : skipGap (layout.gap (level + 1) ++ (layout.write (level + 1) next ++
            (layout.writeItems level items ++ rest))) =
          layout.write (level + 1) next ++ (layout.writeItems level items ++ rest) := by
        rw [skipGap_append (layout.gap_isGap _)]
        exact skipGap_write layout _ (plain next (List.mem_cons_of_mem _ (List.mem_cons_self ..))) _
      rw [items?, first]
      simp only [Option.bind_eq_bind, Option.bind_some, goes, starts, follow, Option.pure_def]

/-- The members of an object whose keys denote characters. -/
def keyed (members : List (String × Json)) : List (Option String × Json) :=
  members.map fun member => (some member.1, member.2)

/-- Reading the members of an object goes on behind the first key. -/
theorem members?_writeText (fuel : Nat) (key : String) (rest : List Char) :
    members? (fuel + 1) (writeText (some key) ++ ':' :: rest) = (do
      let (value, rest) ← value? fuel (skipGap rest)
      match skipGap rest with
      | ',' :: rest =>
          let (members, rest) ← members? fuel (skipGap rest)
          return ((some key, value) :: members, rest)
      | '\x7d' :: rest => return ([(some key, value)], rest)
      | _ => none) := by
  change (Text.read? ((Text.write key.toList ++ ['"']) ++ ':' :: rest)).bind _ = _
  rw [List.append_assoc, List.singleton_append, Text.read?_write]
  rfl

/-- Members are read back if the value of each of them is. -/
theorem members?_write {key : String} {value : Json} {members : List (String × Json)}
    (plain : ∀ other ∈ (key, value) :: members, Plain other.2)
    (reads : ∀ other ∈ (key, value) :: members, Reads layout other.2) (level fuel : Nat)
    (rest : List Char)
    (enough : 2 * ((layout.write (level + 1) value).length +
      (layout.writeMembers level (keyed members)).length) + 1 ≤ fuel) :
    members? fuel (writeText (some key) ++ ':' :: (layout.space ++
        (layout.write (level + 1) value ++ (layout.writeMembers level (keyed members) ++ rest)))) =
      some (keyed ((key, value) :: members), rest) := by
  induction members generalizing key value fuel with
  | nil =>
      obtain ⟨fuel, rfl⟩ := Nat.exists_eq_succ_of_ne_zero (Nat.ne_of_gt (Nat.zero_lt_of_lt enough))
      have own : Reads layout value := reads (key, value) (List.mem_cons_self ..)
      have first := own (level + 1) fuel
        (layout.writeMembers level (keyed []) ++ rest) (by omega)
        (ends_writeMembers layout level (keyed []) rest)
      have closes : skipGap (layout.writeMembers level (keyed []) ++ rest) = '\x7d' :: rest := by
        change skipGap (layout.gap level ++ ['\x7d'] ++ rest) = _
        rw [List.append_assoc, skipGap_append (layout.gap_isGap level)]
        rfl
      rw [members?_writeText, skipGap_append layout.space_isGap,
        skipGap_write layout _ (plain (key, value) (List.mem_cons_self ..)), first]
      simp only [Option.bind_eq_bind, Option.bind_some, closes, Option.pure_def]
      rfl
  | cons next members ih =>
      obtain ⟨fuel, rfl⟩ := Nat.exists_eq_succ_of_ne_zero (Nat.ne_of_gt (Nat.zero_lt_of_lt enough))
      have own : Reads layout value := reads (key, value) (List.mem_cons_self ..)
      have first := own (level + 1) fuel
        (layout.writeMembers level (keyed (next :: members)) ++ rest) (by omega)
        (ends_writeMembers layout level (keyed (next :: members)) rest)
      have shape : layout.writeMembers level (keyed (next :: members)) =
          ',' :: (layout.gap (level + 1) ++ (writeText (some next.1) ++ ':' :: (layout.space ++
            (layout.write (level + 1) next.2 ++ layout.writeMembers level (keyed members))))) := rfl
      have length := congrArg List.length shape
      simp only [List.length_cons, List.length_append] at length
      have follow := @ih next.1 next.2
        (fun other mem => plain other (List.mem_cons_of_mem _ mem))
        (fun other mem => reads other (List.mem_cons_of_mem _ mem)) fuel (by omega)
      have goes : skipGap (layout.writeMembers level (keyed (next :: members)) ++ rest) =
          ',' :: (layout.gap (level + 1) ++ (writeText (some next.1) ++ ':' :: (layout.space ++
            (layout.write (level + 1) next.2 ++
              (layout.writeMembers level (keyed members) ++ rest))))) := by
        rw [shape]
        simp only [List.cons_append, List.append_assoc]
        exact skipGap_cons rfl _
      have starts : ∀ tail, skipGap (layout.gap (level + 1) ++ (writeText (some next.1) ++ tail)) =
          writeText (some next.1) ++ tail := by
        intro tail
        rw [skipGap_append (layout.gap_isGap _)]
        rfl
      rw [members?_writeText, skipGap_append layout.space_isGap,
        skipGap_write layout _ (plain (key, value) (List.mem_cons_self ..)), first]
      simp only [Option.bind_eq_bind, Option.bind_some, goes, starts, follow, Option.pure_def]
      rfl

/-- A plain value is read back, whatever follows it. -/
theorem Plain.reads {value : Json} (plain : Plain value) : Reads layout value := by
  induction plain with
  | null =>
      intro level fuel rest enough _
      obtain ⟨fuel, rfl⟩ := exists_fuel layout .null enough
      rfl
  | bool value =>
      intro level fuel rest enough _
      obtain ⟨fuel, rfl⟩ := exists_fuel layout (.bool value) enough
      cases value <;> rfl
  | whole negative n =>
      intro level fuel rest enough ends
      obtain ⟨fuel, rfl⟩ := exists_fuel layout (.whole negative n) enough
      exact value?_writeNumeral fuel negative n ends
  | text s =>
      intro level fuel rest enough _
      obtain ⟨fuel, rfl⟩ := exists_fuel layout (.text s) enough
      exact value?_writeText fuel s rest
  | @array items plain ih =>
      intro level fuel rest enough _
      obtain ⟨fuel, rfl⟩ := exists_fuel layout (.array plain) enough
      cases items with
      | nil => rfl
      | cons item items =>
          have shape : layout.write level (.arr (item :: items)) =
              '[' :: (layout.gap (level + 1) ++ (layout.write (level + 1) item ++
                layout.writeItems level items)) := by
            rw [Layout.write]
          rw [shape] at enough ⊢
          simp only [List.length_cons, List.length_append] at enough
          have follow := items?_write plain ih level fuel rest (by omega)
          have first := plain item (List.mem_cons_self ..)
          obtain ⟨c, front, head, -, other⟩ := write_head layout (level + 1) first
          simp only [List.cons_append, List.append_assoc]
          rw [value?_bracket, skipGap_append (layout.gap_isGap _),
            skipGap_write layout _ first]
          rw [head] at follow ⊢
          split
          · rename_i same
            exact absurd (List.cons.inj same).1 other
          · rw [follow]
            rfl
  | @object members plain ih =>
      intro level fuel rest enough _
      obtain ⟨fuel, rfl⟩ := exists_fuel layout (.object plain) enough
      cases members with
      | nil => rfl
      | cons member members =>
          obtain ⟨key, value⟩ := member
          have shape : layout.write level (.object ((key, value) :: members)) =
              '\x7b' :: (layout.gap (level + 1) ++ (writeText (some key) ++ ':' :: (layout.space ++
                (layout.write (level + 1) value ++
                  layout.writeMembers level (keyed members))))) := rfl
          rw [shape] at enough ⊢
          simp only [List.length_cons, List.length_append] at enough
          have follow := members?_write plain ih level fuel rest (by omega)
          simp only [List.cons_append, List.append_assoc]
          rw [value?_brace, skipGap_append (layout.gap_isGap _)]
          exact congrArg (Option.map _) follow

/-- A plain value is read back from its document in any layout. -/
theorem read?_write {value : Json} (plain : Plain value) :
    read? (String.ofList (layout.write 0 value)) = some value := by
  have starts := skipGap_write layout 0 plain []
  rw [List.append_nil] at starts
  have each : Reads layout value := plain.reads
  have reads := each 0 (2 * (layout.write 0 value).length + 2) [] (Nat.le_add_right ..) ends_nil
  rw [List.append_nil] at reads
  unfold read?
  rw [String.toList_ofList, starts]
  dsimp only
  rw [reads]
  rfl

end Layouts

/-- A plain value is read back from its compact document. -/
theorem read?_compact {value : Json} (plain : Plain value) :
    read? (compact value) = some value := by
  have reads : read? (String.ofList (Layout.compact.write 0 value)) = some value :=
    read?_write plain
  rwa [write_compact] at reads

/-- A plain value is read back from its indented document. -/
theorem read?_indented {value : Json} (plain : Plain value) :
    read? (indented value) = some value := by
  have reads : read? (String.ofList (Layout.indented.write 0 value)) = some value :=
    read?_write plain
  rwa [write_indented] at reads

end Json

end VisitorLink
