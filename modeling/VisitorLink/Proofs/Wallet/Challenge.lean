import VisitorLink.Wallet.Challenge

/-!
# What a challenge says

A challenge can be read in one way only: the sentence that it starts with is that of its purpose,
and the time that it ends with is the numeral after the last blank, whatever the address is.

Main statement: `challenge_eq_iff`.
-/

namespace VisitorLink

namespace Text.Decimal

theorem ofInt_injective {first second : Int} (same : ofInt first = ofInt second) :
    first = second :=
  Option.some.inj ((signed?_ofInt first).symm.trans (same ▸ signed?_ofInt second))

theorem not_mem_ofInt_blank (number : Int) : ' ' ∉ ofInt number := by
  have not_mem_ofNat (n : Nat) : ' ' ∉ ofNat n := fun mem => nomatch isDigit_of_mem_ofNat mem
  cases number with
  | ofNat n => exact not_mem_ofNat n
  | negSucc n => exact List.not_mem_cons_of_ne_of_not_mem (by decide) (not_mem_ofNat (n + 1))

end Text.Decimal

/-- What follows on the last blank is told by the text as a whole. -/
theorem eq_of_append_blank {head head' last last' : List Char} (none : ' ' ∉ last)
    (none' : ' ' ∉ last') (same : head ++ ' ' :: last = head' ++ ' ' :: last') :
    head = head' ∧ last = last' := by
  have starts {more last last' : List Char} (none : ' ' ∉ last)
      (same : ' ' :: last = more ++ ' ' :: last') : more = [] ∧ last = last' := by
    cases more with
    | nil => exact ⟨rfl, (List.cons.inj same).2⟩
    | cons c more =>
        have mem : ' ' ∈ more ++ ' ' :: last' := List.mem_append_right more (.head _)
        exact absurd ((List.cons.inj same).2 ▸ mem) none
  rcases List.append_eq_append_iff.1 same with ⟨more, rfl, tail⟩ | ⟨more, rfl, tail⟩
  · obtain ⟨rfl, rfl⟩ := starts none tail
    exact ⟨(List.append_nil head).symm, rfl⟩
  · obtain ⟨rfl, rfl⟩ := starts none' tail
    exact ⟨List.append_nil head', rfl⟩

/-- The sentences of the purposes differ before their ends. -/
theorem Purpose.eq_of_prompts {purpose purpose' : Purpose} {rest rest' : List Char}
    (same : purpose.prompt.toList ++ rest = purpose'.prompt.toList ++ rest') :
    purpose = purpose' := by
  -- The sentences differ in the word after "Sign this message to", within 24 characters.
  have head (purpose : Purpose) (rest : List Char) :
      (purpose.prompt.toList ++ rest).take 24 = purpose.prompt.toList.take 24 :=
    List.take_append_of_le_length (by cases purpose <;> decide +kernel)
  have heads := (head purpose rest).symm.trans
    ((congrArg (List.take 24) same).trans (head purpose' rest'))
  revert heads
  cases purpose <;> cases purpose' <;> first | exact fun _ => rfl | decide +kernel

/-- A challenge tells its purpose, its address and its time. -/
theorem challenge_injective {purpose purpose' : Purpose} {address address' : String}
    {time time' : Int64}
    (same : challenge purpose address time = challenge purpose' address' time') :
    purpose = purpose' ∧ address = address' ∧ time = time' := by
  have texts := congrArg String.toList same
  simp only [challenge, challengeHead, String.toList_append, String.toList_ofList,
    List.append_assoc] at texts
  obtain rfl := Purpose.eq_of_prompts texts
  have blank (digits : List Char) :
      "\nTimestamp: ".toList ++ digits = "\nTimestamp:".toList ++ ' ' :: digits := by
    rw [show "\nTimestamp: ".toList = "\nTimestamp:".toList ++ [' '] by decide +kernel]
    exact List.append_assoc ..
  simp only [blank, List.append_cancel_left_eq] at texts
  simp only [← List.append_assoc] at texts
  obtain ⟨heads, digits⟩ := eq_of_append_blank (Text.Decimal.not_mem_ofInt_blank _)
    (Text.Decimal.not_mem_ofInt_blank _) texts
  simp only [List.append_cancel_right_eq, String.toList_inj] at heads
  exact ⟨rfl, heads, Int64.toInt_inj.1 (Text.Decimal.ofInt_injective digits)⟩

/-- Two challenges are the same text if and only if they are for the same purpose, the same address
and the same time, so a signature of one is none of another. -/
theorem challenge_eq_iff (purpose purpose' : Purpose) (address address' : String)
    (time time' : Int64) :
    challenge purpose address time = challenge purpose' address' time' ↔
      purpose = purpose' ∧ address = address' ∧ time = time' := by
  constructor
  · exact challenge_injective
  · rintro ⟨rfl, rfl, rfl⟩
    rfl

end VisitorLink
