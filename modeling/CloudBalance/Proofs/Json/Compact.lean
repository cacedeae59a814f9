import CloudBalance.Proofs.Json.Decode

/-!
# Texts without blanks

Main statements: a value whose numbers are integers of 64 bits is read from the text that is written for it on
one line, and no control character stands on that line.
-/

namespace CloudBalance.Json

/-! ## Written characters -/

theorem compact_array (items : List Json) :
    (compact (.array items)).toList = '[' :: (joined "," (compactItems items) ++ [']']) := by
  rw [compact, String.toList_append, String.toList_append]
  rfl

theorem compact_object (members : List (String × Json)) :
    (compact (.object members)).toList = '\x7b' :: (joined "," (compactMembers members) ++ ['\x7d']) := by
  rw [compact, String.toList_append, String.toList_append]
  rfl

theorem compact_member (name text : String) :
    (quoted name ++ ":" ++ text).toList = (quoted name).toList ++ ':' :: text.toList := by
  rw [String.toList_append, String.toList_append, List.append_assoc]
  rfl

theorem compact_cons (value : Json) (plain : value.IsPlain) :
    ∃ c cs, value.compact.toList = c :: cs ∧ StartsValue c := by
  cases value with
  | null => exact ⟨'n', ['u', 'l', 'l'], by rw [compact]; rfl, rfl, by decide⟩
  | bool value =>
    cases value with
    | true => exact ⟨'t', ['r', 'u', 'e'], by rw [compact]; rfl, rfl, by decide⟩
    | false => exact ⟨'f', ['a', 'l', 's', 'e'], by rw [compact]; rfl, rfl, by decide⟩
  | string s => exact ⟨'"', _, by rw [compact, quoted_toList], rfl, by decide⟩
  | unreadable => exact absurd plain (by simp [IsPlain])
  | number n =>
    cases n with
    | integer n =>
      obtain ⟨c, cs, written, start⟩ := text_integer_cons n
      exact ⟨c, cs, by rw [compact, written], startsValue_of_digit start⟩
    | decimal => exact absurd plain (by simp [IsPlain])
  | array items => exact ⟨'[', _, compact_array items, rfl, by decide⟩
  | object members => exact ⟨'\x7b', _, compact_object members, rfl, by decide⟩

/-! ## Reading -/

theorem blanks_nil : Blanks [] := by
  simp [Blanks]

mutual

theorem scanValue_compact (value : Json) (plain : value.IsPlain) (fuel : Nat) (rest : List Char)
    (ends : EndsNumber rest) (enough : 2 * value.compact.toList.length ≤ fuel) :
    scanValue fuel (value.compact.toList ++ rest) = some (value, rest) := by
  -- the induction is on the fuel, as for values that are laid out over several lines
  obtain ⟨c, cs, written, _⟩ := compact_cons value plain
  obtain ⟨fuel, rfl⟩ : ∃ left, fuel = left + 1 := by
    refine ⟨fuel - 1, ?_⟩
    rw [written, List.length_cons] at enough
    omega
  cases value with
  | null =>
    rw [compact, scanValue]
    rfl
  | bool value =>
    cases value with
    | true =>
      rw [compact, scanValue]
      rfl
    | false =>
      rw [compact, scanValue]
      rfl
  | string s =>
    rw [compact, quoted_toList, List.cons_append, List.append_assoc]
    exact scanValue_string (scanString_join _ _) (textOf?_toNat s)
  | unreadable => exact absurd plain (by simp [IsPlain])
  | number n =>
    cases n with
    | integer n =>
      obtain ⟨c, cs, written, start⟩ := text_integer_cons n
      have scanned := scanNumber_integer (by simpa [IsPlain] using plain) ends
      rw [compact, written, List.cons_append, scanValue_number _ start]
      rwa [written, List.cons_append] at scanned
    | decimal => exact absurd plain (by simp [IsPlain])
  | array items =>
    cases items with
    | nil =>
      rw [compact, scanValue]
      rfl
    | cons item items =>
      rw [IsPlain] at plain
      rw [compact_array] at enough ⊢
      -- the two brackets pay for the step into the items
      simp only [List.length_cons, List.length_append, List.length_nil] at enough
      simp only [List.cons_append, List.append_assoc, List.nil_append]
      obtain ⟨c, cs, first, start⟩ := compact_cons item plain.1
      obtain ⟨more, text⟩ := joined_start "," (compactItems items) first
      refine @scanValue_array _ [] _ _ _ blanks_nil ⟨c, more ++ ']' :: rest, ?_, start⟩
        (scanItems_compact item items plain fuel rest (by omega))
      rw [compactItems, text]
      rfl
  | object members =>
    cases members with
    | nil =>
      rw [compact, scanValue]
      rfl
    | cons member members =>
      obtain ⟨name, value⟩ := member
      rw [IsPlain] at plain
      rw [compact_object] at enough ⊢
      simp only [List.length_cons, List.length_append, List.length_nil] at enough
      simp only [List.cons_append, List.append_assoc, List.nil_append]
      have first := compact_member name value.compact
      rw [quoted_toList, List.cons_append] at first
      obtain ⟨more, text⟩ := joined_start "," (compactMembers members) first
      refine @scanValue_object _ [] _ _ _ blanks_nil ⟨more ++ '\x7d' :: rest, ?_⟩
        (scanMembers_compact name value members plain fuel rest (by omega))
      rw [compactMembers, text]
      rfl
  termination_by fuel
  decreasing_by all_goals omega

theorem scanItems_compact (item : Json) (items : List Json) (plain : AllPlain (item :: items)) (fuel : Nat)
    (rest : List Char) (enough : 2 * (joined "," (compactItems (item :: items))).length < fuel) :
    scanItems fuel (joined "," (compactItems (item :: items)) ++ ']' :: rest) =
      some (item :: items, rest) := by
  obtain ⟨fuel, rfl⟩ : ∃ left, fuel = left + 1 := ⟨fuel - 1, by omega⟩
  cases items with
  | nil =>
    rw [compactItems, compactItems, joined_single] at enough ⊢
    exact @scanItems_last _ _ [] _ _ (scanValue_compact item plain.1 fuel _
      (endsNumber_of blanks_nil (.inl rfl)) (by omega)) blanks_nil
  | cons next items =>
    rw [compactItems, compactItems, joined_cons, ← compactItems] at enough ⊢
    simp only [List.length_append, String.reduceToList, List.length_cons] at enough
    simp only [List.append_assoc, String.reduceToList, List.cons_append, List.nil_append]
    exact scanItems_next (scanValue_compact item plain.1 fuel _ (endsNumber_comma _) (by omega))
      (scanItems_compact next items plain.2 fuel rest (by omega))
  termination_by fuel
  decreasing_by all_goals omega

theorem scanMembers_compact (name : String) (value : Json) (members : List (String × Json))
    (plain : MembersPlain ((name, value) :: members)) (fuel : Nat) (rest : List Char)
    (enough : 2 * (joined "," (compactMembers ((name, value) :: members))).length < fuel) :
    scanMembers fuel (joined "," (compactMembers ((name, value) :: members)) ++ '\x7d' :: rest) =
      some (((name, value) :: members).map fun (name, value) => (some name, value), rest) := by
  obtain ⟨fuel, rfl⟩ : ∃ left, fuel = left + 1 := ⟨fuel - 1, by omega⟩
  cases members with
  | nil =>
    rw [compactMembers, compactMembers, joined_single, compact_member] at enough ⊢
    simp only [List.length_append, List.length_cons] at enough
    simp only [List.append_assoc, List.cons_append]
    exact @scanMembers_last _ _ _ [] _ _ (scanValue_compact value plain.1 fuel _
      (endsNumber_of blanks_nil (.inr rfl)) (by omega)) blanks_nil
  | cons next members =>
    obtain ⟨other, after⟩ := next
    rw [compactMembers, compactMembers, joined_cons, ← compactMembers, compact_member] at enough ⊢
    simp only [List.length_append, String.reduceToList, List.length_cons] at enough
    simp only [List.append_assoc, String.reduceToList, List.cons_append, List.nil_append]
    exact scanMembers_next (scanValue_compact value plain.1 fuel _ (endsNumber_comma _) (by omega))
      (scanMembers_compact other after members plain.2 fuel rest (by omega))
  termination_by fuel
  decreasing_by all_goals omega

end

/-- A value is read from the line that is written for it. -/
theorem parse?_compact {value : Json} (plain : value.IsPlain) : parse? value.compact = some value := by
  have read := scanValue_compact value plain (2 * value.compact.toList.length + 2) []
    (by simp [EndsNumber]) (Nat.le_add_right _ _)
  rw [List.append_nil] at read
  rw [parse?]
  change (scanValue _ value.compact.toList).bind _ = _
  rw [read]
  rfl

/-! ## Printed characters -/

/-- All characters can be printed. -/
def Printable (cs : List Char) : Prop :=
  ∀ c ∈ cs, 0x20 ≤ c.toNat

instance : DecidablePred Printable :=
  List.decidableBAll fun c : Char => 0x20 ≤ c.toNat

theorem printable_escapeChar (c : Char) : Printable (escapeChar c).toList := by
  by_cases control : c.toNat < 0x20
  · have each : ∀ n < 0x20, Printable (escapeChar (Char.ofNat n)).toList := by
      decide +kernel
    have written := each c.toNat control
    rwa [Char.ofNat_toNat] at written
  · -- the others are written as they are, but for two that are written as two
    rw [escapeChar]
    split_ifs
    case neg => simpa [Printable] using control
    all_goals decide

theorem printable_quoted (s : String) : Printable (quoted s).toList := by
  intro c member
  rw [quoted_toList, String.toList_join, List.mem_cons, List.mem_append, List.mem_singleton] at member
  rcases member with rfl | inside | rfl
  · decide
  · obtain ⟨part, among, inside⟩ := List.mem_flatMap.mp inside
    obtain ⟨d, _, rfl⟩ := List.mem_map.mp among
    exact printable_escapeChar d c inside
  · decide

theorem printable_joined {parts : List String} (each : ∀ part ∈ parts, Printable part.toList) :
    Printable (joined "," parts) := by
  induction parts with
  | nil => simp [joined, Printable]
  | cons part parts ih =>
    obtain ⟨first, rest⟩ := List.forall_mem_cons.mp each
    cases parts with
    | nil => rwa [joined_single]
    | cons next parts =>
      rw [joined_cons]
      exact List.forall_mem_append.mpr ⟨first, List.forall_mem_append.mpr ⟨by simp, ih rest⟩⟩

theorem printable_digits (n : Nat) : Printable n.repr.toList := by
  intro c member
  rw [Nat.toList_repr] at member
  have digit : c.isDigit = true := Text.isDigit_of_mem_toDigits member
  simp only [Char.isDigit, Bool.and_eq_true, decide_eq_true_eq] at digit
  have low : '0'.toNat ≤ c.toNat := digit.1
  exact Nat.le_trans (by decide) low

theorem printable_integer (n : Int) : Printable (Number.integer n).text.toList := by
  cases n with
  | ofNat m => exact printable_digits m
  | negSucc m =>
    have written : (Number.integer (Int.negSucc m)).text = "-" ++ (m + 1).repr := rfl
    rw [written, String.toList_append]
    exact List.forall_mem_append.mpr ⟨by simp, printable_digits (m + 1)⟩

mutual

theorem printable_compact (value : Json) (plain : value.IsPlain) : Printable value.compact.toList := by
  cases value with
  | null => simp [compact, Printable]
  | bool value => cases value <;> simp [compact, Printable]
  | number n =>
    cases n with
    | integer n =>
      rw [compact]
      exact printable_integer n
    | decimal => exact absurd plain (by simp [IsPlain])
  | string s =>
    rw [compact]
    exact printable_quoted s
  | array items =>
    rw [IsPlain] at plain
    rw [compact_array]
    refine List.forall_mem_cons.mpr ⟨by decide, List.forall_mem_append.mpr ⟨?_, by simp⟩⟩
    exact printable_joined (printable_items items plain)
  | object members =>
    rw [IsPlain] at plain
    rw [compact_object]
    refine List.forall_mem_cons.mpr ⟨by decide, List.forall_mem_append.mpr ⟨?_, by simp⟩⟩
    exact printable_joined (printable_members members plain)
  | unreadable => exact absurd plain (by simp [IsPlain])

theorem printable_items (items : List Json) (plain : AllPlain items) :
    ∀ part ∈ compactItems items, Printable part.toList := by
  cases items with
  | nil => simp [compactItems]
  | cons item items =>
    rw [compactItems]
    exact List.forall_mem_cons.mpr ⟨printable_compact item plain.1, printable_items items plain.2⟩

theorem printable_members (members : List (String × Json)) (plain : MembersPlain members) :
    ∀ part ∈ compactMembers members, Printable part.toList := by
  cases members with
  | nil => simp [compactMembers]
  | cons member members =>
    obtain ⟨name, value⟩ := member
    rw [compactMembers]
    refine List.forall_mem_cons.mpr ⟨?_, printable_members members plain.2⟩
    rw [compact_member]
    refine List.forall_mem_append.mpr ⟨printable_quoted name, ?_⟩
    exact List.forall_mem_cons.mpr ⟨by decide, printable_compact value plain.1⟩

end

end CloudBalance.Json
