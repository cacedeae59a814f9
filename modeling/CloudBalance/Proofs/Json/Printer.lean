import CloudBalance.Json.Parser
import CloudBalance.Json.Printer
import CloudBalance.Proofs.Text.Digits
import Mathlib.Tactic.SplitIfs

/-!
# Reading what is written

Main statement: a JSON text that is laid out from a value without decimals is read as that value.
-/

namespace CloudBalance.Json

-- the equations of what is read and written are made here, and not by each proof that rewrites with them
attribute [local simp] scanString scanValue scanItems scanMembers prettyAt prettyItems prettyMembers

/-! ## Strings -/

theorem hexPlaces_control {n : Nat} (control : n < 0x20) :
    ∃ a b c d, (hexPlaces n).toList = [a, b, c, d] ∧ hexCode? a b c d = some n := by
  have : ∀ n < 0x20, hexCode? '0' '0' (n / 16).digitChar (n % 16).digitChar = some n ∧
      (hexPlaces n).toList = ['0', '0', (n / 16).digitChar, (n % 16).digitChar] := by
    decide +kernel
  exact ⟨_, _, _, _, (this n control).2, (this n control).1⟩

theorem scanString_escape {c letter : Char} (rest : List Char) (other : letter ≠ 'u')
    (stands : escape? letter = some c) :
    scanString ('\\' :: letter :: rest) =
      (scanString rest).map fun (codes, after) => (c.toNat :: codes, after) := by
  rw [scanString.eq_3 _ _ (fun _ _ _ _ _ same _ => other same), stands]
  cases scanString rest <;> rfl

theorem scanString_escapeChar (c : Char) (rest : List Char) :
    scanString ((escapeChar c).toList ++ rest) =
      (scanString rest).map fun (codes, after) => (c.toNat :: codes, after) := by
  unfold escapeChar
  -- one case for each character that has an escape of its own, then the others
  split_ifs with quote backslash newline return_ tab back form control
  · exact quote ▸ scanString_escape rest (by decide) rfl
  · exact backslash ▸ scanString_escape rest (by decide) rfl
  · exact newline ▸ scanString_escape rest (by decide) rfl
  · exact return_ ▸ scanString_escape rest (by decide) rfl
  · exact tab ▸ scanString_escape rest (by decide) rfl
  · exact back ▸ scanString_escape rest (by decide) rfl
  · exact form ▸ scanString_escape rest (by decide) rfl
  · obtain ⟨a, b, c, d, written, code⟩ := hexPlaces_control control
    rw [String.toList_append, written]
    change scanString ('\\' :: 'u' :: a :: b :: c :: d :: rest) = _
    rw [scanString, code]
    cases scanString rest <;> rfl
  · rw [Char.toString, String.toList_singleton, List.singleton_append, scanString]
    · simp only [control, backslash, decide_false, Bool.or_self, Bool.false_eq_true, if_false]
      cases scanString rest <;> rfl
    · exact quote
    · exact fun _ _ _ _ _ same _ => backslash same
    · exact fun _ _ same _ => backslash same

theorem scanString_join (cs rest : List Char) :
    scanString ((String.join (cs.map escapeChar)).toList ++ '"' :: rest) =
      some (cs.map Char.toNat, rest) := by
  induction cs with
  | nil => rw [List.map_nil, String.join_nil, String.toList_empty, List.nil_append, scanString]; rfl
  | cons c cs ih =>
    rw [List.map_cons, String.join_cons, String.toList_append, List.append_assoc,
      scanString_escapeChar, ih]
    rfl

theorem not_surrogate (c : Char) :
    isHighSurrogate c.toNat = false ∧ isLowSurrogate c.toNat = false := by
  have valid := c.valid
  simp only [UInt32.isValidChar, Nat.isValidChar] at valid
  change c.toNat < 0xd800 ∨ 0xdfff < c.toNat ∧ c.toNat < 0x110000 at valid
  simp only [isHighSurrogate, isLowSurrogate, Bool.and_eq_false_iff, decide_eq_false_iff_not]
  omega

theorem joinSurrogates?_toNat (cs : List Char) : joinSurrogates? (cs.map Char.toNat) = some cs := by
  match cs with
  | [] => rfl
  | [c] => simp [joinSurrogates?, not_surrogate c, Char.ofNat_toNat]
  | c :: d :: rest =>
    have later := joinSurrogates?_toNat (d :: rest)
    rw [List.map_cons] at later
    simp [joinSurrogates?, not_surrogate c, Char.ofNat_toNat, later]

theorem textOf?_toNat (s : String) : textOf? (s.toList.map Char.toNat) = some s := by
  rw [textOf?, joinSurrogates?_toNat]
  simp

/-! ## Numbers -/

/-- The integers that are read as integers. -/
def IsWord (n : Int) : Prop :=
  Int64.minValue.toInt ≤ n ∧ n < UInt64.size

/-- Characters that do not continue a number. -/
def EndsNumber (rest : List Char) : Prop :=
  ∀ c ∈ rest.head?, c.isDigit = false ∧ c ≠ '.' ∧ c ≠ 'e' ∧ c ≠ 'E'

theorem EndsNumber.endsDigits {rest : List Char} (ends : EndsNumber rest) : Text.EndsDigits rest :=
  fun c head => (ends c head).1

theorem scanFraction_of_ends {rest : List Char} (ends : EndsNumber rest) :
    scanFraction rest = some ([], rest) := by
  match rest with
  | [] => rfl
  | c :: rest =>
    rw [scanFraction]
    exact fun _ same => (ends c rfl).2.1 (List.cons.inj same).1

theorem scanExponent_of_ends {rest : List Char} (ends : EndsNumber rest) :
    scanExponent rest = some ((0, false), rest) := by
  match rest with
  | [] => rfl
  | c :: rest => simp [scanExponent, (ends c rfl).2.2]

/-- Where a number may start, with or without a sign before it. -/
def signed (negative : Bool) (digits : List Char) : List Char :=
  if negative then '-' :: digits else digits

theorem scanNumber_signed {m : Nat} {rest : List Char} (negative : Bool) (ends : EndsNumber rest) :
    scanNumber (signed negative (Nat.toDigits 10 m ++ rest)) =
      some (numberOf negative (Nat.toDigits 10 m) [] 0 true, rest) := by
  have taken := Text.takeWhile_isDigit (fun _ => Text.isDigit_of_mem_toDigits (n := m)) ends.endsDigits
  have left := Text.dropWhile_isDigit (fun _ => Text.isDigit_of_mem_toDigits (n := m)) ends.endsDigits
  -- a zero at the front is all there is
  have single : ¬ ((Nat.toDigits 10 m).isEmpty ||
      (Nat.toDigits 10 m).head? = some '0' && 1 < (Nat.toDigits 10 m).length) = true := by
    simp only [List.isEmpty_eq_false_iff.mpr Nat.toDigits_ne_nil, Bool.false_or, Bool.and_eq_true,
      decide_eq_true_eq, not_and, Nat.not_lt]
    exact fun zero => Nat.le_of_eq (Text.length_toDigits_of_zero zero)
  unfold scanNumber
  split
  rename_i sign digits same
  have parts : sign = negative ∧ digits = Nat.toDigits 10 m ++ rest := by
    cases negative with
    | true =>
      cases same
      exact ⟨rfl, rfl⟩
    | false =>
      split at same
      · -- a digit is no sign
        rename_i after minus
        obtain ⟨c, more, written⟩ := List.exists_cons_of_ne_nil (Nat.toDigits_ne_nil (n := m) (b := 10))
        have digit : c.isDigit = true := Text.isDigit_of_mem_toDigits (n := m) (by simp [written])
        change Nat.toDigits 10 m ++ rest = '-' :: after at minus
        rw [written] at minus
        cases minus
        contradiction
      · cases same
        exact ⟨rfl, rfl⟩
  obtain ⟨rfl, rfl⟩ := parts
  dsimp only
  rw [taken, left, if_neg single, scanFraction_of_ends ends, Option.bind_eq_bind, Option.bind_some]
  dsimp only
  rw [scanExponent_of_ends ends]
  rfl

theorem scanNumber_integer {n : Int} {rest : List Char} (word : IsWord n) (ends : EndsNumber rest) :
    scanNumber ((Number.integer n).text.toList ++ rest) = some (.number (.integer n), rest) := by
  obtain ⟨low, high⟩ := word
  cases n with
  | ofNat m =>
    have written : (Number.integer (.ofNat m)).text.toList = Nat.toDigits 10 m := Nat.toList_repr
    rw [written]
    refine (scanNumber_signed false ends).trans ?_
    rw [numberOf, List.append_nil, Text.natOfDigits_toDigits]
    rw [if_pos]
    · rfl
    · simp only [Bool.false_and, Bool.not_false, Bool.true_and, Bool.and_eq_true, decide_eq_true_eq]
      exact ⟨low, high⟩
  | negSucc m =>
    have written : (Number.integer (.negSucc m)).text.toList = '-' :: Nat.toDigits 10 (m + 1) := by
      change ("-" ++ (m + 1).repr).toList = _
      rw [String.toList_append, Nat.toList_repr]
      rfl
    rw [written]
    refine (scanNumber_signed true ends).trans ?_
    rw [numberOf, List.append_nil, Text.natOfDigits_toDigits]
    rw [if_pos]
    · rfl
    · have positive : (m + 1 == 0) = false := rfl
      simp only [positive, Bool.and_false, Bool.not_false, Bool.true_and, Bool.and_eq_true,
        decide_eq_true_eq]
      exact ⟨low, high⟩

/-! ## Blanks -/

/-- Characters that are skipped before a value. -/
def Blanks (cs : List Char) : Prop :=
  ∀ c ∈ cs, isBlank c = true

theorem blanks_newLine (depth : Nat) : Blanks (newLine depth).toList := by
  intro c member
  simp only [newLine, String.toList_append, String.toList_ofList, List.mem_append,
    List.mem_replicate] at member
  rcases member with first | ⟨_, rfl⟩
  · rw [List.mem_singleton.mp first]
    rfl
  · rfl

theorem skipBlanks_append {lead : List Char} (blanks : Blanks lead) (cs : List Char) :
    skipBlanks (lead ++ cs) = skipBlanks cs :=
  List.dropWhile_append_of_pos blanks

theorem skipBlanks_cons {c : Char} (cs : List Char) (solid : isBlank c = false) :
    skipBlanks (c :: cs) = c :: cs := by
  rw [skipBlanks, List.dropWhile_cons_of_neg (by simp [solid])]

theorem scanValue_blanks {lead : List Char} (blanks : Blanks lead) (fuel : Nat) (cs : List Char) :
    scanValue fuel (lead ++ cs) = scanValue fuel cs := by
  cases fuel with
  | zero => rw [scanValue, scanValue]
  | succ fuel => rw [scanValue, scanValue, skipBlanks_append blanks]

theorem scanItems_blanks {lead : List Char} (blanks : Blanks lead) (fuel : Nat) (cs : List Char) :
    scanItems fuel (lead ++ cs) = scanItems fuel cs := by
  cases fuel with
  | zero => rw [scanItems, scanItems]
  | succ fuel => rw [scanItems, scanItems, scanValue_blanks blanks]

theorem scanMembers_blanks {lead : List Char} (blanks : Blanks lead) (fuel : Nat) (cs : List Char) :
    scanMembers fuel (lead ++ cs) = scanMembers fuel cs := by
  cases fuel with
  | zero => rw [scanMembers, scanMembers]
  | succ fuel => rw [scanMembers, scanMembers, skipBlanks_append blanks]

/-! ## Values -/

mutual

/-- A value in which each number is an integer of 64 bits and nothing is unreadable. -/
def IsPlain : Json → Prop
  | .number (.integer n) => IsWord n
  | .number (.decimal ..) | .unreadable => False
  | .array items => AllPlain items
  | .object members => MembersPlain members
  | .null | .bool _ | .string _ => True

def AllPlain : List Json → Prop
  | [] => True
  | item :: rest => item.IsPlain ∧ AllPlain rest

def MembersPlain : List (String × Json) → Prop
  | [] => True
  | (_, value) :: rest => value.IsPlain ∧ MembersPlain rest

end

/-- The characters of parts with a separator between them. -/
def joined (separator : String) (parts : List String) : List Char :=
  (separator.intercalate parts).toList

theorem joined_single (separator part : String) : joined separator [part] = part.toList := by
  rw [joined, String.intercalate_singleton]

theorem joined_cons (separator part next : String) (parts : List String) :
    joined separator (part :: next :: parts) =
      part.toList ++ (separator.toList ++ joined separator (next :: parts)) := by
  rw [joined, String.intercalate_cons_cons, String.toList_append, String.toList_append, joined,
    List.append_assoc]

theorem quoted_toList (s : String) :
    (quoted s).toList = '"' :: ((String.join (s.toList.map escapeChar)).toList ++ ['"']) := by
  rw [quoted, String.toList_append, String.toList_append]
  rfl

theorem layOut_toList (depth : Nat) (left right : Char) (part : String) (parts : List String) :
    (layOut depth left.toString right.toString (part :: parts)).toList =
      left :: ((newLine (depth + 1)).toList ++
        (joined ("," ++ newLine (depth + 1)) (part :: parts) ++ ((newLine depth).toList ++ [right]))) := by
  rw [layOut, if_neg (by simp)]
  simp only [String.toList_append, joined, Char.toString, String.toList_singleton, List.append_assoc,
    List.cons_append, List.nil_append]

theorem text_integer_cons (n : Int) :
    ∃ c cs, (Number.integer n).text.toList = c :: cs ∧ (c.isDigit = true ∨ c = '-') := by
  cases n with
  | ofNat m =>
    obtain ⟨c, cs, written⟩ := List.exists_cons_of_ne_nil (Nat.toDigits_ne_nil (n := m) (b := 10))
    have digit : c.isDigit = true := Text.isDigit_of_mem_toDigits (n := m) (by simp [written])
    exact ⟨c, cs, Nat.toList_repr.trans written, .inl digit⟩
  | negSucc m =>
    refine ⟨'-', (m + 1).repr.toList, ?_, .inr rfl⟩
    change ("-" ++ (m + 1).repr).toList = _
    rw [String.toList_append]
    rfl

/-- Characters that may start a value. -/
def StartsValue (c : Char) : Prop :=
  isBlank c = false ∧ c ≠ ']'

theorem startsValue_of_digit {c : Char} (start : c.isDigit = true ∨ c = '-') : StartsValue c := by
  rcases start with digit | rfl
  · refine ⟨?_, fun same => by subst same; exact absurd digit (by decide)⟩
    simp only [isBlank, Bool.or_eq_false_iff, decide_eq_false_iff_not]
    exact ⟨⟨⟨fun same => by subst same; exact absurd digit (by decide),
      fun same => by subst same; exact absurd digit (by decide)⟩,
      fun same => by subst same; exact absurd digit (by decide)⟩,
      fun same => by subst same; exact absurd digit (by decide)⟩
  · exact ⟨rfl, by decide⟩

theorem toList_null (depth : Nat) : (prettyAt depth .null).toList = ['n', 'u', 'l', 'l'] := by
  rw [prettyAt]
  rfl

theorem toList_true (depth : Nat) : (prettyAt depth (.bool true)).toList = ['t', 'r', 'u', 'e'] := by
  rw [prettyAt]
  rfl

theorem toList_false (depth : Nat) :
    (prettyAt depth (.bool false)).toList = ['f', 'a', 'l', 's', 'e'] := by
  rw [prettyAt]
  rfl

theorem toList_emptyArray (depth : Nat) : (prettyAt depth (.array [])).toList = ['[', ']'] := by
  rw [prettyAt, prettyItems, layOut, if_pos List.isEmpty_nil]
  rfl

theorem toList_emptyObject (depth : Nat) :
    (prettyAt depth (.object [])).toList = ['\x7b', '\x7d'] := by
  rw [prettyAt, prettyMembers, layOut, if_pos List.isEmpty_nil]
  rfl

theorem toList_array (depth : Nat) (item : Json) (items : List Json) :
    (prettyAt depth (.array (item :: items))).toList =
      '[' :: ((newLine (depth + 1)).toList ++
        (joined ("," ++ newLine (depth + 1)) (prettyItems (depth + 1) (item :: items)) ++
          ((newLine depth).toList ++ [']']))) := by
  rw [prettyAt, prettyItems]
  exact layOut_toList depth '[' ']' _ _

theorem toList_object (depth : Nat) (member : String × Json) (members : List (String × Json)) :
    (prettyAt depth (.object (member :: members))).toList =
      '\x7b' :: ((newLine (depth + 1)).toList ++
        (joined ("," ++ newLine (depth + 1)) (prettyMembers (depth + 1) (member :: members)) ++
          ((newLine depth).toList ++ ['\x7d']))) := by
  rw [prettyAt, prettyMembers]
  exact layOut_toList depth '\x7b' '\x7d' _ _

theorem prettyAt_cons (value : Json) (plain : value.IsPlain) (depth : Nat) :
    ∃ c cs, (value.prettyAt depth).toList = c :: cs ∧ StartsValue c := by
  cases value with
  | null => exact ⟨_, _, toList_null depth, rfl, by decide⟩
  | bool value =>
    cases value with
    | true => exact ⟨_, _, toList_true depth, rfl, by decide⟩
    | false => exact ⟨_, _, toList_false depth, rfl, by decide⟩
  | string s => exact ⟨'"', _, by rw [prettyAt, quoted_toList], rfl, by decide⟩
  | unreadable => exact absurd plain (by simp [IsPlain])
  | number n =>
    cases n with
    | integer n =>
      obtain ⟨c, cs, written, start⟩ := text_integer_cons n
      exact ⟨c, cs, by rw [prettyAt, written], startsValue_of_digit start⟩
    | decimal => exact absurd plain (by simp [IsPlain])
  | array items =>
    cases items with
    | nil => exact ⟨_, _, toList_emptyArray depth, rfl, by decide⟩
    | cons item items => exact ⟨_, _, toList_array depth item items, rfl, by decide⟩
  | object members =>
    cases members with
    | nil => exact ⟨_, _, toList_emptyObject depth, rfl, by decide⟩
    | cons member members => exact ⟨_, _, toList_object depth member members, rfl, by decide⟩

/-- Items that are each read from what they are written as are read together. -/
theorem mapM_map_of_read {α β : Type} {encode : α → β} {decode : β → Option α} {items : List α}
    (reads : ∀ item ∈ items, decode (encode item) = some item) : (items.map encode).mapM decode = some items := by
  rw [List.mapM_map]
  induction items with
  | nil => rfl
  | cons item items ih =>
    obtain ⟨first, rest⟩ := List.forall_mem_cons.mp reads
    rw [List.mapM_cons, ih rest, Function.comp_apply, first]
    rfl

theorem objectOf_some (members : List (String × Json)) :
    objectOf (members.map fun (name, value) => (some name, value)) = .object members := by
  rw [objectOf, mapM_map_of_read]
  exact fun _ _ => rfl

/-! ## Reading step by step -/

theorem scanValue_string {fuel : Nat} {after rest : List Char} {codes : List Nat} {s : String}
    (scanned : scanString after = some (codes, rest)) (text : textOf? codes = some s) :
    scanValue (fuel + 1) ('"' :: after) = some (.string s, rest) := by
  rw [scanValue, skipBlanks_cons _ rfl]
  change (scanString after).bind _ = _
  rw [scanned, Option.bind_some]
  dsimp only
  rw [text]
  rfl

theorem scanValue_number {fuel : Nat} {c : Char} (cs : List Char) (start : c.isDigit = true ∨ c = '-') :
    scanValue (fuel + 1) (c :: cs) = scanNumber (c :: cs) := by
  rw [scanValue, skipBlanks_cons _ (startsValue_of_digit start).1]
  -- no other kind of value begins with a digit or a minus sign
  split
  all_goals first
    | rfl
    | (rename_i same; cases same; rcases start with digit | minus <;> contradiction)

theorem scanValue_bracket (fuel : Nat) (cs : List Char) :
    scanValue (fuel + 1) ('[' :: cs) =
      match skipBlanks cs with
      | ']' :: rest => some (.array [], rest)
      | rest => (scanItems fuel rest).bind fun (items, rest) => some (.array items, rest) := by
  rw [scanValue, skipBlanks_cons _ rfl]
  rfl

theorem scanValue_array {fuel : Nat} {lead after rest : List Char} {items : List Json}
    (blanks : Blanks lead) (starts : ∃ c cs, after = c :: cs ∧ StartsValue c)
    (scanned : scanItems fuel after = some (items, rest)) :
    scanValue (fuel + 1) ('[' :: (lead ++ after)) = some (.array items, rest) := by
  obtain ⟨c, cs, rfl, solid, open_⟩ := starts
  rw [scanValue_bracket, skipBlanks_append blanks, skipBlanks_cons _ solid]
  split
  · rename_i same
    cases same
    exact absurd rfl open_
  · rw [scanned]
    rfl

theorem scanValue_brace (fuel : Nat) (cs : List Char) :
    scanValue (fuel + 1) ('\x7b' :: cs) =
      match skipBlanks cs with
      | '\x7d' :: rest => some (.object [], rest)
      | rest => (scanMembers fuel rest).bind fun (members, rest) => some (objectOf members, rest) := by
  rw [scanValue, skipBlanks_cons _ rfl]
  rfl

theorem scanValue_object {fuel : Nat} {lead after rest : List Char} {members : List (String × Json)}
    (blanks : Blanks lead) (starts : ∃ cs, after = '"' :: cs)
    (scanned : scanMembers fuel after =
      some (members.map fun (name, value) => (some name, value), rest)) :
    scanValue (fuel + 1) ('\x7b' :: (lead ++ after)) = some (.object members, rest) := by
  obtain ⟨cs, rfl⟩ := starts
  rw [scanValue_brace, skipBlanks_append blanks, skipBlanks_cons _ rfl]
  change (scanMembers fuel ('"' :: cs)).bind _ = _
  rw [scanned, Option.bind_some]
  dsimp only
  rw [objectOf_some]

theorem scanItems_last {fuel : Nat} {cs tail rest : List Char} {item : Json}
    (scanned : scanValue fuel cs = some (item, tail ++ ']' :: rest)) (blanks : Blanks tail) :
    scanItems (fuel + 1) cs = some ([item], rest) := by
  rw [scanItems, scanned, Option.bind_eq_bind, Option.bind_some]
  dsimp only
  rw [skipBlanks_append blanks, skipBlanks_cons _ rfl]
  rfl

theorem scanItems_next {fuel : Nat} {cs after rest : List Char} {item : Json} {items : List Json}
    (scanned : scanValue fuel cs = some (item, ',' :: after))
    (more : scanItems fuel after = some (items, rest)) :
    scanItems (fuel + 1) cs = some (item :: items, rest) := by
  rw [scanItems, scanned]
  change (scanItems fuel after).bind _ = _
  rw [more]
  rfl

theorem scanMembers_member (fuel : Nat) (name : String) (cs : List Char) :
    scanMembers (fuel + 1) ((quoted name).toList ++ ':' :: cs) =
      (scanValue fuel cs).bind fun (value, rest) =>
        match skipBlanks rest with
        | '\x7d' :: rest => some ([(some name, value)], rest)
        | ',' :: rest =>
          (scanMembers fuel rest).bind fun (members, rest) => some ((some name, value) :: members, rest)
        | _ => none := by
  rw [quoted_toList, scanMembers, List.cons_append, skipBlanks_cons _ rfl, List.append_assoc,
    List.singleton_append]
  change (scanString _).bind _ = _
  rw [scanString_join, Option.bind_some]
  dsimp only
  rw [skipBlanks_cons _ rfl, textOf?_toNat]
  rfl

theorem scanMembers_last {fuel : Nat} {name : String} {cs tail rest : List Char} {value : Json}
    (scanned : scanValue fuel cs = some (value, tail ++ '\x7d' :: rest)) (blanks : Blanks tail) :
    scanMembers (fuel + 1) ((quoted name).toList ++ ':' :: cs) = some ([(some name, value)], rest) := by
  rw [scanMembers_member, scanned, Option.bind_some]
  dsimp only
  rw [skipBlanks_append blanks, skipBlanks_cons _ rfl]
  rfl

theorem scanMembers_next {fuel : Nat} {name : String} {cs after rest : List Char} {value : Json}
    {members : List (Option String × Json)}
    (scanned : scanValue fuel cs = some (value, ',' :: after))
    (more : scanMembers fuel after = some (members, rest)) :
    scanMembers (fuel + 1) ((quoted name).toList ++ ':' :: cs) =
      some ((some name, value) :: members, rest) := by
  rw [scanMembers_member, scanned, Option.bind_some]
  change (scanMembers fuel after).bind _ = _
  rw [more]
  rfl

/-! ## Whole values -/

theorem endsNumber_of {tail rest : List Char} {c : Char} (blanks : Blanks tail)
    (mark : c = ']' ∨ c = '\x7d') : EndsNumber (tail ++ c :: rest) := by
  intro d head
  -- the number is followed by a blank or, where there is none, by the closing mark
  have other : isBlank d = true ∨ d = ']' ∨ d = '\x7d' := by
    cases tail with
    | nil =>
      cases head
      exact .inr mark
    | cons b tail =>
      cases head
      exact .inl (blanks d List.mem_cons_self)
  simp only [isBlank, Bool.or_eq_true, decide_eq_true_eq] at other
  rcases other with (((rfl | rfl) | rfl) | rfl) | rfl | rfl <;> decide

theorem endsNumber_comma (rest : List Char) : EndsNumber (',' :: rest) := by
  intro d head
  cases head
  decide

theorem joined_start {part : String} {c : Char} {cs : List Char} (separator : String) (parts : List String)
    (written : part.toList = c :: cs) : ∃ more, joined separator (part :: parts) = c :: more := by
  cases parts with
  | nil => exact ⟨cs, by rw [joined_single, written]⟩
  | cons next parts => exact ⟨_, by rw [joined_cons, written, List.cons_append]⟩

theorem toList_separator (depth : Nat) :
    ("," ++ newLine depth).toList = ',' :: (newLine depth).toList := by
  rw [String.toList_append]
  rfl

theorem toList_member (name : String) (text : String) :
    (quoted name ++ ": " ++ text).toList = (quoted name).toList ++ ':' :: ' ' :: text.toList := by
  rw [String.toList_append, String.toList_append, List.append_assoc]
  rfl

mutual

theorem scanValue_prettyAt (value : Json) (plain : value.IsPlain) (depth fuel : Nat)
    (rest : List Char) (ends : EndsNumber rest)
    (enough : 2 * (value.prettyAt depth).toList.length ≤ fuel) :
    scanValue fuel ((value.prettyAt depth).toList ++ rest) = some (value, rest) := by
  -- a value has a first character, so there is fuel for a step; the induction is on the fuel, of which
  -- each value, list of items and list of members takes one unit
  obtain ⟨c, cs, written, _⟩ := prettyAt_cons value plain depth
  obtain ⟨fuel, rfl⟩ : ∃ left, fuel = left + 1 := by
    refine ⟨fuel - 1, ?_⟩
    rw [written, List.length_cons] at enough
    omega
  cases value with
  | null =>
    rw [toList_null, scanValue]
    rfl
  | bool value =>
    cases value with
    | true =>
      rw [toList_true, scanValue]
      rfl
    | false =>
      rw [toList_false, scanValue]
      rfl
  | string s =>
    rw [prettyAt, quoted_toList, List.cons_append, List.append_assoc]
    exact scanValue_string (scanString_join _ _) (textOf?_toNat s)
  | unreadable => exact absurd plain (by simp [IsPlain])
  | number n =>
    cases n with
    | integer n =>
      obtain ⟨c, cs, written, start⟩ := text_integer_cons n
      have scanned := scanNumber_integer (by simpa [IsPlain] using plain) ends
      rw [prettyAt, written, List.cons_append, scanValue_number _ start]
      rwa [written, List.cons_append] at scanned
    | decimal => exact absurd plain (by simp [IsPlain])
  | array items =>
    cases items with
    | nil =>
      rw [toList_emptyArray, scanValue]
      rfl
    | cons item items =>
      rw [IsPlain] at plain
      rw [toList_array] at enough ⊢
      -- the two brackets pay for the step into the items
      simp only [List.length_cons, List.length_append, List.length_nil] at enough
      simp only [List.cons_append, List.append_assoc, List.nil_append]
      obtain ⟨c, cs, first, start⟩ := prettyAt_cons item plain.1 (depth + 1)
      obtain ⟨more, text⟩ := joined_start ("," ++ newLine (depth + 1))
        (prettyItems (depth + 1) items) first
      refine scanValue_array (blanks_newLine _)
        ⟨c, more ++ ((newLine depth).toList ++ ']' :: rest), ?_, start⟩
        (scanItems_prettyItems item items plain (depth + 1) fuel _ rest (blanks_newLine _) (by omega))
      rw [prettyItems, text, List.cons_append]
  | object members =>
    cases members with
    | nil =>
      rw [toList_emptyObject, scanValue]
      rfl
    | cons member members =>
      obtain ⟨name, value⟩ := member
      rw [IsPlain] at plain
      rw [toList_object] at enough ⊢
      simp only [List.length_cons, List.length_append, List.length_nil] at enough
      simp only [List.cons_append, List.append_assoc, List.nil_append]
      have first := toList_member name (value.prettyAt (depth + 1))
      rw [quoted_toList, List.cons_append] at first
      obtain ⟨more, text⟩ := joined_start ("," ++ newLine (depth + 1))
        (prettyMembers (depth + 1) members) first
      refine scanValue_object (blanks_newLine _) ⟨more ++ ((newLine depth).toList ++ '\x7d' :: rest), ?_⟩
        (scanMembers_prettyMembers name value members plain (depth + 1) fuel _ rest (blanks_newLine _)
          (by omega))
      rw [prettyMembers, text, List.cons_append]
  termination_by fuel
  decreasing_by all_goals omega

theorem scanItems_prettyItems (item : Json) (items : List Json) (plain : AllPlain (item :: items))
    (depth fuel : Nat) (tail rest : List Char) (blanks : Blanks tail)
    (enough : 2 * (joined ("," ++ newLine depth) (prettyItems depth (item :: items))).length < fuel) :
    scanItems fuel (joined ("," ++ newLine depth) (prettyItems depth (item :: items)) ++
      (tail ++ ']' :: rest)) = some (item :: items, rest) := by
  obtain ⟨fuel, rfl⟩ : ∃ left, fuel = left + 1 := ⟨fuel - 1, by omega⟩
  cases items with
  | nil =>
    rw [prettyItems, prettyItems, joined_single] at enough ⊢
    exact scanItems_last (scanValue_prettyAt item plain.1 depth fuel _
      (endsNumber_of blanks (.inl rfl)) (by omega)) blanks
  | cons next items =>
    rw [prettyItems, prettyItems, joined_cons, ← prettyItems] at enough ⊢
    rw [toList_separator] at enough ⊢
    simp only [List.length_append, List.length_cons] at enough
    simp only [List.append_assoc, List.cons_append]
    refine scanItems_next (scanValue_prettyAt item plain.1 depth fuel _ (endsNumber_comma _) (by omega)) ?_
    -- the new line after the comma is skipped before the next item
    rw [scanItems_blanks (blanks_newLine depth)]
    exact scanItems_prettyItems next items plain.2 depth fuel tail rest blanks (by omega)
  termination_by fuel
  decreasing_by all_goals omega

theorem scanMembers_prettyMembers (name : String) (value : Json) (members : List (String × Json))
    (plain : MembersPlain ((name, value) :: members))
    (depth fuel : Nat) (tail rest : List Char) (blanks : Blanks tail)
    (enough :
      2 * (joined ("," ++ newLine depth) (prettyMembers depth ((name, value) :: members))).length < fuel) :
    scanMembers fuel (joined ("," ++ newLine depth) (prettyMembers depth ((name, value) :: members)) ++
      (tail ++ '\x7d' :: rest)) =
        some (((name, value) :: members).map fun (name, value) => (some name, value), rest) := by
  obtain ⟨fuel, rfl⟩ : ∃ left, fuel = left + 1 := ⟨fuel - 1, by omega⟩
  have space : Blanks [' '] := by simp [Blanks, isBlank]
  cases members with
  | nil =>
    rw [prettyMembers, prettyMembers, joined_single, toList_member] at enough ⊢
    simp only [List.length_append, List.length_cons] at enough
    simp only [List.append_assoc, List.cons_append]
    refine scanMembers_last ?_ blanks
    rw [← List.singleton_append, scanValue_blanks space]
    exact scanValue_prettyAt value plain.1 depth fuel _ (endsNumber_of blanks (.inr rfl)) (by omega)
  | cons next members =>
    obtain ⟨other, after⟩ := next
    rw [prettyMembers, prettyMembers, joined_cons, ← prettyMembers, toList_member] at enough ⊢
    rw [toList_separator] at enough ⊢
    simp only [List.length_append, List.length_cons] at enough
    simp only [List.append_assoc, List.cons_append]
    have scanned := scanValue_prettyAt value plain.1 depth fuel _
      (endsNumber_comma ((newLine depth).toList ++ (joined ("," ++ newLine depth)
        (prettyMembers depth ((other, after) :: members)) ++ (tail ++ '\x7d' :: rest)))) (by omega)
    have later := scanMembers_prettyMembers other after members plain.2 depth fuel tail rest blanks
      (by omega)
    -- the blank after the colon and the new line after the comma are skipped
    rw [← scanValue_blanks space, List.singleton_append] at scanned
    rw [← scanMembers_blanks (blanks_newLine depth)] at later
    exact scanMembers_next scanned later
  termination_by fuel
  decreasing_by all_goals omega

end

/-- A value is read from the text that is written for it. -/
theorem parse?_pretty {value : Json} (plain : value.IsPlain) : parse? value.pretty = some value := by
  have read := scanValue_prettyAt value plain 0 (2 * value.pretty.toList.length + 2) []
    (by simp [EndsNumber]) (Nat.le_add_right _ _)
  rw [List.append_nil, ← pretty] at read
  rw [parse?]
  change (scanValue _ value.pretty.toList).bind _ = _
  rw [read]
  rfl

end CloudBalance.Json
