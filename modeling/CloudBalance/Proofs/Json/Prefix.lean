import CloudBalance.Proofs.Json.Printer
import CloudBalance.Proofs.Text.Broken
import Mathlib.Data.List.TakeWhile

/-!
# Texts that break off

What has been read does not depend on what comes after it, except that a number goes on as long as digits come.
Main statement: the text of an object, broken off anywhere, is not the text of a value.
-/

namespace CloudBalance.Json

variable {cs rest more : List Char}

/-! ## Parts of a value -/

theorem dropWhile_extend (more : List Char) {p : Char → Bool} (stops : cs.dropWhile p ≠ []) :
    (cs ++ more).dropWhile p = cs.dropWhile p ++ more ∧ (cs ++ more).takeWhile p = cs.takeWhile p := by
  induction cs with
  | nil => exact absurd rfl stops
  | cons c cs ih =>
    rw [List.cons_append, List.dropWhile_cons, List.takeWhile_cons, List.dropWhile_cons, List.takeWhile_cons]
    rw [List.dropWhile_cons] at stops
    cases holds : p c with
    | true =>
      rw [holds, if_pos rfl] at stops
      obtain ⟨dropped, taken⟩ := ih stops
      exact ⟨dropped, by simp [taken]⟩
    | false => exact ⟨rfl, rfl⟩

theorem skipBlanks_extend {c : Char} (skipped : skipBlanks cs = c :: rest) :
    skipBlanks (cs ++ more) = c :: (rest ++ more) := by
  have stops : cs.dropWhile isBlank ≠ [] := by
    rw [show cs.dropWhile isBlank = c :: rest from skipped]
    exact List.cons_ne_nil _ _
  rw [skipBlanks, (dropWhile_extend more stops).1]
  exact congrArg (· ++ more) skipped

theorem scanString_hex (a b c d : Char) (cs : List Char) :
    scanString ('\\' :: 'u' :: a :: b :: c :: d :: cs) =
      (hexCode? a b c d).bind fun code => (scanString cs).map fun (codes, after) => (code :: codes, after) := by
  rw [scanString.eq_2]
  cases hexCode? a b c d <;> cases scanString cs <;> rfl

theorem scanString_plain {c : Char} (cs : List Char) (quote : c ≠ '"') (backslash : c ≠ '\\')
    (control : ¬ c.toNat < 0x20) :
    scanString (c :: cs) = (scanString cs).map fun (codes, after) => (c.toNat :: codes, after) := by
  rw [scanString.eq_4 c cs quote (fun _ _ _ _ _ same _ => backslash same) fun _ _ same _ => backslash same,
    if_neg (by simp [control, backslash])]
  cases scanString cs <;> rfl

theorem scanString_extend {codes : List Nat} (scanned : scanString cs = some (codes, rest)) :
    scanString (cs ++ more) = some (codes, rest ++ more) := by
  induction cs using scanString.induct generalizing codes rest with
  | case1 after =>
    rw [scanString.eq_1] at scanned
    cases scanned
    exact scanString.eq_1 _
  | case2 a b c d after ih =>
    rw [scanString_hex] at scanned
    obtain ⟨code, given, scanned⟩ := Option.bind_eq_some_iff.mp scanned
    obtain ⟨⟨codes, rest⟩, later, same⟩ := Option.map_eq_some_iff.mp scanned
    cases same
    simp only [List.cons_append]
    rw [scanString_hex, given, ih later]
    rfl
  | case3 letter after other ih =>
    have ordinary : letter ≠ 'u' := by
      rintro rfl
      rw [scanString.eq_3 _ _ other] at scanned
      cases scanned
    obtain ⟨c, stands⟩ : ∃ c, escape? letter = some c := by
      rw [scanString.eq_3 _ _ other] at scanned
      obtain ⟨c, stands, _⟩ := Option.bind_eq_some_iff.mp scanned
      exact ⟨c, stands⟩
    rw [scanString_escape _ ordinary stands] at scanned
    obtain ⟨⟨codes, rest⟩, later, same⟩ := Option.map_eq_some_iff.mp scanned
    cases same
    simp only [List.cons_append]
    rw [scanString_escape _ ordinary stands, ih later]
    rfl
  | case4 c after quote hex escape refused ih =>
    rw [scanString.eq_4 _ _ quote hex escape, if_pos refused] at scanned
    cases scanned
  | case5 c after quote hex escape taken ih =>
    simp only [Bool.or_eq_true, decide_eq_true_eq, not_or] at taken
    rw [scanString_plain _ quote taken.2 taken.1] at scanned
    obtain ⟨⟨codes, rest⟩, later, same⟩ := Option.map_eq_some_iff.mp scanned
    cases same
    rw [List.cons_append, scanString_plain _ quote taken.2 taken.1, ih later]
    rfl
  | case6 =>
    rw [scanString.eq_5] at scanned
    cases scanned

/-! ## Numbers -/

/-- Digits, of which there must be one. -/
def scanDigits (cs : List Char) : Option (List Char × List Char) :=
  match cs.takeWhile Char.isDigit with
  | [] => none
  | digits => some (digits, cs.dropWhile Char.isDigit)

theorem scanDigits_eq_some {digits : List Char} : scanDigits cs = some (digits, rest) ↔
    digits ≠ [] ∧ cs.takeWhile Char.isDigit = digits ∧ cs.dropWhile Char.isDigit = rest := by
  rw [scanDigits]
  cases cs.takeWhile Char.isDigit with
  | nil => simp +contextual [eq_comm]
  | cons c more => simp +contextual [eq_comm, and_comm]

theorem scanDigits_extend {digits : List Char} (stops : rest ≠ []) (scanned : scanDigits cs = some (digits, rest)) :
    scanDigits (cs ++ more) = some (digits, rest ++ more) := by
  obtain ⟨present, taken, rfl⟩ := scanDigits_eq_some.mp scanned
  obtain ⟨dropped, same⟩ := dropWhile_extend more stops
  exact scanDigits_eq_some.mpr ⟨present, same.trans taken, dropped⟩

theorem scanFraction_extend {fraction : List Char} (stops : rest ≠ [])
    (scanned : scanFraction cs = some (fraction, rest)) :
    scanFraction (cs ++ more) = some (fraction, rest ++ more) := by
  cases cs with
  | nil =>
    cases scanned
    exact absurd rfl stops
  | cons c cs =>
    by_cases point : c = '.'
    · subst point
      exact scanDigits_extend stops scanned
    · have other : ∀ after, scanFraction (c :: after) = some ([], c :: after) :=
        fun after => scanFraction.eq_2 _ fun _ same => point (List.cons.inj same).1
      rw [other] at scanned
      cases scanned
      exact other _

/-- A sign that may be left out, and what comes after it. -/
def afterSign : List Char → Bool × List Char
  | '-' :: rest => (true, rest)
  | '+' :: rest => (false, rest)
  | rest => (false, rest)

theorem afterSign_extend (stops : (afterSign cs).2 ≠ []) :
    afterSign (cs ++ more) = ((afterSign cs).1, (afterSign cs).2 ++ more) := by
  cases cs with
  | nil => exact absurd rfl stops
  | cons c cs =>
    by_cases minus : c = '-'
    · subst minus
      rfl
    · by_cases plus : c = '+'
      · subst plus
        rfl
      · have plain : ∀ after, afterSign (c :: after) = (false, c :: after) := fun after =>
          afterSign.eq_3 _ (fun _ same => minus (List.cons.inj same).1) fun _ same => plus (List.cons.inj same).1
        rw [plain, List.cons_append, plain]

theorem scanExponent_mark {c : Char} (mark : c = 'e' ∨ c = 'E') (cs : List Char) :
    scanExponent (c :: cs) = (scanDigits (afterSign cs).2).map fun (digits, rest) =>
      ((if (afterSign cs).1 then -(Text.natOfDigits digits : Int) else Text.natOfDigits digits, true), rest) := by
  unfold scanExponent
  dsimp only
  rw [if_pos (by simpa using mark)]
  change (match (afterSign cs).2.takeWhile Char.isDigit with
    | [] => none
    | digits => some ((if (afterSign cs).1 then -(Text.natOfDigits digits : Int) else Text.natOfDigits digits, true),
      (afterSign cs).2.dropWhile Char.isDigit)) = _
  rw [scanDigits]
  cases (afterSign cs).2.takeWhile Char.isDigit <;> rfl

theorem scanExponent_extend {exponent : Int × Bool} (stops : rest ≠ [])
    (scanned : scanExponent cs = some (exponent, rest)) :
    scanExponent (cs ++ more) = some (exponent, rest ++ more) := by
  cases cs with
  | nil =>
    cases scanned
    exact absurd rfl stops
  | cons c cs =>
    by_cases mark : c = 'e' ∨ c = 'E'
    · rw [scanExponent_mark mark] at scanned
      obtain ⟨⟨digits, after⟩, found, same⟩ := Option.map_eq_some_iff.mp scanned
      cases same
      have present : (afterSign cs).2 ≠ [] := by
        intro empty
        rw [empty] at found
        cases found
      rw [List.cons_append, scanExponent_mark mark, afterSign_extend present, scanDigits_extend stops found]
      rfl
    · have other : ∀ after, scanExponent (c :: after) = some ((0, false), c :: after) := by
        intro after
        unfold scanExponent
        exact if_neg (by simpa using mark)
      rw [other] at scanned
      cases scanned
      exact other _

/-- A minus sign that may be left out, and what comes after it. -/
def afterMinus : List Char → Bool × List Char
  | '-' :: rest => (true, rest)
  | rest => (false, rest)

/-- The digits before the point, of which there must be one, and a zero at the front is all there is. -/
def isWhole (digits : List Char) : Bool :=
  !(digits.isEmpty || digits.head? = some '0' && 1 < digits.length)

theorem scanNumber_eq (cs : List Char) : scanNumber cs =
    if isWhole ((afterMinus cs).2.takeWhile Char.isDigit) then
      (scanFraction ((afterMinus cs).2.dropWhile Char.isDigit)).bind fun (fraction, after) =>
        (scanExponent after).map fun ((exponent, written), rest) =>
          (numberOf (afterMinus cs).1 ((afterMinus cs).2.takeWhile Char.isDigit) fraction exponent
            (fraction.isEmpty && !written), rest)
    else none := by
  unfold scanNumber
  split
  rename_i negative digits same
  have parts : afterMinus cs = (negative, digits) := same
  rw [parts]
  dsimp only
  rw [isWhole]
  generalize digits.takeWhile Char.isDigit = whole
  cases (whole.isEmpty || whole.head? = some '0' && 1 < whole.length) with
  | true => rfl
  | false =>
    cases scanFraction (digits.dropWhile Char.isDigit) with
    | none => rfl
    | some found =>
      change (scanExponent found.2).bind _ = (scanExponent found.2).map _
      cases scanExponent found.2 <;> rfl

theorem afterMinus_extend (stops : (afterMinus cs).2 ≠ []) :
    afterMinus (cs ++ more) = ((afterMinus cs).1, (afterMinus cs).2 ++ more) := by
  cases cs with
  | nil => exact absurd rfl stops
  | cons c cs =>
    by_cases minus : c = '-'
    · subst minus
      rfl
    · have plain : ∀ after, afterMinus (c :: after) = (false, c :: after) := fun after =>
        afterMinus.eq_2 _ fun _ same => minus (List.cons.inj same).1
      rw [plain, List.cons_append, plain]

theorem scanNumber_extend {value : Json} (stops : rest ≠ []) (scanned : scanNumber cs = some (value, rest)) :
    scanNumber (cs ++ more) = some (value, rest ++ more) := by
  rw [scanNumber_eq] at scanned
  split at scanned
  · rename_i whole
    obtain ⟨⟨fraction, after⟩, first, later⟩ := Option.bind_eq_some_iff.mp scanned
    obtain ⟨⟨exponent, last⟩, second, same⟩ := Option.map_eq_some_iff.mp later
    cases same
    -- nothing of the number is at the end of the text
    have present : after ≠ [] := by
      rintro rfl
      cases second
      exact stops rfl
    have digits : (afterMinus cs).2.dropWhile Char.isDigit ≠ [] := by
      intro empty
      rw [empty] at first
      cases first
      exact present rfl
    have start : (afterMinus cs).2 ≠ [] := by
      intro empty
      rw [empty] at digits
      exact digits rfl
    obtain ⟨dropped, taken⟩ := dropWhile_extend more digits
    rw [scanNumber_eq, afterMinus_extend start]
    dsimp only
    rw [taken, if_pos whole, dropped, scanFraction_extend present first, Option.bind_some]
    dsimp only
    rw [scanExponent_extend stops second]
    rfl
  · cases scanned

theorem scanNumber_start {value : Json} (scanned : scanNumber cs = some (value, rest)) :
    ∃ c tail, cs = c :: tail ∧ (c.isDigit = true ∨ c = '-') := by
  cases cs with
  | nil => cases scanned
  | cons c tail =>
    refine ⟨c, tail, rfl, ?_⟩
    by_cases minus : c = '-'
    · exact .inr minus
    · have plain : afterMinus (c :: tail) = (false, c :: tail) :=
        afterMinus.eq_2 _ fun _ same => minus (List.cons.inj same).1
      rw [scanNumber_eq, plain] at scanned
      dsimp only at scanned
      cases digit : c.isDigit with
      | true => exact .inl rfl
      | false =>
        rw [List.takeWhile_cons_of_neg (by simp [digit])] at scanned
        cases scanned

/-! ## Values -/

theorem scanValue_skipBlanks (fuel : Nat) (cs : List Char) : scanValue fuel (skipBlanks cs) = scanValue fuel cs := by
  have blanks : Blanks (cs.takeWhile isBlank) := fun c member => List.mem_takeWhile_imp member
  rw [← scanValue_blanks blanks fuel (skipBlanks cs), skipBlanks, List.takeWhile_append_dropWhile]

theorem skipBlanks_solid {c : Char} (skipped : skipBlanks cs = c :: rest) : isBlank c = false := by
  have solid := List.head?_dropWhile_not isBlank cs
  rw [show cs.dropWhile isBlank = c :: rest from skipped] at solid
  simpa using solid

theorem scanValue_nil (fuel : Nat) : scanValue fuel [] = none := by
  cases fuel <;> rfl

theorem scanItems_nil (fuel : Nat) : scanItems fuel [] = none := by
  cases fuel with
  | zero => rfl
  | succ fuel =>
    rw [scanItems, scanValue_nil]
    rfl

theorem scanMembers_nil (fuel : Nat) : scanMembers fuel [] = none := by
  cases fuel <;> rfl

theorem scanValue_quote (fuel : Nat) (cs : List Char) :
    scanValue (fuel + 1) ('"' :: cs) = (scanString cs).map fun (codes, rest) =>
      (((textOf? codes).map .string).getD .unreadable, rest) := by
  rw [scanValue, skipBlanks_cons _ rfl]
  change (scanString cs).bind _ = _
  cases scanString cs <;> rfl

theorem scanValue_items {fuel : Nat} {c : Char} (skipped : skipBlanks cs = c :: rest) (open_ : c ≠ ']') :
    scanValue (fuel + 1) ('[' :: cs) =
      (scanItems fuel (c :: rest)).bind fun (items, rest) => some (.array items, rest) := by
  rw [scanValue_bracket, skipped]
  split
  · rename_i same
    cases same
    exact absurd rfl open_
  · rfl

theorem scanValue_members {fuel : Nat} {c : Char} (skipped : skipBlanks cs = c :: rest) (open_ : c ≠ '\x7d') :
    scanValue (fuel + 1) ('\x7b' :: cs) =
      (scanMembers fuel (c :: rest)).bind fun (members, rest) => some (objectOf members, rest) := by
  rw [scanValue_brace, skipped]
  split
  · rename_i same
    cases same
    exact absurd rfl open_
  · rfl

section
variable {fuel fuel' : Nat} {value : Json}

/-- An array is read to its closing bracket if its items are. -/
theorem scanValue_bracket_extend (more : List Char)
    (extend : ∀ {cs rest items}, scanItems fuel cs = some (items, rest) →
      scanItems fuel' (cs ++ more) = some (items, rest ++ more))
    (scanned : scanValue (fuel + 1) ('[' :: cs) = some (value, rest)) :
    scanValue (fuel' + 1) ('[' :: (cs ++ more)) = some (value, rest ++ more) := by
  cases skipped : skipBlanks cs with
  | nil =>
    rw [scanValue_bracket, skipped] at scanned
    change (scanItems fuel []).bind _ = _ at scanned
    rw [scanItems_nil] at scanned
    cases scanned
  | cons c tail =>
    by_cases close : c = ']'
    · subst close
      rw [scanValue_bracket, skipped] at scanned
      cases scanned
      rw [scanValue_bracket, skipBlanks_extend skipped]
      rfl
    · rw [scanValue_items skipped close] at scanned
      obtain ⟨⟨items, after⟩, found, same⟩ := Option.bind_eq_some_iff.mp scanned
      cases same
      rw [scanValue_items (skipBlanks_extend skipped) close, ← List.cons_append, extend found]
      rfl

/-- An object is read to its closing brace if its members are. -/
theorem scanValue_brace_extend (more : List Char)
    (extend : ∀ {cs rest members}, scanMembers fuel cs = some (members, rest) →
      scanMembers fuel' (cs ++ more) = some (members, rest ++ more))
    (scanned : scanValue (fuel + 1) ('\x7b' :: cs) = some (value, rest)) :
    scanValue (fuel' + 1) ('\x7b' :: (cs ++ more)) = some (value, rest ++ more) := by
  cases skipped : skipBlanks cs with
  | nil =>
    rw [scanValue_brace, skipped] at scanned
    change (scanMembers fuel []).bind _ = _ at scanned
    rw [scanMembers_nil] at scanned
    cases scanned
  | cons c tail =>
    by_cases close : c = '\x7d'
    · subst close
      rw [scanValue_brace, skipped] at scanned
      cases scanned
      rw [scanValue_brace, skipBlanks_extend skipped]
      rfl
    · rw [scanValue_members skipped close] at scanned
      obtain ⟨⟨members, after⟩, found, same⟩ := Option.bind_eq_some_iff.mp scanned
      cases same
      rw [scanValue_members (skipBlanks_extend skipped) close, ← List.cons_append, extend found]
      rfl

end

section
variable {α : Type} {close : Char} {scan scan' : List Char → Option (List α × List Char)} {entry : α} {entries : List α}

/-- After an entry come the end of its array or object, or a comma and more entries. -/
def Continues (close : Char) (scan : List Char → Option (List α × List Char)) (entry : α) (cs : List Char)
    (entries : List α) (rest : List Char) : Prop :=
  (skipBlanks cs = close :: rest ∧ entries = [entry]) ∨
    ∃ after found, skipBlanks cs = ',' :: after ∧ scan after = some (found, rest) ∧ entries = entry :: found

theorem Continues.ne_nil (continues : Continues close scan entry cs entries rest) : cs ≠ [] := by
  rintro rfl
  obtain ⟨closes, _⟩ | ⟨_, _, comma, _⟩ := continues
  · cases closes
  · cases comma

theorem Continues.extend (extend : ∀ {cs rest entries}, scan cs = some (entries, rest) →
      scan' (cs ++ more) = some (entries, rest ++ more))
    (continues : Continues close scan entry cs entries rest) :
    Continues close scan' entry (cs ++ more) entries (rest ++ more) := by
  obtain ⟨closes, same⟩ | ⟨after, found, comma, scanned, same⟩ := continues
  · exact .inl ⟨skipBlanks_extend closes, same⟩
  · exact .inr ⟨after ++ more, found, skipBlanks_extend comma, extend scanned, same⟩

end

theorem scanItems_eq_some {fuel : Nat} {items : List Json} : scanItems (fuel + 1) cs = some (items, rest) ↔
    ∃ item left, scanValue fuel cs = some (item, left) ∧ Continues ']' (scanItems fuel) item left items rest := by
  rw [scanItems, Option.bind_eq_bind, Option.bind_eq_some_iff]
  constructor
  · rintro ⟨⟨item, left⟩, first, later⟩
    refine ⟨item, left, first, ?_⟩
    dsimp only at later
    split at later
    · rename_i closes
      cases later
      exact .inl ⟨closes, rfl⟩
    · rename_i comma
      obtain ⟨⟨found, _⟩, scanned, same⟩ := Option.bind_eq_some_iff.mp later
      cases same
      exact .inr ⟨_, found, comma, scanned, rfl⟩
    · cases later
  · rintro ⟨item, left, first, ⟨closes, rfl⟩ | ⟨after, found, comma, scanned, rfl⟩⟩
    · refine ⟨(item, left), first, ?_⟩
      dsimp only
      rw [closes]
      rfl
    · refine ⟨(item, left), first, ?_⟩
      dsimp only
      rw [comma]
      exact Option.bind_eq_some_iff.mpr ⟨(found, rest), scanned, rfl⟩

/-- A member begins with its name and a colon. -/
theorem scanMembers_eq_some {fuel : Nat} {members : List (Option String × Json)} :
    scanMembers (fuel + 1) cs = some (members, rest) ↔
      ∃ tail codes named after value left, skipBlanks cs = '"' :: tail ∧ scanString tail = some (codes, named) ∧
        skipBlanks named = ':' :: after ∧ scanValue fuel after = some (value, left) ∧
        Continues '\x7d' (scanMembers fuel) (textOf? codes, value) left members rest := by
  rw [scanMembers]
  constructor
  · intro scanned
    split at scanned
    · rename_i tail opens
      obtain ⟨⟨codes, named⟩, name, later⟩ := Option.bind_eq_some_iff.mp scanned
      dsimp only at later
      split at later
      · rename_i after colon
        obtain ⟨⟨value, left⟩, first, later⟩ := Option.bind_eq_some_iff.mp later
        refine ⟨tail, codes, named, after, value, left, opens, name, colon, first, ?_⟩
        dsimp only at later
        split at later
        · rename_i closes
          cases later
          exact .inl ⟨closes, rfl⟩
        · rename_i comma
          obtain ⟨⟨found, _⟩, read, same⟩ := Option.bind_eq_some_iff.mp later
          cases same
          exact .inr ⟨_, found, comma, read, rfl⟩
        · cases later
      · cases later
    · cases scanned
  · rintro ⟨tail, codes, named, after, value, left, opens, name, colon, first, continues⟩
    rw [opens]
    refine Option.bind_eq_some_iff.mpr ⟨(codes, named), name, ?_⟩
    dsimp only
    rw [colon]
    refine Option.bind_eq_some_iff.mpr ⟨(value, left), first, ?_⟩
    dsimp only
    obtain ⟨closes, rfl⟩ | ⟨later, found, comma, scanned, rfl⟩ := continues
    · rw [closes]
      rfl
    · rw [comma]
      exact Option.bind_eq_some_iff.mpr ⟨(found, rest), scanned, rfl⟩

mutual

/-- A value that does not end with the text is read in the same way from a longer text. -/
theorem scanValue_extend {fuel fuel' : Nat} (more : List Char) (enough : fuel ≤ fuel') {cs rest : List Char}
    {value : Json} (stops : rest ≠ []) (scanned : scanValue fuel cs = some (value, rest)) :
    scanValue fuel' (cs ++ more) = some (value, rest ++ more) := by
  match fuel, fuel' with
  | 0, _ => cases scanned
  | fuel + 1, fuel' + 1 =>
    have enough : fuel ≤ fuel' := Nat.le_of_succ_le_succ enough
    rw [← scanValue_skipBlanks] at scanned ⊢
    cases skipped : skipBlanks cs with
    | nil =>
      rw [skipped, scanValue_nil] at scanned
      cases scanned
    | cons c tail =>
      rw [skipped] at scanned
      rw [skipBlanks_extend skipped]
      have read := scanned
      rw [scanValue, skipBlanks_cons _ (skipBlanks_solid skipped)] at scanned
      -- one case for each kind of value, by how it starts
      split at scanned
      case h_1 | h_2 | h_3 =>
        rename_i same
        cases same
        cases scanned
        rw [scanValue]
        rfl
      case h_4 =>
        rename_i same
        cases same
        rw [scanValue_quote] at read ⊢
        obtain ⟨⟨codes, after⟩, found, same⟩ := Option.map_eq_some_iff.mp read
        cases same
        rw [scanString_extend found]
        rfl
      case h_5 =>
        rename_i same
        cases same
        exact scanValue_bracket_extend more (scanItems_extend more enough) read
      case h_6 =>
        rename_i same
        cases same
        exact scanValue_brace_extend more (scanMembers_extend more enough) read
      case h_7 =>
        obtain ⟨_, _, same, start⟩ := scanNumber_start scanned
        cases same
        rw [scanValue_number _ start]
        exact scanNumber_extend stops scanned
  termination_by fuel
  decreasing_by all_goals omega

theorem scanItems_extend {fuel fuel' : Nat} (more : List Char) (enough : fuel ≤ fuel') {cs rest : List Char}
    {items : List Json} (scanned : scanItems fuel cs = some (items, rest)) :
    scanItems fuel' (cs ++ more) = some (items, rest ++ more) := by
  match fuel, fuel' with
  | 0, _ => cases scanned
  | fuel + 1, fuel' + 1 =>
    have enough : fuel ≤ fuel' := Nat.le_of_succ_le_succ enough
    obtain ⟨item, left, first, continues⟩ := scanItems_eq_some.mp scanned
    have later := continues.extend (scanItems_extend more enough)
    exact scanItems_eq_some.mpr ⟨item, left ++ more, scanValue_extend more enough continues.ne_nil first, later⟩
  termination_by fuel
  decreasing_by all_goals omega

theorem scanMembers_extend {fuel fuel' : Nat} (more : List Char) (enough : fuel ≤ fuel') {cs rest : List Char}
    {members : List (Option String × Json)} (scanned : scanMembers fuel cs = some (members, rest)) :
    scanMembers fuel' (cs ++ more) = some (members, rest ++ more) := by
  match fuel, fuel' with
  | 0, _ => cases scanned
  | fuel + 1, fuel' + 1 =>
    have enough : fuel ≤ fuel' := Nat.le_of_succ_le_succ enough
    obtain ⟨tail, codes, named, after, value, left, opens, name, colon, first, continues⟩ :=
      scanMembers_eq_some.mp scanned
    have read := scanValue_extend more enough continues.ne_nil first
    have later := continues.extend (scanMembers_extend more enough)
    exact scanMembers_eq_some.mpr ⟨tail ++ more, codes, named ++ more, after ++ more, value, left ++ more,
      skipBlanks_extend opens, scanString_extend name, skipBlanks_extend colon, read, later⟩
  termination_by fuel
  decreasing_by all_goals omega

end

/-! ## Objects -/

theorem pretty_object (members : List (String × Json)) :
    ∃ tail, (object members).pretty.toList = '\x7b' :: tail := by
  cases members with
  | nil => exact ⟨_, toList_emptyObject 0⟩
  | cons member members => exact ⟨_, toList_object 0 member members⟩

/-- The text of an object that breaks off is not the text of a value. -/
theorem parse?_broken {members : List (String × Json)} (plain : (object members).IsPlain) {part : String}
    {more : List Char} (broken : (object members).pretty.toList = part.toList ++ more) (short : more ≠ []) :
    parse? part = none := by
  rw [parse?, Option.bind_eq_bind, Option.bind_eq_none_iff]
  rintro ⟨value, rest⟩ scanned
  obtain ⟨tail, opens⟩ := pretty_object members
  cases read : part.toList with
  | nil =>
    rw [read, scanValue_nil] at scanned
    cases scanned
  | cons c cs =>
    obtain rfl : c = '\x7b' := by
      rw [opens, read] at broken
      exact (List.cons.inj broken).1.symm
    rw [read] at scanned broken
    -- the whole text would be read to the same brace, but it is read to its end
    have enough : 2 * ('\x7b' :: cs).length + 1 ≤ 2 * (object members).pretty.toList.length + 1 := by
      rw [broken, List.length_append]
      omega
    have same := scanValue_brace_extend more (scanMembers_extend more enough) scanned
    have whole := scanValue_prettyAt _ plain 0 (2 * (object members).pretty.toList.length + 2) []
      (by simp [EndsNumber]) (Nat.le_add_right _ _)
    rw [← pretty, List.append_nil, broken] at whole
    rw [broken] at same
    have left := congrArg Prod.snd (Option.some.inj (same.symm.trans whole))
    exact absurd (List.append_eq_nil_iff.mp left).2 short

/-- The same of its bytes. -/
theorem parse?_torn {members : List (String × Json)} (plain : (object members).IsPlain) {part more : ByteArray}
    (begun : Text.encode (object members).pretty = part ++ more) (short : more.size ≠ 0) {text : String}
    (read : Text.decode? part = some text) : parse? text = none := by
  obtain ⟨rest, present, joined⟩ := Text.decode?_broken begun short read
  have cut : (object members).pretty.toList = text.toList ++ rest.toList := by
    rw [joined, String.toList_append]
  exact parse?_broken plain cut (by simpa using present)

end CloudBalance.Json
