import CloudBalance.Text.Digits

/-!
# Digits that are written and read

Numbers are written by the digits of `Nat.toDigits`. Main statement: these digits stand for the number,
and only zero starts with a zero.
-/

namespace CloudBalance.Text

theorem digit?_digitChar {base d : Nat} (small : d < base) (few : base ≤ 16) :
    digit? base d.digitChar = some d := by
  have : ∀ base ≤ 16, ∀ d < base, digit? base d.digitChar = some d := by decide +kernel
  exact this base few d small

theorem ofDigits_append {base : Nat} (first rest : List Nat) :
    ofDigits base (first ++ rest) = rest.foldl (fun n d => n * base + d) (ofDigits base first) :=
  List.foldl_append

/-- The digits of a number as numbers. -/
theorem exists_digits (base : Nat) (many : 1 < base) (n : Nat) :
    ∃ digits : List Nat, Nat.toDigits base n = digits.map Nat.digitChar ∧ (∀ d ∈ digits, d < base) ∧
      ofDigits base digits = n ∧ digits ≠ [] ∧ (digits.head? = some 0 → digits = [0]) := by
  induction n using Nat.strongRecOn with
  | _ n ih =>
    rw [Nat.toDigits_eq_if many]
    by_cases small : n < base
    · rw [if_pos small]
      exact ⟨[n], rfl, by simpa using small, by simp [ofDigits], by simp, by simp⟩
    · have positive : 0 < n / base := Nat.div_pos (by omega) (by omega)
      obtain ⟨digits, written, bounded, value, some_digits, leading⟩ :=
        ih (n / base) (Nat.div_lt_self (by omega) many)
      rw [if_neg small, written]
      refine ⟨digits ++ [n % base], by simp, ?_, ?_, by simp, ?_⟩
      · intro d member
        rcases List.mem_append.mp member with early | last
        · exact bounded d early
        · rw [List.mem_singleton.mp last]
          exact Nat.mod_lt n (by omega)
      · rw [ofDigits_append, value]
        exact Nat.div_add_mod' n base
      · intro zero
        -- the quotient is not zero, so its digits do not start with a zero
        have zero : digits.head? = some 0 := by
          obtain ⟨d, more, rfl⟩ := List.exists_cons_of_ne_nil some_digits
          exact zero
        rw [leading zero] at value
        simp [ofDigits] at value
        omega

/-! ## Base ten -/

theorem isDigit_of_mem_toDigits {n : Nat} {c : Char} (member : c ∈ Nat.toDigits 10 n) :
    c.isDigit = true :=
  Nat.isDigit_of_mem_toDigits (by decide) (by decide) member

/-- Only zero starts with a zero. -/
theorem length_toDigits_of_zero {n : Nat} (zero : (Nat.toDigits 10 n).head? = some '0') :
    (Nat.toDigits 10 n).length = 1 := by
  obtain ⟨digits, written, _, _, present, leading⟩ := exists_digits 10 (by decide) n
  rw [written] at zero ⊢
  obtain ⟨d, more, rfl⟩ := List.exists_cons_of_ne_nil present
  have : d.digitChar = '0' := Option.some.inj zero
  rw [leading (by rw [List.head?_cons, Nat.digitChar_eq_zero.mp this])]
  rfl

theorem natOfDigits_eq (digits : List Char) : natOfDigits digits = Nat.ofDigitChars 10 digits 0 := by
  rw [natOfDigits, ofDigits, List.foldl_map, Nat.ofDigitChars_eq_foldl]
  simp only [Nat.mul_comm]

@[simp] theorem natOfDigits_toDigits (n : Nat) : natOfDigits (Nat.toDigits 10 n) = n := by
  rw [natOfDigits_eq, Nat.ofDigitChars_ten_toDigits]

@[simp] theorem natOfDigits_padded (zeros n : Nat) :
    natOfDigits (List.replicate zeros '0' ++ Nat.toDigits 10 n) = n := by
  rw [natOfDigits_eq, Nat.ofDigitChars_append, Nat.ofDigitChars_replicate_zero]
  exact Nat.ofDigitChars_ten_toDigits

/-- Characters that do not continue a number. -/
def EndsDigits (rest : List Char) : Prop :=
  ∀ c ∈ rest.head?, c.isDigit = false

theorem takeWhile_isDigit {digits rest : List Char} (all : ∀ c ∈ digits, c.isDigit = true)
    (ends : EndsDigits rest) : (digits ++ rest).takeWhile Char.isDigit = digits := by
  rw [List.takeWhile_append_of_pos all]
  cases rest with
  | nil => simp
  | cons c rest => simp [ends c rfl]

theorem dropWhile_isDigit {digits rest : List Char} (all : ∀ c ∈ digits, c.isDigit = true)
    (ends : EndsDigits rest) : (digits ++ rest).dropWhile Char.isDigit = rest := by
  rw [List.dropWhile_append_of_pos all]
  cases rest with
  | nil => rfl
  | cons c rest => simp [ends c rfl]

end CloudBalance.Text
