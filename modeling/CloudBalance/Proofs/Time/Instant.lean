import CloudBalance.Proofs.Text.Digits
import CloudBalance.Time.Json
import Mathlib.Algebra.Group.Nat.Defs

/-!
# Reading times that are written

Main statement: a time of a year that can be held is read from its written form.
-/

namespace CloudBalance.Time.Instant

/-! ## Numbers -/

theorem toList_places (width n : Nat) :
    (places width n).toList =
      List.replicate (width - (Nat.toDigits 10 n).length) '0' ++ Nat.toDigits 10 n :=
  String.toList_ofList

theorem isDigit_places {width n : Nat} {c : Char} (member : c ∈ (places width n).toList) :
    c.isDigit = true := by
  rw [toList_places] at member
  rcases List.mem_append.mp member with zero | digit
  · rw [(List.mem_replicate.mp zero).2]
    rfl
  · exact Text.isDigit_of_mem_toDigits digit

theorem natOfDigits_places (width n : Nat) : Text.natOfDigits (places width n).toList = n := by
  rw [toList_places, Text.natOfDigits_padded]

theorem length_places (width n : Nat) (positive : 0 < width) (small : n < 10 ^ width) :
    (places width n).toList.length = width := by
  have short := (Nat.length_toDigits_le_iff (n := n) (b := 10) (by decide) positive).mpr small
  rw [toList_places, List.length_append, List.length_replicate]
  omega

theorem places_ne_nil (width n : Nat) : (places width n).toList ≠ [] := by
  rw [toList_places]
  exact List.append_ne_nil_of_right_ne_nil _ Nat.toDigits_ne_nil

theorem readDigits_append {width : Nat} {digits rest : List Char}
    (all : ∀ c ∈ digits, c.isDigit = true) (present : digits ≠ []) (fit : digits.length ≤ width)
    (ends : digits.length = width ∨ Text.EndsDigits rest) :
    readDigits width (digits ++ rest) = some (Text.natOfDigits digits, rest) := by
  have taken : ((digits ++ rest).take width).takeWhile Char.isDigit = digits := by
    rw [List.take_append, List.take_of_length_le fit]
    refine Text.takeWhile_isDigit all ?_
    rcases ends with full | ends
    · rw [full, Nat.sub_self]
      simp [Text.EndsDigits]
    · intro c head
      cases rest with
      | nil => simp at head
      | cons d rest =>
        cases count : width - digits.length with
        | zero => simp [count] at head
        | succ left =>
          rw [count, List.take_succ_cons] at head
          exact ends c head
  rw [readDigits, taken]
  simp [present]

/-- Characters that are not skipped. -/
def Solid (cs : List Char) : Prop :=
  ∀ c ∈ cs.head?, Text.isBlank c = false

theorem skipBlanks_of_solid {cs : List Char} (solid : Solid cs) : skipBlanks cs = cs := by
  cases cs with
  | nil => rfl
  | cons c cs => rw [skipBlanks, List.dropWhile_cons_of_neg (by simp [solid c rfl])]

theorem isBlank_of_isDigit {c : Char} (digit : c.isDigit = true) : Text.isBlank c = false := by
  have : 48 ≤ c.toNat ∧ c.toNat ≤ 57 := by
    simpa [Char.isDigit, UInt32.le_iff_toNat_le] using digit
  simp [Text.isBlank]
  omega

theorem solid_digits {digits : List Char} (rest : List Char)
    (all : ∀ c ∈ digits, c.isDigit = true) (present : digits ≠ []) : Solid (digits ++ rest) := by
  obtain ⟨c, more, rfl⟩ := List.exists_cons_of_ne_nil present
  intro d head
  cases head
  exact isBlank_of_isDigit (all c List.mem_cons_self)

theorem readNumber_places {n : Nat} (rest : List Char) (small : n < 100) :
    readNumber ((places 2 n).toList ++ rest) = some (n, rest) := by
  have length := length_places 2 n (by decide) small
  rw [readNumber, skipBlanks_of_solid (solid_digits rest (fun _ => isDigit_places) (places_ne_nil 2 n)),
    readDigits_append (fun _ => isDigit_places) (places_ne_nil 2 n) (Nat.le_of_eq length) (.inl length),
    natOfDigits_places]

theorem readMark_cons {c : Char} (rest : List Char) (solid : Text.isBlank c = false) :
    readMark c (c :: rest) = some rest := by
  rw [readMark, skipBlanks_of_solid (by intro d head; cases head; exact solid)]
  exact if_pos rfl

/-! ## Parts -/

/-- The years of the times that can be held. -/
def IsYear (year : Int) : Prop :=
  leastYear ≤ year ∧ year ≤ greatestYear

theorem isYear_default : IsYear (default : Instant).date.year :=
  ⟨by decide, by decide⟩

theorem endsDigits_cons {c : Char} (rest : List Char) (other : c.isDigit = false) :
    Text.EndsDigits (c :: rest) := by
  intro d head
  cases head
  exact other

theorem readDigits_signed (n : Nat) {rest : List Char} (ends : Text.EndsDigits rest) :
    readDigits ((places 4 n).toList ++ rest).length ((places 4 n).toList ++ rest) = some (n, rest) := by
  rw [readDigits_append (fun _ => isDigit_places) (places_ne_nil 4 n) (by simp) (.inr ends),
    natOfDigits_places]

theorem readYear_digits {digits rest : List Char} (all : ∀ c ∈ digits, c.isDigit = true)
    (four : digits.length = 4) :
    readYear (digits ++ rest) = some ((Text.natOfDigits digits : Int), rest) := by
  have present : digits ≠ [] := by
    rintro rfl
    cases four
  rw [readYear, skipBlanks_of_solid (solid_digits rest all present)]
  obtain ⟨c, more, rfl⟩ := List.exists_cons_of_ne_nil present
  have digit := all c List.mem_cons_self
  -- a digit is neither sign
  split
  · rename_i same
    cases same
    contradiction
  · rename_i same
    cases same
    contradiction
  · rw [readDigits_append all present (Nat.le_of_eq four) (.inl four)]
    rfl

theorem readYear_writeYear (year : Int) {rest : List Char} (ends : Text.EndsDigits rest) :
    readYear ((writeYear year).toList ++ rest) = some (year, rest) := by
  rw [writeYear]
  -- four digits, or a sign and as many digits as the year has
  split
  · rename_i short
    rw [readYear_digits (fun _ => isDigit_places) (length_places 4 _ (by decide) (by omega)),
      natOfDigits_places, Int.toNat_of_nonneg short.1]
  · rw [String.toList_append, List.append_assoc]
    split
    · simp only [String.reduceToList, List.cons_append, List.nil_append]
      rw [readYear, skipBlanks_of_solid (by intro c head; cases head; rfl)]
      change (readDigits _ _).map _ = _
      rw [readDigits_signed _ ends, Option.map_some]
      have : -(year.natAbs : Int) = year := by omega
      dsimp only
      rw [this]
    · simp only [String.reduceToList, List.cons_append, List.nil_append]
      rw [readYear, skipBlanks_of_solid (by intro c head; cases head; rfl)]
      change (readDigits _ _).map _ = _
      rw [readDigits_signed _ ends, Option.map_some]
      have : (year.natAbs : Int) = year := by omega
      dsimp only
      rw [this]

/-- The digits of a fraction are read, with zeros for those that are not written. -/
theorem readFraction_digits {digits : List Char} (all : ∀ c ∈ digits, c.isDigit = true)
    (present : digits ≠ []) (fit : digits.length ≤ 9) :
    readFraction ('.' :: (digits ++ ['Z'])) =
      some (Text.natOfDigits digits * Nat.pow 10 (9 - digits.length), ['Z']) := by
  rw [readFraction, readDigits_append all present fit (.inr (endsDigits_cons [] rfl))]
  have count : (digits ++ ['Z']).length - ['Z'].length = digits.length := by simp
  change some (_ * Nat.pow 10 (9 - ((digits ++ ['Z']).length - ['Z'].length)), _) = _
  rw [count]
  rfl

theorem readFraction_writeFraction {nanos : Nat} (small : nanos < nanosPerSecond) :
    readFraction ((writeFraction nanos).toList ++ ['Z']) = some (nanos, ['Z']) := by
  have read : ∀ width value, 0 < width → width ≤ 9 → value < 10 ^ width →
      readFraction (("." ++ places width value).toList ++ ['Z']) =
        some (value * Nat.pow 10 (9 - width), ['Z']) := by
    intro width value positive most bound
    have length := length_places width value positive bound
    simp only [String.toList_append, String.reduceToList, List.cons_append, List.nil_append]
    rw [readFraction_digits (fun _ => isDigit_places) (places_ne_nil width value) (by omega),
      natOfDigits_places, length]
  have small : nanos < 1000000000 := small
  rw [writeFraction]
  -- nothing, or as few groups of three digits as hold the nanoseconds
  split
  · rename_i zero
    rw [zero]
    rfl
  · split
    · rename_i millis
      rw [read 3 _ (by decide) (by decide) (by omega)]
      have : nanos / 1000000 * Nat.pow 10 (9 - 3) = nanos := by
        change nanos / 1000000 * 1000000 = nanos
        omega
      rw [this]
    · split
      · rename_i micros
        rw [read 6 _ (by decide) (by decide) (by omega)]
        have : nanos / 1000 * Nat.pow 10 (9 - 6) = nanos := by
          change nanos / 1000 * 1000 = nanos
          omega
        rw [this]
      · rw [read 9 _ (by decide) (by decide) small]
        have : nanos * Nat.pow 10 (9 - 9) = nanos := Nat.mul_one nanos
        rw [this]

theorem readZone_utc : readZone ['Z'] = some (0, []) := by
  decide

/-! ## Times -/

/-- The second and the nanoseconds that are written. -/
def shown (t : Instant) : Nat × Nat :=
  if nanosPerSecond ≤ t.nanos then (t.second % 60 + 1, t.nanos - nanosPerSecond) else (t.second % 60, t.nanos)

theorem writeClock_eq (t : Instant) :
    t.writeClock = places 2 (t.second / 3600) ++ ":" ++ places 2 (t.second / 60 % 60) ++ ":"
      ++ places 2 t.shown.1 ++ writeFraction t.shown.2 := by
  rw [writeClock, shown]

theorem shown_bounds (t : Instant) : t.shown.1 < 100 ∧ t.shown.2 < nanosPerSecond ∧
    ¬ 60 < t.shown.1 ∧
    (if t.shown.1 = 60 then (59, t.shown.2 + nanosPerSecond) else (t.shown.1, t.shown.2)) =
      (t.second % 60, t.nanos) := by
  have valid := t.valid
  have minute : t.second % 60 < 60 := Nat.mod_lt _ (by decide)
  rw [shown]
  split
  · -- a leap second is shown as a sixtieth one
    rename_i leap
    obtain ⟨last, _⟩ : t.second % 60 = 59 ∧ t.nanos < 2 * nanosPerSecond := by omega
    dsimp only
    rw [last, if_pos rfl]
    refine ⟨by decide, by omega, by decide, ?_⟩
    rw [Nat.sub_add_cancel leap]
  · dsimp only
    rw [if_neg (by omega)]
    exact ⟨by omega, by omega, by omega, rfl⟩

theorem ofLocal?_shown (t : Instant) (held : IsYear t.date.year) :
    ofLocal? t.date (t.second / 3600) (t.second / 60 % 60) t.shown.1 t.shown.2 0 = some t := by
  obtain ⟨_, _, below, back⟩ := t.shown_bounds
  have valid := t.valid
  have whole : (t.second / 3600 * 60 + t.second / 60 % 60) * 60 + t.second % 60 = t.second := by omega
  have within : t.second < 86400 := valid.1
  rw [ofLocal?, if_neg (by simp; omega), back]
  dsimp only
  -- without an offset the day stays the same
  have today : (t.second : Int) / (secondsPerDay : Nat) = 0 := by
    change (t.second : Int) / 86400 = 0
    omega
  have time : ((t.second : Int) % (secondsPerDay : Nat)).toNat = t.second := by
    change ((t.second : Int) % 86400).toNat = t.second
    omega
  have same : t.date.add 0 = t.date := if_pos rfl
  rw [whole, Int.sub_zero, today, time, same, if_neg (by simp [held.1, held.2]), of?, dif_pos valid]

theorem daysIn_le (year : Int) (month : Nat) : daysIn year month ≤ 31 := by
  unfold daysIn
  split
  · split <;> omega
  all_goals omega

theorem toList_text (t : Instant) :
    t.text.toList = (writeYear t.date.year).toList ++ '-' :: ((places 2 t.date.month).toList ++
      '-' :: ((places 2 t.date.day).toList ++ 'T' :: ((places 2 (t.second / 3600)).toList ++
        ':' :: ((places 2 (t.second / 60 % 60)).toList ++ ':' :: ((places 2 t.shown.1).toList ++
          ((writeFraction t.shown.2).toList ++ ['Z'])))))) := by
  rw [text, writeDate, writeClock_eq]
  simp only [String.toList_append, String.reduceToList, List.append_assoc, List.cons_append,
    List.nil_append]

/-- A time is read from its written form. -/
theorem parse?_text (t : Instant) (held : IsYear t.date.year) : parse? t.text = some t := by
  have date := t.date.valid
  have days := daysIn_le t.date.year t.date.month
  have within : t.second < 86400 := t.valid.1
  obtain ⟨short, small, _⟩ := t.shown_bounds
  have real : Date.of? t.date.year t.date.month t.date.day = some t.date := dif_pos date
  have month := fun rest => readNumber_places (n := t.date.month) rest (by omega)
  have day := fun rest => readNumber_places (n := t.date.day) rest (by omega)
  have hour := fun rest => readNumber_places (n := t.second / 3600) rest (by omega)
  have minute := fun rest => readNumber_places (n := t.second / 60 % 60) rest (by omega)
  have second := fun rest => readNumber_places rest short
  have dash := fun rest => readMark_cons (c := '-') rest rfl
  have colon := fun rest => readMark_cons (c := ':') rest rfl
  have year : ¬ (t.date.year < leastYear ∨ greatestYear < t.date.year) := by
    have := held.1
    have := held.2
    omega
  have zone : readZone (skipBlanks ['Z']) = some (0, []) := readZone_utc
  unfold parse?
  rw [toList_text]
  -- each part is read and leaves the text of the next one
  refine Option.bind_eq_some_iff.mpr ⟨_, readYear_writeYear _ (endsDigits_cons _ rfl), ?_⟩
  refine Option.bind_eq_some_iff.mpr ⟨_, dash _, ?_⟩
  refine Option.bind_eq_some_iff.mpr ⟨_, month _, ?_⟩
  refine Option.bind_eq_some_iff.mpr ⟨_, dash _, ?_⟩
  refine Option.bind_eq_some_iff.mpr ⟨_, day _, ?_⟩
  dsimp only
  rw [if_neg (by simpa using year)]
  refine Option.bind_eq_some_iff.mpr ⟨_, real, ?_⟩
  rw [if_neg (by decide)]
  refine Option.bind_eq_some_iff.mpr ⟨_, hour _, ?_⟩
  refine Option.bind_eq_some_iff.mpr ⟨_, colon _, ?_⟩
  refine Option.bind_eq_some_iff.mpr ⟨_, minute _, ?_⟩
  refine Option.bind_eq_some_iff.mpr ⟨_, colon _, ?_⟩
  refine Option.bind_eq_some_iff.mpr ⟨_, second _, ?_⟩
  refine Option.bind_eq_some_iff.mpr ⟨_, readFraction_writeFraction small, ?_⟩
  refine Option.bind_eq_some_iff.mpr ⟨_, zone, ?_⟩
  exact ofLocal?_shown t held

theorem ofJson?_toJson (t : Instant) (held : IsYear t.date.year) : ofJson? t.toJson = some t := by
  rw [ofJson?, toJson, Json.toString?, Option.bind_some, parse?_text t held]

/-! ## Times that are read -/

theorem isYear_of_ofLocal? {date : Date} {hour minute second nanos : Nat} {offset : Int} {t : Instant}
    (made : ofLocal? date hour minute second nanos offset = some t) : IsYear t.date.year := by
  unfold ofLocal? at made
  split at made
  · cases made
  · -- the year does not depend on how the second is held
    generalize (if second = 60 then _ else _ : Nat × Nat) = shown at made
    dsimp only at made
    split at made
    · cases made
    · rename_i within
      rw [of?] at made
      split at made
      · cases made
        simp only [Bool.or_eq_true, decide_eq_true_eq, not_or, Int.not_lt] at within
        exact within
      · cases made

theorem isYear_of_parse? {text : String} {t : Instant} (read : parse? text = some t) :
    IsYear t.date.year := by
  unfold parse? at read
  -- each part has to be read before the next one
  obtain ⟨⟨year, _⟩, _, read⟩ := Option.bind_eq_some_iff.mp read
  obtain ⟨_, _, read⟩ := Option.bind_eq_some_iff.mp read
  obtain ⟨⟨month, _⟩, _, read⟩ := Option.bind_eq_some_iff.mp read
  obtain ⟨_, _, read⟩ := Option.bind_eq_some_iff.mp read
  obtain ⟨⟨day, cs⟩, _, read⟩ := Option.bind_eq_some_iff.mp read
  dsimp only at read
  split at read
  · cases read
  · obtain ⟨date, _, read⟩ := Option.bind_eq_some_iff.mp read
    split at read
    · split at read
      · cases read
      · obtain ⟨⟨hour, _⟩, _, read⟩ := Option.bind_eq_some_iff.mp read
        obtain ⟨_, _, read⟩ := Option.bind_eq_some_iff.mp read
        obtain ⟨⟨minute, _⟩, _, read⟩ := Option.bind_eq_some_iff.mp read
        obtain ⟨_, _, read⟩ := Option.bind_eq_some_iff.mp read
        obtain ⟨⟨second, _⟩, _, read⟩ := Option.bind_eq_some_iff.mp read
        obtain ⟨⟨nanos, _⟩, _, read⟩ := Option.bind_eq_some_iff.mp read
        obtain ⟨⟨offset, _⟩, _, read⟩ := Option.bind_eq_some_iff.mp read
        dsimp only at read
        split at read
        · exact isYear_of_ofLocal? read
        · cases read
    · cases read

theorem isYear_of_ofJson? {value : Json} {t : Instant} (read : ofJson? value = some t) :
    IsYear t.date.year := by
  obtain ⟨_, _, parsed⟩ := Option.bind_eq_some_iff.mp read
  exact isYear_of_parse? parsed

end CloudBalance.Time.Instant
