import CloudBalance.Net.Address
import CloudBalance.Net.Json
import CloudBalance.Proofs.Text.Digits

/-!
# Reading addresses that are written

Main statement: an address is read from its canonical form.
-/

namespace CloudBalance.Net.Address

/-! ## Numbers -/

/-- The rest does not start with a digit of the base. -/
def EndsNumber (base : Nat) (rest : List Char) : Prop :=
  ∀ c ∈ rest.head?, Text.digit? base c = none

theorem takeDigits_of_ends {base : Nat} {rest : List Char} (ends : EndsNumber base rest) :
    takeDigits base rest = ([], rest) := by
  cases rest with
  | nil => rfl
  | cons c rest => rw [takeDigits, ends c rfl]

theorem takeDigits_digitChars {base : Nat} {digits : List Nat} {rest : List Char} (few : base ≤ 16)
    (bounded : ∀ d ∈ digits, d < base) (ends : EndsNumber base rest) :
    takeDigits base (digits.map Nat.digitChar ++ rest) = (digits, rest) := by
  induction digits with
  | nil => exact takeDigits_of_ends ends
  | cons d digits ih =>
    obtain ⟨small, later⟩ := List.forall_mem_cons.mp bounded
    rw [List.map_cons, List.cons_append, takeDigits, Text.digit?_digitChar small few, ih later]

theorem readOctet_toDigits (n : UInt8) {rest : List Char} (ends : EndsNumber 10 rest) :
    readOctet (Nat.toDigits 10 n.toNat ++ rest) = some (n, rest) := by
  obtain ⟨digits, written, bounded, value, present, leading⟩ :=
    Text.exists_digits 10 (by decide) n.toNat
  have small := n.toNat_lt
  -- there are three digits at most, and a zero at the front is all there is
  have short : digits.length ≤ 3 := by
    have := (Nat.length_toDigits_le_iff (n := n.toNat) (b := 10) (k := 3) (by decide) (by decide)).mpr
      (by omega)
    rwa [written, List.length_map] at this
  have single : digits.head? = some 0 → digits.length ≤ 1 := fun zero => by rw [leading zero]; decide
  have whole : n.toNat.toUInt8 = n := UInt8.ofNat_toNat
  rw [readOctet, written, takeDigits_digitChars (by decide) bounded ends]
  dsimp only
  rw [value, whole, if_neg, if_neg]
  · simpa using single
  · simp [present]
    omega

theorem readGroup_toDigits (group : UInt16) {rest : List Char} (ends : EndsNumber 16 rest) :
    readGroup (Nat.toDigits 16 group.toNat ++ rest) = some (group, rest) := by
  obtain ⟨digits, written, bounded, value, present, _⟩ :=
    Text.exists_digits 16 (by decide) group.toNat
  have short : digits.length ≤ 4 := by
    have := (Nat.length_toDigits_le_iff (n := group.toNat) (b := 16) (k := 4) (by decide)
      (by decide)).mpr group.toNat_lt
    rwa [written, List.length_map] at this
  have whole : group.toNat.toUInt16 = group := UInt16.ofNat_toNat
  rw [readGroup, written, takeDigits_digitChars (by decide) bounded ends]
  simp only [List.isEmpty_eq_false_iff.mpr present, Nat.not_lt.mpr short, Bool.false_eq_true,
    decide_false, Bool.or_self, if_false, value, whole]

/-! ## Dotted quads -/

theorem writeQuad_toList (a b c d : UInt8) :
    (writeQuad a b c d).toList = Nat.toDigits 10 a.toNat ++ '.' :: (Nat.toDigits 10 b.toNat ++
      '.' :: (Nat.toDigits 10 c.toNat ++ '.' :: Nat.toDigits 10 d.toNat)) := by
  simp [writeQuad]

theorem readQuad_writeQuad (a b c d : UInt8) :
    readQuad (writeQuad a b c d).toList = some ((a, b, c, d), []) := by
  have dot : ∀ rest, EndsNumber 10 ('.' :: rest) := by
    intro rest c head
    cases head
    rfl
  have ends : EndsNumber 10 [] := by simp [EndsNumber]
  have last := readOctet_toDigits d ends
  rw [List.append_nil] at last
  rw [writeQuad_toList, readQuad, readOctet_toDigits a (dot _)]
  simp only [Option.bind_eq_bind, Option.bind_some, readChar, if_true, readOctet_toDigits b (dot _),
    readOctet_toDigits c (dot _), last]
  rfl

theorem mem_of_mem_takeDigits {base : Nat} {cs : List Char} {c : Char}
    (member : c ∈ (takeDigits base cs).2) : c ∈ cs := by
  induction cs with
  | nil => exact member
  | cons d cs ih =>
    rw [takeDigits] at member
    split at member
    · exact List.mem_cons_of_mem d (ih member)
    · exact member

theorem readQuad_of_notMem {cs : List Char} (plain : '.' ∉ cs) : readQuad cs = none := by
  rw [readQuad]
  cases first : readOctet cs with
  | none => rfl
  | some parsed =>
    obtain ⟨n, rest⟩ := parsed
    have after : rest = (takeDigits 10 cs).2 := by
      rw [readOctet] at first
      dsimp only at first
      split at first
      · cases first
      · split at first
        · cases first
        · cases first
          rfl
    -- the number is followed by characters of the text, and none of them is a dot
    have closed : readChar '.' rest = none := by
      cases rest with
      | nil => rfl
      | cons d rest =>
        rw [readChar, if_neg]
        rintro rfl
        exact plain (mem_of_mem_takeDigits (after ▸ List.mem_cons_self))
    simp only [Option.bind_eq_bind, Option.bind_some, closed, Option.bind_none]

/-! ## Groups -/

/-- The characters of groups with colons between them; unless they come `first`, there is a colon before
them, too. -/
def groupsText (first : Bool) : List UInt16 → List Char
  | [] => []
  | group :: groups =>
    (if first then [] else [':']) ++ (Nat.toDigits 16 group.toNat ++ groupsText false groups)

theorem writeGroups_toList (groups : List UInt16) :
    (writeGroups groups).toList = groupsText true groups := by
  rw [writeGroups]
  induction groups with
  | nil => rfl
  | cons group groups ih =>
    cases groups with
    | nil => simp [groupsText]
    | cons next groups =>
      rw [List.map_cons] at ih
      rw [List.map_cons, List.map_cons, String.intercalate_cons_cons, String.toList_append,
        String.toList_append, ih, String.toList_ofList]
      simp [groupsText]

/-- No further group comes. -/
def EndsGroups (rest : List Char) : Prop :=
  rest = [] ∨ ∃ more, rest = ':' :: ':' :: more

theorem EndsGroups.endsNumber {groups : List UInt16} {rest : List Char} (ends : EndsGroups rest) :
    EndsNumber 16 (groupsText false groups ++ rest) := by
  intro c head
  cases groups with
  | nil =>
    rcases ends with rfl | ⟨more, rfl⟩
    · cases head
    · cases head
      rfl
  | cons group groups =>
    cases head
    rfl

theorem readGroups_of_ends (first : Bool) (room : Nat) {rest : List Char} (plain : '.' ∉ rest)
    (ends : EndsGroups rest) : readGroups first room rest = ⟨[], false, rest⟩ := by
  cases room with
  | zero => rfl
  | succ room =>
    have start : (if first then some rest else readChar ':' rest).bind readQuad = none ∧
        (if first then some rest else readChar ':' rest).bind readGroup = none := by
      cases first with
      | true =>
        refine ⟨readQuad_of_notMem plain, ?_⟩
        rcases ends with rfl | ⟨more, rfl⟩ <;> rfl
      | false =>
        rcases ends with rfl | ⟨more, rfl⟩
        · exact ⟨rfl, rfl⟩
        · exact ⟨readQuad_of_notMem fun member => plain (List.mem_cons_of_mem _ member), rfl⟩
    rw [readGroups]
    dsimp only
    rw [start.1, start.2, ite_self]

theorem readGroups_group {first : Bool} {cs body rest : List Char} {group : UInt16} (room : Nat)
    (start : (if first then some cs else readChar ':' cs) = some body) (unquad : readQuad body = none)
    (read : readGroup body = some (group, rest)) :
    readGroups first (room + 1) cs =
      { readGroups false room rest with groups := group :: (readGroups false room rest).groups } := by
  rw [readGroups]
  dsimp only
  rw [start, Option.bind_some, Option.bind_some, unquad, ite_self, read]

theorem readGroups_quad {first : Bool} {cs body rest : List Char} {a b c d : UInt8} (room : Nat)
    (start : (if first then some cs else readChar ':' cs) = some body)
    (read : readQuad body = some ((a, b, c, d), rest)) :
    readGroups first (room + 2) cs = ⟨[groupOf a b, groupOf c d], true, rest⟩ := by
  rw [readGroups]
  dsimp only
  rw [start, Option.bind_some, read, if_pos (Nat.succ_pos room)]

theorem readGroups_groupsText (first : Bool) {groups : List UInt16} {room : Nat} {rest : List Char}
    (fit : groups.length ≤ room) (plain : '.' ∉ groupsText first groups ++ rest)
    (ends : EndsGroups rest) :
    readGroups first room (groupsText first groups ++ rest) = ⟨groups, false, rest⟩ := by
  induction groups generalizing first room with
  | nil => exact readGroups_of_ends first room plain ends
  | cons group groups ih =>
    obtain ⟨room, rfl⟩ : ∃ left, room = left + 1 := ⟨room - 1, by simp at fit; omega⟩
    have start : (if first then some (groupsText first (group :: groups) ++ rest)
        else readChar ':' (groupsText first (group :: groups) ++ rest)) =
          some (Nat.toDigits 16 group.toNat ++ (groupsText false groups ++ rest)) := by
      cases first with
      | true => simp [groupsText]
      | false => simp [groupsText, readChar]
    -- without a dot no quad is read in the place of the group
    have inside : '.' ∉ Nat.toDigits 16 group.toNat ++ (groupsText false groups ++ rest) := by
      intro member
      apply plain
      rw [groupsText, List.append_assoc, List.append_assoc]
      exact List.mem_append_right _ member
    rw [readGroups_group room start (readQuad_of_notMem inside)
      (readGroup_toDigits group ends.endsNumber)]
    rw [ih false (Nat.le_of_succ_le_succ fit) fun member => inside (List.mem_append_right _ member)]

theorem notMem_groupsText (first : Bool) (groups : List UInt16) : '.' ∉ groupsText first groups := by
  induction groups generalizing first with
  | nil => simp [groupsText]
  | cons group groups ih =>
    obtain ⟨digits, written, _⟩ := Text.exists_digits 16 (by decide) group.toNat
    have inside : '.' ∉ Nat.toDigits 16 group.toNat := by
      rw [written]
      intro member
      obtain ⟨d, _, same⟩ := List.mem_map.mp member
      exact Nat.digitChar_ne '.' (by decide) same
    cases first with
    | true => simp [groupsText, inside, ih]
    | false => simp [groupsText, inside, ih]

/-! ## Zeros that are left out -/

/-- There are only zeros from a place on, `length` of them. -/
def Zeros (groups : List UInt16) (start length : Nat) : Prop :=
  ∀ i, start ≤ i → i < start + length → groups[i]? = some 0

theorem Zeros.split {groups : List UInt16} {start length : Nat} (zeros : Zeros groups start length) :
    groups = groups.take start ++ (List.replicate length 0 ++ groups.drop (start + length)) := by
  have middle : (groups.drop start).take length = List.replicate length 0 := by
    apply List.ext_getElem?
    intro i
    by_cases inside : i < length
    · rw [List.getElem?_take_of_lt inside, List.getElem?_drop, zeros _ (by omega) (by omega),
        List.getElem?_replicate_of_lt inside]
    · rw [List.getElem?_take, if_neg inside, List.getElem?_eq_none (by simp; omega)]
  rw [← middle, ← List.drop_drop, List.take_append_drop, List.take_append_drop]

theorem longestZeros_zeros {whole : List UInt16} {place run : Nat} {best : Nat × Nat}
    {groups : List UInt16} (left : groups = whole.drop place) (before : run ≤ place)
    (running : Zeros whole (place - run) run) (found : Zeros whole best.1 best.2) :
    Zeros whole (longestZeros place run best groups).1 (longestZeros place run best groups).2 := by
  -- both the run that ends here and the longest one before it are kept runs of zeros
  induction groups generalizing place run best with
  | nil => exact found
  | cons group groups ih =>
    have here : whole[place]? = some group := by
      have := congrArg List.head? left
      rw [List.head?_cons, List.head?_drop] at this
      exact this.symm
    have next : groups = whole.drop (place + 1) := by
      rw [← List.tail_drop, ← left, List.tail_cons]
    rw [longestZeros]
    split
    · rename_i zero
      have longer : Zeros whole (place + 1 - (run + 1)) (run + 1) := by
        intro i low high
        by_cases last : i = place
        · rw [last, here, zero]
        · exact running i (by omega) (by omega)
      refine ih next (by omega) longer ?_
      split
      · exact longer
      · exact found
    · exact ih next (by omega) (fun i low high => by omega) found

theorem zeros_longestZeros (groups : List UInt16) :
    Zeros groups (longestZeros 0 0 (0, 0) groups).1 (longestZeros 0 0 (0, 0) groups).2 :=
  longestZeros_zeros rfl (Nat.le_refl 0) (fun i low high => by omega) (fun i low high => by simp at high)

/-! ## Whole addresses -/

theorem ofGroups?_toList (groups : Vector UInt16 8) : ofGroups? groups.toList = some (.v6 groups) := by
  obtain ⟨⟨items⟩, size⟩ := groups
  exact dif_pos size

theorem parse6?_groupsText {groups : List UInt16} (eight : groups.length = 8) :
    parse6? (groupsText true groups) = ofGroups? groups := by
  have read : readGroups true 8 (groupsText true groups ++ []) = ⟨groups, false, []⟩ :=
    readGroups_groupsText true (Nat.le_of_eq eight)
      (by rw [List.append_nil]; exact notMem_groupsText true groups) (.inl rfl)
  rw [List.append_nil] at read
  rw [parse6?, read]
  dsimp only
  rw [if_pos eight]
  rfl

/-- Groups of which a run of zeros is left out are read as if it was not. -/
theorem parse6?_shortened {head tail : List UInt16} (short : head.length + tail.length < 8) :
    parse6? (groupsText true head ++ ':' :: ':' :: groupsText true tail) =
      ofGroups? (head ++ (List.replicate (8 - head.length - tail.length) 0 ++ tail)) := by
  have first : readGroups true 8 (groupsText true head ++ ':' :: ':' :: groupsText true tail) =
      ⟨head, false, ':' :: ':' :: groupsText true tail⟩ :=
    readGroups_groupsText true (by omega) (by simp [notMem_groupsText]) (.inr ⟨_, rfl⟩)
  have second : readGroups true (7 - head.length) (groupsText true tail ++ []) = ⟨tail, false, []⟩ :=
    readGroups_groupsText true (by omega) (by rw [List.append_nil]; exact notMem_groupsText true tail)
      (.inl rfl)
  rw [List.append_nil] at second
  rw [parse6?, first]
  dsimp only
  rw [if_neg (by omega)]
  simp only [Bool.false_eq_true, if_false, readChar, if_true, Option.bind_eq_bind, Option.bind_some,
    second, List.isEmpty_nil, List.append_assoc]

theorem groupOf_split (group : UInt16) : groupOf (group / 256).toUInt8 group.toUInt8 = group := by
  apply UInt16.toNat_inj.mp
  have := group.toNat_lt
  simp [groupOf]
  omega

theorem toList_mapped (a b c d : UInt8) :
    ("::ffff:" ++ writeQuad a b c d).toList =
      ':' :: ':' :: (Nat.toDigits 16 65535 ++ ':' :: (writeQuad a b c d).toList) := by
  rw [String.toList_append]
  rfl

/-- An address that is mapped from version 4 is read from its form with a dotted quad. -/
theorem parse6?_mapped (a b c d : UInt8) :
    parse6? ("::ffff:" ++ writeQuad a b c d).toList =
      ofGroups? [0, 0, 0, 0, 0, 0xffff, groupOf a b, groupOf c d] := by
  have first : ∀ rest, readGroups true 8 (':' :: rest) = ⟨[], false, ':' :: rest⟩ := fun _ => rfl
  have last : readGroups false 6 (':' :: (writeQuad a b c d).toList) =
      ⟨[groupOf a b, groupOf c d], true, []⟩ :=
    readGroups_quad 4 rfl (readQuad_writeQuad a b c d)
  have second : readGroups true 7 (Nat.toDigits 16 65535 ++ ':' :: (writeQuad a b c d).toList) =
      ⟨[0xffff, groupOf a b, groupOf c d], true, []⟩ := by
    have colon : EndsNumber 16 (':' :: (writeQuad a b c d).toList) := by
      intro c head
      cases head
      rfl
    rw [readGroups_group 6 rfl rfl (readGroup_toDigits 0xffff colon), last]
  rw [toList_mapped, parse6?, first]
  simp only [List.length_nil, readChar, if_true, Option.bind_eq_bind, Option.bind_some, Nat.sub_zero]
  rw [second]
  rfl

/-- The three forms of an address of version 6. -/
theorem write6_eq {groups : List UInt16} (eight : groups.length = 8) :
    (∃ high low, groups = [0, 0, 0, 0, 0, 0xffff, high, low] ∧ write6 groups = "::ffff:" ++
      writeQuad (high / 256).toUInt8 high.toUInt8 (low / 256).toUInt8 low.toUInt8) ∨
    (write6 groups).toList = groupsText true groups ∨
    ∃ head tail, head.length + tail.length < 8 ∧
      groups = head ++ (List.replicate (8 - head.length - tail.length) 0 ++ tail) ∧
      (write6 groups).toList = groupsText true head ++ ':' :: ':' :: groupsText true tail := by
  unfold write6
  split
  · -- five zeros and a group of ones
    rename_i high low
    exact .inl ⟨high, low, rfl, rfl⟩
  · right
    have zeros := zeros_longestZeros groups
    revert zeros
    cases longestZeros 0 0 (0, 0) groups with | mk start length
    intro zeros
    dsimp only at zeros ⊢
    split
    · -- a run of zeros is left out
      rename_i several
      have split := zeros.split
      have inside := congrArg List.length split
      simp only [List.length_append, List.length_take, List.length_replicate, List.length_drop] at inside
      refine .inr ⟨groups.take start, groups.drop (start + length), ?_, ?_, ?_⟩
      · rw [List.length_take, List.length_drop]
        omega
      · have left_out : 8 - (groups.take start).length - (groups.drop (start + length)).length = length := by
          rw [List.length_take, List.length_drop]
          omega
        rw [left_out]
        exact split
      · rw [String.toList_append, String.toList_append, writeGroups_toList, writeGroups_toList,
          List.append_assoc]
        rfl
    · exact .inl (writeGroups_toList groups)

theorem readQuad_write6 {groups : List UInt16} (eight : groups.length = 8) :
    readQuad (write6 groups).toList = none := by
  rcases write6_eq eight with ⟨high, low, _, mapped⟩ | plain | ⟨head, tail, _, _, short⟩
  · rw [mapped, toList_mapped]
    rfl
  · rw [plain]
    exact readQuad_of_notMem (notMem_groupsText true groups)
  · rw [short]
    exact readQuad_of_notMem (by simp [notMem_groupsText])

theorem parse6?_write6 {groups : List UInt16} (eight : groups.length = 8) :
    parse6? (write6 groups).toList = ofGroups? groups := by
  rcases write6_eq eight with ⟨high, low, rfl, mapped⟩ | plain | ⟨head, tail, short, whole, written⟩
  · rw [mapped, parse6?_mapped, groupOf_split, groupOf_split]
  · rw [plain, parse6?_groupsText eight]
  · rw [written, parse6?_shortened short, ← whole]

/-- An address is read from its canonical form. -/
theorem parse?_text (address : Address) : parse? address.text = some address := by
  cases address with
  | v4 a b c d =>
    rw [text, parse?, readQuad_writeQuad]
    rfl
  | v6 groups =>
    have eight : groups.toList.length = 8 := by simp
    rw [text, parse?, readQuad_write6 eight]
    dsimp only
    rw [parse6?_write6 eight, ofGroups?_toList]

theorem ofJson?_toJson (address : Address) : ofJson? address.toJson = some address := by
  rw [ofJson?, toJson, Json.toString?, Option.bind_some, parse?_text]

end CloudBalance.Net.Address
