import CloudBalance.Proofs.Text.Order
import CloudBalance.Text.Blank

/-!
# Text in the output of a program

Main statement: where a program prints the bytes of a text, that text is read.
-/

namespace CloudBalance.Text

/-! ## Characters -/

theorem toNat_continuationByte {n : Nat} (small : n < 64) : (UInt8.ofNat (n + 128)).toNat = n + 128 := by
  rw [UInt8.toNat_ofNat']
  omega

theorem continuation_cons {acc missing n : Nat} (small : n < 64) (rest : List UInt8) :
    continuation acc (missing + 1) (UInt8.ofNat (n + 128) :: rest) = continuation (acc * 64 + n) missing rest := by
  have byte := toNat_continuationByte small
  have continues : isContinuation (UInt8.ofNat (n + 128)) = true := by
    simp only [isContinuation, Bool.and_eq_true, decide_eq_true_eq, UInt8.le_iff_toNat_le, byte, UInt8.reduceToNat]
    omega
  rw [continuation, if_pos continues, byte, Nat.add_sub_cancel]

theorem decodeStep_of_lead {b second : UInt8} {missing bits code : Nat} {least greatest : UInt8}
    {rest after : List UInt8} (high : ¬ b < 0x80) (lead : leadByte? b = some (missing, bits, least, greatest))
    (low : least ≤ second) (top : second ≤ greatest)
    (continued : continuation bits missing (second :: rest) = (some code, after)) :
    decodeStep b (second :: rest) = (Char.ofNat code, after) := by
  simp [decodeStep, high, lead, low, top, continued]

theorem leadByte?_two {k : Nat} (low : 2 ≤ k) (small : k < 32) :
    ¬ UInt8.ofNat (k + 192) < 0x80 ∧ leadByte? (UInt8.ofNat (k + 192)) = some (1, k, 0x80, 0xbf) := by
  have each : ∀ k < 32, k < 2 ∨
      ¬ UInt8.ofNat (k + 192) < 0x80 ∧ leadByte? (UInt8.ofNat (k + 192)) = some (1, k, 0x80, 0xbf) := by
    decide
  exact (each k small).resolve_left (Nat.not_lt.mpr low)

theorem leadByte?_three {k : Nat} (small : k < 16) :
    ¬ UInt8.ofNat (k + 224) < 0x80 ∧ leadByte? (UInt8.ofNat (k + 224)) =
      some (2, k, if k = 0 then 0xa0 else 0x80, if k = 13 then 0x9f else 0xbf) := by
  revert k
  decide

theorem leadByte?_four {k : Nat} (small : k < 5) :
    ¬ UInt8.ofNat (k + 240) < 0x80 ∧ leadByte? (UInt8.ofNat (k + 240)) =
      some (3, k, if k = 0 then 0x90 else 0x80, if k = 4 then 0x8f else 0xbf) := by
  revert k
  decide

/-- The bytes of a character are read as that character. -/
theorem decodeStep_utf8EncodeChar (c : Char) (rest : List UInt8) :
    ∃ b tail, String.utf8EncodeChar c ++ rest = b :: tail ∧ decodeStep b tail = (c, rest) := by
  have valid : c.val.toNat < 0xd800 ∨ 0xdfff < c.val.toNat ∧ c.val.toNat < 0x110000 := c.valid
  have same : Char.ofNat c.val.toNat = c := Char.ofNat_toNat c
  fun_cases String.utf8EncodeChar c
  all_goals refine ⟨_, _, rfl, ?_⟩
  case case1 v one =>
    have byte : (UInt8.ofNat v).toNat = v := by
      rw [UInt8.toNat_ofNat']
      omega
    have low : UInt8.ofNat v < 0x80 := by
      rw [UInt8.lt_iff_toNat_lt, byte]
      exact Nat.lt_succ_of_le one
    rw [decodeStep, if_pos low, byte, same]
    rfl
  case case2 v _ two =>
    have code : v / 64 % 32 * 64 + v % 64 = v := by omega
    have lead := @leadByte?_two (v / 64 % 32) (by omega) (by omega)
    have second := @toNat_continuationByte (v % 64) (by omega)
    have continued : continuation (v / 64 % 32) 1 (UInt8.ofNat (v % 64 + 128) :: rest) = (some v, rest) := by
      rw [continuation_cons (by omega), continuation, code]
    rw [← same]
    refine decodeStep_of_lead lead.1 lead.2 ?_ ?_ continued
    all_goals rw [UInt8.le_iff_toNat_le, second]
    · exact Nat.le_add_left _ _
    · exact (by omega : v % 64 + 128 ≤ 191)
  case case3 v _ _ three =>
    have code : (v / 4096 % 16 * 64 + v / 64 % 64) * 64 + v % 64 = v := by omega
    have lead := @leadByte?_three (v / 4096 % 16) (by omega)
    have second := @toNat_continuationByte (v / 64 % 64) (by omega)
    have continued : continuation (v / 4096 % 16) 2
        (UInt8.ofNat (v / 64 % 64 + 128) :: UInt8.ofNat (v % 64 + 128) :: rest) = (some v, rest) := by
      rw [continuation_cons (by omega), continuation_cons (by omega), continuation, code]
    rw [← same]
    refine decodeStep_of_lead lead.1 lead.2 ?_ ?_ continued
    all_goals rw [UInt8.le_iff_toNat_le, second]
    · split
      · exact (by omega : 160 ≤ v / 64 % 64 + 128)
      · exact Nat.le_add_left _ _
    · split
      · exact (by omega : v / 64 % 64 + 128 ≤ 159)
      · exact (by omega : v / 64 % 64 + 128 ≤ 191)
  case case4 v _ _ four =>
    have code : ((v / 262144 % 8 * 64 + v / 4096 % 64) * 64 + v / 64 % 64) * 64 + v % 64 = v := by omega
    have lead := @leadByte?_four (v / 262144 % 8) (by omega)
    have second := @toNat_continuationByte (v / 4096 % 64) (by omega)
    have continued : continuation (v / 262144 % 8) 3
        (UInt8.ofNat (v / 4096 % 64 + 128) :: UInt8.ofNat (v / 64 % 64 + 128) :: UInt8.ofNat (v % 64 + 128) :: rest) =
          (some v, rest) := by
      rw [continuation_cons (by omega), continuation_cons (by omega), continuation_cons (by omega), continuation,
        code]
    rw [← same]
    refine decodeStep_of_lead lead.1 lead.2 ?_ ?_ continued
    all_goals rw [UInt8.le_iff_toNat_le, second]
    · split
      · exact (by omega : 144 ≤ v / 4096 % 64 + 128)
      · exact Nat.le_add_left _ _
    · split
      · exact (by omega : v / 4096 % 64 + 128 ≤ 143)
      · exact (by omega : v / 4096 % 64 + 128 ≤ 191)

/-! ## Texts -/

theorem decodeLossyList_flatMap (cs : List Char) : decodeLossyList (cs.flatMap String.utf8EncodeChar) = cs := by
  induction cs with
  | nil => rw [List.flatMap_nil, decodeLossyList]
  | cons c cs ih =>
    obtain ⟨b, tail, bytes, step⟩ := decodeStep_utf8EncodeChar c (cs.flatMap String.utf8EncodeChar)
    rw [List.flatMap_cons, bytes, decodeLossyList, step, ih]

theorem toList_loop (bytes : ByteArray) (i : Nat) (before : List UInt8) :
    ByteArray.toList.loop bytes i before = before.reverse ++ bytes.data.toList.drop i := by
  fun_induction ByteArray.toList.loop bytes i before with
  | case1 i before more ih =>
    have inside : i < bytes.data.toList.length := more
    have byte : bytes.get! i = bytes.data.toList[i] := getElem!_pos bytes.data i more
    rw [ih, List.reverse_cons, List.append_assoc, List.drop_eq_getElem_cons inside, byte, List.singleton_append]
  | case2 i before done =>
    have outside : bytes.data.toList.length ≤ i := Nat.le_of_not_lt done
    rw [List.drop_eq_nil_of_le outside, List.append_nil]

theorem toList_encode (s : String) : (encode s).toList = bytes s := by
  rw [ByteArray.toList, toList_loop]
  rfl

/-- Nothing is lost of a text. -/
theorem decodeLossy_encode (s : String) : decodeLossy (encode s) = s := by
  rw [decodeLossy, toList_encode, bytes_eq_flatMap, decodeLossyList_flatMap, String.ofList_toList]

theorem trim_of_solid {s : String} {first last : Char} {between : List Char}
    (written : s.toList = first :: (between ++ [last])) (starts : isBlank first = false)
    (ends : isBlank last = false) : trim s = s := by
  have front : s.toList.dropWhile isBlank = s.toList := by
    rw [written]
    exact List.dropWhile_cons_of_neg (by simp [starts])
  have back : s.toList.reverse.dropWhile isBlank = s.toList.reverse := by
    rw [written, List.reverse_cons, List.reverse_append, List.reverse_singleton, List.cons_append,
      List.cons_append]
    exact List.dropWhile_cons_of_neg (by simp [ends])
  rw [trim, front, back, List.reverse_reverse, String.ofList_toList]

end CloudBalance.Text
