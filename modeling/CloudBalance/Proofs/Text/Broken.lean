import CloudBalance.Text.Utf8

/-!
# Texts in bytes that break off

Main statement: where the bytes of a text break off, what is left is the bytes of the beginning of that text, or
not those of a text.
-/

namespace CloudBalance.Text

/-- Bytes of a text with which another text begins. -/
theorem exists_append_of_encode {whole part : String} {more : ByteArray}
    (broken : encode whole = encode part ++ more) : ∃ rest, whole = part ++ rest := by
  have bytes : whole.toByteArray = part.toByteArray ++ more := broken
  have front : whole.toByteArray.extract 0 part.toByteArray.size = part.toByteArray := by
    rw [bytes]
    exact ByteArray.extract_append_eq_left rfl
  have valid : String.Pos.Raw.IsValid whole part.rawEndPos := by
    rw [String.Pos.Raw.isValid_iff_isValidUTF8_extract_zero]
    refine ⟨?_, ?_⟩
    · change part.toByteArray.size ≤ whole.toByteArray.size
      rw [bytes, ByteArray.size_append]
      exact Nat.le_add_right _ _
    · change (whole.toByteArray.extract 0 part.toByteArray.size).IsValidUTF8
      rw [front]
      exact part.isValidUTF8
  obtain ⟨first, rest, joined, same⟩ := String.Pos.Raw.isValid_iff_exists_append.mp valid
  have size : part.toByteArray.size = first.toByteArray.size := congrArg String.Pos.Raw.byteIdx same
  have begins : first = part := by
    rw [← String.toByteArray_inj, ← front, joined, String.toByteArray_append, size]
    exact (ByteArray.extract_append_eq_left rfl).symm
  exact ⟨rest, begins ▸ joined⟩

theorem encode_of_decode? {bytes : ByteArray} {text : String} (read : decode? bytes = some text) :
    encode text = bytes := by
  rw [decode?, String.fromUTF8?] at read
  split at read
  · cases read
    rfl
  · cases read

/-- The bytes of a text that break off are those of its beginning, if they are those of a text. -/
theorem decode?_broken {whole part : String} {bytes more : ByteArray} (broken : encode whole = bytes ++ more)
    (short : more.size ≠ 0) (read : decode? bytes = some part) : ∃ rest, rest ≠ "" ∧ whole = part ++ rest := by
  rw [← encode_of_decode? read] at broken
  obtain ⟨rest, joined⟩ := exists_append_of_encode broken
  refine ⟨rest, ?_, joined⟩
  rintro rfl
  rw [joined, String.append_empty] at broken
  have sizes := congrArg ByteArray.size broken
  rw [ByteArray.size_append] at sizes
  omega

end CloudBalance.Text
