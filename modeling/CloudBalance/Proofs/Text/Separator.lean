import Mathlib.Data.List.Basic

/-!
# Texts around a separator

Two texts that are put together around a separator. Main statement: what is put together tells what it was made of,
unless one of the texts has the separator in itself; then a part between two separators may belong to either side.
-/

namespace CloudBalance.Text

/-- A list that is divided at an item in two ways. -/
theorem append_cons_eq {α : Type} {c : α} {xs ys as bs : List α} :
    xs ++ c :: as = ys ++ c :: bs ↔ (xs = ys ∧ as = bs) ∨
      (∃ between, ys = xs ++ c :: between ∧ as = between ++ c :: bs) ∨
      ∃ between, xs = ys ++ c :: between ∧ bs = between ++ c :: as := by
  rw [List.append_eq_append_iff]
  constructor
  · -- the longer head goes on with the item, unless both are of one length
    rintro (⟨more, rfl, rest⟩ | ⟨more, rfl, rest⟩)
    · cases more with
      | nil => exact .inl ⟨(List.append_nil xs).symm, (List.cons.inj rest).2⟩
      | cons d more =>
        obtain ⟨rfl, rfl⟩ := List.cons.inj rest
        exact .inr (.inl ⟨more, rfl, rfl⟩)
    · cases more with
      | nil => exact .inl ⟨List.append_nil ys, (List.cons.inj rest).2.symm⟩
      | cons d more =>
        obtain ⟨rfl, rfl⟩ := List.cons.inj rest
        exact .inr (.inr ⟨more, rfl, rfl⟩)
  · rintro (⟨rfl, rfl⟩ | ⟨between, rfl, rfl⟩ | ⟨between, rfl, rfl⟩)
    · exact .inl ⟨[], by simp⟩
    · exact .inl ⟨c :: between, rfl, rfl⟩
    · exact .inr ⟨c :: between, rfl, rfl⟩

/-- Two pairs of texts are the same when put together if they are the same or if they overlap: a part of the one head
behind a separator is the front of the other rest. -/
theorem separator_eq {mark : String} {c : Char} (single : mark.toList = [c]) {head other rest its : String} :
    head ++ mark ++ rest = other ++ mark ++ its ↔ (head = other ∧ rest = its) ∨
      (∃ between, other = head ++ mark ++ between ∧ rest = between ++ mark ++ its) ∨
      ∃ between, head = other ++ mark ++ between ∧ its = between ++ mark ++ rest := by
  have texts : ∀ {p : List Char → Prop}, (∃ between : String, p between.toList) ↔ ∃ between, p between :=
    ⟨fun ⟨between, holds⟩ => ⟨_, holds⟩, fun ⟨between, holds⟩ => ⟨.ofList between, by simpa using holds⟩⟩
  -- the characters of a text make a text again, so the part between may be either
  simp only [← String.toList_inj, String.toList_append, single, List.append_assoc, List.singleton_append]
  rw [append_cons_eq, ← texts, ← texts]

end CloudBalance.Text
