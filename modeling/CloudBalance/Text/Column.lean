/-!
# Columns and order

Texts in a table are padded to a column's width, counted in characters and never cut. Texts are
ordered by their code points, which is the order of their bytes in UTF-8.
-/

namespace CloudBalance.Text

/-- The text followed by as many spaces as bring it to `width` characters. -/
def padRight (width : Nat) (s : String) : String :=
  s ++ String.ofList (List.replicate (width - s.length) ' ')

/-- The same text `n` times over. -/
def times (n : Nat) (s : String) : String :=
  String.join (List.replicate n s)

/-- Whether `a` comes before `b` or is the same text. -/
def le (a b : String) : Bool :=
  !decide (b < a)

/-- A list in the order of a text of each item; items of one text keep their order. -/
def sortBy {α : Type} (key : α → String) (items : List α) : List α :=
  items.mergeSort fun a b => le (key a) (key b)

/-- The distinct texts of a list, in ascending order. -/
def sortedSet (items : List String) : List String :=
  (sortBy id items).eraseReps

end CloudBalance.Text
