/-!
# Parts of texts

A text is cut at each place where a character stands. Main statement: where the character is put
between two texts, the parts of the first one are followed by the parts of the second one.
-/

namespace CloudBalance.Text

/-- The characters before the first `separator`, and those of each part after it. -/
def splitChars (separator : Char) : List Char → List Char × List (List Char)
  | [] => ([], [])
  | c :: rest =>
    let (first, others) := splitChars separator rest
    if c = separator then ([], first :: others) else (c :: first, others)

/-- The parts of a text, of which there is always one. -/
def split (separator : Char) (s : String) : List String :=
  let (first, others) := splitChars separator s.toList
  (first :: others).map String.ofList

theorem splitChars_append (separator : Char) (before after : List Char) :
    splitChars separator (before ++ separator :: after) =
      ((splitChars separator before).1,
        (splitChars separator before).2 ++
          (splitChars separator after).1 :: (splitChars separator after).2) := by
  induction before with
  | nil => simp [splitChars]
  | cons c rest ih => by_cases h : c = separator <;> simp [splitChars, h, ih]

theorem split_append (separator : Char) (before after : String) :
    split separator (before ++ String.singleton separator ++ after) =
      split separator before ++ split separator after := by
  simp [split, splitChars_append]

theorem splitChars_of_notMem {separator : Char} {cs : List Char} (h : separator ∉ cs) :
    splitChars separator cs = (cs, []) := by
  induction cs with
  | nil => rfl
  | cons c rest ih => grind [splitChars]

/-- A text without the character is its own only part. -/
theorem split_of_notMem {separator : Char} {s : String} (h : separator ∉ s.toList) :
    split separator s = [s] := by
  simp [split, splitChars_of_notMem h]

end CloudBalance.Text
