/-!
# Starts of texts

Whether a text starts with another one, and what follows it.
-/

namespace CloudBalance.Text

/-- What follows `start` in a text that starts with it. -/
def afterStart? (start text : String) : Option String :=
  (start.toList.isPrefixOf? text.toList).map String.ofList

def hasStart (start text : String) : Bool :=
  start.toList.isPrefixOf text.toList

theorem hasStart_append (start rest : String) : hasStart start (start ++ rest) = true := by
  simp [hasStart]

end CloudBalance.Text
