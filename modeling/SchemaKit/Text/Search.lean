/-!
# Search

`contains text part` tells whether `part` stands somewhere in `text`, without a gap.
-/

namespace SchemaKit.Text

/-- Whether one list of characters stands inside another. -/
def containsChars (text part : List Char) : Bool :=
  part.isPrefixOf text ||
    match text with
    | [] => false
    | _ :: rest => containsChars rest part

def contains (text part : String) : Bool :=
  containsChars text.toList part.toList

theorem containsChars_iff {text part : List Char} :
    containsChars text part = true ↔ part <:+: text := by
  induction text with
  | nil => simp [containsChars]
  | cons c cs ih => simp [containsChars, ih, List.infix_cons_iff]

theorem contains_iff {text part : String} :
    contains text part = true ↔ part.toList <:+: text.toList :=
  containsChars_iff

end SchemaKit.Text
