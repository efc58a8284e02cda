/-!
# Case maps as far as they reach ASCII

Keywords and slugs are written in ASCII, so of the case maps only those images matter that an ASCII
text can show.  `lower` gives the full image of every character whose image holds an ASCII character,
`upper` and `fold` of every character whose image is made of ASCII characters alone.  Any other
character beyond ASCII stands for itself, also the few whose upper case is an ASCII letter with a mark
of its own (U+0149, U+01F0, U+1E96 to U+1E9A): its image holds a character beyond ASCII, so no keyword
and no slug can tell the two apart.
-/

namespace SchemaKit.Text

/-- Lower case.  Two characters outside ASCII reach into it: the capital I with a dot above, which
keeps its dot as a character of its own, and the kelvin sign. -/
def lower (c : Char) : List Char :=
  if c = '\u0130' then ['i', '\u0307']
  else if c = '\u212A' then ['k']
  else [c.toLower]

/-- Upper case.  The long s, the dotless i, the sharp s and the seven Latin ligatures reach into
ASCII, the last eight of them as several letters. -/
def upper (c : Char) : List Char :=
  match c with
  | '\u00DF' => ['S', 'S']
  | '\u0131' => ['I']
  | '\u017F' => ['S']
  | '\uFB00' => ['F', 'F']
  | '\uFB01' => ['F', 'I']
  | '\uFB02' => ['F', 'L']
  | '\uFB03' => ['F', 'F', 'I']
  | '\uFB04' => ['F', 'F', 'L']
  | '\uFB05' => ['S', 'T']
  | '\uFB06' => ['S', 'T']
  | c => [c.toUpper]

/-- The letter by which a character is compared when case is ignored: one for one, so that only the
long s and the kelvin sign reach into ASCII. -/
def fold (c : Char) : Char :=
  if c = '\u017F' then 's'
  else if c = '\u212A' then 'k'
  else c.toLower

def lowerChars (cs : List Char) : List Char :=
  cs.flatMap lower

def upperChars (cs : List Char) : List Char :=
  cs.flatMap upper

@[simp] theorem lowerChars_append (a b : List Char) :
    lowerChars (a ++ b) = lowerChars a ++ lowerChars b := by
  simp [lowerChars]

@[simp] theorem upperChars_append (a b : List Char) :
    upperChars (a ++ b) = upperChars a ++ upperChars b := by
  simp [upperChars]

theorem lower_ne_nil (c : Char) : lower c ≠ [] := by
  unfold lower
  split
  · simp
  · split <;> simp

end SchemaKit.Text
