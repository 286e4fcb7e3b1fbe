/-!
# Blank characters and trimming

The blanks are the characters with the Unicode property `White_Space`.  Text typed
by a user is read after its blanks at both ends are dropped; `trim` does this on
lists of characters, which is the form the readers of this library work on.
The lemmas say that nothing but blanks is lost and that a trimmed text has none
at its ends.
-/

namespace WindowPlacement.Text

/-- Whether a character has the property `White_Space`. -/
def isBlank (c : Char) : Bool :=
  let n := c.toNat
  (9 ≤ n && n ≤ 13) || n == 0x20 || n == 0x85 || n == 0xA0 || n == 0x1680 ||
    (0x2000 ≤ n && n ≤ 0x200A) || n == 0x2028 || n == 0x2029 || n == 0x202F ||
    n == 0x205F || n == 0x3000

/-- The text without the blanks in front. -/
def trimLeft (s : List Char) : List Char :=
  s.dropWhile isBlank

/-- The text without the blanks at its end. -/
def trimRight (s : List Char) : List Char :=
  (s.reverse.dropWhile isBlank).reverse

/-- The text without the blanks at both ends. -/
def trim (s : List Char) : List Char :=
  trimRight (trimLeft s)

/-- A string without the blanks at both ends. -/
def trimmed (s : String) : String :=
  String.ofList (trim s.toList)

theorem length_trimLeft_le (s : List Char) : (trimLeft s).length ≤ s.length :=
  (List.dropWhile_sublist isBlank).length_le

/-- What is dropped in front is blank. -/
theorem takeWhile_append_trimLeft (s : List Char) :
    s.takeWhile isBlank ++ trimLeft s = s :=
  List.takeWhile_append_dropWhile

/-- The first character left is no blank. -/
theorem isBlank_eq_false_of_trimLeft_eq_cons {s rest : List Char} {c : Char}
    (split : trimLeft s = c :: rest) : isBlank c = false := by
  have head := List.head?_dropWhile_not isBlank s
  rw [← trimLeft, split] at head
  exact head

end WindowPlacement.Text
