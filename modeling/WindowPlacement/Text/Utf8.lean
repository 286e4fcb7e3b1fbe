/-!
# Lenient decoding of UTF-8

Titles come as bytes that should be, but need not be, UTF-8.  Every stretch of bytes that
cannot be decoded is replaced by the replacement character: the longest beginning of a
character, or else a single byte.
-/

namespace WindowPlacement.Text

/-- What the first byte of a character says about the bytes behind it: their number, the
bounds of the first of them, and the part of the code point in the first byte. -/
structure LeadByte where
  count : Nat
  low : UInt8
  high : UInt8
  bits : Nat

/-- The first byte of a character beyond ASCII.  The bounds leave out code points that have a
shorter form, that are halves of surrogate pairs, or that are too large. -/
def LeadByte.ofByte? (b : UInt8) : Option LeadByte :=
  if 0xC2 ≤ b ∧ b ≤ 0xDF then
    some ⟨1, 0x80, 0xBF, b.toNat % 32⟩
  else if 0xE0 ≤ b ∧ b ≤ 0xEF then
    some ⟨2, if b = 0xE0 then 0xA0 else 0x80, if b = 0xED then 0x9F else 0xBF, b.toNat % 16⟩
  else if 0xF0 ≤ b ∧ b ≤ 0xF4 then
    some ⟨3, if b = 0xF0 then 0x90 else 0x80, if b = 0xF4 then 0x8F else 0xBF, b.toNat % 8⟩
  else
    none

/-- The character that stands for bytes that cannot be decoded. -/
def replacementChar : Char :=
  '\ufffd'

/-- Read a number of bytes that continue a character, the first of them within bounds.  The
answer is the code point, unless a byte is missing, and the bytes behind. -/
def continuation (low high : UInt8) (value : Nat) : Nat → List UInt8 → Option Nat × List UInt8
  | 0, bytes => (some value, bytes)
  | _ + 1, [] => (none, [])
  | count + 1, b :: bytes =>
    if low ≤ b ∧ b ≤ high then
      continuation 0x80 0xBF (64 * value + b.toNat % 64) count bytes
    else
      (none, b :: bytes)

theorem length_continuation_le (low high : UInt8) (value count : Nat) (bytes : List UInt8) :
    (continuation low high value count bytes).2.length ≤ bytes.length := by
  induction count generalizing low high value bytes with
  | zero => simp [continuation]
  | succ count ih =>
    cases bytes with
    | nil => simp [continuation]
    | cons b bytes =>
      simp only [continuation]
      split
      · exact Nat.le_succ_of_le (ih _ _ _ _)
      · exact Nat.le_refl _

/-- The first character of some bytes that start with the given one, and the bytes behind
it. -/
def firstChar (b : UInt8) (bytes : List UInt8) : Char × List UInt8 :=
  if b < 0x80 then
    (Char.ofNat b.toNat, bytes)
  else
    match LeadByte.ofByte? b with
    | none => (replacementChar, bytes)
    | some lead =>
      let (value, rest) := continuation lead.low lead.high lead.bits lead.count bytes
      (value.elim replacementChar Char.ofNat, rest)

theorem length_firstChar_le (b : UInt8) (bytes : List UInt8) :
    (firstChar b bytes).2.length ≤ bytes.length := by
  unfold firstChar
  split
  · exact Nat.le_refl _
  · split
    · exact Nat.le_refl _
    · exact length_continuation_le ..

def decodeLenient : List UInt8 → List Char
  | [] => []
  | b :: bytes => (firstChar b bytes).1 :: decodeLenient (firstChar b bytes).2
termination_by bytes => bytes.length
decreasing_by exact Nat.lt_succ_of_le (length_firstChar_le b bytes)

end WindowPlacement.Text
