import WindowPlacement.Display.Basic

/-!
# The items of properties

The bytes of a property are its items one after the other, so reading 32 bits at a time gives back
what was written.  A read stops after `Property.readLimit` bytes, which are the first 1024 items
of 32 bits.
-/

namespace WindowPlacement

namespace Property

theorem wordsOfBytes_bytesOfItem_append {item : Nat} (bounded : item < 4294967296)
    (rest : List UInt8) :
    wordsOfBytes (bytesOfItem 4 item ++ rest) = item :: wordsOfBytes rest := by
  simp only [bytesOfItem, List.cons_append, List.nil_append, wordsOfBytes, UInt8.toNat_ofNat']
  congr 1
  omega

/-- Items that have been written are read again, in front of whatever follows them. -/
theorem wordsOfBytes_flatMap_append {items : List Nat} (bounded : ∀ item ∈ items, item < 4294967296)
    (rest : List UInt8) :
    wordsOfBytes (items.flatMap (bytesOfItem 4) ++ rest) = items ++ wordsOfBytes rest := by
  induction items with
  | nil => rfl
  | cons item items ih =>
    rw [List.forall_mem_cons] at bounded
    rw [List.flatMap_cons, List.append_assoc, wordsOfBytes_bytesOfItem_append bounded.1,
      ih bounded.2, List.cons_append]

theorem short_or_item (bytes : List UInt8) :
    (bytes.length < 4 ∧ wordsOfBytes bytes = []) ∨
      ∃ a b c d rest, bytes = a :: b :: c :: d :: rest := by
  rcases bytes with _ | ⟨a, _ | ⟨b, _ | ⟨c, _ | ⟨d, rest⟩⟩⟩⟩
  case cons.cons.cons.cons => exact .inr ⟨a, b, c, d, rest, rfl⟩
  all_goals exact .inl ⟨by simp, by simp only [wordsOfBytes]⟩

theorem length_wordsOfBytes (bytes : List UInt8) :
    (wordsOfBytes bytes).length = bytes.length / 4 := by
  rcases short_or_item bytes with ⟨short, none_there⟩ | ⟨a, b, c, d, rest, rfl⟩
  · rw [none_there, List.length_nil, Nat.div_eq_of_lt short]
  · have ih := length_wordsOfBytes rest
    simp only [wordsOfBytes, List.length_cons, ih]
    omega

theorem wordsOfBytes_take (count : Nat) (bytes : List UInt8) :
    wordsOfBytes (bytes.take (4 * count)) = (wordsOfBytes bytes).take count := by
  induction count generalizing bytes with
  | zero => rfl
  | succ count ih =>
    rcases short_or_item bytes with ⟨short, none_there⟩ | ⟨a, b, c, d, rest, rfl⟩
    · have all : bytes.take (4 * (count + 1)) = bytes := List.take_of_length_le (by omega)
      rw [all, none_there, List.take_nil]
    · have four : 4 * (count + 1) = 4 * count + 1 + 1 + 1 + 1 := by omega
      simp only [four, List.take_succ_cons, wordsOfBytes, ih]

variable {p : Property}

/-- Of items of 32 bits the first 1024 are read. -/
theorem words_eq_take (wide : p.width = 32) : p.words = (wordsOfBytes p.bytes).take 1024 := by
  rw [words, if_pos wide]
  exact wordsOfBytes_take 1024 p.bytes

theorem length_words_le (p : Property) : p.words.length ≤ p.bytes.length / 4 := by
  rw [words]
  split
  · rw [length_wordsOfBytes, List.length_take]
    omega
  · exact Nat.zero_le _

end Property

namespace Display

variable {d : Display}

theorem find?_rootId (d : Display) : d.find? d.rootId = some ⟨d.rootArea, d.rootProperties⟩ :=
  if_pos rfl

/-- The items of a property of a window that is there can always be read. -/
theorem words_eq {window : Nat} {found : DisplayWindow} (known : d.find? window = some found)
    (name type : String) :
    d.words window name type = .ok (((found.properties.lookup name).filter fun property =>
      property.type == type).elim [] Property.words) := by
  simp only [words, property, Display.window, known]
  rfl

theorem words_of_missing {window : Nat} {found : DisplayWindow}
    (known : d.find? window = some found) {name : String}
    (missing : found.properties.lookup name = none) (type : String) :
    d.words window name type = .ok [] := by
  rw [words_eq known, missing]
  rfl

theorem words_of_present {window : Nat} {found : DisplayWindow}
    (known : d.find? window = some found) {name : String} {p : Property}
    (present : found.properties.lookup name = some p) (type : String) :
    d.words window name type = .ok (if p.type = type then p.words else []) := by
  rw [words_eq known, present]
  by_cases same : p.type = type <;> simp [Option.filter, same]

end Display

end WindowPlacement
