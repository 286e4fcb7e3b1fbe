/-!
# Readers

A reader takes something off the front of a text, or fails.  That it never leaves more than
it was given is part of its type.  `loop` is the one way to repeat: it takes a character,
lets a step read on from there, and so ends on every text without any count of steps.
-/

namespace WindowPlacement.Text

/-- What is left of a text after something has been read. -/
abbrev Rest (s : List Char) : Type :=
  { rest : List Char // rest.length ≤ s.length }

/-- Something that reads from the front of a text. -/
def Reader (α : Type) : Type :=
  (s : List Char) → Option (α × Rest s)

namespace Reader

variable {α β σ : Type}

def pure (value : α) : Reader α :=
  fun s => some (value, ⟨s, Nat.le_refl _⟩)

/-- Read one thing and then another one. -/
def bind (first : Reader α) (next : α → Reader β) : Reader β := fun s =>
  match first s with
  | none => none
  | some (value, ⟨rest, shorter⟩) =>
    match next value rest with
    | none => none
    | some (result, ⟨final, final_shorter⟩) =>
      some (result, ⟨final, Nat.le_trans final_shorter shorter⟩)

instance : Monad Reader where
  pure := pure
  bind := bind

def fail : Reader α :=
  fun _ => none

/-- The text is only right under a condition. -/
def require (condition : Bool) : Reader Unit :=
  if condition then pure () else fail

def ofOption : Option α → Reader α
  | some value => pure value
  | none => fail

/-- All of the text, without reading any of it. -/
def lookAhead : Reader (List Char) :=
  fun s => some (s, ⟨s, Nat.le_refl _⟩)

/-- The first character, without reading it. -/
def peek : Reader (Option Char) :=
  fun s => some (s.head?, ⟨s, Nat.le_refl _⟩)

def next : Reader Char
  | [] => none
  | c :: rest => some (c, ⟨rest, Nat.le_succ _⟩)

/-- Read a character if it is the given one, and say whether it was. -/
def skipChar (c : Char) : Reader Bool
  | [] => some (false, ⟨[], Nat.le_refl _⟩)
  | d :: rest =>
    if d = c then
      some (true, ⟨rest, Nat.le_succ _⟩)
    else
      some (false, ⟨d :: rest, Nat.le_refl _⟩)

/-- Read the longest run of characters that have a property. -/
def takeWhile (p : Char → Bool) : Reader (List Char) :=
  fun s => some (s.takeWhile p, ⟨s.dropWhile p, (List.dropWhile_sublist p).length_le⟩)

/-- Read a run of characters that have a property, and after each of them what another
reader skips. -/
def takeWhileSkipping (p : Char → Bool) (skip : Reader Unit) : Reader (List Char)
  | [] => some ([], ⟨[], Nat.le_refl _⟩)
  | c :: rest =>
    if p c then
      match skip rest with
      | none => none
      | some ((), ⟨left, shorter⟩) =>
        match takeWhileSkipping p skip left with
        | none => none
        | some (taken, ⟨final, final_shorter⟩) =>
          some (c :: taken, ⟨final, Nat.le_succ_of_le (Nat.le_trans final_shorter shorter)⟩)
    else
      some ([], ⟨c :: rest, Nat.le_refl _⟩)
termination_by s => s.length

/-- Read what a reader reads, or nothing if it fails. -/
def attempt (reader : Reader α) : Reader (Option α) := fun s =>
  match reader s with
  | none => some (none, ⟨s, Nat.le_refl _⟩)
  | some (value, rest) => some (some value, rest)

/-- Read a character and go on from it with a step, until a step has a result or the text
ends. -/
def loop (step : σ → Char → Reader (σ ⊕ β)) (atEnd : σ → Option β) (state : σ) : Reader β
  | [] => (atEnd state).map fun result => (result, ⟨[], Nat.le_refl _⟩)
  | c :: rest =>
    match step state c rest with
    | none => none
    | some (.inr result, ⟨left, shorter⟩) =>
      some (result, ⟨left, Nat.le_succ_of_le shorter⟩)
    | some (.inl state, ⟨left, shorter⟩) =>
      match loop step atEnd state left with
      | none => none
      | some (result, ⟨final, final_shorter⟩) =>
        some (result, ⟨final, Nat.le_succ_of_le (Nat.le_trans final_shorter shorter)⟩)
termination_by s => s.length

def expect : List Char → Reader Unit
  | [] => pure ()
  | c :: rest => do
    let d ← next
    require (d == c)
    expect rest

/-- Read a given number of times. -/
def replicate (reader : Reader α) : Nat → Reader (List α)
  | 0 => pure []
  | count + 1 => do
    let first ← reader
    let rest ← replicate reader count
    pure (first :: rest)

/-- What is read from a text, if the reader gets to the end of it. -/
def readAll (reader : Reader α) (s : List Char) : Option α :=
  match reader s with
  | some (value, ⟨[], _⟩) => some value
  | _ => none

end Reader

end WindowPlacement.Text
