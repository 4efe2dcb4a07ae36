/- # Plain output

What a command prints may hold words that came from outside, and these may
hold control sequences, which a terminal would obey. A control sequence opens
with an escape and a bracket, goes on with parameters and intermediate
characters, and ends with one final character. Output holds none of them, and
its lines end with a line feed alone.

Key definitions: `afterSequence?`, `withoutSequences`, `plain`.
-/

namespace Chronicle.CommandLine.Terminal

/-- Whether a character is a parameter of a control sequence: a digit, or one of `:;<=>?`. -/
def isParameter (c : Char) : Bool := 0x30 ≤ c.toNat && c.toNat ≤ 0x3F

/-- Whether a character can stand between the parameters and the end of a control sequence. -/
def isIntermediate (c : Char) : Bool := 0x20 ≤ c.toNat && c.toNat ≤ 0x2F

/-- Whether a character ends a control sequence. -/
def isFinal (c : Char) : Bool := 0x40 ≤ c.toNat && c.toNat ≤ 0x7E

/-- What follows a control sequence whose opening has been read; none if it has no end. -/
def afterSequence? (cs : List Char) : Option (List Char) :=
  match (cs.dropWhile isParameter).dropWhile isIntermediate with
  | c :: rest => if isFinal c then some rest else none
  | [] => none

theorem length_of_afterSequence? {cs rest : List Char} (h : afterSequence? cs = some rest) :
    rest.length < cs.length := by
  have h₁ := (List.dropWhile_sublist isParameter (l := cs)).length_le
  have h₂ := (List.dropWhile_sublist isIntermediate (l := cs.dropWhile isParameter)).length_le
  unfold afterSequence? at h
  split at h
  · next c tail heq =>
    rw [heq] at h₂
    split at h
    · cases h
      simp only [List.length_cons] at h₂
      omega
    · cases h
  · cases h

/-- The characters of a text without its control sequences. -/
def withoutSequences : List Char → List Char
  | [] => []
  | '\x1b' :: '[' :: cs =>
    match h : afterSequence? cs with
    | some rest =>
      have := length_of_afterSequence? h
      withoutSequences rest
    | none => '\x1b' :: withoutSequences ('[' :: cs)
  | c :: cs => c :: withoutSequences cs
termination_by cs => cs.length
decreasing_by
  · simp only [List.length_cons]
    omega
  · simp
  · simp

/-- The characters of a text with each carriage return before a line feed taken out. -/
def withoutReturns : List Char → List Char
  | [] => []
  | '\r' :: '\n' :: cs => '\n' :: withoutReturns cs
  | c :: cs => c :: withoutReturns cs

/-- A text as it is printed. -/
def plain (s : String) : String := String.ofList (withoutReturns (withoutSequences s.toList))

end Chronicle.CommandLine.Terminal
