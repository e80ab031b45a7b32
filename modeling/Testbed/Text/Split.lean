/-!
# Text cut at a character, and words put together
-/

namespace Testbed.Text

/-- The pieces between the occurrences of a character; there is one more piece than occurrences. -/
def split (sep : Char) : List Char → List (List Char)
  | [] => [[]]
  | c :: rest =>
    if c = sep then [] :: split sep rest
    else
      match split sep rest with
      | [] => [[c]]
      | piece :: pieces => (c :: piece) :: pieces

theorem split_ne_nil (sep : Char) (cs : List Char) : split sep cs ≠ [] := by
  cases cs with
  | nil => simp [split]
  | cons c rest =>
    simp only [split]
    split
    · simp
    · split <;> simp

/-- Joining the pieces with the character gives the text back. -/
theorem intercalate_split (sep : Char) (cs : List Char) :
    [sep].intercalate (split sep cs) = cs := by
  induction cs with
  | nil => simp [split, List.intercalate]
  | cons c rest ih =>
    simp only [split]
    split
    · rename_i eq
      cases h : split sep rest with
      | nil => exact absurd h (split_ne_nil sep rest)
      | cons piece pieces =>
        rw [h] at ih
        simp_all [List.intercalate]
    · cases h : split sep rest with
      | nil => exact absurd h (split_ne_nil sep rest)
      | cons piece pieces =>
        rw [h] at ih
        cases pieces <;> simp_all [List.intercalate]

/-- Words with blanks between them. -/
def spaced (ws : List String) : String := String.intercalate " " ws

end Testbed.Text
