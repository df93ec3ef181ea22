/-!
Texts cut into pieces at every occurrence of a character.
-/

namespace SoundScene.Text

/-- The pieces between the marks, among them the empty ones; there is always one. -/
def pieces (mark : Char) : List Char → List (List Char)
  | [] => [[]]
  | c :: rest =>
    if c = mark then [] :: pieces mark rest
    else match pieces mark rest with
      | [] => [[c]]
      | piece :: more => (c :: piece) :: more

theorem pieces_ne_nil (mark : Char) (text : List Char) : pieces mark text ≠ [] := by
  cases text with
  | nil => simp [pieces]
  | cons c rest =>
    unfold pieces
    split
    · simp
    · split <;> simp

example : pieces ',' ['a', ',', ',', 'b'] = [['a'], [], ['b']] := by decide

end SoundScene.Text
