/-!
# Cutting texts at a separator

* `splitOn` — the parts between the separators; there is always at least one.
* `cutAt` — what stands before the first character of a kind, and what stands from it on.
* `trimBoth` — a text without the characters of a kind at its two ends.
-/

namespace OrderHerald

/-- **The parts between the separators.**  `n` separators make `n + 1` parts. -/
def splitOn (separator : Char) : List Char → List (List Char)
  | [] => [[]]
  | c :: rest =>
    if c = separator then [] :: splitOn separator rest
    else
      match splitOn separator rest with
      | [] => [[c]]
      | part :: parts => (c :: part) :: parts

/-- What stands before the first character with a property, and the rest from there on. -/
def cutAt (stop : Char → Bool) : List Char → List Char × List Char
  | [] => ([], [])
  | c :: rest => if stop c then ([], c :: rest) else ((c :: (cutAt stop rest).1), (cutAt stop rest).2)

/-- A text without the characters of a kind at its ends. -/
def trimBoth (blank : Char → Bool) (text : List Char) : List Char :=
  ((text.dropWhile blank).reverse.dropWhile blank).reverse

theorem splitOn_ne_nil (separator : Char) (text : List Char) : splitOn separator text ≠ [] := by
  cases text with
  | nil => simp [splitOn]
  | cons c rest =>
    simp only [splitOn]
    split
    · simp
    · split <;> simp

/-- The parts, with the separators between them, are the text. -/
theorem intercalate_splitOn (separator : Char) (text : List Char) :
    [separator].intercalate (splitOn separator text) = text := by
  induction text with
  | nil => rfl
  | cons c rest ih =>
    simp only [splitOn]
    split
    · rename_i h
      subst h
      cases hs : splitOn c rest with
      | nil => exact absurd hs (splitOn_ne_nil _ _)
      | cons part parts => simp [List.intercalate, hs] at ih ⊢; simpa using ih
    · cases hs : splitOn separator rest with
      | nil => exact absurd hs (splitOn_ne_nil _ _)
      | cons part parts =>
        rw [hs] at ih
        cases parts with
        | nil => simpa [List.intercalate] using ih
        | cons next more => simpa [List.intercalate] using ih

/-- **Where a text is cut**: in front of the first character with the property. -/
theorem cutAt_eq_cons_iff {stop : Char → Bool} {text before : List Char} {c : Char}
    {rest : List Char} :
    cutAt stop text = (before, c :: rest)
      ↔ text = before ++ c :: rest ∧ (∀ d ∈ before, stop d = false) ∧ stop c = true := by
  induction text generalizing before with
  | nil => simp [cutAt]
  | cons d text ih =>
    by_cases stops : stop d = true
    · rw [cutAt, if_pos stops]
      cases before with
      | nil => grind
      | cons e before => grind
    · rw [cutAt, if_neg stops]
      cases before with
      | nil => grind
      | cons e before =>
        have cut : cutAt stop text = (before, c :: rest)
            ↔ (cutAt stop text).1 = before ∧ (cutAt stop text).2 = c :: rest := Prod.ext_iff
        rw [ih] at cut
        grind

end OrderHerald
