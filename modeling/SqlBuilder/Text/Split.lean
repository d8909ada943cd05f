/-!
# Words matched without regard to case

Keywords inside names (` as `, `_and_`, `where_`) are matched with the case of ASCII letters
ignored; every other character stands for itself alone. `stripWord?` matches a keyword at the front
of a text and `splitFirst?` finds the leftmost place where a match succeeds.
-/

namespace SqlBuilder.Text

/-- The text with its ASCII capitals made small. -/
def lowerAscii (cs : List Char) : List Char :=
  cs.map Char.toLower

/-- What follows `word` at the front of a text, the case of ASCII letters ignored. The word is given
in small letters. -/
def stripWord? : (word cs : List Char) → Option (List Char)
  | [], cs => some cs
  | _ :: _, [] => none
  | w :: ws, c :: cs => if c.toLower = w then stripWord? ws cs else none

/-- The text cut at the leftmost place where `strip?` succeeds: what comes before that place, and
what `strip?` leaves of the rest. -/
def splitFirst? {α : Type} (strip? : List Char → Option α) : List Char → Option (List Char × α)
  | [] => none
  | c :: cs =>
    match strip? (c :: cs) with
    | some rest => some ([], rest)
    | none => (splitFirst? strip? cs).map fun (before, rest) => (c :: before, rest)

/-- A word match leaves a suffix: the text is some spelling of the word followed by it. -/
theorem exists_of_stripWord? {word cs rest : List Char} (h : stripWord? word cs = some rest) :
    ∃ spelled, cs = spelled ++ rest ∧ lowerAscii spelled = word := by
  induction word generalizing cs with
  | nil =>
    simp only [stripWord?, Option.some.injEq] at h
    exact ⟨[], by simp [h], rfl⟩
  | cons w ws ih =>
    cases cs with
    | nil => simp [stripWord?] at h
    | cons c cs =>
      simp only [stripWord?] at h
      split at h
      next hc =>
        obtain ⟨spelled, hs, hw⟩ := ih h
        refine ⟨c :: spelled, by simp [hs], ?_⟩
        simp only [lowerAscii, List.map_cons, hc, List.cons.injEq, true_and]
        exact hw
      next => simp at h

theorem length_of_stripWord? {word cs rest : List Char} (h : stripWord? word cs = some rest) :
    cs.length = word.length + rest.length := by
  obtain ⟨spelled, rfl, hw⟩ := exists_of_stripWord? h
  rw [List.length_append, ← hw, lowerAscii, List.length_map]

example : stripWord? " as ".toList " AS b".toList = some ['b'] := by decide

example : splitFirst? (stripWord? " as ".toList) "a aS b".toList = some (['a'], ['b']) := by decide

end SqlBuilder.Text
