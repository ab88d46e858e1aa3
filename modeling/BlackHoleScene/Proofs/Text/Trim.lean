import Mathlib.Data.List.TakeWhile
import BlackHoleScene.Text.Blank

/-!
# Trimmed texts

Trimming leaves what stands between the characters that are dropped at both ends
of a text.
-/

namespace BlackHoleScene
namespace Text

variable {drop : Char → Bool} {before core after : List Char}

/-- What is dropped in front of a text ends where a character is kept. -/
theorem dropWhile_append_of_kept
    (dropped : ∀ c ∈ before, drop c = true)
    (kept : ∀ c ∈ core, drop c = false)
    (nonempty : core ≠ []) :
    (before ++ (core ++ after)).dropWhile drop = core ++ after := by
  rw [List.dropWhile_append_of_pos dropped]
  cases core with
  | nil => exact absurd rfl nonempty
  | cons c rest =>
      exact List.dropWhile_cons_of_neg (by simp [kept c List.mem_cons_self])

/-- What stands between dropped characters is left. -/
theorem trimBy_append
    (dropped : ∀ c ∈ before ++ after, drop c = true)
    (kept : ∀ c ∈ core, drop c = false)
    (nonempty : core ≠ []) :
    trimBy drop (before ++ core ++ after) = core := by
  obtain ⟨front, back⟩ := List.forall_mem_append.1 dropped
  have reversed :
      (core ++ after).reverse = after.reverse ++ (core.reverse ++ []) := by simp
  rw [trimBy, List.append_assoc, dropWhile_append_of_kept front kept nonempty,
    reversed, dropWhile_append_of_kept]
  · simp
  · simpa using back
  · simpa using kept
  · simpa using nonempty

/-- What is left of a text stands between dropped characters. -/
theorem exists_append_trimBy (drop : Char → Bool) (text : List Char) :
    ∃ before after,
      (∀ c ∈ before ++ after, drop c = true) ∧
        text = before ++ trimBy drop text ++ after := by
  let rest := text.dropWhile drop
  refine ⟨text.takeWhile drop, (rest.reverse.takeWhile drop).reverse, ?_,
    ?_⟩
  · intro c member
    rcases List.mem_append.1 member with front | back
    · exact List.mem_takeWhile_imp front
    · exact List.mem_takeWhile_imp (List.mem_reverse.1 back)
  · rw [trimBy, List.append_assoc, ← List.reverse_append,
      List.takeWhile_append_dropWhile, List.reverse_reverse,
      List.takeWhile_append_dropWhile]

/-- Characters can be replaced after trimming as well as before. -/
theorem trimBy_map (f : Char → Char) (text : List Char) :
    trimBy drop (text.map f) = (trimBy (fun c => drop (f c)) text).map f := by
  simp only [trimBy, List.dropWhile_map, ← List.map_reverse]
  rfl

end Text
end BlackHoleScene
