/-!
# Finding a text in another

The first place of a text in another cuts it in two: what stands before, and what stands after.
-/

namespace UsageGrid.Text

/-- The rest of a text that begins with another. -/
def dropStart? : List Char → List Char → Option (List Char)
  | [], cs => some cs
  | _ :: _, [] => none
  | p :: ps, c :: cs => if p = c then dropStart? ps cs else none

/-- The rest of a text that ends with another. -/
def dropEnd? (part cs : List Char) : Option (List Char) :=
  (dropStart? part.reverse cs.reverse).map List.reverse

/-- What stands before and after the first place of a text in another. -/
def cutAt? (part : List Char) : List Char → Option (List Char × List Char)
  | [] => if part = [] then some ([], []) else none
  | c :: cs =>
    match dropStart? part (c :: cs) with
    | some rest => some ([], rest)
    | none => (cutAt? part cs).map fun (before, after) => (c :: before, after)

/-- The text occurs in the other. -/
def occursIn (part whole : String) : Bool := (cutAt? part.toList whole.toList).isSome

/-! ## Laws -/

theorem dropStart?_eq_some {p cs rest : List Char} :
    dropStart? p cs = some rest ↔ cs = p ++ rest := by
  induction p generalizing cs with
  | nil => simp [dropStart?, eq_comm]
  | cons a p ih =>
    cases cs with
    | nil => simp [dropStart?]
    | cons c cs =>
      by_cases h : a = c
      · simp [dropStart?, h, ih]
      · simp [dropStart?, h, Ne.symm h]

/-- **What is cut belongs together.** -/
theorem eq_append_of_cutAt? {part cs before after : List Char}
    (h : cutAt? part cs = some (before, after)) : cs = before ++ part ++ after := by
  induction cs generalizing before with
  | nil =>
    by_cases hp : part = [] <;> simp_all [cutAt?]
  | cons c cs ih =>
    simp only [cutAt?] at h
    split at h
    · rename_i rest hr
      cases h
      simpa using dropStart?_eq_some.1 hr
    · cases hc : cutAt? part cs with
      | none => simp [hc] at h
      | some r =>
        obtain ⟨b, a⟩ := r
        simp only [hc, Option.map_some, Option.some.injEq, Prod.mk.injEq] at h
        obtain ⟨rfl, rfl⟩ := h
        simp [ih hc]

end UsageGrid.Text
