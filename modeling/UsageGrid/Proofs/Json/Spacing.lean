import UsageGrid.Json.Reader

/-!
# One written form

The two written forms of a value differ only in the space they leave (`Spacing`): what is proved of
`Spacing.chars` holds of both (`chars_indented`, `chars_tight`).
-/

namespace UsageGrid.Json

/-- Where a written value has space: in front of every part, by its level, and behind the colon of
    a member. -/
structure Spacing where
  line : Nat → List Char
  colon : List Char
  isSpace_line : ∀ level, ∀ c ∈ line level, isSpace c = true
  isSpace_colon : ∀ c ∈ colon, isSpace c = true

namespace Spacing

mutual

def chars (sp : Spacing) (level : Nat) : Json → List Char
  | .array [] => ['[', ']']
  | .array items =>
    '[' :: sp.line (level + 1) ++ charsItems sp (level + 1) items ++ sp.line level ++ [']']
  | .object [] => [openBrace, closeBrace]
  | .object members =>
    openBrace :: sp.line (level + 1) ++ charsMembers sp (level + 1) members
      ++ sp.line level ++ [closeBrace]
  | .null => compactChars .null
  | .bool b => compactChars (.bool b)
  | .int n => compactChars (.int n)
  | .float x => compactChars (.float x)
  | .string s => compactChars (.string s)

def charsItems (sp : Spacing) (level : Nat) : List Json → List Char
  | [] => []
  | [v] => chars sp level v
  | v :: rest => chars sp level v ++ ',' :: sp.line level ++ charsItems sp level rest

def charsMembers (sp : Spacing) (level : Nat) : List (String × Json) → List Char
  | [] => []
  | [(k, v)] => writeString k ++ ':' :: sp.colon ++ chars sp level v
  | (k, v) :: rest =>
    writeString k ++ ':' :: sp.colon ++ chars sp level v ++ ',' :: sp.line level
      ++ charsMembers sp level rest

end

section

variable (sp : Spacing)

theorem chars_array (level : Nat) (v : Json) (rest : List Json) :
    sp.chars level (.array (v :: rest)) = '[' :: (sp.line (level + 1)
      ++ (sp.charsItems (level + 1) (v :: rest) ++ (sp.line level ++ [']']))) := by
  simp [chars]

theorem chars_object (level : Nat) (m : String × Json) (rest : List (String × Json)) :
    sp.chars level (.object (m :: rest)) = openBrace :: (sp.line (level + 1)
      ++ (sp.charsMembers (level + 1) (m :: rest) ++ (sp.line level ++ [closeBrace]))) := by
  simp [chars]

theorem charsItems_cons (level : Nat) (v w : Json) (rest : List Json) :
    sp.charsItems level (v :: w :: rest)
      = sp.chars level v ++ ',' :: (sp.line level ++ sp.charsItems level (w :: rest)) := by
  simp [charsItems]

theorem charsMembers_one (level : Nat) (k : String) (v : Json) :
    sp.charsMembers level [(k, v)] = (writeString k ++ ':' :: sp.colon) ++ sp.chars level v := by
  simp [charsMembers]

theorem charsMembers_cons (level : Nat) (k : String) (v : Json) (m : String × Json)
    (rest : List (String × Json)) :
    sp.charsMembers level ((k, v) :: m :: rest) = (writeString k ++ ':' :: sp.colon)
      ++ (sp.chars level v ++ ',' :: (sp.line level ++ sp.charsMembers level (m :: rest))) := by
  simp [charsMembers]

end

/-! ## 1. The indented form -/

theorem isSpace_of_mem_newline (level : Nat) : ∀ c ∈ newline level, isSpace c = true := by
  intro c h
  rcases List.mem_cons.1 h with rfl | h
  · rfl
  · rw [List.eq_of_mem_replicate h]
    rfl

/-- A line for every part. -/
def indented : Spacing where
  line := newline
  colon := [' ']
  isSpace_line := isSpace_of_mem_newline
  isSpace_colon := List.forall_mem_singleton.2 rfl

@[simp] theorem line_indented (level : Nat) : indented.line level = newline level := rfl

@[simp] theorem colon_indented : indented.colon = [' '] := rfl

mutual

theorem chars_indented (level : Nat) : ∀ v : Json, indented.chars level v = prettyChars level v
  | .null | .bool _ | .int _ | .float _ | .string _ | .array [] | .object [] => rfl
  | .array (v :: rest) => by
    simp [chars, prettyChars, charsItems_indented (level + 1) (v :: rest)]
  | .object (m :: rest) => by
    simp [chars, prettyChars, charsMembers_indented (level + 1) (m :: rest)]

theorem charsItems_indented (level : Nat) :
    ∀ items : List Json, indented.charsItems level items = prettyItems level items
  | [] => rfl
  | [v] => chars_indented level v
  | v :: w :: rest => by
    simp [charsItems, prettyItems, chars_indented level v, charsItems_indented level (w :: rest)]

theorem charsMembers_indented (level : Nat) :
    ∀ members : List (String × Json),
      indented.charsMembers level members = prettyMembers level members
  | [] => rfl
  | [(k, v)] => by
    simp [charsMembers, prettyMembers, chars_indented level v]
  | (k, v) :: m :: rest => by
    have hrest := charsMembers_indented level (m :: rest)
    simp [charsMembers, prettyMembers, chars_indented level v, hrest]

end

/-! ## 2. The compact form -/

/-- No space at all. -/
def tight : Spacing where
  line _ := []
  colon := []
  isSpace_line _ _ h := absurd h List.not_mem_nil
  isSpace_colon _ h := absurd h List.not_mem_nil

@[simp] theorem line_tight (level : Nat) : tight.line level = [] := rfl

@[simp] theorem colon_tight : tight.colon = [] := rfl

mutual

theorem chars_tight (level : Nat) : ∀ v : Json, tight.chars level v = compactChars v
  | .null | .bool _ | .int _ | .float _ | .string _ | .array [] | .object [] => rfl
  | .array (v :: rest) => by
    simp [chars, compactChars, charsItems_tight (level + 1) (v :: rest)]
  | .object (m :: rest) => by
    simp [chars, compactChars, charsMembers_tight (level + 1) (m :: rest)]

theorem charsItems_tight (level : Nat) :
    ∀ items : List Json, tight.charsItems level items = compactItems items
  | [] => rfl
  | [v] => chars_tight level v
  | v :: w :: rest => by
    simp [charsItems, compactItems, chars_tight level v, charsItems_tight level (w :: rest)]

theorem charsMembers_tight (level : Nat) :
    ∀ members : List (String × Json), tight.charsMembers level members = compactMembers members
  | [] => rfl
  | [(k, v)] => by
    simp [charsMembers, compactMembers, chars_tight level v]
  | (k, v) :: m :: rest => by
    simp [charsMembers, compactMembers, chars_tight level v, charsMembers_tight level (m :: rest)]

end

end Spacing

end UsageGrid.Json
