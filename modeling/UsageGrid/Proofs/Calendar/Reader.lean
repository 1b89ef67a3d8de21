import Mathlib.Data.List.Infix
import Mathlib.Data.List.TakeWhile
import UsageGrid.Calendar.Reader
import UsageGrid.Proofs.Calendar.Fields
import UsageGrid.Proofs.Decimal.Digits
import UsageGrid.Proofs.Text.Parts

/-!
# What the items of a format take

* A number takes digits, and as many as it may (`digits?_eq_some`, `digits?_append`).
* An item takes the beginning of the text and leaves the rest, and it says none but its own fields
  (`item?_leaves`).
* Items one after the other do so too (`items?_leaves`). Unless one is a time stamp, what they take
  does not depend on what has been said before: they say their fields (`said?`), and those are then
  said all together (`items?_eq_some_iff`).
-/

namespace UsageGrid.Calendar

open Decimal

namespace Reader

variable {cs rest : List Char} {f g : Fields} {F G : Format} {said : List (Slot × Int)}

/-! ## 1. Blanks and digits -/

theorem dropBlanks_suffix (cs : List Char) : dropBlanks cs <:+ cs := List.dropWhile_suffix _

@[simp] theorem dropBlanks_dropBlanks (cs : List Char) :
    dropBlanks (dropBlanks cs) = dropBlanks cs :=
  Text.dropWhile_eq_self fun _ h => Text.head?_dropWhile h

/-- No digit follows. -/
def EndsNumber (cs : List Char) : Prop := ∀ c, cs.head? = some c → isDigit c = false

theorem endsNumber_nil : EndsNumber [] := by rintro _ ⟨⟩

theorem endsNumber_cons {c : Char} (h : isDigit c = false) : EndsNumber (c :: cs) := by
  rintro _ ⟨⟩
  exact h

/-- Digits are taken as far as they go. -/
theorem digits?_append {ds : List Char} {most : Nat} (hds : ∀ c ∈ ds, isDigit c = true)
    (hne : ds ≠ []) (hmost : ds.length ≤ most) (hrest : EndsNumber rest) :
    digits? (some most) (ds ++ rest) = some (natOfDigits ds, rest) := by
  have hstop : rest.takeWhile isDigit = [] := by
    cases rest with
    | nil => rfl
    | cons c rest => rw [List.takeWhile_cons_of_neg (by simp [hrest c rfl])]
  have hall : (ds ++ rest).takeWhile isDigit = ds := by
    rw [List.takeWhile_append_of_pos hds, hstop, List.append_nil]
  unfold digits?
  simp only [hall, Option.getD_some, List.take_of_length_le hmost, List.isEmpty_iff, hne, if_false,
    List.drop_left]

/-- The digits that a number takes. -/
structure TakesDigits (most : Option Nat) (n : Nat) (ds rest : List Char) : Prop where
  ne_nil : ds ≠ []
  digits : ∀ c ∈ ds, isDigit c = true
  value : natOfDigits ds = n
  length_le : ∀ m ∈ most, ds.length ≤ m
  /-- More digits are left only where there is no room for them. -/
  ends : (∃ m ∈ most, ds.length = m) ∨ EndsNumber rest

theorem digits?_eq_some {most : Option Nat} {n : Nat} (h : digits? most cs = some (n, rest)) :
    ∃ ds, cs = ds ++ rest ∧ TakesDigits most n ds rest := by
  unfold digits? at h
  dsimp only at h
  split at h
  · cases h
  · rename_i hne
    cases h
    refine ⟨_, ?_, by simpa using hne, ?_, rfl, ?_, ?_⟩
    · have hprefix : (cs.takeWhile isDigit).take (most.getD (cs.takeWhile isDigit).length) <+: cs :=
        (List.take_prefix _ _).trans (List.takeWhile_prefix _)
      conv_lhs => rw [← List.take_append_drop
        ((cs.takeWhile isDigit).take (most.getD (cs.takeWhile isDigit).length)).length cs]
      rw [← List.prefix_iff_eq_take.1 hprefix]
    · intro c hc
      exact List.mem_takeWhile_imp (List.mem_of_mem_take hc)
    · rintro m ⟨⟩
      exact List.length_take_le _ _
    · by_cases hroom : (cs.takeWhile isDigit).length ≤ most.getD (cs.takeWhile isDigit).length
      · refine .inr fun c hc => ?_
        rw [List.take_of_length_le hroom] at hc
        have hdrop : (cs.takeWhile isDigit ++ cs.dropWhile isDigit).drop
            (cs.takeWhile isDigit).length = cs.dropWhile isDigit := List.drop_left
        rw [List.takeWhile_append_dropWhile] at hdrop
        rw [hdrop] at hc
        exact Text.head?_dropWhile hc
      · cases most with
        | none => exact absurd (Nat.le_refl _) hroom
        | some m =>
          refine .inl ⟨m, rfl, ?_⟩
          rw [Option.getD_some] at hroom ⊢
          rw [List.length_take]
          omega

/-! ## 2. Numbers -/

/-- The text that a number takes: blanks, a sign where there may be one, and digits. -/
structure TakesNumber (q : Quantity) (cs : List Char) (v : Int) (blanks sign ds rest : List Char) :
    Prop where
  eq_append : cs = blanks ++ (sign ++ (ds ++ rest))
  blank : ∀ c ∈ blanks, Text.isBlank c = true
  sign_eq : sign = [] ∨ (q.isSigned = true ∧ (sign = ['-'] ∨ sign = ['+']))
  digits : TakesDigits (if sign = [] then q.width else none) v.natAbs ds rest
  neg_iff : v < 0 → sign = ['-']

theorem signed?_eq_some {most : Option Nat} {v : Int} (h : signed? most cs = some (v, rest)) :
    ∃ sign ds, cs = sign ++ (ds ++ rest) ∧ (sign = [] ∨ sign = ['-'] ∨ sign = ['+']) ∧
      TakesDigits (if sign = [] then most else none) v.natAbs ds rest ∧ (v < 0 → sign = ['-']) := by
  unfold signed? at h
  split at h
  · obtain ⟨⟨n, r⟩, hn, hv⟩ := Option.map_eq_some_iff.1 h
    cases hv
    obtain ⟨ds, rfl, hds⟩ := digits?_eq_some hn
    exact ⟨['-'], ds, rfl, .inr (.inl rfl), by simpa using hds, fun _ => rfl⟩
  · obtain ⟨⟨n, r⟩, hn, hv⟩ := Option.map_eq_some_iff.1 h
    cases hv
    obtain ⟨ds, rfl, hds⟩ := digits?_eq_some hn
    exact ⟨['+'], ds, rfl, .inr (.inr rfl), by simpa using hds, fun hneg => by omega⟩
  · obtain ⟨⟨n, r⟩, hn, hv⟩ := Option.map_eq_some_iff.1 h
    cases hv
    obtain ⟨ds, rfl, hds⟩ := digits?_eq_some hn
    exact ⟨[], ds, rfl, .inl rfl, by simpa using hds, fun hneg => by omega⟩

theorem number?_eq_some {q : Quantity} (h : number? q cs = some (said, rest)) :
    ∃ v blanks sign ds, said = q.fields v ∧ TakesNumber q cs v blanks sign ds rest := by
  have hsplit : cs = cs.takeWhile Text.isBlank ++ dropBlanks cs :=
    List.takeWhile_append_dropWhile.symm
  have hblank : ∀ c ∈ cs.takeWhile Text.isBlank, Text.isBlank c = true := fun c hc =>
    List.mem_takeWhile_imp hc
  unfold number? at h
  dsimp only at h
  cases hq : q.isSigned with
  | true =>
    rw [hq, if_pos rfl] at h
    obtain ⟨⟨v, r⟩, hv, hsaid⟩ := Option.map_eq_some_iff.1 h
    cases hsaid
    obtain ⟨sign, ds, heq, hsign, hds, hneg⟩ := signed?_eq_some hv
    exact ⟨v, _, sign, ds, rfl, heq ▸ hsplit, hblank, hsign.imp_right fun h => ⟨hq, h⟩, hds, hneg⟩
  | false =>
    rw [hq, if_neg Bool.false_ne_true] at h
    obtain ⟨⟨v, r⟩, hv, hsaid⟩ := Option.map_eq_some_iff.1 h
    cases hsaid
    obtain ⟨⟨n, r⟩, hn, hv⟩ := Option.map_eq_some_iff.1 hv
    cases hv
    obtain ⟨ds, heq, hds⟩ := digits?_eq_some hn
    exact ⟨n, _, [], ds, rfl, heq ▸ hsplit, hblank, .inl rfl, by simpa using hds,
      fun hneg => by omega⟩

/-- A number has its own blanks in front. -/
theorem number?_dropBlanks (q : Quantity) (cs : List Char) :
    number? q (dropBlanks cs) = number? q cs := by
  unfold number?
  rw [dropBlanks_dropBlanks]

theorem number?_suffix {q : Quantity} (h : number? q cs = some (said, rest)) : rest <:+ cs := by
  obtain ⟨v, blanks, sign, ds, -, htakes⟩ := number?_eq_some h
  refine ⟨blanks ++ sign ++ ds, ?_⟩
  rw [htakes.eq_append]
  simp

/-! ## 3. Words -/

/-- A word takes as many characters as it has. -/
theorem dropWord?_eq_some {word : List Char} (h : dropWord? word cs = some rest) :
    ∃ piece, cs = piece ++ rest ∧ piece.map Char.toLower = word.map Char.toLower := by
  induction word generalizing cs with
  | nil =>
    cases h
    exact ⟨[], rfl, rfl⟩
  | cons w word ih =>
    cases cs with
    | nil => cases h
    | cons c cs =>
      unfold dropWord? at h
      split at h
      · rename_i hc
        obtain ⟨piece, rfl, hpiece⟩ := ih h
        exact ⟨c :: piece, rfl, by rw [List.map_cons, List.map_cons, hc, hpiece]⟩
      · cases h

theorem dropWord?_suffix {word : List Char} (h : dropWord? word cs = some rest) : rest <:+ cs := by
  obtain ⟨piece, rfl, -⟩ := dropWord?_eq_some h
  exact List.suffix_append _ _

/-- A name takes its letters, and is at its place in the list. -/
theorem readName?_eq_some {names : List Name} {long : Bool} {i : Nat}
    (h : readName? names long cs = some (i, rest)) :
    i < names.length ∧ ∃ n ∈ names, ∃ piece, cs = piece ++ rest ∧
      (piece.map Char.toLower = n.short.toList.map Char.toLower ∨
        piece.map Char.toLower = n.long.toList.map Char.toLower) := by
  obtain ⟨⟨j, n, after⟩, hshort, hplace⟩ := Option.map_eq_some_iff.1 h
  obtain ⟨⟨m, k⟩, hmem, hfound⟩ := List.exists_of_findSome?_eq_some hshort
  obtain ⟨tail, htail, hfound⟩ := Option.map_eq_some_iff.1 hfound
  cases hfound
  obtain ⟨first, rfl, hfirst⟩ := dropWord?_eq_some htail
  have hlt : j < names.length := List.snd_lt_of_mem_zipIdx hmem
  have hname : n ∈ names := List.fst_mem_of_mem_zipIdx hmem
  cases long with
  | false =>
    cases hplace
    exact ⟨hlt, n, hname, first, rfl, .inl hfirst⟩
  | true =>
    obtain ⟨rfl, rfl⟩ := Prod.mk.inj hplace
    refine ⟨hlt, n, hname, ?_⟩
    cases hrest : dropWord? n.rest.toList after with
    | none => exact ⟨first, by rw [Option.getD_none], .inl hfirst⟩
    | some after' =>
      obtain ⟨second, rfl, hsecond⟩ := dropWord?_eq_some hrest
      refine ⟨first ++ second, by rw [Option.getD_some, List.append_assoc], .inr ?_⟩
      unfold Name.long
      rw [String.toList_append, List.map_append, List.map_append, hfirst, hsecond]

/-- A reader leaves the rest of the text, and says no other fields than these. -/
def Leaves (slots : List Slot) (cs rest : List Char) (said : List (Slot × Int)) : Prop :=
  rest <:+ cs ∧ ∀ p ∈ said, p.1 ∈ slots

theorem Leaves.of_suffix {slots : List Slot} {ds : List Char} (h : Leaves slots ds rest said)
    (hds : ds <:+ cs) : Leaves slots cs rest said := ⟨h.1.trans hds, h.2⟩

theorem leaves_nothing {slots : List Slot} (h : rest <:+ cs) : Leaves slots cs rest [] :=
  ⟨h, fun _ hp => nomatch hp⟩

theorem leaves_one {s : Slot} {v : Int} (h : rest <:+ cs) : Leaves [s] cs rest [(s, v)] :=
  ⟨h, fun _ hp => List.mem_singleton.1 hp ▸ List.mem_singleton_self _⟩

theorem readName?_suffix {names : List Name} {long : Bool} {i : Nat}
    (h : readName? names long cs = some (i, rest)) : rest <:+ cs := by
  obtain ⟨-, n, -, piece, rfl, -⟩ := readName?_eq_some h
  exact List.suffix_append _ _

theorem half?_leaves (h : half? cs = some (said, rest)) : Leaves [.half] cs rest said := by
  unfold half? at h
  split at h
  · rename_i hword
    cases h
    exact leaves_one (dropWord?_suffix hword)
  · rename_i hword
    cases h
    exact leaves_one (dropWord?_suffix hword)
  · cases h

theorem fixedFraction?_leaves {n : Nat} (h : fixedFraction? n cs = some (said, rest)) :
    Leaves [.nanosecond] cs rest said := by
  unfold fixedFraction? at h
  dsimp only at h
  split at h
  · cases h
    exact leaves_one (List.drop_suffix _ _)
  · cases h

theorem anyFraction?_leaves (h : anyFraction? cs = some (said, rest)) :
    Leaves [.nanosecond] cs rest said := by
  unfold anyFraction? at h
  dsimp only at h
  split at h
  · cases h
  · cases h
    exact leaves_one (List.dropWhile_suffix _)

theorem fraction?_leaves {digits : Option Nat} (h : fraction? digits cs = some (said, rest)) :
    Leaves [.nanosecond] cs rest said := by
  unfold fraction? at h
  split at h
  · split at h
    · exact (anyFraction?_leaves h).of_suffix (List.suffix_cons _ _)
    · exact (fixedFraction?_leaves h).of_suffix (List.suffix_cons _ _)
  · cases h
    exact leaves_nothing (List.suffix_refl _)

theorem twoDigits?_suffix {n : Nat} (h : twoDigits? cs = some (n, rest)) : rest <:+ cs := by
  unfold twoDigits? at h
  split at h
  · split at h
    · cases h
      exact (List.suffix_cons _ _).trans (List.suffix_cons _ _)
    · cases h
  · cases h

theorem offsetMinutes?_suffix {mayMiss : Bool} {n : Nat}
    (h : offsetMinutes? mayMiss cs = some (n, rest)) : rest <:+ cs := by
  unfold offsetMinutes? at h
  split at h
  · split at h
    · cases h
      exact List.suffix_refl _
    · cases h
  · obtain ⟨⟨m, r⟩, hm, h⟩ := Option.bind_eq_some_iff.1 h
    dsimp only at h
    split at h
    · cases h
      exact twoDigits?_suffix hm
    · cases h

theorem signedOffset?_leaves {mayMiss : Bool} (h : signedOffset? mayMiss cs = some (said, rest)) :
    Leaves [.offset] cs rest said := by
  unfold signedOffset? at h
  split at h
  · cases h
  · split at h
    · obtain ⟨⟨hours, r⟩, hhours, h⟩ := Option.bind_eq_some_iff.1 h
      obtain ⟨⟨minutes, r'⟩, hminutes, h⟩ := Option.bind_eq_some_iff.1 h
      cases h
      exact leaves_one ((offsetMinutes?_suffix hminutes).trans ((List.dropWhile_suffix _).trans
        ((twoDigits?_suffix hhours).trans (List.suffix_cons _ _))))
    · cases h

theorem offset?_leaves {zulu mayMiss : Bool} (h : offset? zulu mayMiss cs = some (said, rest)) :
    Leaves [.offset] cs rest said := by
  unfold offset? at h
  split at h
  · cases h
  · split at h
    · cases h
      exact leaves_one (List.suffix_cons _ _)
    · exact signedOffset?_leaves h

theorem stampOffset?_leaves (h : stampOffset? cs = some (said, rest)) :
    Leaves [.offset] cs rest said := by
  unfold stampOffset? at h
  dsimp only at h
  split at h
  · rename_i hword
    cases h
    exact leaves_one ((dropWord?_suffix hword).trans (dropBlanks_suffix _))
  · exact (offset?_leaves h).of_suffix (dropBlanks_suffix _)

theorem stampMark?_suffix (h : stampMark? cs = some rest) : rest <:+ cs := by
  unfold stampMark? at h
  split at h
  · split at h
    · cases h
      exact List.suffix_cons _ _
    · cases h
  · cases h

end Reader

/-- The fields that a number says. -/
def Quantity.slots (q : Quantity) : List Slot := (q.fields 0).map (·.1)

theorem Quantity.mem_slots {q : Quantity} {v : Int} {p : Slot × Int} (h : p ∈ q.fields v) :
    p.1 ∈ q.slots := by
  have hslots : (q.fields v).map (·.1) = q.slots := by cases q <;> rfl
  exact hslots ▸ List.mem_map_of_mem h

/-- The fields that an item says. -/
def Item.slots : Item → List Slot
  | .literal _ | .space _ | .zoneName => []
  | .number q _ => q.slots
  | .month _ => [.month]
  | .weekday _ => [.weekday]
  | .half _ => [.half]
  | .fraction _ | .bareFraction _ => [.nanosecond]
  | .offset _ | .looseOffset => [.offset]
  | .stamp => [.year, .month, .day, .half, .hourOfHalf, .minute, .second, .nanosecond, .offset]

namespace Reader

variable {cs rest : List Char} {f g : Fields} {F G : Format} {said : List (Slot × Int)} {s : Slot}
  {v : Int}

/-- Plain text takes itself. -/
theorem item?_literal (text cs : List Char) :
    item? (.literal text) cs = (Text.dropStart? text cs).map fun rest => ([], rest) := by
  unfold item?
  dsimp only
  split
  · rename_i hprefix
    obtain ⟨tail, rfl⟩ := List.isPrefixOf_iff_prefix.1 hprefix
    rw [Text.dropStart?_eq_some.2 rfl, List.drop_left, Option.map_some]
  · rename_i hprefix
    cases hrest : Text.dropStart? text cs with
    | none => rfl
    | some rest =>
      rw [Text.dropStart?_eq_some.1 hrest] at hprefix
      exact absurd (List.isPrefixOf_iff_prefix.2 (List.prefix_append _ _)) hprefix

theorem item?_literal_eq_some {text : List Char} (h : item? (.literal text) cs = some (said, rest)) :
    said = [] ∧ cs = text ++ rest := by
  rw [item?_literal] at h
  obtain ⟨r, hr, h⟩ := Option.map_eq_some_iff.1 h
  cases h
  exact ⟨rfl, Text.dropStart?_eq_some.1 hr⟩

/-- **An item takes the beginning of the text, and says its own fields.** -/
theorem item?_leaves {i : Item} (h : item? i cs = some (said, rest)) :
    Leaves i.slots cs rest said := by
  cases i with
  | literal text =>
    obtain ⟨rfl, rfl⟩ := item?_literal_eq_some h
    exact leaves_nothing (List.suffix_append _ _)
  | space text =>
    cases h
    exact leaves_nothing (dropBlanks_suffix _)
  | number q padding =>
    obtain ⟨v, -, -, -, rfl, -⟩ := number?_eq_some h
    exact ⟨number?_suffix h, fun p hp => Quantity.mem_slots hp⟩
  | month long =>
    obtain ⟨⟨i, r⟩, hname, h⟩ := Option.map_eq_some_iff.1 h
    cases h
    exact leaves_one (readName?_suffix hname)
  | weekday long =>
    obtain ⟨⟨i, r⟩, hname, h⟩ := Option.map_eq_some_iff.1 h
    cases h
    exact leaves_one (readName?_suffix hname)
  | half upper => exact half?_leaves h
  | fraction digits => exact fraction?_leaves h
  | bareFraction digits => exact fixedFraction?_leaves h
  | zoneName =>
    cases h
    exact leaves_nothing (List.dropWhile_suffix _)
  | offset colons => exact (offset?_leaves h).of_suffix (dropBlanks_suffix _)
  | looseOffset => exact (offset?_leaves h).of_suffix (dropBlanks_suffix _)
  | stamp => cases h

/-! ## 5. Items one after the other -/

/-- What is said when several fields have been said is said of them or was said before. -/
theorem get?_setAll? {slots : List Slot} (h : f.setAll? said = some g)
    (hsaid : ∀ p ∈ said, p.1 ∈ slots) (hs : g.get? s = some v) :
    f.get? s = some v ∨ s ∈ slots :=
  ((Fields.mem_setAll? h).1 hs).imp_right fun hp => hsaid _ hp

theorem plainItems?_leaves (h : plainItems? f F cs = some (g, rest)) :
    rest <:+ cs ∧ ∀ s v, g.get? s = some v → f.get? s = some v ∨ ∃ i ∈ F, s ∈ i.slots := by
  induction F generalizing f cs with
  | nil =>
    cases h
    exact ⟨List.suffix_refl _, fun s v hs => .inl hs⟩
  | cons i F ih =>
    unfold plainItems? at h
    obtain ⟨⟨said, r⟩, hitem, h⟩ := Option.bind_eq_some_iff.1 h
    obtain ⟨f', hset, h⟩ := Option.bind_eq_some_iff.1 h
    obtain ⟨hrest, hslots⟩ := ih h
    obtain ⟨hsuffix, hsaid⟩ := item?_leaves hitem
    refine ⟨hrest.trans hsuffix, fun s v hs => ?_⟩
    rcases hslots s v hs with hs | ⟨j, hj, hs⟩
    · exact (get?_setAll? hset hsaid hs).imp_right fun hs => ⟨i, List.mem_cons_self, hs⟩
    · exact .inr ⟨j, List.mem_cons_of_mem _ hj, hs⟩

theorem stamp?_leaves (h : stamp? f cs = some (g, rest)) :
    rest <:+ cs ∧ ∀ s v, g.get? s = some v → f.get? s = some v ∨ s ∈ Item.stamp.slots := by
  unfold stamp? at h
  obtain ⟨⟨f₁, r₁⟩, hdate, h⟩ := Option.bind_eq_some_iff.1 h
  obtain ⟨r₂, hmark, h⟩ := Option.bind_eq_some_iff.1 h
  obtain ⟨⟨f₂, r₃⟩, htime, h⟩ := Option.bind_eq_some_iff.1 h
  obtain ⟨⟨said, r₄⟩, hoffset, h⟩ := Option.bind_eq_some_iff.1 h
  obtain ⟨f₃, hset, h⟩ := Option.bind_eq_some_iff.1 h
  cases h
  obtain ⟨hsuffix₁, hslots₁⟩ := plainItems?_leaves hdate
  obtain ⟨hsuffix₂, hslots₂⟩ := plainItems?_leaves htime
  obtain ⟨hsuffix₃, hsaid⟩ := stampOffset?_leaves hoffset
  have hdateSlots : ∀ i ∈ stampDate, ∀ s ∈ i.slots, s ∈ Item.stamp.slots := by decide
  have htimeSlots : ∀ i ∈ stampTime, ∀ s ∈ i.slots, s ∈ Item.stamp.slots := by decide
  refine ⟨hsuffix₃.trans (hsuffix₂.trans ((stampMark?_suffix hmark).trans hsuffix₁)),
    fun s v hs => ?_⟩
  rcases get?_setAll? hset hsaid hs with hs | hs
  · rcases hslots₂ s v hs with hs | ⟨i, hi, hs⟩
    · rcases hslots₁ s v hs with hs | ⟨i, hi, hs⟩
      · exact .inl hs
      · exact .inr (hdateSlots i hi s hs)
    · exact .inr (htimeSlots i hi s hs)
  · rw [List.mem_singleton.1 hs]
    exact .inr (by decide)

/-- One item, a time stamp or another. -/
def step? (f : Fields) (i : Item) (cs : List Char) : Option (Fields × List Char) :=
  match i with
  | .stamp => stamp? f cs
  | i => do
    let (said, cs) ← item? i cs
    pure (← f.setAll? said, cs)

theorem items?_cons (f : Fields) (i : Item) (F : Format) (cs : List Char) :
    items? f (i :: F) cs = (step? f i cs).bind fun r => items? r.1 F r.2 := by
  cases i with
  | stamp => rfl
  | _ => simp [items?, step?, Option.bind_assoc]

theorem items?_literal (f : Fields) (text : List Char) (F : Format) (cs : List Char) :
    items? f (.literal text :: F) cs = (Text.dropStart? text cs).bind fun cs => items? f F cs := by
  rw [items?_cons]
  show ((item? (.literal text) cs).bind _).bind _ = _
  rw [item?_literal]
  cases Text.dropStart? text cs <;> rfl

theorem items?_space (f : Fields) (text : List Char) (F : Format) (cs : List Char) :
    items? f (.space text :: F) cs = items? f F (dropBlanks cs) := by
  rw [items?_cons]
  rfl

theorem items?_append (f : Fields) (F G : Format) (cs : List Char) :
    items? f (F ++ G) cs = (items? f F cs).bind fun r => items? r.1 G r.2 := by
  induction F generalizing f cs with
  | nil => rfl
  | cons i F ih =>
    rw [List.cons_append, items?_cons, items?_cons, Option.bind_assoc]
    exact Option.bind_congr fun r _ => ih r.1 r.2

theorem step?_eq_some {i : Item} (hi : i ≠ .stamp) :
    step? f i cs = some (g, rest) ↔
      ∃ said, item? i cs = some (said, rest) ∧ f.setAll? said = some g := by
  have hstep : step? f i cs
      = (item? i cs).bind fun r => (f.setAll? r.1).bind fun f => some (f, r.2) := by
    cases i <;> first | rfl | exact absurd rfl hi
  rw [hstep, Option.bind_eq_some_iff]
  constructor
  · rintro ⟨⟨said, r⟩, hitem, h⟩
    obtain ⟨f', hset, h⟩ := Option.bind_eq_some_iff.1 h
    cases h
    exact ⟨said, hitem, hset⟩
  · rintro ⟨said, hitem, hset⟩
    exact ⟨(said, rest), hitem, Option.bind_eq_some_iff.2 ⟨g, hset, rfl⟩⟩

theorem step?_leaves {i : Item} (h : step? f i cs = some (g, rest)) :
    rest <:+ cs ∧ ∀ s v, g.get? s = some v → f.get? s = some v ∨ s ∈ i.slots := by
  by_cases hi : i = .stamp
  · subst hi
    exact stamp?_leaves h
  · obtain ⟨said, hitem, hset⟩ := (step?_eq_some hi).1 h
    obtain ⟨hsuffix, hsaid⟩ := item?_leaves hitem
    exact ⟨hsuffix, fun s v hs => get?_setAll? hset hsaid hs⟩

/-- **Items leave the rest of the text, and say their own fields.** -/
theorem items?_leaves (h : items? f F cs = some (g, rest)) :
    rest <:+ cs ∧ ∀ s v, g.get? s = some v → f.get? s = some v ∨ ∃ i ∈ F, s ∈ i.slots := by
  induction F generalizing f cs with
  | nil =>
    cases h
    exact ⟨List.suffix_refl _, fun s v hs => .inl hs⟩
  | cons i F ih =>
    rw [items?_cons] at h
    obtain ⟨⟨f', r⟩, hstep, h⟩ := Option.bind_eq_some_iff.1 h
    obtain ⟨hrest, hslots⟩ := ih h
    obtain ⟨hsuffix, hsaid⟩ := step?_leaves hstep
    refine ⟨hrest.trans hsuffix, fun s v hs => ?_⟩
    rcases hslots s v hs with hs | ⟨j, hj, hs⟩
    · exact (hsaid s v hs).imp_right fun hs => ⟨i, List.mem_cons_self, hs⟩
    · exact .inr ⟨j, List.mem_cons_of_mem _ hj, hs⟩

/-! ## 6. What is said, apart from whether it agrees -/

/-- The fields that items say, whether they agree or not. -/
def said? : Format → List Char → Option Taken
  | [], cs => some ([], cs)
  | i :: F, cs => do
    let (a, cs) ← item? i cs
    let (b, cs) ← said? F cs
    pure (a ++ b, cs)

theorem said?_cons_eq_some {i : Item} :
    said? (i :: F) cs = some (said, rest) ↔
      ∃ a b r, item? i cs = some (a, r) ∧ said? F r = some (b, rest) ∧ said = a ++ b := by
  rw [said?]
  constructor
  · intro h
    obtain ⟨⟨a, r⟩, ha, h⟩ := Option.bind_eq_some_iff.1 h
    obtain ⟨⟨b, r'⟩, hb, h⟩ := Option.bind_eq_some_iff.1 h
    cases h
    exact ⟨a, b, r, ha, hb, rfl⟩
  · rintro ⟨a, b, r, ha, hb, rfl⟩
    exact Option.bind_eq_some_iff.2 ⟨(a, r), ha, Option.bind_eq_some_iff.2 ⟨(b, rest), hb, rfl⟩⟩

theorem said?_space (text : List Char) (F : Format) (cs : List Char) :
    said? (.space text :: F) cs = said? F (dropBlanks cs) := by
  show (said? F (dropBlanks cs)).bind _ = _
  cases said? F (dropBlanks cs) <;> rfl

theorem said?_append_eq_some :
    said? (F ++ G) cs = some (said, rest) ↔
      ∃ a b r, said? F cs = some (a, r) ∧ said? G r = some (b, rest) ∧ said = a ++ b := by
  induction F generalizing cs said with
  | nil =>
    constructor
    · exact fun h => ⟨[], said, cs, rfl, h, rfl⟩
    · rintro ⟨a, b, r, ha, hb, rfl⟩
      cases ha
      exact hb
  | cons i F ih =>
    rw [List.cons_append, said?_cons_eq_some]
    constructor
    · rintro ⟨a, c, r, hitem, hrest, rfl⟩
      obtain ⟨b, c, r', hfront, hback, rfl⟩ := ih.1 hrest
      exact ⟨a ++ b, c, r', said?_cons_eq_some.2 ⟨a, b, r, hitem, hfront, rfl⟩, hback, by simp⟩
    · rintro ⟨ab, c, r', hfront, hback, rfl⟩
      obtain ⟨a, b, r, hitem, hrest, rfl⟩ := said?_cons_eq_some.1 hfront
      exact ⟨a, b ++ c, r, hitem, ih.2 ⟨b, c, r', hrest, hback, rfl⟩, by simp⟩

theorem said?_leaves (h : said? F cs = some (said, rest)) :
    rest <:+ cs ∧ ∀ p ∈ said, ∃ i ∈ F, p.1 ∈ i.slots := by
  induction F generalizing cs said with
  | nil =>
    cases h
    exact ⟨List.suffix_refl _, fun _ hp => nomatch hp⟩
  | cons i F ih =>
    obtain ⟨a, b, r, hitem, hrest, rfl⟩ := said?_cons_eq_some.1 h
    obtain ⟨hsuffix, hslots⟩ := item?_leaves hitem
    obtain ⟨hsuffix', hslots'⟩ := ih hrest
    refine ⟨hsuffix'.trans hsuffix, fun p hp => ?_⟩
    rcases List.mem_append.1 hp with hp | hp
    · exact ⟨i, List.mem_cons_self, hslots p hp⟩
    · obtain ⟨j, hj, hslot⟩ := hslots' p hp
      exact ⟨j, List.mem_cons_of_mem _ hj, hslot⟩

/-- **What items take does not depend on what has been said before**: their fields are said one
    after the other, and all together. -/
theorem items?_eq_some_iff (hF : .stamp ∉ F) :
    items? f F cs = some (g, rest) ↔
      ∃ said, said? F cs = some (said, rest) ∧ f.setAll? said = some g := by
  induction F generalizing f cs with
  | nil =>
    unfold items? said?
    constructor
    · rintro ⟨⟩
      exact ⟨[], rfl, rfl⟩
    · rintro ⟨said, hsaid, hset⟩
      cases hsaid
      cases hset
      rfl
  | cons i F ih =>
    have hi : i ≠ .stamp := fun h => hF (h ▸ List.mem_cons_self)
    have hF' : .stamp ∉ F := fun h => hF (List.mem_cons_of_mem _ h)
    rw [items?_cons, Option.bind_eq_some_iff]
    constructor
    · rintro ⟨⟨f', r⟩, hstep, h⟩
      obtain ⟨a, hitem, hset⟩ := (step?_eq_some hi).1 hstep
      obtain ⟨b, hsaid, hset'⟩ := (ih hF').1 h
      refine ⟨a ++ b, said?_cons_eq_some.2 ⟨a, b, r, hitem, hsaid, rfl⟩, ?_⟩
      rw [Fields.setAll?_append, hset]
      exact hset'
    · rintro ⟨said, hsaid, hset⟩
      obtain ⟨a, b, r, hitem, hsaid', rfl⟩ := said?_cons_eq_some.1 hsaid
      rw [Fields.setAll?_append] at hset
      obtain ⟨f', hset, hset'⟩ := Option.bind_eq_some_iff.1 hset
      exact ⟨(f', r), (step?_eq_some hi).2 ⟨a, hitem, hset⟩, (ih hF').2 ⟨b, hsaid', hset'⟩⟩

end Reader

/-- A date is read if the items take the whole text and what they say describes it. -/
theorem Format.readDate?_eq_some {F : Format} {cs : List Char} {d : Date} :
    F.readDate? cs = some d ↔ ∃ f, Reader.items? {} F cs = some (f, []) ∧ f.toDate? = some d := by
  unfold Format.readDate?
  constructor
  · intro h
    obtain ⟨⟨f, rest⟩, hitems, h⟩ := Option.bind_eq_some_iff.1 h
    obtain ⟨_, hguard, h⟩ := Option.bind_eq_some_iff.1 h
    cases rest with
    | nil => exact ⟨f, hitems, h⟩
    | cons c rest => cases hguard
  · rintro ⟨f, hitems, hdate⟩
    exact Option.bind_eq_some_iff.2 ⟨(f, []), hitems, hdate⟩

end UsageGrid.Calendar
