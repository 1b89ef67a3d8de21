import Mathlib.Data.List.Nodup
import UsageGrid.Proofs.Calendar.Written

/-!
# Layouts of a date

A layout names year and month and at most the day, in any order, with other characters than letters
and digits between them. It gives a pattern (`Layout.pattern`), a format (`Layout.ofText?_pattern`)
and for each date a text (`Layout.writeDate?_format`), and the format says the parts of that date when
it reads that text (`Layout.reads`).
-/

namespace UsageGrid.Calendar

open Decimal Reader

/-! ## 1. Parts -/

/-- A part of a date in a pattern. A month or a day in digits may be padded otherwise than it is by
    nature. -/
inductive Part where
  | year
  | monthName (long : Bool)
  | month (padding : Option Padding)
  | day (blank : Bool) (padding : Option Padding)
deriving Repr, DecidableEq

namespace Part

def modifier : Option Padding → List Char
  | none => []
  | some .none => ['-']
  | some .zero => ['0']
  | some .blank => ['_']

def text : Part → List Char
  | year => ['%', 'Y']
  | monthName long => ['%', if long then 'B' else 'b']
  | month padding => '%' :: (modifier padding ++ ['m'])
  | day blank padding => '%' :: (modifier padding ++ [if blank then 'e' else 'd'])

def item : Part → Item
  | year => .number .year .zero
  | monthName long => .month long
  | month padding => .number .month (padding.getD .zero)
  | day blank padding => .number .day (padding.getD (if blank then .blank else .zero))

def slot : Part → Slot
  | year => .year
  | monthName _ | month _ => .month
  | day _ _ => .day

/-- Padded otherwise than it is by nature. -/
def isPadded : Part → Bool
  | year | monthName _ => false
  | month padding | day _ padding => padding.isSome

def value (d : Date) : Part → Int
  | year => d.year
  | monthName _ | month _ => d.month
  | day _ _ => d.day

def written (d : Date) (p : Part) : List Char := (Writer.item? d p.item).getD []

variable {d : Date} {p : Part}

/-- The text of a part is its item. -/
theorem itemsFrom_text (p : Part) : Format.itemsFrom none p.text = some [p.item] := by
  cases p with
  | year => rfl
  | monthName long => cases long <;> rfl
  | month padding => rcases padding with _ | _ | _ | _ <;> rfl
  | day blank padding => cases blank <;> rcases padding with _ | _ | _ | _ <;> rfl

theorem head?_text (p : Part) : p.text.head? = some '%' := by cases p <;> rfl

theorem value_of_year (h : p.slot = .year) (d : Date) : p.value d = d.year := by
  cases p <;> first | rfl | cases h

theorem value_of_month (h : p.slot = .month) (d : Date) : p.value d = d.month := by
  cases p <;> first | rfl | cases h

theorem value_of_day (h : p.slot = .day) (d : Date) : p.value d = d.day := by
  cases p <;> first | rfl | cases h

theorem writer_year (hd : 1000 ≤ d.year ∧ d.year ≤ 9999) (padding : Padding) :
    Writer.year padding d.year = Writer.unsigned 4 padding d.year.toNat := by
  unfold Writer.year
  rw [if_pos (by omega)]

/-- **A part is written, and its item takes what is written and says the part.** -/
theorem written_takes (hd : 1000 ≤ d.year ∧ d.year ≤ 9999) (p : Part) :
    Writer.item? d p.item = some (p.written d) ∧ Text.EndsSolid (p.written d) ∧
      Takes p.item (p.written d) [(p.slot, p.value d)] := by
  obtain ⟨-, hm, hday⟩ := d.isDay
  have hdays := daysInMonth_le d.year d.month
  cases p with
  | year =>
    have hnumeral : IsNumeral 4 d.year.toNat (Writer.year .zero d.year) :=
      writer_year hd .zero ▸ isNumeral_unsigned (by decide) (by omega) .zero
    have hfields : Quantity.year.fields (d.year.toNat : Int) = [(.year, d.year)] :=
      congrArg (fun v => [(Slot.year, v)]) (Int.toNat_of_nonneg (by omega))
    exact ⟨rfl, hnumeral.endsSolid, hfields ▸ takes_number rfl hnumeral .zero⟩
  | monthName long =>
    obtain ⟨w, hw⟩ : ∃ w, Writer.name? monthNames long (d.month - 1) = some w := by
      have hplace : d.month - 1 < monthNames.length := by
        show d.month - 1 < 12
        omega
      exact ⟨_, congrArg _ (List.getElem?_eq_getElem hplace)⟩
    have hwritten : written d (.monthName long) = w := by
      show (Writer.name? monthNames long (d.month - 1)).getD [] = w
      rw [hw, Option.getD_some]
    rw [hwritten]
    exact ⟨hw, endsSolid_month hm hw, takes_month hm hw⟩
  | month padding =>
    have hnumeral (padding : Padding) : IsNumeral 2 d.month (Writer.unsigned 2 padding d.month) :=
      isNumeral_unsigned (by decide) (by omega) padding
    exact ⟨rfl, (hnumeral _).endsSolid, takes_number rfl (hnumeral _) _⟩
  | day blank padding =>
    have hnumeral (padding : Padding) : IsNumeral 2 d.day (Writer.unsigned 2 padding d.day) :=
      isNumeral_unsigned (by decide) (by omega) padding
    exact ⟨rfl, (hnumeral _).endsSolid, takes_number rfl (hnumeral _) _⟩

end Part

/-! ## 2. Layouts -/

/-- What may stand between two parts: neither a letter nor a digit, and not nothing. -/
def IsSeparator (s : List Char) : Prop := s ≠ [] ∧ s.any Char.isAlphanum = false

instance (s : List Char) : Decidable (IsSeparator s) := inferInstanceAs (Decidable (_ ∧ _))

/-- Parts of a date one after the other, each but the first behind a separator: one year, one month,
    and one day or none. -/
structure Layout where
  first : Part
  rest : List (List Char × Part)
  separated : ∀ r ∈ rest, IsSeparator r.1
  distinct : (first.slot :: rest.map (·.2.slot)).Nodup
  hasYear : .year ∈ first.slot :: rest.map (·.2.slot)
  hasMonth : .month ∈ first.slot :: rest.map (·.2.slot)

theorem IsSeparator.not_isAlphanum {s : List Char} (h : IsSeparator s) {c : Char} (hc : c ∈ s) :
    c.isAlphanum = false := Bool.eq_false_iff.2 (List.any_eq_false.1 h.2 c hc)

namespace Layout

def parts (L : Layout) : List Part := L.first :: L.rest.map (·.2)

/-- A character of a separator in a pattern; a percent sign stands twice. -/
def escape (c : Char) : List Char := if c = '%' then ['%', '%'] else [c]

theorem head?_escape (c : Char) : (escape c).head? = some c := by
  unfold escape
  split
  · rename_i h
    rw [h]
    rfl
  · rfl

/-- No specifier stands in a character of a separator. -/
theorem not_infix_escape {y : Char} (hy : y ≠ '%') (c : Char) : ¬ ['%', y] <:+: escape c := by
  unfold escape
  intro h
  split at h
  · have hmem : y ∈ ['%', '%'] := h.subset (List.mem_cons_of_mem _ List.mem_cons_self)
    simp only [List.mem_cons, List.not_mem_nil, or_false, or_self] at hmem
    exact hy hmem
  · exact absurd h.length_le (by simp)

/-- The pieces of a pattern: parts, and characters of separators. -/
def pieces (l : List (List Char × Part)) : List (List Char) :=
  l.flatMap fun r => r.1.map escape ++ [r.2.text]

def pattern (L : Layout) : String := String.ofList (L.first.text ++ (pieces L.rest).flatten)

def itemsOf (l : List (List Char × Part)) : Format :=
  l.flatMap fun r => r.1.map Format.plain ++ [r.2.item]

/-- The format with plain text in single characters. -/
def format (L : Layout) : Format := L.first.item :: itemsOf L.rest

def writtenOf (d : Date) (l : List (List Char × Part)) : List Char :=
  l.flatMap fun r => r.1 ++ r.2.written d

def written (L : Layout) (d : Date) : List Char := L.first.written d ++ writtenOf d L.rest

def said (L : Layout) (d : Date) : List (Slot × Int) := L.parts.map fun p => (p.slot, p.value d)

variable {d : Date} {F : Format} {cs : List Char} {l : List (List Char × Part)} {L : Layout}
  {a : List (Slot × Int)}

theorem slots_eq (L : Layout) : L.parts.map Part.slot = L.first.slot :: L.rest.map (·.2.slot) := by
  simp [parts]

theorem exists_part {s : Slot} (hs : s ∈ L.first.slot :: L.rest.map (·.2.slot)) :
    ∃ p ∈ L.parts, p.slot = s := List.mem_map.1 (L.slots_eq ▸ hs)

/-- A layout has no two parts for one field. -/
theorem part_unique {p q : Part} (hp : p ∈ L.parts) (hq : q ∈ L.parts) (h : p.slot = q.slot) :
    p = q := List.inj_on_of_nodup_map (L.slots_eq ▸ L.distinct) hp hq h

theorem mem_pieces (L : Layout) {piece : List Char} :
    piece ∈ L.first.text :: pieces L.rest ↔
      (∃ p ∈ L.parts, piece = p.text) ∨ ∃ r ∈ L.rest, ∃ c ∈ r.1, piece = escape c := by
  constructor
  · intro h
    rcases List.mem_cons.1 h with rfl | h
    · exact .inl ⟨L.first, List.mem_cons_self, rfl⟩
    · obtain ⟨r, hr, h⟩ := List.mem_flatMap.1 h
      rcases List.mem_append.1 h with h | h
      · obtain ⟨c, hc, rfl⟩ := List.mem_map.1 h
        exact .inr ⟨r, hr, c, hc, rfl⟩
      · exact .inl ⟨r.2, List.mem_cons_of_mem _ (List.mem_map_of_mem hr), List.mem_singleton.1 h⟩
  · rintro (⟨p, hp, rfl⟩ | ⟨r, hr, c, hc, rfl⟩)
    · rcases List.mem_cons.1 hp with rfl | hp
      · exact List.mem_cons_self
      · obtain ⟨r, hr, rfl⟩ := List.mem_map.1 hp
        exact List.mem_cons_of_mem _ (List.mem_flatMap.2
          ⟨r, hr, List.mem_append_right _ List.mem_cons_self⟩)
    · exact List.mem_cons_of_mem _ (List.mem_flatMap.2
        ⟨r, hr, List.mem_append_left _ (List.mem_map_of_mem hc)⟩)

theorem toList_pattern (L : Layout) :
    L.pattern.toList = (L.first.text :: pieces L.rest).flatten := String.toList_ofList

/-! ## 3. The format of a layout -/

theorem itemsFrom_escape (c : Char) :
    Format.itemsFrom none (escape c) = some [Format.plain c] := by
  unfold escape
  split
  · rename_i h
    subst h
    rfl
  · rename_i h
    unfold Format.itemsFrom
    rw [if_neg h]
    rfl

theorem itemsFrom_append {a b : List Char} {G : Format}
    (ha : ∃ H, Format.itemsFrom none a = some H ∧ Format.Alike H F)
    (hb : ∃ H, Format.itemsFrom none b = some H ∧ Format.Alike H G) :
    ∃ H, Format.itemsFrom none (a ++ b) = some H ∧ Format.Alike H (F ++ G) := by
  obtain ⟨A, hA, hAF⟩ := ha
  obtain ⟨B, hB, hBG⟩ := hb
  obtain ⟨H, hH, halike⟩ := Format.itemsFrom_append hA hB
  exact ⟨H, hH, halike.trans (hAF.append hBG)⟩

theorem itemsFrom_separator (s : List Char) :
    ∃ H, Format.itemsFrom none (s.map escape).flatten = some H ∧
      Format.Alike H (s.map Format.plain) := by
  induction s with
  | nil => exact ⟨[], rfl, .refl _⟩
  | cons c s ih => exact itemsFrom_append ⟨_, itemsFrom_escape c, .refl _⟩ ih

theorem itemsFrom_pieces (l : List (List Char × Part)) :
    ∃ H, Format.itemsFrom none (pieces l).flatten = some H ∧ Format.Alike H (itemsOf l) := by
  induction l with
  | nil => exact ⟨[], rfl, .refl _⟩
  | cons r l ih =>
    have hpieces : (pieces (r :: l)).flatten
        = ((r.1.map escape).flatten ++ r.2.text) ++ (pieces l).flatten := by
      simp [pieces]
    rw [hpieces]
    exact itemsFrom_append (itemsFrom_append (itemsFrom_separator r.1)
      ⟨_, r.2.itemsFrom_text, .refl _⟩) ih

/-- **The pattern of a layout is a format, one like the layout's own.** -/
theorem ofText?_pattern (L : Layout) :
    ∃ F, Format.ofText? L.pattern = some F ∧ Format.Alike F L.format := by
  unfold Format.ofText? pattern
  rw [String.toList_ofList]
  exact itemsFrom_append ⟨_, L.first.itemsFrom_text, .refl _⟩ (itemsFrom_pieces L.rest)

/-! ## 4. What is written and read -/

theorem writeDate?_plain (d : Date) (s : List Char) :
    Format.writeDate? d (s.map Format.plain) = some s := by
  induction s with
  | nil => rfl
  | cons c s ih =>
    have hc : Writer.item? d (Format.plain c) = some [c] := by
      unfold Format.plain
      split <;> rfl
    rw [List.map_cons, Format.writeDate?_cons, hc, ih]
    rfl

theorem writeDate?_part (hd : 1000 ≤ d.year ∧ d.year ≤ 9999) (p : Part) :
    Format.writeDate? d [p.item] = some (p.written d) := by
  rw [Format.writeDate?_cons, (p.written_takes hd).1, Option.bind_some, Format.writeDate?,
    Option.map_some, List.append_nil]

theorem writeDate?_itemsOf (hd : 1000 ≤ d.year ∧ d.year ≤ 9999) (l : List (List Char × Part)) :
    Format.writeDate? d (itemsOf l) = some (writtenOf d l) := by
  induction l with
  | nil => rfl
  | cons r l ih =>
    unfold itemsOf writtenOf
    rw [List.flatMap_cons, List.flatMap_cons, Format.writeDate?_append, Format.writeDate?_append,
      writeDate?_plain, writeDate?_part hd]
    show Option.bind _ (fun a => (Format.writeDate? d (itemsOf l)).map _) = _
    rw [ih]
    rfl

theorem writeDate?_format (hd : 1000 ≤ d.year ∧ d.year ≤ 9999) (L : Layout) :
    L.format.writeDate? d = some (L.written d) := by
  unfold format
  rw [Format.writeDate?_cons, (L.first.written_takes hd).1, writeDate?_itemsOf hd]
  rfl

/-- No digit begins what follows a part. -/
theorem endsNumber_writtenOf (hl : ∀ r ∈ l, IsSeparator r.1) (hcs : EndsNumber cs) :
    EndsNumber (writtenOf d l ++ cs) := by
  cases l with
  | nil => exact hcs
  | cons r l =>
    have hseparator := hl r List.mem_cons_self
    obtain ⟨c, s, hs⟩ := List.exists_cons_of_ne_nil hseparator.1
    have hdigit : isDigit c = false := by
      have := hseparator.not_isAlphanum (hs ▸ List.mem_cons_self : c ∈ r.1)
      rw [Char.isAlphanum, Bool.or_eq_false_iff] at this
      exact this.2
    unfold writtenOf
    rw [List.flatMap_cons, hs]
    exact endsNumber_cons hdigit

theorem stamp_not_mem (L : Layout) : Item.stamp ∉ L.format := by
  have hpart : ∀ p : Part, Item.stamp ≠ p.item := fun p h => by cases p <;> cases h
  intro h
  rcases List.mem_cons.1 h with h | h
  · exact hpart _ h
  · obtain ⟨r, -, h⟩ := List.mem_flatMap.1 h
    rcases List.mem_append.1 h with h | h
    · obtain ⟨c, -, h⟩ := List.mem_map.1 h
      unfold Format.plain at h
      split at h <;> cases h
    · exact hpart _ (List.mem_singleton.1 h)

theorem reads_itemsOf (hd : 1000 ≤ d.year ∧ d.year ≤ 9999) (hl : ∀ r ∈ l, IsSeparator r.1)
    (hcs : EndsNumber cs) (hF : Reads F cs a) :
    Reads (itemsOf l ++ F) (writtenOf d l ++ cs)
      (l.map (fun r => (r.2.slot, r.2.value d)) ++ a) := by
  induction l with
  | nil => exact hF
  | cons r l ih =>
    have hl' : ∀ r ∈ l, IsSeparator r.1 := fun x hx => hl x (List.mem_cons_of_mem _ hx)
    have hpart := (r.2.written_takes hd).2.2.reads (endsNumber_writtenOf hl' hcs) (ih hl')
    unfold itemsOf writtenOf
    rw [List.flatMap_cons, List.flatMap_cons, List.append_assoc, List.append_assoc,
      List.append_assoc, List.append_assoc]
    exact reads_plain r.1 hpart

theorem written_endsSolid (hd : 1000 ≤ d.year ∧ d.year ≤ 9999) (L : Layout) :
    Text.EndsSolid (L.written d) := by
  have hall : ∀ (l : List (List Char × Part)) (w : List Char), Text.EndsSolid w →
      Text.EndsSolid (w ++ writtenOf d l) := by
    intro l
    induction l with
    | nil => exact fun w hw => by rwa [writtenOf, List.flatMap_nil, List.append_nil]
    | cons r l ih =>
      intro w _
      have hw := ih _ ((r.2.written_takes hd).2.1.append (w ++ r.1))
      unfold writtenOf at hw ⊢
      rw [List.flatMap_cons]
      simpa using hw
  exact hall _ _ (L.first.written_takes hd).2.1

/-- **The format of a layout reads what it writes**, and what is read behind it. -/
theorem reads (hd : 1000 ≤ d.year ∧ d.year ≤ 9999) (L : Layout) (hcs : EndsNumber cs)
    (hF : Reads F cs a) : Reads (L.format ++ F) (L.written d ++ cs) (L.said d ++ a) := by
  have hrest := reads_itemsOf hd L.separated hcs hF
  have hsaid : L.said d ++ a = [(L.first.slot, L.first.value d)]
      ++ (L.rest.map (fun r => (r.2.slot, r.2.value d)) ++ a) := by
    simp [said, parts]
  unfold written
  rw [hsaid, List.append_assoc]
  exact (L.first.written_takes hd).2.2.reads (endsNumber_writtenOf L.separated hcs) hrest

end Layout

end UsageGrid.Calendar
