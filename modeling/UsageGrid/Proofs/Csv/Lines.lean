import UsageGrid.Proofs.Csv.Reader
import UsageGrid.Proofs.Text.Parts

/-!
# Lines and records

In a text without quotes nothing hides a line end, so every record is a line: the records are the
lines with something in them, split at the delimiter (`records_eq_lines`). Lines with nothing in
them are no records.
-/

namespace UsageGrid.Csv

/-! ## 1. Lines -/

/-- The lines after the text read so far of the current one, last character first. -/
def linesFrom : List Char → List Char → List (List Char)
  | [], [] => []
  | c :: read, [] => [(c :: read).reverse]
  | read, '\r' :: '\n' :: rest => read.reverse :: linesFrom [] rest
  | read, c :: rest =>
    if c = '\n' ∨ c = '\r' then read.reverse :: linesFrom [] rest else linesFrom (c :: read) rest

/-- The lines of a text. A line ends at a line feed, at a carriage return, or at the two together;
    what stands behind the last end is a line unless it is empty. -/
def lines (text : List Char) : List (List Char) := linesFrom [] text

example : lines "a\n\r\nb\rc".toList = [['a'], [], ['b'], ['c']] := by decide

/-! ## 2. A line and its record -/

section

variable {delimiter : Char} {line : List Char}

/-- Nothing in the text ends a line or hides an end. -/
def IsPlain (delimiter : Char) (line : List Char) : Prop :=
  ∀ c ∈ line, c ≠ (textDialect delimiter).quote ∧ (textDialect delimiter).isLineEnd c = false

/-- A line stands for its pieces. -/
theorem line_splitOnChar (h : IsPlain delimiter line) :
    (textDialect delimiter).Line line (Text.splitOnChar delimiter line) := by
  have hfield {p : List Char} (hp : IsPlain delimiter p) (hfree : delimiter ∉ p) :
      (textDialect delimiter).Spells p p :=
    .plain (fun c hc => ⟨ne_of_mem_of_not_mem hc hfree, (hp c hc).2⟩) fun hhead =>
      (hp _ (List.mem_of_mem_head? hhead)).1 rfl
  obtain ⟨p, ps, rfl, hfree⟩ := Text.exists_pieces delimiter line
  rw [Text.splitOnChar_pieces hfree]
  induction ps generalizing p with
  | nil =>
    rw [List.flatMap_nil, List.append_nil] at h ⊢
    exact .last (hfield h (hfree p List.mem_cons_self))
  | cons q rest ih =>
    obtain ⟨hp, hrest⟩ := List.forall_mem_cons.1 hfree
    rw [List.flatMap_cons, List.cons_append] at h ⊢
    refine .next (hfield (fun c hc => h c (List.mem_append_left _ hc)) hp) (ih q hrest ?_)
    exact fun c hc => h c (List.mem_append_right _ (List.mem_cons_of_mem _ hc))

/-- The pieces of those lines that something is in. -/
def recordsOfLines (delimiter : Char) (ls : List (List Char)) : List (List (List Char)) :=
  (ls.filter (· ≠ [])).map (Text.splitOnChar delimiter)

theorem recordsOfLines_cons (line : List Char) (ls : List (List Char)) :
    recordsOfLines delimiter (line :: ls)
      = recordsOfLines delimiter [line] ++ recordsOfLines delimiter ls := by
  unfold recordsOfLines
  rw [← List.map_append, ← List.filter_append, List.singleton_append]

/-- A line with something in it is a record, one with nothing in it is none. -/
theorem records_append_end (hd : (textDialect delimiter).IsProper) (h : IsPlain delimiter line)
    {c : Char} (hc : (textDialect delimiter).isLineEnd c = true) (rest : List Char) :
    records (textDialect delimiter) (line ++ c :: rest)
      = recordsOfLines delimiter [line] ++ records (textDialect delimiter) rest := by
  cases line with
  | nil => exact records_lineEnd hc rest
  | cons a line => exact records_line hd (line_splitOnChar h) (List.cons_ne_nil _ _) hc rest

/-- `read` is the part of the current line that has been read, last character first. -/
theorem records_linesFrom (hd : (textDialect delimiter).IsProper) (read text : List Char)
    (hquote : (textDialect delimiter).quote ∉ text) (hread : IsPlain delimiter read.reverse) :
    records (textDialect delimiter) (read.reverse ++ text)
      = recordsOfLines delimiter (linesFrom read text) := by
  have hnothing : IsPlain delimiter [] := fun c hc => absurd hc List.not_mem_nil
  fun_induction linesFrom read text with
  | case1 => rfl
  | case2 c read =>
    have hne : (c :: read).reverse ≠ [] := by simp
    rw [List.append_nil, records_lastLine hd (line_splitOnChar hread) hne]
    simp [recordsOfLines]
  | case3 read rest ih =>
    have hrest : (textDialect delimiter).quote ∉ rest := fun hin =>
      hquote (List.mem_cons_of_mem _ (List.mem_cons_of_mem _ hin))
    -- the line feed behind the carriage return ends nothing more
    rw [records_append_end hd hread rfl, records_lineEnd rfl,
      recordsOfLines_cons _ (linesFrom [] rest), ← ih hrest hnothing]
    rfl
  | case4 read c rest _ hend ih =>
    have hrest : (textDialect delimiter).quote ∉ rest := fun hin =>
      hquote (List.mem_cons_of_mem _ hin)
    have hc : (textDialect delimiter).isLineEnd c = true := by
      rcases hend with rfl | rfl <;> rfl
    rw [records_append_end hd hread hc, recordsOfLines_cons _ (linesFrom [] rest),
      ← ih hrest hnothing]
    rfl
  | case5 read c rest _ hend ih =>
    obtain ⟨hc, hrest⟩ := not_or.1 (List.mem_cons.not.1 hquote)
    obtain ⟨hfeed, hreturn⟩ := not_or.1 hend
    have hplain : IsPlain delimiter (c :: read).reverse := by
      rw [List.reverse_cons]
      refine List.forall_mem_append.2 ⟨hread, List.forall_mem_singleton.2 ⟨Ne.symm hc, ?_⟩⟩
      exact Bool.or_eq_false_iff.2 ⟨beq_eq_false_iff_ne.2 hfeed, beq_eq_false_iff_ne.2 hreturn⟩
    rw [← ih hrest hplain, List.reverse_cons, List.append_assoc]
    rfl

/-- **The records of a text without quotes are its lines with something in them**, each split at
    the delimiter. -/
theorem records_eq_lines (hd : (textDialect delimiter).IsProper) {text : List Char}
    (hquote : (textDialect delimiter).quote ∉ text) :
    records (textDialect delimiter) text
      = recordsOfLines delimiter (lines text) :=
  records_linesFrom hd [] text hquote fun _ hc => absurd hc List.not_mem_nil

end

theorem dropMark_suffix (text : List Char) : dropMark text <:+ text := by
  unfold dropMark
  split
  · split
    · exact List.suffix_cons _ _
    · exact List.suffix_rfl
  · exact List.suffix_rfl

end UsageGrid.Csv
