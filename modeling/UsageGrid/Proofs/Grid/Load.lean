import UsageGrid.Grid.Load
import UsageGrid.Proofs.Outcome
import UsageGrid.Proofs.Encoding.Unicode
import UsageGrid.Proofs.Text.Letters

/-!
# Grids of files in Unicode

A text has one grid, however it is encoded: as UTF-8, with a mark or without, and as UTF-16 with its
mark in either order of bytes (`ofBytes_unicode`).

* The name of the encoding goes by a mark in front, and by whether the bytes are UTF-8 where there is
  none (`GoesByMarks`).
* Under that name the bytes decode to the text, the mark dropped once (`decode_utf8`,
  `decode_markedUtf8`, `decode_utf16`).
* A file has the grid of the text that it decodes to (`ofBytes_of_decode`).
-/

namespace UsageGrid

namespace Encoding

/-! ## 1. Pieces -/

theorem eq_map_of_exactly? {pieces : List Piece} {cs : List Char} (h : exactly? pieces = some cs) :
    pieces = cs.map some := by
  unfold exactly? at h
  induction pieces generalizing cs with
  | nil => exact Option.some.inj h ▸ rfl
  | cons p rest ih =>
    rw [List.mapM_cons] at h
    obtain ⟨c, hc, h⟩ := Option.bind_eq_some_iff.1 h
    obtain ⟨ds, hds, h⟩ := Option.bind_eq_some_iff.1 h
    rw [← Option.some.inj h, ih hds, show p = some c from hc]
    rfl

theorem exactly?_map_some (cs : List Char) : exactly? (cs.map some) = some cs := by
  induction cs with
  | nil => rfl
  | cons c rest ih =>
    unfold exactly? at ih ⊢
    rw [List.map_cons, List.mapM_cons, ih]
    rfl

theorem lossy_map_some (cs : List Char) : lossy (cs.map some) = cs := by
  simp [lossy, List.map_map, Function.comp_def]

/-! ## 2. Names -/

/-- The lower case of a name in ASCII. -/
theorem lower_name {name key : String}
    (hascii : (name.toList.all fun c => decide (c.toNat < 128)) = true)
    (hkey : Text.asciiLower name = key) : Text.lower name = key :=
  (Text.lower_ascii fun c hc => of_decide_eq_true (List.all_eq_true.1 hascii c hc)).trans hkey

theorem decodeNamed_utf8 (bytes : List UInt8) :
    decodeNamed "utf-8" bytes = (Utf8.decode bytes, false) := by
  have hlower : Text.lower "utf-8" = "utf-8" := lower_name (by decide) rfl
  unfold decodeNamed
  dsimp only
  rw [hlower]
  simp

/-- The name that is reported for an order of bytes. -/
def Utf16.name : ByteOrder → String
  | .little => "UTF-16LE"
  | .big => "UTF-16BE"

/-- The name of an order of bytes in lower case. -/
def Utf16.label : ByteOrder → String
  | .little => "utf-16le"
  | .big => "utf-16be"

theorem lower_utf16 (order : ByteOrder) : Text.lower (Utf16.name order) = Utf16.label order := by
  cases order <;> exact lower_name (by decide) rfl

theorem decodeNamed_utf16 (order : ByteOrder) (bytes : List UInt8) :
    decodeNamed (Utf16.name order) bytes = (decodeMarked (.utf16 order) bytes, false) := by
  have hcharset : Charset.ofName? (Utf16.label order) = some (.utf16 order) := by
    cases order <;> decide
  unfold decodeNamed
  dsimp only
  rw [lower_utf16, hcharset]
  cases order <;> simp [Utf16.label]

/-- Names that are reported, in lower case, and the one that they come to. -/
def synonyms : List (String × List String) :=
  [("utf-8", ["ascii", "utf-8", "utf8", ""]),
    ("iso-8859-1", ["iso-8859-1", "iso-8859-15", "latin-1", "latin1"]),
    ("windows-1252", ["windows-1252", "cp1252"])]

/-- The name under which a file is read, after the one that is reported of it. -/
def nameFor (reported : String) : String :=
  ((synonyms.find? (·.2.contains (Text.lower reported))).map (·.1)).getD reported

theorem nameFor_of_lower {reported key name : String} (hkey : Text.lower reported = key)
    (hname : ((synonyms.find? (·.2.contains key)).map (·.1)).getD reported = name) :
    nameFor reported = name := by
  unfold nameFor
  rw [hkey, hname]

theorem nameFor_utf8 {reported : String} (h : reported ∈ ["utf-8", "ascii", ""]) :
    nameFor reported = "utf-8" := by
  simp only [List.mem_cons, List.not_mem_nil, or_false] at h
  rcases h with rfl | rfl | rfl <;>
    exact nameFor_of_lower (lower_name (by decide) rfl) (by decide)

theorem nameFor_utf16 (order : ByteOrder) : nameFor (Utf16.name order) = Utf16.name order := by
  refine nameFor_of_lower (lower_utf16 order) ?_
  cases order <;> decide

/-! ## 3. Marks -/

theorem dropMark?_append (mark bytes : List UInt8) :
    dropMark? mark (mark ++ bytes) = some bytes := by
  have hstarts : mark.isPrefixOf (mark ++ bytes) = true :=
    List.isPrefixOf_iff_prefix.2 (List.prefix_append mark bytes)
  unfold dropMark?
  rw [if_pos hstarts, List.drop_left]

theorem dropMark?_eq_none {mark bytes : List UInt8} (h : ¬ mark <+: bytes) :
    dropMark? mark bytes = none := by
  unfold dropMark?
  rw [if_neg fun hstarts => h (List.isPrefixOf_iff_prefix.1 hstarts)]

theorem utf8_not_prefix_utf16 (order : ByteOrder) (bytes : List UInt8) :
    ¬ Utf8.mark <+: Utf16.mark order ++ bytes := by
  cases order <;> simp [Utf8.mark, Utf16.mark]

/-- A mark of UTF-16 names its order, whatever name the bytes go under. -/
theorem decodeMarked_utf16 (charset : Charset) (order : ByteOrder) (bytes : List UInt8) :
    decodeMarked charset (Utf16.mark order ++ bytes) = Utf16.decode order bytes := by
  have hmark : byMark? (Utf16.mark order ++ bytes) = some (.utf16 order, bytes) := by
    unfold byMark?
    rw [dropMark?_eq_none (utf8_not_prefix_utf16 order bytes)]
    cases order with
    | little =>
      rw [dropMark?_append]
      rfl
    | big =>
      have hlittle : ¬ Utf16.mark .little <+: Utf16.mark .big ++ bytes := by simp [Utf16.mark]
      rw [dropMark?_eq_none hlittle, dropMark?_append]
      rfl
  unfold decodeMarked
  rw [hmark]
  rfl

/-! ## 4. Decoding -/

/-- Pieces without a fault are the text, under a name that is known. -/
theorem decode_of_pieces {name : String} {bytes body : List UInt8} {cs : List Char}
    (hbody : (dropMark? Utf8.mark bytes).getD bytes = body)
    (h : decodeNamed name body = (cs.map some, false)) : decode name bytes = some cs := by
  have hwhole : (cs.map some).contains (none : Piece) = false := by simp
  unfold decode
  rw [hbody]
  dsimp only
  rw [h]
  dsimp only
  rw [hwhole, lossy_map_some]
  rfl

/-- **Whole UTF-8 decodes to its characters.** -/
theorem decode_utf8 {bytes : List UInt8} {cs : List Char}
    (hmark : dropMark? Utf8.mark bytes = none) (h : exactly? (Utf8.decode bytes) = some cs) :
    decode "utf-8" bytes = some cs := by
  refine decode_of_pieces (by rw [hmark, Option.getD_none]) ?_
  rw [decodeNamed_utf8, eq_map_of_exactly? h]

theorem decode_markedUtf8 (cs : List Char) :
    decode "utf-8" (Utf8.mark ++ Utf8.encode cs) = some cs := by
  refine decode_of_pieces (by rw [dropMark?_append, Option.getD_some]) ?_
  rw [decodeNamed_utf8, Utf8.decode_encode]

theorem decode_utf16 (order : ByteOrder) (cs : List Char) :
    decode (Utf16.name order) (Utf16.mark order ++ Utf16.encode order cs) = some cs := by
  refine decode_of_pieces (by rw [dropMark?_eq_none (utf8_not_prefix_utf16 order _),
    Option.getD_none]) ?_
  rw [decodeNamed_utf16, decodeMarked_utf16, Utf16.decode_encode]

/-! ## 5. Detection -/

/-- What is known of a detector of encodings: a mark in front decides, unless the one of UTF-16 has
    two zeros behind it, for it may be that of another encoding then; and UTF-8 without a mark is
    reported as such, or as the ASCII or the nothing that it is. -/
structure GoesByMarks (detector : List UInt8 → String) : Prop where
  utf8 : ∀ bytes, detector (Utf8.mark ++ bytes) = "utf-8"
  utf16 : ∀ order bytes, ¬ [0, 0] <+: bytes →
    detector (Utf16.mark order ++ bytes) = Utf16.name order
  unmarked : ∀ cs, ¬ Utf8.mark <+: Utf8.encode cs →
    detector (Utf8.encode cs) ∈ ["utf-8", "ascii", ""]

theorem isPrefixOf_eq_false {mark bytes : List UInt8} (h : ¬ mark <+: bytes) :
    mark.isPrefixOf bytes = false :=
  Bool.eq_false_iff.2 fun hstarts => h (List.isPrefixOf_iff_prefix.1 hstarts)

/-- No mark with a byte that stands in no text is in front of one. -/
theorem not_prefix_encode {mark : List UInt8} {b : UInt8} (hb : b ∈ mark) (hhigh : 0xF5 ≤ b.toNat)
    (cs : List Char) : ¬ mark <+: Utf8.encode cs :=
  fun h => absurd (Utf8.lt_of_mem_encode (h.subset hb)) (Nat.not_lt.2 hhigh)

theorem goesByMarks_detect : GoesByMarks detect where
  utf8 bytes := by
    unfold detect
    rw [if_pos (List.isPrefixOf_iff_prefix.2 (List.prefix_append _ _))]
  utf16 order bytes h := by
    have hutf8 := isPrefixOf_eq_false (utf8_not_prefix_utf16 order bytes)
    have hmark : (Utf16.mark order).isPrefixOf (Utf16.mark order ++ bytes) = true :=
      List.isPrefixOf_iff_prefix.2 (List.prefix_append _ _)
    unfold detect
    cases order with
    | little =>
      have hlong : ¬ [0xFF, 0xFE, 0, 0] <+: Utf16.mark .little ++ bytes := by
        simpa [Utf16.mark] using h
      have hother : ¬ [0, 0, 0xFE, 0xFF] <+: Utf16.mark .little ++ bytes := by simp [Utf16.mark]
      rw [hutf8, isPrefixOf_eq_false hlong, isPrefixOf_eq_false hother, hmark]
      rfl
    | big =>
      have hlong : ¬ [0xFF, 0xFE, 0, 0] <+: Utf16.mark .big ++ bytes := by simp [Utf16.mark]
      have hother : ¬ [0, 0, 0xFE, 0xFF] <+: Utf16.mark .big ++ bytes := by simp [Utf16.mark]
      have hlittle : ¬ Utf16.mark .little <+: Utf16.mark .big ++ bytes := by simp [Utf16.mark]
      rw [hutf8, isPrefixOf_eq_false hlong, isPrefixOf_eq_false hother,
        isPrefixOf_eq_false hlittle, hmark]
      rfl
  unmarked cs h := by
    have hno {mark : List UInt8} (b : UInt8) (hb : b ∈ mark) (hhigh : 0xF5 ≤ b.toNat) :
        mark.isPrefixOf (Utf8.encode cs) = false :=
      isPrefixOf_eq_false (not_prefix_encode hb hhigh cs)
    unfold detect
    rw [isPrefixOf_eq_false h, hno 0xFF (by decide) (by decide), hno 0xFF (by decide) (by decide),
      hno 0xFF (by decide) (by decide), hno 0xFF (by decide) (by decide), Utf8.decode_encode,
      exactly?_map_some]
    exact List.mem_cons_self

/-- The names that are reported stay as they are. -/
theorem nameFor_detect (bytes : List UInt8) : nameFor (detect bytes) = detect bytes := by
  have hsame (name key : String)
      (hascii : (name.toList.all fun c => decide (c.toNat < 128)) = true)
      (hkey : Text.asciiLower name = key)
      (hname : ((synonyms.find? (·.2.contains key)).map (·.1)).getD name = name) :
      nameFor name = name := nameFor_of_lower (lower_name hascii hkey) hname
  unfold detect
  split_ifs
  · exact hsame _ "utf-8" (by decide) rfl (by decide)
  · exact hsame _ "utf-32le" (by decide) rfl (by decide)
  · exact hsame _ "utf-32be" (by decide) rfl (by decide)
  · exact nameFor_utf16 .little
  · exact nameFor_utf16 .big
  · exact hsame _ "utf-8" (by decide) rfl (by decide)
  · exact hsame _ "iso-8859-1" (by decide) rfl (by decide)

end Encoding

/-! ## 6. Grids -/

namespace Grid

/-- A file has the grid of the text that it decodes to. -/
theorem ofBytes_of_decode {bytes : List UInt8} {name : String} {cs : List Char}
    (hname : Encoding.detect bytes = name) (hdecode : Encoding.decode name bytes = some cs) :
    ofBytes bytes = ofText cs (Csv.detectDelimiter cs) := by
  unfold ofBytes decodeText
  rw [hname, hdecode]
  rfl

/-- The grid of a file whose encoding another detector reports. -/
def ofBytesBy (detector : List UInt8 → String) (bytes : List UInt8) : Except GridError Grid := do
  let text ← decodeText (Encoding.nameFor (detector bytes)) bytes
  ofText text (Csv.detectDelimiter text)

theorem ofBytesBy_detect (bytes : List UInt8) : ofBytesBy Encoding.detect bytes = ofBytes bytes := by
  unfold ofBytesBy ofBytes
  rw [Encoding.nameFor_detect]

theorem ofBytesBy_of_decode {detector : List UInt8 → String} {bytes : List UInt8} {name : String}
    {cs : List Char} (hname : Encoding.nameFor (detector bytes) = name)
    (hdecode : Encoding.decode name bytes = some cs) :
    ofBytesBy detector bytes = ofText cs (Csv.detectDelimiter cs) := by
  unfold ofBytesBy decodeText
  rw [hname, hdecode]
  rfl

/-- The files that a text may be encoded as: UTF-8 without a mark and with one, and UTF-16 in either
    order of bytes with its mark. -/
def unicodeFiles (text : String) : List (List UInt8) :=
  [text.toUTF8.toList, Encoding.Utf8.mark ++ text.toUTF8.toList] ++
    [Encoding.ByteOrder.little, .big].map fun order =>
      Encoding.Utf16.mark order ++ Encoding.Utf16.encode order text.toList

section

variable {detector : List UInt8 → String} (hdetector : Encoding.GoesByMarks detector)
  {text : String}

include hdetector

theorem ofBytesBy_utf8 (h : text.toList.head? ≠ some (Char.ofNat 0xFEFF)) :
    ofBytesBy detector text.toUTF8.toList
      = ofText text.toList (Csv.detectDelimiter text.toList) := by
  have hmark : ¬ Encoding.Utf8.mark <+: Encoding.Utf8.encode text.toList :=
    fun hstarts => h (Encoding.Utf8.head?_of_mark_prefix hstarts)
  rw [Encoding.Utf8.toList_toUTF8]
  refine ofBytesBy_of_decode (Encoding.nameFor_utf8 (hdetector.unmarked _ hmark)) ?_
  refine Encoding.decode_utf8 (Encoding.dropMark?_eq_none hmark) ?_
  rw [Encoding.Utf8.decode_encode, Encoding.exactly?_map_some]

theorem ofBytesBy_markedUtf8 :
    ofBytesBy detector (Encoding.Utf8.mark ++ text.toUTF8.toList)
      = ofText text.toList (Csv.detectDelimiter text.toList) := by
  have hname : Encoding.nameFor "utf-8" = "utf-8" := Encoding.nameFor_utf8 List.mem_cons_self
  rw [Encoding.Utf8.toList_toUTF8]
  refine ofBytesBy_of_decode ?_ (Encoding.decode_markedUtf8 text.toList)
  rw [hdetector.utf8, hname]

theorem ofBytesBy_utf16 (order : Encoding.ByteOrder)
    (h : text.toList.head? ≠ some (Char.ofNat 0)) :
    ofBytesBy detector (Encoding.Utf16.mark order ++ Encoding.Utf16.encode order text.toList)
      = ofText text.toList (Csv.detectDelimiter text.toList) := by
  have hzeros : ¬ [0, 0] <+: Encoding.Utf16.encode order text.toList :=
    fun hstarts => h (Encoding.Utf16.head?_of_zeros_prefix hstarts)
  refine ofBytesBy_of_decode ?_ (Encoding.decode_utf16 order text.toList)
  rw [hdetector.utf16 order _ hzeros, Encoding.nameFor_utf16]

end

/-- **A text has one grid, however it is encoded in Unicode**: that of the text itself, with the
    delimiter that is guessed from it. So it is for every detector that goes by marks. -/
theorem ofBytes_unicode {text : String}
    (h : ∀ c ∈ text.toList.head?, c ≠ Char.ofNat 0xFEFF ∧ c ≠ Char.ofNat 0) {bytes : List UInt8}
    (hbytes : bytes ∈ unicodeFiles text) :
    ofBytes bytes = ofText text.toList (Csv.detectDelimiter text.toList) ∧
    ∀ detector, Encoding.GoesByMarks detector →
      ofBytesBy detector bytes = ofText text.toList (Csv.detectDelimiter text.toList) := by
  have hall : ∀ detector, Encoding.GoesByMarks detector →
      ofBytesBy detector bytes = ofText text.toList (Csv.detectDelimiter text.toList) := by
    intro detector hdetector
    have hmark : text.toList.head? ≠ some (Char.ofNat 0xFEFF) := fun he => (h _ he).1 rfl
    have hzero : text.toList.head? ≠ some (Char.ofNat 0) := fun he => (h _ he).2 rfl
    simp only [unicodeFiles, List.map_cons, List.map_nil, List.cons_append, List.nil_append,
      List.mem_cons, List.not_mem_nil, or_false] at hbytes
    rcases hbytes with rfl | rfl | rfl | rfl
    · exact ofBytesBy_utf8 hdetector hmark
    · exact ofBytesBy_markedUtf8 hdetector
    · exact ofBytesBy_utf16 hdetector .little hzero
    · exact ofBytesBy_utf16 hdetector .big hzero
  refine ⟨?_, hall⟩
  rw [← ofBytesBy_detect]
  exact hall _ Encoding.goesByMarks_detect

/-- A sheet with characters of one to four bytes, the last of which takes two units. -/
def wideSheet : List Char := "Größe;€\n1;😀\n".toList

/-- Each of its files has two rows of two cells, whichever detector is asked that goes by marks. -/
theorem wideSheet_unicode : ∃ g, g.rows =
      [[.text "Größe", .text "€"], [.text "1", .text "😀"]] ∧
    ∀ bytes ∈ unicodeFiles (String.ofList wideSheet), ofBytes bytes = .ok g ∧
      ofBytesBy Encoding.detect bytes = .ok g := by
  obtain ⟨g, hg, hrows⟩ := exists_ok_of_any
    (x := ofText wideSheet (Csv.detectDelimiter wideSheet))
    (p := fun g => decide (g.rows = [[.text "Größe", .text "€"], [.text "1", .text "😀"]]))
    (by decide +kernel)
  have hfirst : wideSheet.head? = some 'G' := by decide +kernel
  have hhead : ∀ c ∈ (String.ofList wideSheet).toList.head?,
      c ≠ Char.ofNat 0xFEFF ∧ c ≠ Char.ofNat 0 := by
    rw [String.toList_ofList, hfirst]
    intro c hc
    obtain rfl := Option.some.inj hc
    decide
  refine ⟨g, of_decide_eq_true hrows, fun bytes hbytes => ?_⟩
  obtain ⟨hown, hother⟩ := ofBytes_unicode hhead hbytes
  rw [String.toList_ofList, hg] at hown hother
  exact ⟨hown, hother _ Encoding.goesByMarks_detect⟩

/-- **A file of ASCII text has the grid of that text.** -/
theorem ofBytes_ascii {cs : List Char} (h : ∀ c ∈ cs, c.toNat < 128) :
    ofBytes (String.ofList cs).toUTF8.toList = ofText cs (Csv.detectDelimiter cs) := by
  have hmark : (String.ofList cs).toList.head? ≠ some (Char.ofNat 0xFEFF) := by
    intro he
    rw [String.toList_ofList] at he
    exact absurd (h _ (List.mem_of_head? he)) (by decide)
  have hutf8 := ofBytesBy_utf8 Encoding.goesByMarks_detect hmark
  rwa [ofBytesBy_detect, String.toList_ofList] at hutf8

end Grid

end UsageGrid
