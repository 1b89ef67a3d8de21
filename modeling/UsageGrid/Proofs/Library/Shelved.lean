import UsageGrid.Proofs.Library.Found
import UsageGrid.Proofs.Library.Ids
import UsageGrid.Proofs.Library.Stored

/-!
# A library and its folder

The folder of a library that has been used only here holds one file for each of its definitions and
nothing else (`Shelved`). Every call that comes out well keeps it so (`leads_save`, `leads_use`,
`leads_delete`); a definition that is in the library can always be written and removed. Opening the
folder anew finds the definitions as they are read back, without those that are nested too deep
(`found_shelved`).
-/

namespace UsageGrid

open Host

/-! ## 1. Names of files -/

namespace Library

theorem IsName.isPlain {id : String} (h : IsName id) : Directory.IsPlain (id ++ extension) where
  noSlash := by
    rw [String.toList_append, List.mem_append, not_or]
    exact ⟨h.noSlash, by decide⟩
  notIdle := by
    have hlong : ∀ s : String, s.toList.length < 5 → id ++ extension ≠ s := by
      rintro s hs rfl
      rw [String.toList_append, List.length_append] at hs
      have : extension.toList.length = 5 := by decide
      omega
    unfold Directory.isIdle
    simp [hlong "" (by decide), hlong "." (by decide)]
  notUp := by
    intro hup
    have := congrArg (fun s => s.toList.length) hup
    simp [extension] at this

theorem append_extension_inj {a b : String} : a ++ extension = b ++ extension ↔ a = b := by
  constructor
  · intro h
    have hchars := congrArg String.toList h
    rw [String.toList_append, String.toList_append] at hchars
    exact String.toList_injective (List.append_cancel_right hchars)
  · rintro rfl
    rfl

theorem IsName.holdsDefinition {id : String} (h : IsName id) :
    holdsDefinition (id ++ extension) = true := by
  have hends : (id ++ extension).endsWith extension = true := by
    rw [String.endsWith_eq_endsWith_toSlice, String.Slice.endsWith_string_iff,
      String.copy_toSlice, String.toList_append]
    exact List.suffix_append _ _
  unfold Library.holdsDefinition
  rw [hends, Bool.true_and, bne_iff_ne]
  intro he
  have hsame : id ++ extension = "" ++ extension := he
  exact h.notEmpty (append_extension_inj.1 hsame)

end Library

/-! ## 2. The files of a library -/

/-- A document that is read back when it has been stored: one more object is around it then. -/
def Definition.IsShallow (d : Definition) : Prop := d.toJson.depth < Json.depthLimit

instance (d : Definition) : Decidable d.IsShallow := inferInstanceAs (Decidable (_ < _))

theorem StoredDefinition.depth_toJson_le {d : StoredDefinition} :
    d.toJson.depth ≤ Json.depthLimit ↔ d.definition.IsShallow := by
  have htexts : ∀ l : List String, Json.depthItems (l.map .string) = 0 := by
    intro l
    induction l with
    | nil => rfl
    | cons s rest ih =>
      show max 0 (Json.depthItems (rest.map .string)) = 0
      rw [ih]
      rfl
  have hlast : (Json.ofOption .string d.lastUsed).depth = 0 := by cases d.lastUsed <;> rfl
  have hpos : 0 < d.definition.toJson.depth := Nat.succ_pos _
  have hdepth : d.toJson.depth = d.definition.toJson.depth + 1 := by
    rw [toJson_eq]
    simp only [members, Json.depth, Json.depthMembers, Json.ofTexts, htexts, hlast]
    omega
  rw [hdepth]
  rfl

namespace Library

def fileOf (e : StoredDefinition) : Directory.Entry := .file e.toText.toUTF8

/-- The folder at a place holds the files of a library, and nothing else. -/
structure HasFiles (d : Directory) (l : Library) (p : Directory.Place) : Prop where
  folder : d.locate l.path = .ok p
  isFolder : d.find? p = some .folder
  file : ∀ n x, d.find? (p ++ [n]) = some x ↔
    ∃ e ∈ l.list, e.id ++ extension = n ∧ fileOf e = x
  located : ∀ e ∈ l.list, d.locate (l.pathOf e.id) = .ok (p ++ [e.id ++ extension])

/-- A folder that is empty once it is made. -/
def IsVacant (d : Directory) (path : String) : Prop :=
  ∃ d', d.makeFolders path = (d', .ok ()) ∧ d'.names path = .ok []

/-- The folder of a library holds its files and nothing else, or the library is empty and so is the
    folder. -/
structure Shelved (d : Directory) (l : Library) : Prop where
  ordered : Ordered l.list
  named : ∀ e ∈ l.list, IsName e.id
  storable : ∀ e ∈ l.list, e.IsStorable
  files : (∃ p, HasFiles d l p) ∨ (l.list = [] ∧ IsVacant d l.path)

variable {d d' : Directory} {l : Library} {p : Directory.Place} {e : StoredDefinition}

/-! ## 3. One file more or less -/

namespace HasFiles

variable (h : HasFiles d l p)

include h

theorem noFolder (n : String) : d.find? (p ++ [n]) ≠ some .folder := by
  intro hfolder
  obtain ⟨e, -, -, he⟩ := (h.file n .folder).1 hfolder
  cases he

theorem find?_of_mem (he : e ∈ l.list) : d.find? (p ++ [e.id ++ extension]) = some (fileOf e) :=
  (h.file _ _).2 ⟨e, he, rfl, rfl⟩

theorem canWrite (he : e ∈ l.list) (hname : IsName e.id) :
    d.CanWrite (l.pathOf e.id) (p ++ [e.id ++ extension]) :=
  ⟨h.located e he, h.noFolder _, Directory.endsAsFolder_joinPath _ hname.isPlain⟩

theorem read (he : e ∈ l.list) (hname : IsName e.id) :
    d.read (l.pathOf e.id) = .ok e.toText.toUTF8 :=
  Directory.read_eq_ok.2 ⟨_, h.located e he, h.find?_of_mem he,
    Directory.endsAsFolder_joinPath _ hname.isPlain⟩

/-- **One definition more, or another one of its id.** -/
theorem put (hordered : Ordered l.list)
    (hlocate : d.locate (l.pathOf e.id) = .ok (p ++ [e.id ++ extension])) :
    HasFiles (d.put (p ++ [e.id ++ extension]) (fileOf e)) (l.put e) p := by
  have hfolders : d.FoldersIn (d.put (p ++ [e.id ++ extension]) (fileOf e)) :=
    Directory.foldersIn_put _ (h.noFolder _)
  refine ⟨Directory.locate_mono hfolders h.folder, hfolders p h.isFolder, fun n x => ?_, ?_⟩
  · show _ ↔ ∃ f ∈ insert e l.list, _
    by_cases hn : n = e.id ++ extension
    · subst hn
      rw [Directory.find?_put d _ _ (by simp), Option.some.injEq]
      constructor
      · intro hx
        exact ⟨e, (mem_insert hordered).2 (.inl rfl), rfl, hx⟩
      · rintro ⟨f, hf, hid, hx⟩
        rcases (mem_insert hordered).1 hf with rfl | ⟨-, hne⟩
        · exact hx
        · exact absurd (append_extension_inj.1 hid) hne
    · rw [Directory.find?_put_of_ne d _ (by simpa using hn), h.file]
      refine exists_congr fun f => ⟨?_, ?_⟩
      · rintro ⟨hf, rfl, hx⟩
        exact ⟨(mem_insert hordered).2 (.inr ⟨hf, fun hid => hn (hid ▸ rfl)⟩), rfl, hx⟩
      · rintro ⟨hf, rfl, hx⟩
        rcases (mem_insert hordered).1 hf with rfl | ⟨hf, -⟩
        · exact absurd rfl hn
        · exact ⟨hf, rfl, hx⟩
  · intro f hf
    rcases (mem_insert hordered).1 hf with rfl | ⟨hf, -⟩
    · exact Directory.locate_mono hfolders hlocate
    · exact Directory.locate_mono hfolders (h.located f hf)

/-- **One definition less.** -/
theorem erase (id : String) : HasFiles (d.erase (p ++ [id ++ extension])) (l.erase id) p := by
  have hfolders : d.FoldersIn (d.erase (p ++ [id ++ extension])) :=
    Directory.foldersIn_erase (h.noFolder _)
  refine ⟨Directory.locate_mono hfolders h.folder, hfolders p h.isFolder, fun n x => ?_, ?_⟩
  · by_cases hn : n = id ++ extension
    · subst hn
      rw [Directory.find?_erase d _ (by simp)]
      constructor
      · rintro ⟨⟩
      · rintro ⟨f, hf, hid, -⟩
        exact absurd (append_extension_inj.1 hid) (mem_erase.1 hf).2
    · rw [Directory.find?_erase_of_ne d (by simpa using hn), h.file]
      refine exists_congr fun f => ⟨?_, ?_⟩
      · rintro ⟨hf, rfl, hx⟩
        exact ⟨mem_erase.2 ⟨hf, fun hid => hn (hid ▸ rfl)⟩, rfl, hx⟩
      · rintro ⟨hf, rfl, hx⟩
        exact ⟨(mem_erase.1 hf).1, rfl, hx⟩
  · exact fun f hf => Directory.locate_mono hfolders (h.located f (mem_erase.1 hf).1)

end HasFiles

/-- A definition that is put in and written leaves the library with its files. -/
theorem HasFiles.shelved_put (hfiles : HasFiles d l p) (h : Shelved d' l) (hname : IsName e.id)
    (hstorable : e.IsStorable) (hlocate : d.locate (l.pathOf e.id) = .ok (p ++ [e.id ++ extension])) :
    Shelved (d.put (p ++ [e.id ++ extension]) (fileOf e)) (l.put e) where
  ordered := h.ordered.insert e
  named f hf := by
    rcases (mem_insert h.ordered).1 hf with rfl | ⟨hf, -⟩
    · exact hname
    · exact h.named f hf
  storable f hf := by
    rcases (mem_insert h.ordered).1 hf with rfl | ⟨hf, -⟩
    · exact hstorable
    · exact h.storable f hf
  files := .inl ⟨p, hfiles.put h.ordered hlocate⟩

/-- **Once its folder is made, a library has its files.** -/
theorem Shelved.made (h : Shelved d l) (hmake : d.makeFolders l.path = (d', .ok ())) :
    d.Grows d' ∧ ∃ p, HasFiles d' l p := by
  rcases h.files with ⟨p, hfiles⟩ | ⟨hempty, d₁, hmake₁, hnames⟩
  · rw [Directory.makeFolders_of_folder hfiles.folder hfiles.isFolder] at hmake
    obtain ⟨rfl, -⟩ := Prod.mk.inj hmake
    exact ⟨.refl d, p, hfiles⟩
  · obtain ⟨rfl, -⟩ := Prod.mk.inj (hmake₁.symm.trans hmake)
    obtain ⟨p, hlocate, hfolder, hmem⟩ := Directory.names_eq_ok hnames
    have hpath : l.path ≠ "" := (Directory.locate_eq_ok.1 hlocate).2.1
    refine ⟨(Directory.makeFolders_spec hmake hpath).1, p, hlocate, hfolder, fun n x => ?_, ?_⟩
    · have hnone : d₁.find? (p ++ [n]) = none :=
        Option.not_isSome_iff_eq_none.1 fun hn => absurd ((hmem n).2 hn) List.not_mem_nil
      rw [hnone, hempty]
      simp
    · rw [hempty]
      simp

/-! ## 4. What a call does -/

section

variable {σ : Type} [Files (StateM σ)] [Journal (StateM σ)] [Clock (StateM σ)]
  {dir : σ → Directory} (hdisk : IsDisk dir)

include hdisk

theorem leads_write (d : Directory) (l : Library) (e : StoredDefinition) :
    Leads dir d (l.write e) fun out d' =>
      (out = .ok () ∧ d.write (l.pathOf e.id) e.toText.toUTF8 = .ok d') ∨
      ∃ cause, out = .error (.file cause) ∧
        d.write (l.pathOf e.id) e.toText.toUTF8 = .error cause ∧ d' = d := by
  refine (hdisk.write d _ _).bind fun out d' h => .pure ?_
  cases hwrite : d.write (l.pathOf e.id) e.toText.toUTF8 with
  | ok d₁ =>
    rw [hwrite] at h
    obtain ⟨rfl, rfl⟩ := Prod.mk.inj h
    exact .inl ⟨rfl, rfl⟩
  | error cause =>
    rw [hwrite] at h
    obtain ⟨rfl, rfl⟩ := Prod.mk.inj h
    exact .inr ⟨cause, rfl, rfl, rfl⟩

/-- A definition that is in memory is counted there, and then its file is written. -/
theorem leads_use_of_get {T : String → Prop} (htime : Tells dir T) {id : String}
    (hget : l.get id = .ok e) (success : Bool) :
    Leads dir d (l.use id success) fun out d' => ∃ time, T time ∧
      out.2 = l.put (e.used success time) ∧
      ((out.1 = .ok () ∧ d.write (l.pathOf id) (e.used success time).toText.toUTF8 = .ok d') ∨
      ∃ cause, out.1 = .error (.file cause) ∧
        d.write (l.pathOf id) (e.used success time).toText.toUTF8 = .error cause ∧ d' = d) := by
  obtain ⟨-, rfl⟩ := get_eq_ok hget
  unfold use
  rw [hget]
  refine (htime d).bindSame fun time ht => ?_
  exact (leads_write hdisk d l (e.used success time)).bind fun out d' hout =>
    .pure ⟨time, ht, rfl, hout⟩

/-- Where the file can be written, it is. -/
theorem leads_use_of_canWrite {T : String → Prop} (htime : Tells dir T) {id : String}
    (hget : l.get id = .ok e) (hwrite : d.CanWrite (l.pathOf id) p) (success : Bool) :
    Leads dir d (l.use id success) fun out d' => ∃ time, T time ∧
      out = (.ok (), l.put (e.used success time)) ∧
      d' = d.put p (fileOf (e.used success time)) := by
  refine (leads_use_of_get hdisk htime hget success).mono ?_
  rintro out d' ⟨time, ht, hlibrary, ⟨hout, hd'⟩ | ⟨cause, -, herror, -⟩⟩
  · exact ⟨time, ht, Prod.ext hout hlibrary, Except.ok.inj (hd'.symm.trans (hwrite.write _))⟩
  · cases herror.symm.trans (hwrite.write _)

theorem leads_takenIds (d : Directory) (l : Library) :
    Leads dir d l.takenIds fun taken d' => (∀ id ∈ l.ids, id ∈ taken) ∧ d' = d := by
  refine (hdisk.names d _).bindEq ?_
  cases d.names l.path with
  | error cause => exact .pure ⟨fun _ hid => hid, rfl⟩
  | ok names => exact .pure ⟨fun _ hid => List.mem_append_left _ hid, rfl⟩

variable (h : Shelved d l)

include h

/-- **Saving puts a definition under a new id**, in memory and in a new file, and touches no other
    file. -/
theorem leads_save {definition : Definition} (hdefinition : definition.IsStorable)
    (platforms : List String) :
    Leads dir d (l.save definition platforms) fun out d' =>
      (∃ id time, id ∉ l.ids ∧ out = (.ok id, l.put (.fresh id definition platforms time)) ∧
        Shelved d' out.2 ∧ d.Grows d' ∧ ∀ q, d'.locate (l.pathOf id) = .ok q → d.find? q = none) ∨
      ∃ cause, out = (.error (.file cause), l) := by
  refine (hdisk.makeFolders d _).bind fun made d₁ hmade => ?_
  cases made with
  | error cause => exact .pure (.inr ⟨cause, rfl⟩)
  | ok _ =>
    obtain ⟨hgrows, p, hfiles⟩ := h.made hmade.symm
    refine (hdisk.stamp d₁).bindSame fun stamp hstamp => ?_
    refine (leads_takenIds hdisk d₁ l).bindSame fun taken htaken => ?_
    refine (hdisk.time d₁).bindSame fun time _ => ?_
    have hname := isName_freeId taken definition.name hstamp
    have hfree := freeId_not_mem taken (slug definition.name ++ "-" ++ stamp)
    generalize freeId taken (slug definition.name ++ "-" ++ stamp) = id at hname hfree
    have hnew : id ∉ l.ids := fun hid => hfree (htaken id hid)
    refine (leads_write hdisk d₁ l _).bind fun out d₂ hout => ?_
    rcases hout with ⟨rfl, hwrite⟩ | ⟨cause, rfl, -, -⟩
    · obtain ⟨q, hlocate, -, -, rfl⟩ := Directory.write_eq_ok.1 hwrite
      obtain rfl : q = p ++ [id ++ extension] :=
        Directory.locate_joinPath hname.isPlain hfiles.folder hlocate
      have hnone : d₁.find? (p ++ [id ++ extension]) = none := by
        cases hfind : d₁.find? (p ++ [id ++ extension]) with
        | none => rfl
        | some x =>
          obtain ⟨f, hf, hid, -⟩ := (hfiles.file _ x).1 hfind
          exact absurd (List.mem_map.2 ⟨f, hf, append_extension_inj.1 hid⟩) hnew
      have hput := Directory.grows_put (fileOf (.fresh id definition platforms time)) hnone
      refine .pure (.inl ⟨id, time, hnew, rfl, ?_, hgrows.trans hput, fun q hq => ?_⟩)
      · exact hfiles.shelved_put h hname ⟨hdefinition, (by decide : 0 < StoredDefinition.countBound)⟩
          hlocate
      · obtain rfl := Except.ok.inj ((Directory.locate_mono hput.foldersIn hlocate).symm.trans hq)
        cases hfind : d.find? (p ++ [id ++ extension]) with
        | none => rfl
        | some x => exact nomatch hnone.symm.trans (hgrows _ x hfind)
    · exact .pure (.inr ⟨cause, rfl⟩)

omit hdisk in
theorem Shelved.canWrite (he : e ∈ l.list) : ∃ p, d.CanWrite (l.pathOf e.id) p ∧
    ∀ f, f.id = e.id → f.IsStorable → Shelved (d.put p (fileOf f)) (l.put f) := by
  rcases h.files with ⟨p, hfiles⟩ | ⟨hempty, -⟩
  · refine ⟨_, hfiles.canWrite he (h.named e he), fun f hid hf => ?_⟩
    have hlocate := hfiles.located e he
    rw [← hid] at hlocate ⊢
    exact hfiles.shelved_put h (hid ▸ h.named e he) hf hlocate
  · rw [hempty] at he
    cases he

omit hdisk in
theorem Shelved.used (he : e ∈ l.list) (success : Bool) (time : String) :
    (e.used success time).IsStorable :=
  ⟨(h.storable e he).definition, Nat.mod_lt _ (by decide)⟩

/-- **Counting a use changes one definition**, in memory and in its file. -/
theorem leads_use (id : String) (success : Bool) :
    Leads dir d (l.use id success) fun out d' =>
      (∃ e ∈ l.list, e.id = id ∧ ∃ time, out = (.ok (), l.put (e.used success time)) ∧
        Shelved d' out.2) ∨
      (id ∉ l.ids ∧ out = (.error (.notFound id), l) ∧ d' = d) := by
  cases hget : l.get id with
  | error fault =>
    obtain ⟨rfl, hid⟩ := get_eq_notFound hget
    unfold use
    rw [hget]
    exact .pure (.inr ⟨hid, rfl, rfl⟩)
  | ok e =>
    obtain ⟨he, rfl⟩ := get_eq_ok hget
    obtain ⟨p, hwrite, hput⟩ := h.canWrite he
    refine (leads_use_of_canWrite hdisk hdisk.time hget hwrite success).mono ?_
    rintro _ _ ⟨time, -, rfl, rfl⟩
    exact .inl ⟨e, he, rfl, time, rfl, hput _ rfl (h.used he success time)⟩

/-- **Deleting takes one definition away**, from memory and with its file. -/
theorem leads_delete (id : String) :
    Leads dir d (l.delete id) fun out d' =>
      (id ∈ l.ids ∧ out = (.ok (), l.erase id) ∧ Shelved d' out.2) ∨
      (id ∉ l.ids ∧ out = (.error (.notFound id), l) ∧ d' = d) := by
  unfold delete
  cases hget : l.get id with
  | error fault =>
    obtain ⟨rfl, hid⟩ := get_eq_notFound hget
    exact .pure (.inr ⟨hid, rfl, rfl⟩)
  | ok e =>
    obtain ⟨he, rfl⟩ := get_eq_ok hget
    rcases h.files with ⟨p, hfiles⟩ | ⟨hempty, -⟩
    · have hremove : d.remove (l.pathOf e.id) = .ok (d.erase (p ++ [e.id ++ extension])) :=
        Directory.remove_eq_ok.2 ⟨_, _, hfiles.located e he, hfiles.find?_of_mem he,
          (hfiles.canWrite he (h.named e he)).noEnd, rfl⟩
      refine (hdisk.remove d _).bind fun out d' hout => .pure (.inl ?_)
      rw [hremove] at hout
      obtain ⟨rfl, rfl⟩ := Prod.mk.inj hout
      refine ⟨List.mem_map.2 ⟨e, he, rfl⟩, rfl, h.ordered.filter _, fun f hf => ?_,
        fun f hf => ?_, .inl ⟨p, hfiles.erase e.id⟩⟩
      · exact h.named f (mem_erase.1 hf).1
      · exact h.storable f (mem_erase.1 hf).1
    · rw [hempty] at he
      cases he

end

/-! ## 5. Opening anew -/

/-- The file of a definition holds what is read back of it, unless that is nested too deep. -/
theorem definitionIn_eq_ok {path : String} {x : StoredDefinition}
    (hread : d.read path = .ok e.toText.toUTF8) (h : e.IsStorable) :
    definitionIn d path = .ok x ↔ e.definition.IsShallow ∧ e.reread = x := by
  unfold definitionIn
  rw [Directory.text_eq_ok hread]
  dsimp only
  rw [mapError_eq_ok]
  by_cases hdepth : e.definition.IsShallow
  · rw [StoredDefinition.ofText_toText h (StoredDefinition.depth_toJson_le.2 hdepth),
      Except.ok.injEq]
    exact ⟨fun hx => ⟨hdepth, hx⟩, And.right⟩
  · obtain ⟨fault, hfault⟩ := StoredDefinition.ofText_toText_deep h
      (not_le.1 (StoredDefinition.depth_toJson_le.not.2 hdepth))
    rw [hfault]
    exact ⟨fun hx => (nomatch hx), fun hx => absurd hx.1 hdepth⟩

theorem definitionIn_fileOf {path : String} {p : Directory.Place} {e : StoredDefinition}
    (hlocate : d.locate path = .ok p) (hfind : d.find? p = some (fileOf e))
    (hends : Directory.endsAsFolder path = false) (h : e.IsStorable)
    (hshallow : e.definition.IsShallow) : definitionIn d path = .ok e.reread :=
  (definitionIn_eq_ok (Directory.read_eq_ok.2 ⟨p, hlocate, hfind, hends⟩) h).2 ⟨hshallow, rfl⟩

/-- The names in the folder are those of the files. -/
theorem HasFiles.names (h : HasFiles d l p) : ∃ names, d.names l.path = .ok names ∧
    ∀ n, n ∈ names ↔ ∃ e ∈ l.list, e.id ++ extension = n := by
  obtain ⟨names, hnames⟩ := Directory.names_of_folder h.folder h.isFolder
  obtain ⟨q, hq, -, hmem⟩ := Directory.names_eq_ok hnames
  obtain rfl := Except.ok.inj (h.folder.symm.trans hq)
  refine ⟨names, hnames, fun n => ?_⟩
  rw [hmem, Option.isSome_iff_exists]
  simp only [h.file]
  constructor
  · rintro ⟨_, e, he, hid, -⟩
    exact ⟨e, he, hid⟩
  · rintro ⟨e, he, hid⟩
    exact ⟨_, e, he, hid, rfl⟩

/-- Of the files those are found that can be read back. -/
theorem HasFiles.mem_found (hfiles : HasFiles d l p) (h : Shelved d l) (x : StoredDefinition) :
    x ∈ (found d l.path).list ↔ ∃ e ∈ l.list, e.definition.IsShallow ∧ e.reread = x := by
  obtain ⟨names, hnames, hname⟩ := hfiles.names
  have hfile (e : StoredDefinition) (he : e ∈ l.list) (x : StoredDefinition) :
      definitionIn d (joinPath l.path (e.id ++ extension)) = .ok x ↔
        e.definition.IsShallow ∧ e.reread = x :=
    definitionIn_eq_ok (hfiles.read he (h.named e he)) (h.storable e he)
  have hsame : ∀ x y, (∃ e ∈ l.list, e.reread = x) → (∃ e ∈ l.list, e.reread = y) →
      x.id = y.id → x = y := by
    rintro _ _ ⟨e, he, rfl⟩ ⟨f, hf, rfl⟩ hid
    rw [h.ordered.eq_of_id he hf hid]
  have hrange : ∀ n ∈ names.filter holdsDefinition, ∀ x,
      definitionIn d (joinPath l.path n) = .ok x → ∃ e ∈ l.list, e.reread = x := by
    intro n hn x hx
    obtain ⟨e, he, rfl⟩ := (hname n).1 (List.mem_filter.1 hn).1
    exact ⟨e, he, ((hfile e he x).1 hx).2⟩
  unfold found
  rw [hnames]
  dsimp only
  rw [mem_foldl_putFrom (l := { path := l.path }) hsame ordered_nil
    (fun _ hx => absurd hx List.not_mem_nil) hrange]
  simp only [List.not_mem_nil, false_or, List.mem_filter]
  constructor
  · rintro ⟨n, ⟨hn, -⟩, hx⟩
    obtain ⟨e, he, rfl⟩ := (hname n).1 hn
    exact ⟨e, he, (hfile e he x).1 hx⟩
  · rintro ⟨e, he, hx⟩
    exact ⟨_, ⟨(hname _).2 ⟨e, he, rfl⟩, (h.named e he).holdsDefinition⟩, (hfile e he x).2 hx⟩

/-- A library that is opened on a folder that is empty, or will be, is empty. -/
theorem found_of_isVacant {path : String} (h : IsVacant d path) : found d path = { path } := by
  obtain ⟨d₁, hmake, hnames⟩ := h
  unfold found
  cases hn : d.names path with
  | error cause => rfl
  | ok names =>
    obtain ⟨p, hlocate, hfolder, -⟩ := Directory.names_eq_ok hn
    rw [Directory.makeFolders_of_folder hlocate hfolder] at hmake
    obtain ⟨rfl, -⟩ := Prod.mk.inj hmake
    rw [hn] at hnames
    rw [Except.ok.inj hnames]
    rfl

/-- **What is found is what is read back of the library.** -/
theorem found_shelved (h : Shelved d l) : (found d l.path).list
    = (l.list.filter fun e => e.definition.IsShallow).map StoredDefinition.reread := by
  rcases h.files with ⟨p, hfiles⟩ | ⟨hempty, hvacant⟩
  · refine Ordered.ext (ordered_found _) ?_ fun x => ?_
    · exact List.pairwise_map.2 ((h.ordered.filter _).imp fun hlt => hlt)
    · rw [hfiles.mem_found h, List.mem_map]
      simp only [List.mem_filter, decide_eq_true_eq, and_assoc]
  · rw [hempty, found_of_isVacant hvacant]
    rfl

theorem shelved_of_isVacant {path : String} (h : IsVacant d path) : Shelved d { path } :=
  ⟨ordered_nil, fun _ he => absurd he List.not_mem_nil, fun _ he => absurd he List.not_mem_nil,
    .inr ⟨rfl, h⟩⟩

end Library

end UsageGrid
