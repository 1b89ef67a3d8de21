import UsageGrid.Directory.Basic
import UsageGrid.Library.Basic
import UsageGrid.Proofs.Outcome
import UsageGrid.Proofs.Text.Parts

/-!
# Where a path leads

A path leads to the same place as long as the folders on its way are there (`locate_mono`): no change
to files moves it. Making a folder makes those around it, and does nothing where it is there already
(`makeFolders_spec`, `makeFolders_of_folder`). A name in a folder stands right inside
(`locate_joinPath`), and a folder lists exactly the names that something stands under (`mem_names`).
-/

namespace UsageGrid

/-! ## 1. The pieces of a path -/

namespace Directory

/-- A name that stands for itself in a path. -/
structure IsPlain (name : String) : Prop where
  noSlash : '/' ∉ name.toList
  notIdle : isIdle name = false
  notUp : name ≠ ".."

theorem piecesOf_plain {name : String} (h : '/' ∉ name.toList) : piecesOf name = [name] := by
  unfold piecesOf
  rw [Text.splitOnChar_of_not_mem h, List.map_singleton, String.ofList_toList]

/-- The pieces of a name in a folder: those of the folder, up to idle ones, and the name. -/
theorem piecesOf_joinPath (folder : String) {name : String} (h : '/' ∉ name.toList) :
    ∃ front, piecesOf (Library.joinPath folder name) = front ++ [name] ∧
      front.filter (fun n => !isIdle n) = namesOf folder := by
  have hstart : name.startsWith "/" = false := by
    rw [String.startsWith_string_eq_false_iff]
    exact fun hstarts => h (hstarts.subset (List.mem_singleton.2 rfl))
  unfold Library.joinPath
  rw [hstart, Bool.false_or]
  split
  · rename_i hempty
    rw [decide_eq_true_eq] at hempty
    subst hempty
    exact ⟨[], piecesOf_plain h, rfl⟩
  · split
    · rename_i hends
      rw [String.endsWith_eq_endsWith_toSlice, String.Slice.endsWith_string_iff,
        String.copy_toSlice] at hends
      obtain ⟨a, ha⟩ := hends
      have hpieces : piecesOf folder = (Text.splitOnChar '/' a).map String.ofList ++ [""] := by
        unfold piecesOf
        rw [← ha]
        exact (congrArg _ (Text.splitOnChar_append a [])).trans List.map_append
      refine ⟨(Text.splitOnChar '/' a).map String.ofList, ?_, ?_⟩
      · unfold piecesOf
        rw [String.toList_append, ← ha, List.append_assoc]
        show (Text.splitOnChar '/' (a ++ '/' :: name.toList)).map _ = _
        rw [Text.splitOnChar_append, List.map_append]
        exact congrArg _ (piecesOf_plain h)
      · unfold namesOf
        rw [hpieces, List.filter_append]
        exact (List.append_nil _).symm
    · refine ⟨piecesOf folder, ?_, rfl⟩
      unfold piecesOf
      rw [String.toList_append, String.toList_append, List.append_assoc]
      show (Text.splitOnChar '/' (folder.toList ++ '/' :: name.toList)).map _ = _
      rw [Text.splitOnChar_append, List.map_append]
      exact congrArg _ (piecesOf_plain h)

theorem namesOf_joinPath (folder : String) {name : String} (h : IsPlain name) :
    namesOf (Library.joinPath folder name) = namesOf folder ++ [name] := by
  obtain ⟨front, hpieces, hfront⟩ := piecesOf_joinPath folder h.noSlash
  unfold namesOf at hfront ⊢
  rw [hpieces, List.filter_append, hfront]
  simp [h.notIdle]

theorem endsAsFolder_joinPath (folder : String) {name : String} (h : IsPlain name) :
    endsAsFolder (Library.joinPath folder name) = false := by
  obtain ⟨front, hpieces, -⟩ := piecesOf_joinPath folder h.noSlash
  unfold endsAsFolder
  rw [hpieces, List.getLast?_concat]
  exact h.notIdle

/-! ## 2. Folders that stay -/

variable {d d' : Directory} {p q : Place} {path : String}

/-- The folders of one directory are in the other. -/
def FoldersIn (d d' : Directory) : Prop := ∀ p, d.find? p = some .folder → d'.find? p = some .folder

theorem FoldersIn.refl (d : Directory) : FoldersIn d d := fun _ h => h

theorem FoldersIn.trans {d'' : Directory} (h : FoldersIn d d') (h' : FoldersIn d' d'') :
    FoldersIn d d'' := fun p hp => h' p (h p hp)

theorem needFolder_eq_ok : d.needFolder p = .ok () ↔ d.find? p = some .folder := by
  unfold needFolder
  split <;> simp_all

theorem walk_eq_ok (h : FoldersIn d d') {names : List String} (hwalk : d.walk p names = .ok q) :
    d'.walk p names = .ok q := by
  induction names generalizing p with
  | nil => exact hwalk
  | cons n rest ih =>
    unfold walk at hwalk ⊢
    obtain ⟨_, hfolder, hwalk⟩ := bind_eq_ok.1 hwalk
    rw [needFolder_eq_ok.2 (h p (needFolder_eq_ok.1 hfolder)), ok_bind]
    split at hwalk
    · rename_i hup
      rw [if_pos hup]
      split at hwalk
      · exact absurd hwalk throw_bind_ne_ok
      · rename_i hroot
        rw [if_neg hroot]
        exact ih hwalk
    · rename_i hup
      rw [if_neg hup]
      split at hwalk
      · exact absurd hwalk throw_ne_ok
      · rename_i hlong
        rw [if_neg hlong]
        exact ih hwalk

theorem locate_eq_ok : d.locate path = .ok p ↔ checkPath path = .ok () ∧ path ≠ "" ∧
    path.startsWith "/" = false ∧ d.walk [] (namesOf path) = .ok p := by
  unfold locate
  rw [bind_eq_ok]
  constructor
  · rintro ⟨_, hcheck, h⟩
    split at h
    · exact absurd h throw_bind_ne_ok
    · rename_i hpath
      obtain ⟨hempty, hstart⟩ := not_or.1 hpath
      exact ⟨hcheck, hempty, by simpa using hstart, h⟩
  · rintro ⟨hcheck, hempty, hstart, hwalk⟩
    refine ⟨(), hcheck, ?_⟩
    rw [if_neg (by simp [hempty, hstart])]
    exact hwalk

/-- **A path leads to the same place while the folders stay.** -/
theorem locate_mono (h : FoldersIn d d') (hlocate : d.locate path = .ok p) :
    d'.locate path = .ok p := by
  obtain ⟨hcheck, hempty, hstart, hwalk⟩ := locate_eq_ok.1 hlocate
  exact locate_eq_ok.2 ⟨hcheck, hempty, hstart, walk_eq_ok h hwalk⟩

theorem foldersIn_put (e : Entry) (h : d.find? p ≠ some .folder) : FoldersIn d (d.put p e) := by
  intro q hq
  have hne : q ≠ p := fun he => h (he ▸ hq)
  rwa [find?_put_of_ne d e hne]

/-- A file that is put makes no folder. -/
theorem foldersIn_of_put (content : ByteArray) (h : d.find? p ≠ some .folder) :
    FoldersIn (d.put p (.file content)) d := by
  intro q hq
  have hp : p ≠ [] := by
    rintro rfl
    exact h rfl
  have hne : q ≠ p := by
    rintro rfl
    rw [find?_put d _ _ hp] at hq
    cases hq
  rwa [find?_put_of_ne d _ hne] at hq

theorem foldersIn_erase (h : d.find? p ≠ some .folder) : FoldersIn d (d.erase p) := by
  intro q hq
  have hne : q ≠ p := fun he => h (he ▸ hq)
  rwa [find?_erase_of_ne d hne]

/-- What there is in one directory is in the other. -/
def Grows (d d' : Directory) : Prop := ∀ p e, d.find? p = some e → d'.find? p = some e

theorem Grows.refl (d : Directory) : Grows d d := fun _ _ h => h

theorem Grows.trans {d'' : Directory} (h : Grows d d') (h' : Grows d' d'') : Grows d d'' :=
  fun p e he => h' p e (h p e he)

theorem Grows.foldersIn (h : Grows d d') : FoldersIn d d' := fun p => h p .folder

theorem grows_put (e : Entry) (h : d.find? p = none) : Grows d (d.put p e) := by
  intro q x hx
  have hne : q ≠ p := by
    rintro rfl
    rw [h] at hx
    cases hx
  rwa [find?_put_of_ne d e hne]

/-! ## 3. Making folders -/

/-- All folders on the way to a place, and the place, are there. -/
def IsInside (d : Directory) (p : Place) : Prop := ∀ q, q <+: p → d.find? q = some .folder

theorem isInside_nil (d : Directory) : d.IsInside [] := by
  intro q hq
  rw [List.prefix_nil.1 hq]
  rfl

theorem IsInside.dropLast (h : d.IsInside p) : d.IsInside p.dropLast :=
  fun q hq => h q (hq.trans (List.dropLast_prefix p))

theorem IsInside.concat (h : d.IsInside p) {n : String} (hn : d.find? (p ++ [n]) = some .folder) :
    d.IsInside (p ++ [n]) := by
  intro q hq
  rcases List.prefix_concat_iff.1 hq with rfl | hq
  · exact hn
  · exact h q hq

theorem IsInside.mono (h : d.IsInside p) (hfolders : FoldersIn d d') : d'.IsInside p :=
  fun q hq => hfolders q (h q hq)

theorem find?_of_walk {names : List String} (hwalk : d.walk p names = .ok q)
    (hq : d.find? q = some .folder) : d.find? p = some .folder := by
  cases names with
  | nil => exact Except.ok.inj hwalk ▸ hq
  | cons n rest =>
    unfold walk at hwalk
    obtain ⟨_, hfolder, -⟩ := bind_eq_ok.1 hwalk
    exact needFolder_eq_ok.1 hfolder

theorem grows_makeAlong (d : Directory) (p : Place) (names : List String) :
    Grows d (d.makeAlong p names).1 := by
  induction names generalizing d p with
  | nil => exact .refl d
  | cons n rest ih =>
    unfold makeAlong
    split
    · split
      · exact .refl d
      · exact ih d _
    · split
      · exact .refl d
      · split
        · exact ih d _
        · exact .refl d
        · rename_i hnone
          exact (grows_put .folder hnone).trans (ih _ _)

/-- What is made leads somewhere. -/
theorem makeAlong_spec {names : List String} (h : d.IsInside p)
    (hmake : d.makeAlong p names = (d', .ok ())) :
    ∃ q, d'.walk p names = .ok q ∧ d'.find? q = some .folder := by
  induction names generalizing d p with
  | nil =>
    obtain ⟨rfl, -⟩ := Prod.mk.inj hmake
    exact ⟨p, rfl, h p (List.prefix_refl p)⟩
  | cons n rest ih =>
    have hfolders : FoldersIn d d' := by
      have := (grows_makeAlong d p (n :: rest)).foldersIn
      rwa [hmake] at this
    have hneed : d'.needFolder p = .ok () :=
      needFolder_eq_ok.2 (hfolders p (h p (List.prefix_refl p)))
    unfold makeAlong at hmake
    unfold walk
    rw [hneed, ok_bind]
    split at hmake
    · rename_i hup
      rw [if_pos hup]
      split at hmake
      · cases (Prod.mk.inj hmake).2
      · rename_i hroot
        rw [if_neg hroot]
        exact ih h.dropLast hmake
    · rename_i hup
      rw [if_neg hup]
      split at hmake
      · cases (Prod.mk.inj hmake).2
      · rename_i hlong
        rw [if_neg hlong]
        split at hmake
        · rename_i hfound
          exact ih (h.concat hfound) hmake
        · cases (Prod.mk.inj hmake).2
        · rename_i hnone
          have hput : FoldersIn d (d.put (p ++ [n]) .folder) :=
            foldersIn_put .folder (by simp [hnone])
          exact ih ((h.mono hput).concat (find?_put d _ _ (by simp))) hmake

theorem makeAlong_of_folder {names : List String} (h : d.IsInside p)
    (hwalk : d.walk p names = .ok q) (hq : d.find? q = some .folder) :
    d.makeAlong p names = (d, .ok ()) := by
  induction names generalizing p with
  | nil => rfl
  | cons n rest ih =>
    unfold walk at hwalk
    obtain ⟨_, -, hwalk⟩ := bind_eq_ok.1 hwalk
    unfold makeAlong
    split at hwalk
    · rename_i hup
      rw [if_pos hup]
      split at hwalk
      · exact absurd hwalk throw_bind_ne_ok
      · rename_i hroot
        rw [if_neg hroot]
        exact ih h.dropLast hwalk
    · rename_i hup
      rw [if_neg hup]
      split at hwalk
      · exact absurd hwalk throw_ne_ok
      · rename_i hlong
        have hfound := find?_of_walk hwalk hq
        rw [if_neg hlong, hfound]
        exact ih (h.concat hfound) hwalk

/-- **A folder that has been made is there.** -/
theorem makeFolders_spec (hmake : d.makeFolders path = (d', .ok ())) (hpath : path ≠ "") :
    Grows d d' ∧ ∃ p, d'.locate path = .ok p ∧ d'.find? p = some .folder := by
  unfold makeFolders at hmake
  split at hmake
  · cases (Prod.mk.inj hmake).2
  · rename_i hcheck
    split at hmake
    · cases (Prod.mk.inj hmake).2
    · rename_i hstart
      have hgrows := grows_makeAlong d [] (namesOf path)
      rw [hmake] at hgrows
      obtain ⟨p, hwalk, hp⟩ := makeAlong_spec d.isInside_nil hmake
      exact ⟨hgrows, p, locate_eq_ok.2 ⟨hcheck, hpath, by simpa using hstart, hwalk⟩, hp⟩

/-- **A folder that is there is not made again.** -/
theorem makeFolders_of_folder (hlocate : d.locate path = .ok p) (hp : d.find? p = some .folder) :
    d.makeFolders path = (d, .ok ()) := by
  obtain ⟨hcheck, -, hstart, hwalk⟩ := locate_eq_ok.1 hlocate
  unfold makeFolders
  rw [hcheck]
  dsimp only
  rw [hstart]
  exact makeAlong_of_folder d.isInside_nil hwalk hp

/-! ## 4. Names in a folder -/

theorem walk_append {names names' : List String} {r : Place} (hwalk : d.walk p names = .ok q) :
    d.walk p (names ++ names') = .ok r ↔ d.walk q names' = .ok r := by
  induction names generalizing p with
  | nil => rw [List.nil_append, Except.ok.inj hwalk]
  | cons n rest ih =>
    rw [List.cons_append]
    unfold walk at hwalk
    obtain ⟨_, hfolder, hwalk⟩ := bind_eq_ok.1 hwalk
    rw [walk, hfolder, ok_bind]
    split at hwalk
    · rename_i hup
      rw [if_pos hup]
      split at hwalk
      · exact absurd hwalk throw_bind_ne_ok
      · rename_i hroot
        rw [if_neg hroot]
        exact ih hwalk
    · rename_i hup
      rw [if_neg hup]
      split at hwalk
      · exact absurd hwalk throw_ne_ok
      · rename_i hlong
        rw [if_neg hlong]
        exact ih hwalk

/-- **A name in a folder leads right into it.** -/
theorem locate_joinPath {name : String} (h : IsPlain name) (hfolder : d.locate path = .ok p)
    (hlocate : d.locate (Library.joinPath path name) = .ok q) : q = p ++ [name] := by
  obtain ⟨-, -, -, hwalk⟩ := locate_eq_ok.1 hfolder
  obtain ⟨-, -, -, hwalk'⟩ := locate_eq_ok.1 hlocate
  rw [namesOf_joinPath path h, walk_append hwalk] at hwalk'
  unfold walk at hwalk'
  obtain ⟨_, -, hwalk'⟩ := bind_eq_ok.1 hwalk'
  rw [if_neg h.notUp] at hwalk'
  split at hwalk'
  · exact absurd hwalk' throw_ne_ok
  · exact (Except.ok.inj hwalk').symm

theorem mem_lookup {l : List (Place × Entry)} : (∃ e, (q, e) ∈ l) ↔ (l.lookup q).isSome := by
  rw [Option.isSome_iff_ne_none, ne_eq, List.lookup_eq_none_iff]
  constructor
  · rintro ⟨e, he⟩ hnone
    exact absurd (hnone _ he) (by simp)
  · intro h
    by_contra hnone
    refine h fun r hr => bne_iff_ne.2 fun hq => hnone ⟨r.2, ?_⟩
    rw [hq]
    exact hr

theorem names_eq_ok {names : List String} (h : d.names path = .ok names) :
    ∃ p, d.locate path = .ok p ∧ d.find? p = some .folder ∧
      ∀ n, n ∈ names ↔ (d.find? (p ++ [n])).isSome := by
  unfold Directory.names at h
  obtain ⟨p, hlocate, h⟩ := bind_eq_ok.1 h
  obtain ⟨_, hfolder, h⟩ := bind_eq_ok.1 h
  obtain rfl := pure_eq_ok.1 h
  refine ⟨p, hlocate, needFolder_eq_ok.1 hfolder, fun n => ?_⟩
  have hfind : d.find? (p ++ [n]) = d.entries.lookup (p ++ [n]) := by
    obtain ⟨m, r, hr⟩ := List.exists_cons_of_ne_nil (List.append_ne_nil_of_right_ne_nil p
      (List.cons_ne_nil n []))
    rw [hr]
    rfl
  rw [hfind, ← mem_lookup, List.mem_mergeSort, List.mem_filterMap]
  constructor
  · rintro ⟨⟨r, e⟩, he, hname⟩
    have hname : nameIn p r = some n := hname
    unfold nameIn at hname
    split at hname
    · rename_i hdrop
      refine ⟨e, ?_⟩
      rw [← hdrop, List.dropLast_append_getLast? n hname]
      exact he
    · cases hname
  · rintro ⟨e, he⟩
    refine ⟨(p ++ [n], e), he, ?_⟩
    show nameIn p (p ++ [n]) = some n
    unfold nameIn
    rw [List.dropLast_concat, if_pos rfl, List.getLast?_concat]

/-- A folder that is there can be listed. -/
theorem names_of_folder (hlocate : d.locate path = .ok p) (hp : d.find? p = some .folder) :
    ∃ names, d.names path = .ok names := by
  unfold Directory.names
  rw [hlocate, ok_bind, needFolder_eq_ok.2 hp, ok_bind]
  exact ⟨_, rfl⟩

/-! ## 5. Files -/

theorem read_eq_ok {content : ByteArray} : d.read path = .ok content ↔
    ∃ p, d.locate path = .ok p ∧ d.find? p = some (.file content) ∧ endsAsFolder path = false := by
  unfold Directory.read
  rw [bind_eq_ok]
  refine exists_congr fun p => and_congr_right fun _ => ?_
  cases d.find? p with
  | none => exact ⟨fun h => absurd h throw_ne_ok, fun h => nomatch h.1⟩
  | some e =>
    cases e with
    | folder => exact ⟨fun h => absurd h throw_ne_ok, fun h => nomatch h.1⟩
    | file c =>
      dsimp only
      cases endsAsFolder path with
      | true => exact ⟨fun h => absurd h throw_ne_ok, fun h => nomatch h.2⟩
      | false =>
        constructor
        · intro h
          exact ⟨by rw [pure_eq_ok.1 h], rfl⟩
        · rintro ⟨h, -⟩
          cases h
          rfl

/-- A file that is there is still read when more is there. -/
theorem Grows.read {content : ByteArray} (h : Grows d d') (hread : d.read path = .ok content) :
    d'.read path = .ok content := by
  obtain ⟨p, hlocate, hfile, hend⟩ := read_eq_ok.1 hread
  exact read_eq_ok.2 ⟨p, locate_mono h.foldersIn hlocate, h p _ hfile, hend⟩

theorem write_eq_ok {content : ByteArray} : d.write path content = .ok d' ↔
    ∃ p, d.locate path = .ok p ∧ d.find? p ≠ some .folder ∧ endsAsFolder path = false ∧
      d' = d.put p (.file content) := by
  unfold Directory.write
  rw [bind_eq_ok]
  refine exists_congr fun p => and_congr_right fun _ => ?_
  -- there is a folder, or something that is none
  have hplain (cause : Cause) : (if endsAsFolder path = true then
        throw cause >>= fun _ : PUnit => pure (d.put p (.file content))
      else pure (d.put p (.file content)) : Except Cause Directory) = .ok d' ↔
      endsAsFolder path = false ∧ d' = d.put p (.file content) := by
    cases endsAsFolder path with
    | true => exact ⟨fun h => absurd h throw_bind_ne_ok, fun h => nomatch h.1⟩
    | false => exact pure_eq_ok.trans ⟨fun h => ⟨rfl, h.symm⟩, fun h => h.2.symm⟩
  cases d.find? p with
  | none => exact (hplain _).trans ⟨fun h => ⟨nofun, h⟩, And.right⟩
  | some e =>
    cases e with
    | folder => exact ⟨fun h => absurd h throw_bind_ne_ok, fun h => absurd rfl h.1⟩
    | file c => exact (hplain _).trans ⟨fun h => ⟨nofun, h⟩, And.right⟩

/-- A file can be written. -/
structure CanWrite (d : Directory) (path : String) (p : Place) : Prop where
  leads : d.locate path = .ok p
  noFolder : d.find? p ≠ some .folder
  noEnd : endsAsFolder path = false

theorem CanWrite.write (h : d.CanWrite path p) (content : ByteArray) :
    d.write path content = .ok (d.put p (.file content)) :=
  write_eq_ok.2 ⟨p, h.leads, h.noFolder, h.noEnd, rfl⟩

/-- Whatever is written to a file, others can be written. -/
theorem CanWrite.put (h : d.CanWrite path p) (hq : d.find? q ≠ some .folder) (content : ByteArray) :
    (d.put q (.file content)).CanWrite path p where
  leads := locate_mono (foldersIn_put _ hq) h.leads
  noFolder := by
    by_cases hpq : p = q
    · subst hpq
      cases p with
      | nil => exact absurd rfl hq
      | cons n p => simp [find?_put]
    · rw [find?_put_of_ne d _ hpq]
      exact h.noFolder
  noEnd := h.noEnd

/-- What is written to a file is read there. -/
theorem CanWrite.read (h : d.CanWrite path p) (content : ByteArray) :
    (d.put p (.file content)).read path = .ok content := by
  have hp : p ≠ [] := by
    rintro rfl
    exact h.noFolder rfl
  exact read_eq_ok.2 ⟨p, locate_mono (foldersIn_put _ h.noFolder) h.leads,
    find?_put d _ _ hp, h.noEnd⟩

/-- What is written to one file does not show in another. -/
theorem read_put {content : ByteArray} (h : d.read path = .ok content)
    (hq : d.find? q ≠ some .folder) (hpath : d.locate path ≠ .ok q) (content' : ByteArray) :
    (d.put q (.file content')).read path = .ok content := by
  obtain ⟨p, hlocate, hfile, hend⟩ := read_eq_ok.1 h
  have hne : p ≠ q := fun he => hpath (he ▸ hlocate)
  refine read_eq_ok.2 ⟨p, locate_mono (foldersIn_put _ hq) hlocate, ?_, hend⟩
  rwa [find?_put_of_ne d _ hne]

theorem remove_eq_ok : d.remove path = .ok d' ↔
    ∃ p c, d.locate path = .ok p ∧ d.find? p = some (.file c) ∧ endsAsFolder path = false ∧
      d' = d.erase p := by
  unfold Directory.remove
  rw [bind_eq_ok]
  refine exists_congr fun p => ?_
  rw [exists_and_left]
  refine and_congr_right fun _ => ?_
  cases d.find? p with
  | none => exact ⟨fun h => absurd h throw_ne_ok, fun ⟨_, h, _⟩ => nomatch h⟩
  | some e =>
    cases e with
    | folder => exact ⟨fun h => absurd h throw_ne_ok, fun ⟨_, h, _⟩ => nomatch h⟩
    | file c =>
      dsimp only
      cases endsAsFolder path with
      | true => exact ⟨fun h => absurd h throw_ne_ok, fun ⟨_, _, h, _⟩ => nomatch h⟩
      | false =>
        exact pure_eq_ok.trans ⟨fun h => ⟨c, rfl, rfl, h.symm⟩, fun ⟨_, _, _, h⟩ => h.symm⟩

end Directory

end UsageGrid
