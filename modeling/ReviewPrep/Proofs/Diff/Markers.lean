import ReviewPrep.Proofs.Diff.Records

/-!
# What the markers of a file say

A file's status is that of the last marker line of its head that gives one, `modified` if none,
and its old path that of the last `rename from` or `copy from` line there (`origins_ofText`).
Lines inside a hunk are no markers, and nothing clears the old path, so a renamed or copied file
always has one, while a later `new file mode` keeps it (`old_path_outlives_rename`). The proof
runs the reader over the lines with the state generalised (`Scan.origins_foldl`).
-/

namespace ReviewPrep.Diff

/-- The status a marker gives a file, if it gives one. -/
def Marker.status? : Marker → Option FileStatus
  | .newFile => some .added
  | .deletedFile => some .deleted
  | .binary => none
  | .renameFrom _ => some .renamed
  | .copyFrom _ => some .copied

/-- The old path a rename or copy marker names. -/
def Marker.oldPath? : Marker → Option String
  | .renameFrom old | .copyFrom old => some (String.ofList old)
  | .newFile | .deletedFile | .binary => none

/-- A marker that makes a file renamed or copied names its old path. -/
theorem Marker.oldPath?_isSome {m : Marker}
    (h : m.status? = some .renamed ∨ m.status? = some .copied) : m.oldPath?.isSome := by
  cases m <;> simp_all [Marker.status?, Marker.oldPath?]

/-- What a file's markers decide: its status and its old path. -/
structure Origin where
  /-- The status. -/
  status : FileStatus
  /-- The old path, if any. -/
  oldPath : Option String
  deriving DecidableEq, Repr

/-- An origin after some markers: the status of the last marker that gives one and the old path
of the last rename or copy marker, each left as it was where no marker gives one. -/
def Origin.mark (o : Origin) (ms : List Marker) : Origin :=
  ⟨((ms.filterMap Marker.status?).getLast?).getD o.status,
   ((ms.filterMap Marker.oldPath?).getLast?).or o.oldPath⟩

/-- The origin of a fresh file: modified, with no old path. -/
def Origin.fresh : Origin := ⟨.modified, none⟩

@[simp] theorem Origin.mark_nil (o : Origin) : o.mark [] = o := rfl

/-- Markers apply one run after the other. -/
theorem Origin.mark_append (o : Origin) (ms ms' : List Marker) :
    o.mark (ms ++ ms') = (o.mark ms).mark ms' := by
  simp only [mark, List.filterMap_append, List.getLast?_append, Origin.mk.injEq, Option.or_assoc]
  refine ⟨?_, trivial⟩
  cases (ms'.filterMap Marker.status?).getLast? <;> rfl

/-- After markers, a renamed or copied file has an old path, if it had one before any marker made
it so. -/
theorem Origin.oldPath_isSome_mark {o : Origin}
    (ho : o.status = .renamed ∨ o.status = .copied → o.oldPath.isSome) (ms : List Marker)
    (h : (o.mark ms).status = .renamed ∨ (o.mark ms).status = .copied) :
    (o.mark ms).oldPath.isSome := by
  cases hs : (ms.filterMap Marker.status?).getLast? with
  | none =>
    have hst : (o.mark ms).status = o.status := by simp [mark, hs]
    rw [hst] at h
    cases hp : (ms.filterMap Marker.oldPath?).getLast? <;> simp [mark, hp, ho h]
  | some st =>
    have hst : (o.mark ms).status = st := by simp [mark, hs]
    rw [hst] at h
    obtain ⟨m, hm, hms⟩ := List.mem_filterMap.mp (List.mem_of_getLast? hs)
    have hp : (ms.filterMap Marker.oldPath?) ≠ [] := by
      have hm' : m.status? = some .renamed ∨ m.status? = some .copied := by
        rw [hms]
        rcases h with rfl | rfl <;> simp
      obtain ⟨p, hp⟩ := Option.isSome_iff_exists.mp (Marker.oldPath?_isSome hm')
      exact List.ne_nil_of_mem (List.mem_filterMap.mpr ⟨m, hm, hp⟩)
    obtain ⟨p, hp'⟩ := Option.isSome_iff_exists.mp (List.getLast?_isSome.mpr hp)
    simp [mark, hp']

end ReviewPrep.Diff

namespace ReviewPrep

/-- The status and old path of a file change. -/
def FileChange.origin (f : FileChange) : Diff.Origin := ⟨f.status, f.oldPath⟩

/-- Applying a marker to a file change marks its origin. -/
@[simp] theorem FileChange.origin_applyMarker (f : FileChange) (m : Diff.Marker) :
    (Diff.Scan.applyMarker f m).origin = f.origin.mark [m] := by
  cases m <;> rfl

@[simp] theorem FileChange.origin_attach (f : FileChange) (h : Option Hunk) :
    (Diff.Scan.attach f h).origin = f.origin := by
  cases h <;> rfl

@[simp] theorem FileChange.origin_tally (f : FileChange) (k : LineKind) :
    (f.tally k).origin = f.origin := by
  cases k <;> rfl

end ReviewPrep

namespace ReviewPrep.Diff

/-! ## The lines of each file -/

/-- Whether a line opens a file. -/
def isFileHeader (l : List Char) : Bool := (fileHeader? l).isSome

/-- The lines of each file of a diff, in order: those after each file header up to the next one.
The lines before the first file header belong to no file. -/
def fileSections (lines : List (List Char)) : List (List (List Char)) :=
  (lines.splitOnP isFileHeader).tail

/-- The markers of a file's lines: those of its lines before its first hunk header. -/
def headMarkers (sec : List (List Char)) : List Marker :=
  (sec.takeWhile fun l => (hunkHeader? l).isNone).filterMap marker?

@[simp] theorem headMarkers_nil : headMarkers [] = [] := rfl

/-- A hunk header ends a file's head. -/
theorem headMarkers_cons_of_hunkHeader {l : List Char} {hh : HunkHeader}
    (h : hunkHeader? l = some hh) (rest : List (List Char)) : headMarkers (l :: rest) = [] := by
  simp [headMarkers, h]

/-- Before the first hunk header, a line adds its marker, if it is one. -/
theorem headMarkers_cons {l : List Char} (h : hunkHeader? l = none) (rest : List (List Char)) :
    headMarkers (l :: rest) = (marker? l).toList ++ headMarkers rest := by
  cases hm : marker? l <;> simp [headMarkers, h, hm]

/-- What the marker lines of a file's lines make of a fresh file. -/
def sectionOrigin (sec : List (List Char)) : Origin := Origin.fresh.mark (headMarkers sec)

namespace Scan

/-- What the state says of the open file, if any, once the lines `lead` that follow, up to the
next file header, are read: nothing more once a hunk is open, else the markers of their head. -/
def openOrigin (s : Scan) (lead : List (List Char)) : List Origin :=
  match s.file with
  | none => []
  | some f => [if s.hunk.isSome then f.origin else f.origin.mark (headMarkers lead)]

/-- The origins of the files read so far are those of the closed files and of the open one. -/
theorem origins_files (s : Scan) :
    s.files.map FileChange.origin = s.done.reverse.map FileChange.origin ++ s.openOrigin [] := by
  unfold files openOrigin
  cases s.file with
  | none => simp
  | some f => cases s.hunk <;> simp

/-- A line that is no file header adds to the open file what it adds as the first of the lines
that follow it: the closed files stay as they are. -/
theorem openOrigin_step {s : Scan} {l : List Char} (hl : fileHeader? l = none)
    (lead : List (List Char)) :
    (s.step l).done = s.done ∧ (s.step l).openOrigin lead = s.openOrigin (l :: lead) := by
  cases hf : s.file with
  | none =>
    rw [step_of_file_none hf hl]
    exact ⟨rfl, by simp [openOrigin, hf]⟩
  | some f =>
    cases hhh : hunkHeader? l with
    | some hh =>
      rw [step_of_hunkHeader hf hhh]
      refine ⟨rfl, ?_⟩
      cases hh' : s.hunk <;> simp [openOrigin, hf, hh', headMarkers_cons_of_hunkHeader hhh]
    | none =>
      cases hnh : s.hunk with
      | none =>
        cases hm : marker? l with
        | some m =>
          rw [step_of_marker hf hnh hl hhh hm]
          refine ⟨rfl, ?_⟩
          simp only [openOrigin, hf, hnh, headMarkers_cons hhh, hm, Option.isSome_none,
            Bool.false_eq_true, if_false, FileChange.origin_applyMarker, Option.toList_some,
            Origin.mark_append]
        | none =>
          rw [step_of_not_marker hf hnh hl hhh hm]
          exact ⟨rfl, by simp [openOrigin, hf, hnh, headMarkers_cons hhh, hm]⟩
      | some h =>
        rw [step_of_hunkLine hf hnh hl hhh]
        rcases hunkLine_cases hf h l with he | ⟨k, c, he⟩
        · rw [he]
          exact ⟨rfl, by simp [openOrigin, hf, hnh]⟩
        · rw [he]
          exact ⟨rfl, by simp [openOrigin, hf, hnh]⟩

/-- Reading lines `L` from any state: the origins of all files read are those of the closed files,
of the open file continued by the lines before the first file header of `L`, and of a fresh file
marked by each later run of lines. -/
theorem origins_foldl : ∀ (L : List (List Char)) (s : Scan) (lead : List (List Char))
    (rest : List (List (List Char))), L.splitOnP isFileHeader = lead :: rest →
    (L.foldl step s).files.map FileChange.origin =
      s.done.reverse.map FileChange.origin ++ s.openOrigin lead ++ rest.map sectionOrigin
  | [], s, lead, rest, h => by
    obtain ⟨rfl, rfl⟩ := List.cons.inj h
    simpa using origins_files s
  | l :: L, s, lead, rest, h => by
    obtain ⟨lead', rest', h'⟩ :=
      List.exists_cons_of_ne_nil (List.splitOnP_ne_nil isFileHeader L)
    rw [List.splitOnP_cons_eq_if_modifyHead, h'] at h
    rw [List.foldl_cons]
    cases hfh : fileHeader? l with
    | some p =>
      have hP : isFileHeader l = true := by simp [isFileHeader, hfh]
      simp only [hP, if_true, List.cons.injEq] at h
      obtain ⟨rfl, rfl⟩ := h
      obtain ⟨old, new⟩ := p
      rw [origins_foldl L _ lead' rest' h', step_of_fileHeader hfh]
      simp [openOrigin, origins_files s, sectionOrigin, FileChange.origin, FileChange.ofPath,
        Origin.fresh]
    | none =>
      have hP : isFileHeader l = false := by simp [isFileHeader, hfh]
      simp only [hP, Bool.false_eq_true, if_false, List.modifyHead_cons, List.cons.injEq] at h
      obtain ⟨rfl, rfl⟩ := h
      obtain ⟨hd, ho⟩ := openOrigin_step (s := s) hfh lead'
      rw [origins_foldl L _ lead' rest' h', hd, ho]

end Scan

/-- The files of a diff read from text have, in order, the origins that the marker lines of
their heads give a fresh file. -/
theorem origins_ofText (t : String) :
    (ofText t).files.map FileChange.origin = (fileSections (textLines t)).map sectionOrigin := by
  obtain ⟨lead, rest, h⟩ :=
    List.exists_cons_of_ne_nil (List.splitOnP_ne_nil isFileHeader (textLines t))
  rw [ofText, Scan.origins_foldl _ _ lead rest h, fileSections, h]
  simp [Scan.init, Scan.openOrigin]

/-- A diff read from a payload is the diff of the payload's text. -/
theorem eq_ofText_of_ofPayload {p : Payload} {t : String} {d : Diff} (ht : p.lenientText = .ok t)
    (hd : ofPayload p = .ok d) : d = ofText t := by
  rw [ofPayload, ht] at hd
  exact eq_ofText_of_read hd

/-- Each file of a diff read from text or bytes has the status of the last marker line between
its header and its first hunk header that gives one (`modified` if none does), and the old path
named by the last `rename from` or `copy from` line there (none if there is none); lines inside a
hunk change neither. So every renamed or copied file has an old path. -/
theorem origin_of_head_markers {p : Payload} {t : String} {d : Diff} (ht : p.lenientText = .ok t)
    (hd : ofPayload p = .ok d) :
    d.files.map FileChange.origin = (fileSections (textLines t)).map sectionOrigin ∧
      ∀ f ∈ d.files, (f.status = .renamed ∨ f.status = .copied) → f.oldPath.isSome := by
  rw [eq_ofText_of_ofPayload ht hd]
  refine ⟨origins_ofText t, fun f hf hs => ?_⟩
  obtain ⟨sec, -, hsec⟩ := List.mem_map.mp (origins_ofText t ▸ List.mem_map_of_mem hf)
  have hst : (sectionOrigin sec).status = .renamed ∨ (sectionOrigin sec).status = .copied := by
    rw [hsec]
    exact hs
  have hold : (sectionOrigin sec).oldPath.isSome :=
    Origin.oldPath_isSome_mark (o := Origin.fresh) (by simp [Origin.fresh]) _ hst
  rw [hsec] at hold
  exact hold

/-- A renamed file with one hunk reads: its origin is what the markers of its head say. -/
theorem origin_of_head_markers_renamed :
    Payload.lenientText (.text "diff --git a/a b/b\nrename from a\n@@ -1 +1 @@\n+x") =
        .ok "diff --git a/a b/b\nrename from a\n@@ -1 +1 @@\n+x" ∧
      ofPayload (.text "diff --git a/a b/b\nrename from a\n@@ -1 +1 @@\n+x") =
        .ok (ofText "diff --git a/a b/b\nrename from a\n@@ -1 +1 @@\n+x") ∧
      ((ofText "diff --git a/a b/b\nrename from a\n@@ -1 +1 @@\n+x").files.map FileChange.origin =
          (fileSections (textLines "diff --git a/a b/b\nrename from a\n@@ -1 +1 @@\n+x")).map
            sectionOrigin ∧
        ∀ f ∈ (ofText "diff --git a/a b/b\nrename from a\n@@ -1 +1 @@\n+x").files,
          (f.status = .renamed ∨ f.status = .copied) → f.oldPath.isSome) :=
  ⟨rfl, rfl, origin_of_head_markers
    (p := .text "diff --git a/a b/b\nrename from a\n@@ -1 +1 @@\n+x") rfl rfl⟩

/-- An old path does not make a file renamed or copied: a `new file mode` line after a rename
marker makes the file added and keeps the old path. -/
theorem old_path_outlives_rename :
    ofPayload (.text "diff --git a/a b/b\nrename from a\nnew file mode 100644") =
        .ok (ofText "diff --git a/a b/b\nrename from a\nnew file mode 100644") ∧
      (ofText "diff --git a/a b/b\nrename from a\nnew file mode 100644").files.map
          FileChange.origin = [⟨.added, some "a"⟩] :=
  ⟨rfl, by decide⟩

end ReviewPrep.Diff
