import Mathlib.Data.List.Infix
import VectorLint.Config.Load
import VectorLint.Proofs.Attempt

/-!
# The search for a configuration file

The search looks into a directory, and goes on with the one around it until it comes to the root,
which is around itself. Each step takes a name off the path, so there is an end, and the file that
is found is the one in the nearest directory that has one.

Whether a directory has the file is asked of the system, and the system does not answer if the path
is too long. Directories farther out have shorter paths with fewer names, so this question comes up
at the first directory or never.
-/

namespace VectorLint

/-! ## Entries by name -/

namespace Files

/-- The entry that names lead to, from one directory to the next. -/
def Entry.at? : Entry → List String → Option Entry
  | e, [] => some e
  | .file _, _ :: _ => none
  | .directory entries, name :: names => (entries.lookup name).bind fun e ↦ e.at? names

variable {e : Entry} {above : List Entry} {names : List String}

theorem toOption_walk (hup : ".." ∉ names) (hname : walk e above names ≠ .error .nameTooLong) :
    (walk e above names).toOption = e.at? names := by
  fun_induction walk e above names with
  | case1 e above => cases e <;> rfl
  | case2 names content above hne =>
    cases names with
    | nil => exact absurd rfl hne
    | cons name names => rfl
  | case3 | case4 => exact absurd List.mem_cons_self hup
  | case5 => exact absurd rfl hname
  | case6 entries above name names _ _ hlookup => simp only [Entry.at?, hlookup]; rfl
  | case7 entries above name names _ _ entry hlookup ih =>
    simp only [Entry.at?, hlookup]
    exact ih (fun h ↦ hup (List.mem_cons_of_mem _ h)) hname

theorem walk_append {problem : Problem} (h : walk e above names = .error problem)
    (more : List String) : walk e above (names ++ more) = .error problem := by
  fun_induction walk e above names with
  | case1 => cases h
  | case2 names content above hne =>
    rw [walk.eq_2 _ _ _ fun heq ↦ hne (List.append_eq_nil_iff.mp heq).1, h]
  | case3 entries names ih => simp only [List.cons_append, walk, if_pos, ih h]
  | case4 entries names parent above ih => simp only [List.cons_append, walk, if_pos, ih h]
  | case5 entries above name names hne hlong =>
    cases above <;> simp only [List.cons_append, walk, if_neg hne, if_pos hlong, h]
  | case6 entries above name names hne hlong hlookup =>
    cases above <;> simp only [List.cons_append, walk, if_neg hne, if_neg hlong, hlookup, h]
  | case7 entries above name names hne hlong entry hlookup ih =>
    cases above <;> simp only [List.cons_append, walk, if_neg hne, if_neg hlong, hlookup, ih h]

theorem walk_singleton_ne {name : String} (hshort : name.utf8ByteSize ≤ maxNameLength) :
    walk e above [name] ≠ .error .nameTooLong := by
  intro h
  cases e with
  | file content => cases h
  | directory entries =>
    rw [walk.eq_def] at h
    simp only [if_neg (Nat.not_lt.mpr hshort)] at h
    split at h
    · cases above <;> simp [walk] at h
    · cases hlookup : entries.lookup name <;> simp [hlookup, walk] at h

theorem walk_of_walk_concat {name : String} (hshort : name.utf8ByteSize ≤ maxNameLength)
    (h : walk e above (names ++ [name]) = .error .nameTooLong) :
    walk e above names = .error .nameTooLong := by
  fun_induction walk e above names with
  | case1 e above => exact absurd h (walk_singleton_ne hshort)
  | case2 names content above hne =>
    rw [walk.eq_2 _ _ _ fun heq ↦ hne (List.append_eq_nil_iff.mp heq).1] at h
    cases h
  | case3 entries names ih =>
    simp only [List.cons_append, walk, if_pos] at h
    exact ih h
  | case4 entries names parent above ih =>
    simp only [List.cons_append, walk, if_pos] at h
    exact ih h
  | case5 => rfl
  | case6 entries above name names hne hlong hlookup =>
    cases above <;> simp [walk, hne, hlong, hlookup] at h
  | case7 entries above name names hne hlong entry hlookup ih =>
    cases above <;> simp only [List.cons_append, walk, if_neg hne, if_neg hlong, hlookup] at h <;>
      exact ih h

end Files

/-! ## Resolved names -/

namespace FilePath

theorem resolved_concat (names : List String) (name : String) :
    resolved (names ++ [name])
      = if name = ".." then (resolved names).dropLast else resolved names ++ [name] := by
  simp only [resolved, List.foldl_append, List.foldl_cons, List.foldl_nil]
  split
  · rw [List.drop_one, List.dropLast_reverse]
  · rw [List.reverse_cons]

theorem of_mem_resolved {names : List String} {name : String} (h : name ∈ resolved names) :
    name ∈ names ∧ name ≠ ".." := by
  induction names using List.reverseRecOn with
  | nil => cases h
  | append_singleton names last ih =>
    rw [resolved_concat] at h
    split at h
    · obtain ⟨hmem, hne⟩ := ih (List.mem_of_mem_dropLast h)
      exact ⟨List.mem_append_left _ hmem, hne⟩
    · rename_i hlast
      rcases List.mem_append.mp h with h | h
      · obtain ⟨hmem, hne⟩ := ih h
        exact ⟨List.mem_append_left _ hmem, hne⟩
      · rw [List.mem_singleton.mp h]
        exact ⟨List.mem_append_right _ (List.mem_singleton_self last), hlast⟩

end FilePath

namespace Config

variable {fs : Files} {directory : List String} {result : Except Failure (Option FilePath)}

/-- The path of the configuration file in a directory. -/
def fileIn (directory : List String) : FilePath := ⟨.root, directory ++ [fileName]⟩

/-- Whether there is an entry with the name of a configuration file in a directory. -/
def hasFile (fs : Files) (directory : List String) : Bool :=
  (fs.root.at? (directory ++ [fileName])).isSome

/-- The directory in which a search begins. -/
def directoryOf (fs : Files) (start : FilePath) : List String :=
  FilePath.resolved (fs.namesFromRoot start)

/-! ## From one directory to the next -/

/-- The directory around a directory. The root is around itself. -/
def parent (directory : List String) : List String := directory.dropLast

/-- How a search ends that looks into a directory and goes on with the one around it. -/
inductive Search (fs : Files) : List String → Except Failure (Option FilePath) → Prop
  | found {directory : List String} (h : fs.holds (fileIn directory) = .ok true) :
    Search fs directory (.ok (some (fileIn directory)))
  | failed {directory : List String} {f : Failure} (h : fs.holds (fileIn directory) = .error f) :
    Search fs directory (.error f)
  | root {directory : List String} (h : fs.holds (fileIn directory) = .ok false)
    (hroot : parent directory = directory) : Search fs directory (.ok none)
  | outward {directory : List String} {result : Except Failure (Option FilePath)}
    (h : fs.holds (fileIn directory) = .ok false) (hroot : parent directory ≠ directory)
    (hrest : Search fs (parent directory) result) : Search fs directory result

theorem parent_eq_self_iff : parent directory = directory ↔ directory = [] := by
  constructor
  · intro h
    have hlength := congrArg List.length h
    rw [parent, List.length_dropLast] at hlength
    exact List.eq_nil_of_length_eq_zero (by omega)
  · rintro rfl
    rfl

theorem length_parent_lt (h : parent directory ≠ directory) :
    (parent directory).length < directory.length := by
  rw [parent, List.length_dropLast]
  have hpos := List.length_pos_iff.mpr fun hnil ↦ h (parent_eq_self_iff.mpr hnil)
  omega

/-- The files of a directory and of those around it. -/
def around (directory : List String) : List (List String) :=
  (outward directory.reverse).map fun names ↦ (fileName :: names).reverse

theorem around_eq (directory : List String) :
    around directory = (directory ++ [fileName])
      :: if parent directory = directory then [] else around (parent directory) := by
  induction directory using List.reverseRecOn with
  | nil => rfl
  | append_singleton names name _ =>
    have hparent : parent (names ++ [name]) = names := List.dropLast_concat
    have hroot : parent (names ++ [name]) ≠ names ++ [name] := by
      rw [ne_eq, parent_eq_self_iff]
      exact List.append_ne_nil_of_right_ne_nil _ (List.cons_ne_nil _ _)
    rw [if_neg hroot, hparent, around, around, List.reverse_concat, outward, List.map_cons]
    simp

theorem firstOf_around {held : Except Failure Bool}
    (h : fs.holds (fileIn directory) = held) :
    firstOf fs (around directory) = held.bind fun isHeld ↦
      if isHeld then .ok (some (fileIn directory))
      else if parent directory = directory then .ok none
      else firstOf fs (around (parent directory)) := by
  rw [around_eq, firstOf]
  change fs.holds (fileIn directory) >>= _ = _
  rw [h]
  cases held with
  | error f => rfl
  | ok isHeld =>
    cases isHeld with
    | true => rfl
    | false =>
      by_cases hroot : parent directory = directory
      · simp only [if_pos hroot]
        rfl
      · simp only [if_neg hroot]
        rfl

/-- **The search comes to an end**, and to one end only: what is found among the files of the
directory and of those around it. -/
theorem search_iff : Search fs directory result ↔ firstOf fs (around directory) = result := by
  constructor
  · intro h
    induction h with
    | found h | failed h =>
      rw [firstOf_around h]
      rfl
    | root h hroot =>
      rw [firstOf_around h]
      simp [Except.bind, hroot]
    | outward h hroot hrest ih =>
      rw [firstOf_around h, ← ih]
      simp [Except.bind, hroot]
  · -- each step outward takes a name off
    induction hlength : directory.length using Nat.strongRecOn generalizing directory with
    | ind length ih =>
      subst hlength
      intro h
      cases hheld : fs.holds (fileIn directory) with
      | error f =>
        rw [firstOf_around hheld] at h
        exact h ▸ .failed hheld
      | ok isHeld =>
        rw [firstOf_around hheld] at h
        cases isHeld with
        | true => exact h ▸ .found hheld
        | false =>
          by_cases hroot : parent directory = directory
          · simp only [Except.bind, if_pos hroot] at h
            exact h ▸ .root hheld hroot
          · simp only [Except.bind, if_neg hroot] at h
            exact .outward hheld hroot (ih _ (length_parent_lt hroot) rfl h)

/-! ## The nearest directory -/

/-- Whether a directory is the nearest one that has a file, of a directory and those around it. -/
structure IsNearest (fs : Files) (directory nearest : List String) : Prop where
  around : nearest <+: directory
  has : hasFile fs nearest = true
  nearer : ∀ other, other <+: directory → nearest.length < other.length → hasFile fs other = false

theorem IsNearest.eq {first second : List String} (h : IsNearest fs directory first)
    (h' : IsNearest fs directory second) : first = second := by
  have hle : ∀ {a b}, IsNearest fs directory a → IsNearest fs directory b →
      a.length ≤ b.length := by
    intro a b ha hb
    by_contra hlt
    have hnone := hb.nearer a ha.around (Nat.not_le.mp hlt)
    rw [ha.has] at hnone
    cases hnone
  exact (List.prefix_of_prefix_length_le h.around h'.around (hle h h')).eq_of_length
    (Nat.le_antisymm (hle h h') (hle h' h))

theorem prefix_iff_parent {other : List String} :
    other <+: directory ↔ other = directory ∨ other <+: parent directory := by
  induction directory using List.reverseRecOn with
  | nil =>
    rw [List.prefix_nil, parent, List.dropLast_nil, List.prefix_nil, or_self]
  | append_singleton names name _ =>
    rw [parent, List.dropLast_concat, List.prefix_concat_iff]

theorem Search.nearest (h : Search fs directory result)
    (hall : ∀ other, other <+: directory → fs.holds (fileIn other) = .ok (hasFile fs other)) :
    (∃ nearest, IsNearest fs directory nearest ∧ result = .ok (some (fileIn nearest)))
      ∨ (∀ other, other <+: directory → hasFile fs other = false) ∧ result = .ok none := by
  induction h with
  | @found directory h =>
    rw [hall _ (List.prefix_refl _), Except.ok.injEq] at h
    refine .inl ⟨directory, ⟨List.prefix_refl _, h, ?_⟩, rfl⟩
    intro other hother hlt
    exact absurd hother.length_le (Nat.not_le.mpr hlt)
  | failed h =>
    rw [hall _ (List.prefix_refl _)] at h
    cases h
  | root h hroot =>
    rw [hall _ (List.prefix_refl _), Except.ok.injEq] at h
    refine .inr ⟨fun other hother ↦ ?_, rfl⟩
    rw [parent_eq_self_iff.mp hroot] at h hother
    rwa [List.prefix_nil.mp hother]
  | @outward directory result h hroot hrest ih =>
    rw [hall _ (List.prefix_refl _), Except.ok.injEq] at h
    rcases ih fun other hother ↦ hall other (prefix_iff_parent.mpr (.inr hother)) with
      ⟨nearest, hnearest, rfl⟩ | ⟨hnone, rfl⟩
    · refine .inl ⟨nearest, ⟨prefix_iff_parent.mpr (.inr hnearest.around), hnearest.has, ?_⟩, rfl⟩
      intro other hother hlt
      rcases prefix_iff_parent.mp hother with rfl | hother
      · exact h
      · exact hnearest.nearer other hother hlt
    · refine .inr ⟨fun other hother ↦ ?_, rfl⟩
      rcases prefix_iff_parent.mp hother with rfl | hother
      · exact h
      · exact hnone other hother

/-! ## Questions that are answered -/

theorem notMem_intercalate {c : Char} {separator : String} {names : List String}
    (hseparator : c ∉ separator.toList) (h : ∀ name ∈ names, c ∉ name.toList) :
    c ∉ (separator.intercalate names).toList := by
  induction names with
  | nil => exact List.not_mem_nil
  | cons name names ih =>
    rw [List.forall_mem_cons] at h
    cases names with
    | nil => exact h.1
    | cons other names =>
      rw [String.intercalate_cons_cons, String.toList_append, String.toList_append]
      simp only [List.mem_append, not_or]
      exact ⟨⟨h.1, hseparator⟩, ih h.2⟩

theorem shown_fileIn (directory : List String) :
    (fileIn directory).shown = "/" ++ "/".intercalate (directory ++ [fileName]) := by
  have hne : "/" ++ "/".intercalate (directory ++ [fileName]) ≠ "" := by
    intro h
    exact absurd (congrArg String.toList h) (by simp [String.toList_append])
  rw [FilePath.shown]
  exact if_neg hne

theorem size_fileIn_le {other : List String} (h : other <+: directory) :
    (fileIn other).shown.utf8ByteSize ≤ (fileIn directory).shown.utf8ByteSize := by
  obtain ⟨more, rfl⟩ := h
  rw [shown_fileIn, shown_fileIn, String.utf8ByteSize_append, String.utf8ByteSize_append,
    List.append_assoc]
  refine Nat.add_le_add_left ?_ _
  have hsize : ∀ names : List String, fileName.utf8ByteSize
      ≤ ("/".intercalate (names ++ [fileName])).utf8ByteSize := by
    intro names
    cases names with
    | nil => exact Nat.le_refl _
    | cons name names =>
      rw [String.intercalate_append_of_ne_nil (List.cons_ne_nil _ _) (List.cons_ne_nil _ _),
        String.utf8ByteSize_append, String.intercalate_singleton]
      exact Nat.le_add_left _ _
  cases other with
  | nil => exact hsize more
  | cons name names =>
    have hne : more ++ [fileName] ≠ [] :=
      List.append_ne_nil_of_right_ne_nil _ (List.cons_ne_nil _ _)
    rw [String.intercalate_append_of_ne_nil (List.cons_ne_nil _ _) (List.cons_ne_nil _ _),
      String.intercalate_append_of_ne_nil (List.cons_ne_nil _ _) hne, String.intercalate_singleton]
    simp only [String.utf8ByteSize_append]
    exact Nat.add_le_add_left (hsize more) _

theorem entry_fileIn (hnull : ∀ name ∈ directory, '\x00' ∉ name.toList) :
    fs.entry (fileIn directory)
      = if Files.maxPathLength < (fileIn directory).shown.utf8ByteSize then .error .nameTooLong
        else Files.walk fs.root [] (directory ++ [fileName]) := by
  have hshown : '\x00' ∉ (fileIn directory).shown.toList := by
    rw [shown_fileIn, String.toList_append, List.mem_append, not_or]
    refine ⟨by decide, notMem_intercalate (by decide) fun name hname ↦ ?_⟩
    rcases List.mem_append.mp hname with hname | hname
    · exact hnull name hname
    · rw [List.mem_singleton.mp hname]
      decide
  have hcontains : (fileIn directory).shown.toList.contains '\x00' = false := by
    rwa [List.contains_eq_mem, decide_eq_false_iff_not]
  simp only [Files.entry, hcontains, Bool.false_eq_true, if_false]
  rfl

/-- Whether the system can be asked for the file of a directory, and so for all files around it. -/
structure IsAnswered (fs : Files) (directory : List String) : Prop where
  null : ∀ name ∈ directory, '\x00' ∉ name.toList
  up : ".." ∉ directory
  name : fs.entry (fileIn directory) ≠ .error .nameTooLong

theorem IsAnswered.around {other : List String} (h : IsAnswered fs directory)
    (hother : other <+: directory) : IsAnswered fs other := by
  have hnull : ∀ name ∈ other, '\x00' ∉ name.toList := fun name hname ↦
    h.null name (hother.subset hname)
  refine ⟨hnull, fun hup ↦ h.up (hother.subset hup), ?_⟩
  intro hlong
  refine h.name ?_
  rw [entry_fileIn hnull] at hlong
  rw [entry_fileIn h.null]
  split
  · rfl
  · rename_i hshort
    rw [if_neg fun hlt ↦ hshort (Nat.lt_of_lt_of_le hlt (size_fileIn_le hother))] at hlong
    obtain ⟨more, rfl⟩ := hother
    have hwalk := Files.walk_of_walk_concat (by decide) hlong
    rw [List.append_assoc]
    exact Files.walk_append hwalk _

theorem IsAnswered.holds_eq (h : IsAnswered fs directory) :
    fs.holds (fileIn directory) = .ok (hasFile fs directory) := by
  have hname := h.name
  rw [Files.holds]
  rw [entry_fileIn h.null] at hname ⊢
  split at hname
  · exact absurd rfl hname
  · rename_i hshort
    have hup : ".." ∉ directory ++ [fileName] := by
      simp only [List.mem_append, List.mem_singleton, not_or]
      exact ⟨h.up, by decide⟩
    rw [if_neg hshort, hasFile, ← Files.toOption_walk hup hname]
    cases hwalk : Files.walk fs.root [] (directory ++ [fileName]) with
    | ok e => rfl
    | error problem =>
      cases problem with
      | nameTooLong => exact absurd hwalk hname
      | _ => rfl

/-! ## The search -/

variable {start : FilePath}

theorem find_eq_firstOf (hnull : ∀ name ∈ fs.namesFromRoot start, '\x00' ∉ name.toList) :
    find fs start = firstOf fs (around (directoryOf fs start)) := by
  have hstart : ∀ name ∈ start.names, name ∈ fs.namesFromRoot start := by
    intro name hname
    rw [Files.namesFromRoot]
    cases start.start with
    | here => exact List.mem_append_right _ hname
    | root | otherRoot => exact hname
  have hcheck : (start.names.any fun name ↦ name.toList.contains '\x00') = false := by
    rw [List.any_eq_false]
    intro name hname
    rw [List.contains_eq_mem, decide_eq_true_eq]
    exact hnull name (hstart name hname)
  rw [find, hcheck]
  rfl

theorem find_of_nameTooLong (hnull : ∀ name ∈ fs.namesFromRoot start, '\x00' ∉ name.toList)
    (hlong : fs.entry (fileIn (directoryOf fs start)) = .error .nameTooLong) :
    find fs start
      = .error (Files.Problem.nameTooLong.failure (fileIn (directoryOf fs start))) := by
  rw [find_eq_firstOf hnull, ← search_iff]
  refine .failed ?_
  rw [Files.holds, hlong]

section Ends

variable (hnull : ∀ name ∈ fs.namesFromRoot start, '\x00' ∉ name.toList)

include hnull

theorem find_ends (hname : fs.entry (fileIn (directoryOf fs start)) ≠ .error .nameTooLong) :
    (∃ nearest, IsNearest fs (directoryOf fs start) nearest
        ∧ find fs start = .ok (some (fileIn nearest)))
      ∨ (∀ other, other <+: directoryOf fs start → hasFile fs other = false)
        ∧ find fs start = .ok none := by
  have hanswered : IsAnswered fs (directoryOf fs start) :=
    ⟨fun name h ↦ hnull name (FilePath.of_mem_resolved h).1,
      fun h ↦ (FilePath.of_mem_resolved h).2 rfl, hname⟩
  have hsearch : Search fs (directoryOf fs start) (find fs start) := by
    rw [search_iff, find_eq_firstOf hnull]
  exact hsearch.nearest fun other hother ↦ (hanswered.around hother).holds_eq

theorem find_eq_error_iff {f : Failure} : find fs start = .error f
    ↔ fs.entry (fileIn (directoryOf fs start)) = .error .nameTooLong
      ∧ f = Files.Problem.nameTooLong.failure (fileIn (directoryOf fs start)) := by
  constructor
  · intro h
    have hlong : fs.entry (fileIn (directoryOf fs start)) = .error .nameTooLong := by
      by_contra hname
      rcases find_ends hnull hname with ⟨nearest, -, hfind⟩ | ⟨-, hfind⟩ <;> rw [hfind] at h <;>
        cases h
    rw [find_of_nameTooLong hnull hlong, Except.error.injEq] at h
    exact ⟨hlong, h.symm⟩
  · rintro ⟨hlong, rfl⟩
    exact find_of_nameTooLong hnull hlong

theorem find_eq_some_iff (hname : fs.entry (fileIn (directoryOf fs start)) ≠ .error .nameTooLong)
    {p : FilePath} : find fs start = .ok (some p)
      ↔ ∃ nearest, IsNearest fs (directoryOf fs start) nearest ∧ p = fileIn nearest := by
  rcases find_ends hnull hname with ⟨found, hfound, hfind⟩ | ⟨hnone, hfind⟩
  · rw [hfind, Except.ok.injEq, Option.some.injEq]
    constructor
    · intro h
      exact ⟨found, hfound, h.symm⟩
    · rintro ⟨nearest, hnearest, rfl⟩
      rw [hfound.eq hnearest]
  · rw [hfind]
    constructor
    · intro h
      cases h
    · rintro ⟨nearest, hnearest, -⟩
      have hfalse := hnone nearest hnearest.around
      rw [hnearest.has] at hfalse
      cases hfalse

theorem find_eq_none_iff (hname : fs.entry (fileIn (directoryOf fs start)) ≠ .error .nameTooLong) :
    find fs start = .ok none
      ↔ ∀ other, other <+: directoryOf fs start → hasFile fs other = false := by
  rcases find_ends hnull hname with ⟨found, hfound, hfind⟩ | ⟨hnone, hfind⟩
  · rw [hfind]
    constructor
    · intro h
      cases h
    · intro hnone
      have hfalse := hnone found hfound.around
      rw [hfound.has] at hfalse
      cases hfalse
  · exact ⟨fun _ ↦ hnone, fun _ ↦ hfind⟩

end Ends

theorem load_none (fs : Files) (depth : Nat) :
    load fs depth none = (find fs ⟨.here, []⟩).bind fun found ↦
      found.elim (.ok {}) fun p ↦ load fs depth (some p) := by
  rw [load]
  cases find fs ⟨.here, []⟩ with
  | error f => rfl
  | ok found => cases found <;> rfl

/-- **The nearest configuration file.** From every directory, whether it is there or not, the search
outward comes to an end. Unless the path of the file in the first directory is too long, which is
the only way to fail, the file that is found is the one in the nearest directory that has one, of
the first directory and those around it up to the root; and none is found exactly if none of them
has one. Without a path, the configuration of the file that is found is loaded, or the one without
rules. -/
theorem find_nearest (hnull : ∀ name ∈ fs.namesFromRoot start, '\x00' ∉ name.toList) :
    (∀ result, Search fs (directoryOf fs start) result ↔ find fs start = result)
      ∧ (∀ f, find fs start = .error f
        ↔ fs.entry (fileIn (directoryOf fs start)) = .error .nameTooLong
          ∧ f = Files.Problem.nameTooLong.failure (fileIn (directoryOf fs start)))
      ∧ (fs.entry (fileIn (directoryOf fs start)) ≠ .error .nameTooLong →
        (∀ p, find fs start = .ok (some p)
          ↔ ∃ nearest, IsNearest fs (directoryOf fs start) nearest ∧ p = fileIn nearest)
        ∧ (find fs start = .ok none
          ↔ ∀ other, other <+: directoryOf fs start → hasFile fs other = false))
      ∧ ∀ depth, load fs depth none = (find fs ⟨.here, []⟩).bind fun found ↦
          found.elim (.ok {}) fun p ↦ load fs depth (some p) := by
  refine ⟨fun result ↦ ?_, fun f ↦ find_eq_error_iff hnull, fun hname ↦ ⟨fun p ↦ ?_, ?_⟩,
    load_none fs⟩
  · rw [search_iff, find_eq_firstOf hnull]
  · exact find_eq_some_iff hnull hname
  · exact find_eq_none_iff hnull hname

/-- A start that is not there and leads back on the way, with files in two directories around it. -/
theorem find_nearest_missing :
    let fs : Files := ⟨.directory [(".svglint.json", .file []),
      ("a", .directory [("b", .directory []), (".svglint.json", .directory [])])], ["a", "b"]⟩
    let start : FilePath := ⟨.here, ["..", "x", "..", "missing", "deep"]⟩
    (∀ name ∈ fs.namesFromRoot start, '\x00' ∉ name.toList)
      ∧ directoryOf fs start = ["a", "missing", "deep"]
      ∧ fs.entry (fileIn (directoryOf fs start)) ≠ .error .nameTooLong
      ∧ IsNearest fs (directoryOf fs start) ["a"]
      ∧ find fs start = .ok (some ⟨.root, ["a", ".svglint.json"]⟩) := by
  intro fs start
  have hnull : ∀ name ∈ fs.namesFromRoot start, '\x00' ∉ name.toList := by decide +kernel
  have hname : fs.entry (fileIn (directoryOf fs start)) ≠ .error .nameTooLong := by
    have hentry : fs.entry (fileIn (directoryOf fs start)) = .error .notFound :=
      Attempt.eq_error_of_map_eq_error (f := fun _ ↦ ()) (by decide +kernel)
    rw [hentry]
    intro heq
    cases heq
  have hnearest : IsNearest fs (directoryOf fs start) ["a"] := by
    refine ⟨⟨["missing", "deep"], by decide +kernel⟩, by decide +kernel, fun other hother ↦ ?_⟩
    have hfarther : ∀ other ∈ (directoryOf fs start).inits,
        1 < other.length → hasFile fs other = false := by decide +kernel
    exact hfarther other ((List.mem_inits _ _).mpr hother)
  obtain ⟨-, -, hfound, -⟩ := find_nearest hnull
  exact ⟨hnull, by decide +kernel, hname, hnearest, ((hfound hname).1 _).mpr ⟨["a"], hnearest, rfl⟩⟩

/-- **A name that is too long.** No directory around the start has a file, and the search does not
say so: it fails. -/
theorem find_of_long_name :
    let fs : Files := ⟨.directory [], []⟩
    let start : FilePath := ⟨.here, [String.ofList (List.replicate 256 'a')]⟩
    (∀ other, other <+: directoryOf fs start → hasFile fs other = false)
      ∧ find fs start ≠ .ok none := by
  intro fs start
  have hnull : ∀ name ∈ fs.namesFromRoot start, '\x00' ∉ name.toList := by
    intro name hname
    rw [List.mem_singleton.mp hname, String.toList_ofList]
    decide
  have hlong : fs.entry (fileIn (directoryOf fs start)) = .error .nameTooLong :=
    Attempt.eq_error_of_map_eq_error (f := fun _ ↦ ()) (by decide +kernel)
  constructor
  · intro other _
    cases other <;> rfl
  · rw [find_of_nameTooLong hnull hlong]
    intro heq
    cases heq

end Config

end VectorLint
