import ClassUsage.Proofs.DirectoryTree
import ClassUsage.Proofs.SourceRun
import Mathlib.Data.List.Nodup

set_option autoImplicit false

/-!
What a listing of source files holds: all files below the start to which visible directories lead, and
nothing else. The start itself may have any name.
-/
namespace ClassUsage

/-- A name below a place is that of a visible file, with directories between the two. A link is a file
unless it leads to a directory. -/
structure FileSystem.IsVisibleFile (files : FileSystem) (start : Place) (between : List Text)
    (name : Text) : Prop where
  /-- Each name between them is that of a directory, not of a link, that is not passed over. -/
  passable : ∀ front directory, front ++ [directory] <+: between →
    files.root.holdsDirectory (start ++ front ++ [directory]) = true ∧
      directory ≠ packagesName ∧ isHiddenName directory = false
  file : ∃ node, files.root.at? (start ++ between ++ [name]) = some node ∧ node.isDirectory = false ∧
    ∀ target, node = .link target → ∀ entries,
      files.find (Place.path (start ++ between ++ [name])) ≠ .ok (.directory entries)
  shown : isHiddenName name = false

namespace FileSystem

variable {files : FileSystem} {start : Place} {between : List Text} {name : Text}

theorem leadsToDirectory_iff {place : Place} :
    files.leadsToDirectory place = true ↔
      ∃ entries, files.find place.path = .ok (.directory entries) := by
  rw [leadsToDirectory]
  cases files.find place.path with
  | error error => simp
  | ok node => cases node <;> simp [Node.isDirectory]

theorem isVisibleFile_nil :
    files.IsVisibleFile start [] name ↔
      (∃ node, files.root.at? (start ++ [name]) = some node ∧ node.isDirectory = false ∧
        ∀ target, node = .link target → files.leadsToDirectory (start ++ [name]) = false) ∧
      isHiddenName name = false := by
  have unled : files.leadsToDirectory (start ++ [name]) = false ↔
      ∀ entries, files.find (Place.path (start ++ [name])) ≠ .ok (.directory entries) := by
    rw [← Bool.not_eq_true, leadsToDirectory_iff, not_exists]
  constructor
  · rintro ⟨-, file, shown⟩
    rw [List.append_nil] at file
    simp only [unled]
    exact ⟨file, shown⟩
  · rintro ⟨file, shown⟩
    simp only [unled] at file
    refine ⟨?_, by rwa [List.append_nil], shown⟩
    intro front directory leads
    have lengths := leads.length_le
    simp at lengths

theorem isVisibleFile_cons {first : Text} :
    files.IsVisibleFile start (first :: between) name ↔
      files.root.holdsDirectory (start ++ [first]) = true ∧ first ≠ packagesName ∧
        isHiddenName first = false ∧ files.IsVisibleFile (start ++ [first]) between name := by
  have regrouped : ∀ rest : List Text, start ++ [first] ++ rest = start ++ first :: rest := fun rest =>
    (List.append_cons start first rest).symm
  constructor
  · rintro ⟨passable, file, shown⟩
    obtain ⟨directory, unpackaged, visible⟩ := passable [] first ⟨between, rfl⟩
    refine ⟨by rwa [List.append_nil] at directory, unpackaged, visible, ?_, ?_, shown⟩
    · intro front inner leads
      have below := passable (first :: front) inner (List.cons_prefix_cons.mpr ⟨rfl, leads⟩)
      rwa [regrouped]
    · rwa [regrouped]
  · rintro ⟨directory, unpackaged, visible, passable, file, shown⟩
    refine ⟨?_, by rwa [regrouped] at file, shown⟩
    intro front inner leads
    cases front with
    | nil =>
      obtain ⟨rfl, -⟩ := List.cons_prefix_cons.mp leads
      exact ⟨by rwa [List.append_nil], unpackaged, visible⟩
    | cons other front =>
      obtain ⟨rfl, further⟩ := List.cons_prefix_cons.mp leads
      have below := passable front inner further
      rwa [regrouped] at below

end FileSystem

theorem mem_sourceExtensions_iff {extension : Text} :
    extension ∈ sourceExtensions ↔ ∃ dialect ∈ Dialect.all, extension ∈ dialect.extensions := by
  rw [sourceExtensions, (List.mergeSort_perm _ _).mem_iff, List.mem_flatMap]

/-- The suffixes of all groups are written in small letters. -/
theorem Dialect.lower_extension {dialect : Dialect} (listed : dialect ∈ Dialect.all) {extension : Text}
    (known : extension ∈ dialect.extensions) : extension.lower = extension := by
  have all : ∀ dialect ∈ Dialect.all, ∀ extension ∈ dialect.extensions,
      Text.lower extension = extension := by decide
  exact all dialect listed extension known

section

variable {leavesOut : Place → Bool}

theorem filesOfEntries_eq_flatMap (leavesOut : Place → Bool) (place : Place)
    (entries : List (Text × Node)) :
    filesOfEntries leavesOut place entries = entries.flatMap fun entry =>
      if isSkipped entry.1 entry.2 then []
      else entry.2.filesAt leavesOut (place ++ [entry.1]) := by
  induction entries with
  | nil => rfl
  | cons entry others ih => rw [filesOfEntries, ih, List.flatMap_cons]

theorem mem_filesOfEntries {place found : Place} {entries : List (Text × Node)} :
    found ∈ filesOfEntries leavesOut place entries ↔
      ∃ name node, (name, node) ∈ entries ∧ isSkipped name node = false ∧
        found ∈ node.filesAt leavesOut (place ++ [name]) := by
  rw [filesOfEntries_eq_flatMap, List.mem_flatMap]
  constructor
  · rintro ⟨⟨name, node⟩, member, inside⟩
    split at inside
    · cases inside
    · rename_i unskipped
      exact ⟨name, node, member, Bool.eq_false_iff.mpr unskipped, inside⟩
  · rintro ⟨name, node, member, unskipped, inside⟩
    exact ⟨(name, node), member, by rwa [unskipped, if_neg Bool.false_ne_true]⟩

theorem isSkipped_eq_false_iff {name : Text} {node : Node} :
    isSkipped name node = false ↔
      isHiddenName name = false ∧ (node.isDirectory = true → name ≠ packagesName) := by
  rw [isSkipped, Bool.or_eq_false_iff, Bool.and_eq_false_imp]
  simp only [beq_eq_false_iff_ne]

/-- What is no directory is a file of its own, unless it is a link that is left out. -/
theorem mem_filesAt_iff_of_leaf {node : Node} (leaf : node.isDirectory = false) {place found : Place} :
    found ∈ node.filesAt leavesOut place ↔
      found = place ∧ ∀ target, node = .link target → leavesOut place = false := by
  cases node with
  | file bytes => simp [Node.filesAt]
  | link target =>
    rw [Node.filesAt]
    cases leavesOut place <;> simp
  | directory entries => cases leaf

/-- All that is found at or below a place has its name in front. -/
theorem isPrefix_of_mem_filesAt {node : Node} {place found : Place}
    (member : found ∈ node.filesAt leavesOut place) : place <+: found := by
  induction node using Node.inductionOn generalizing place with
  | file bytes =>
    obtain rfl := List.mem_singleton.mp member
    exact List.prefix_refl _
  | link target =>
    rw [Node.filesAt] at member
    split at member
    · cases member
    · obtain rfl := List.mem_singleton.mp member
      exact List.prefix_refl _
  | directory entries ih =>
    obtain ⟨name, child, listed, -, inside⟩ := mem_filesOfEntries.mp member
    exact (List.prefix_append place [name]).trans (ih (name, child) listed inside)

theorem nodup_filesAt {node : Node} (distinct : node.HasDistinctNames) (place : Place) :
    (node.filesAt leavesOut place).Nodup := by
  induction node using Node.inductionOn generalizing place with
  | file bytes => exact List.nodup_singleton place
  | link target =>
    rw [Node.filesAt]
    split
    · exact List.nodup_nil
    · exact List.nodup_singleton place
  | directory entries ih =>
    have names := distinct [] entries rfl
    rw [Node.filesAt, filesOfEntries_eq_flatMap, List.nodup_flatMap]
    constructor
    · intro entry listed
      split
      · exact List.nodup_nil
      · refine ih entry listed (distinct.below [entry.1] ?_) _
        rw [Node.at?_cons, Node.entries, (Node.lookup_eq_some_iff names).mpr listed]
        rfl
    · refine (List.pairwise_map.mp names).imp ?_
      intro first second different
      apply List.disjoint_left.mpr
      intro found inFirst inSecond
      -- what is found at or below two entries begins with the names of both
      have begins : ∀ {entry : Text × Node}, found ∈ (if isSkipped entry.1 entry.2 then []
          else entry.2.filesAt leavesOut (place ++ [entry.1])) → place ++ [entry.1] <+: found := by
        intro entry inside
        split at inside
        · cases inside
        · exact isPrefix_of_mem_filesAt inside
      obtain ⟨behind, whole⟩ := begins inFirst
      obtain ⟨alsoBehind, alsoWhole⟩ := begins inSecond
      have same := (List.append_inj (whole.trans alsoWhole.symm) (by simp)).1
      exact different (List.singleton_inj.mp (List.append_cancel_left same))

end

namespace FileSystem

variable {files : FileSystem}

/-- The files at or below the entries of a directory are those that are visible from it. -/
theorem mem_filesOfEntries_iff (distinct : files.root.HasDistinctNames) {entries : List (Text × Node)}
    {place found : Place} (here : files.root.at? place = some (.directory entries)) :
    found ∈ filesOfEntries files.leadsToDirectory place entries ↔
      ∃ between name, found = place ++ between ++ [name] ∧ files.IsVisibleFile place between name := by
  generalize whole : Node.directory entries = node at here
  induction node using Node.inductionOn generalizing place entries with
  | file bytes => cases whole
  | link target => cases whole
  | directory inner ih =>
    cases whole
    have names := distinct place inner here
    have child := Node.at?_child here
    constructor
    · intro member
      obtain ⟨name, node, listed, unskipped, inside⟩ := mem_filesOfEntries.mp member
      obtain ⟨shown, unpackaged⟩ := isSkipped_eq_false_iff.mp unskipped
      have there : files.root.at? (place ++ [name]) = some node := by
        rw [child, Node.lookup_eq_some_iff names]
        exact listed
      cases leaf : node.isDirectory with
      | false =>
        obtain ⟨rfl, unled⟩ := (mem_filesAt_iff_of_leaf leaf).mp inside
        refine ⟨[], name, by rw [List.append_nil], isVisibleFile_nil.mpr ⟨?_, shown⟩⟩
        exact ⟨node, there, leaf, unled⟩
      | true =>
        obtain ⟨below, rfl⟩ := Node.isDirectory_iff.mp leaf
        obtain ⟨between, last, rfl, visible⟩ := (ih _ listed rfl there).mp inside
        refine ⟨name :: between, last, by simp, isVisibleFile_cons.mpr ⟨?_, ?_, shown, visible⟩⟩
        · exact Node.holdsDirectory_iff.mpr ⟨below, there⟩
        · exact unpackaged rfl
    · rintro ⟨between, name, rfl, visible⟩
      rw [mem_filesOfEntries]
      cases between with
      | nil =>
        obtain ⟨⟨node, there, leaf, unled⟩, shown⟩ := isVisibleFile_nil.mp visible
        have listed := (Node.lookup_eq_some_iff names).mp ((child name).symm.trans there)
        refine ⟨name, node, listed, isSkipped_eq_false_iff.mpr ⟨shown, by simp [leaf]⟩, ?_⟩
        rw [List.append_nil]
        exact (mem_filesAt_iff_of_leaf leaf).mpr ⟨rfl, unled⟩
      | cons first between =>
        obtain ⟨directory, unpackaged, shown, below⟩ := isVisibleFile_cons.mp visible
        obtain ⟨within, there⟩ := Node.holdsDirectory_iff.mp directory
        have listed := (Node.lookup_eq_some_iff names).mp ((child first).symm.trans there)
        refine ⟨first, _, listed, isSkipped_eq_false_iff.mpr ⟨shown, fun _ => unpackaged⟩, ?_⟩
        rw [Node.filesAt, ih _ listed rfl there]
        exact ⟨between, name, by simp, below⟩

/-- Where only the place is asked for, a path that leads to an entry leads to the same place. -/
theorem follow_of_required {root : Node} {links more : Nat} (enough : links ≤ more)
    {place target : Place} {parts : List Text}
    (found : root.follow true links place parts = .ok target) :
    root.follow false more place parts = .ok target := by
  fun_induction Node.follow root true links place parts generalizing more with
  | case1 links place =>
    rw [Node.follow]
    exact found
  | case2 links place part rest lost => cases found
  | case3 links place part rest within void ih =>
    rw [Node.follow, Bool.false_and, if_neg Bool.false_ne_true, if_pos void]
    exact ih enough found
  | case4 links place rest within solid ih =>
    rw [Node.follow, Bool.false_and, if_neg Bool.false_ne_true, if_neg solid, if_pos rfl]
    exact ih enough found
  | case5 place part rest within solid notUp pointer isLink => cases found
  | case6 place part rest within solid notUp pointer isLink links start =>
    rename_i ih
    obtain ⟨fewer, rfl⟩ : ∃ fewer, more = fewer + 1 := ⟨more - 1, by omega⟩
    have free : false = true → root.holdsDirectory place = true :=
      fun same => absurd same Bool.false_ne_true
    rw [Node.follow_link free (Bool.eq_false_iff.mpr solid) notUp isLink]
    exact ih (Nat.le_of_succ_le_succ enough) found
  | case7 links place part rest within solid notUp node noLink isNode ih =>
    have kept : ∀ pointer, node ≠ .link pointer := fun pointer same => noLink pointer same
    have free : false = true → root.holdsDirectory place = true :=
      fun same => absurd same Bool.false_ne_true
    rw [Node.follow_name free (Bool.eq_false_iff.mpr solid) notUp isNode kept]
    exact ih enough found
  | case8 links place part rest within solid notUp absent required => cases found
  | case9 links place part rest within solid notUp absent free ih => exact absurd rfl free

/-- The place of a directory that a path leads to. -/
theorem exists_resolve_of_find {files : FileSystem} {path : Path} {entries : List (Text × Node)}
    (leads : files.find path = .ok (.directory entries)) :
    ∃ start, files.resolve path = .ok start ∧
      files.root.at? start = some (.directory entries) := by
  unfold find at leads
  split at leads
  · cases leads
  · rename_i place located
    refine ⟨place, follow_of_required (by decide) located, ?_⟩
    split at leads
    · rename_i node here
      cases leads
      exact here
    · cases leads

theorem hasSuffix_iff {extensions : List Text} {place : Place} {name : Text} :
    Place.hasSuffix (wantedSuffixes extensions) (place ++ [name]) = true ↔
      ∃ extension ∈ if extensions = [] then sourceExtensions else extensions,
        (suffixOf name).lower = extension.lower := by
  have last : ((place ++ [name]).getLast?.getD []) = name := by rw [List.getLast?_concat]; rfl
  have same : (if extensions.isEmpty = true then sourceExtensions else extensions) =
      if extensions = [] then sourceExtensions else extensions := by
    cases extensions <;> rfl
  rw [Place.hasSuffix, wantedSuffixes, last, same, List.contains_iff_mem, List.mem_map]
  simp only [eq_comm]

theorem mem_listFiles_iff (distinct : files.root.HasDistinctNames) {path : Path}
    {extensions : List Text} {start : Place} (resolved : files.resolve path = .ok start) {found : Place} :
    found ∈ files.listFiles path extensions ↔
      ∃ between name, found = start ++ between ++ [name] ∧ files.IsVisibleFile start between name ∧
        ∃ extension ∈ if extensions = [] then sourceExtensions else extensions,
          (suffixOf name).lower = extension.lower := by
  have listed : files.listFiles path extensions =
      files.filesBelow (wantedSuffixes extensions) start := by rw [listFiles, resolved]
  rw [listed, filesBelow]
  split
  · rename_i entries here
    rw [(List.mergeSort_perm _ _).mem_iff, List.mem_filter, mem_filesOfEntries_iff distinct here]
    constructor
    · rintro ⟨⟨between, name, rfl, visible⟩, suffix⟩
      exact ⟨between, name, rfl, visible, hasSuffix_iff.mp suffix⟩
    · rintro ⟨between, name, rfl, visible, suffix⟩
      exact ⟨⟨between, name, rfl, visible⟩, hasSuffix_iff.mpr suffix⟩
  · rename_i noDirectory
    refine iff_of_false List.not_mem_nil ?_
    rintro ⟨between, name, -, visible, -⟩
    -- an entry below the start would make it a directory
    obtain ⟨node, there, -⟩ := visible.file
    obtain ⟨first, rest, entry⟩ := List.exists_cons_of_ne_nil (List.concat_ne_nil name between)
    rw [List.append_assoc, Node.at?_append, entry] at there
    obtain ⟨directory, here, below⟩ := Option.bind_eq_some_iff.mp there
    obtain ⟨entries, rfl⟩ := Node.exists_entries_of_at? below
    exact noDirectory entries here

theorem nodup_listFiles (distinct : files.root.HasDistinctNames) (path : Path)
    (extensions : List Text) : (files.listFiles path extensions).Nodup := by
  unfold listFiles filesBelow
  split
  · split
    · rename_i place _ _ entries here
      apply (List.mergeSort_perm _ _).nodup_iff.mpr
      exact (nodup_filesAt (distinct.below _ here) place).filter _
    · exact List.nodup_nil
  · exact List.nodup_nil

/-- Places in order of which no two are the same go up strictly. -/
theorem listFiles_increasing (distinct : files.root.HasDistinctNames) (path : Path)
    (extensions : List Text) : (files.listFiles path extensions).Pairwise (· < ·) := by
  have sorted := files.listFiles_sorted path extensions
  refine (sorted.and (nodup_listFiles distinct path extensions)).imp ?_
  rintro first second ⟨notAfter, different⟩
  by_cases before : first < second
  · exact before
  · exact absurd (List.le_antisymm notAfter before) different

theorem dialect_of_mem_listFiles {path : Path} {found : Place} (listed : found ∈ files.listFiles path []) :
    found.path.dialect? ≠ none := by
  have suffixed : found.hasSuffix (wantedSuffixes []) = true := by
    unfold listFiles filesBelow at listed
    split at listed
    · split at listed
      · exact (List.mem_filter.mp ((List.mergeSort_perm _ _).mem_iff.mp listed)).2
      · cases listed
    · cases listed
  rw [Place.hasSuffix, List.contains_iff_mem, wantedSuffixes] at suffixed
  obtain ⟨extension, known, same⟩ := List.mem_map.mp suffixed
  obtain ⟨dialect, isDialect, inDialect⟩ := mem_sourceExtensions_iff.mp known
  have small : extension.lower = extension := Dialect.lower_extension isDialect inDialect
  intro unknown
  have refused := List.find?_eq_none.mp unknown dialect isDialect
  apply refused
  rw [List.contains_iff_mem, Path.suffix, Path.name, Place.path, ← same, small]
  exact inDialect

/-- A listing holds just the visible files with the wanted suffixes below the start, each once and in
strict order of their places. The start is the directory that the path leads to, and with the suffixes
that are looked for unless others are given, each file belongs to a group of template languages. -/
theorem listFiles_exact {files : FileSystem} (distinct : files.root.HasDistinctNames) (path : Path)
    (extensions : List Text) :
    (∀ entries, files.find path = .ok (.directory entries) →
      ∃ start, files.resolve path = .ok start ∧
        files.root.at? start = some (.directory entries)) ∧
    ∀ start, files.resolve path = .ok start →
      (files.listFiles path extensions).Nodup ∧
      (files.listFiles path extensions).Pairwise (· < ·) ∧
      (∀ found, found ∈ files.listFiles path extensions ↔
        ∃ between name, found = start ++ between ++ [name] ∧
          files.IsVisibleFile start between name ∧
          ∃ extension ∈ if extensions = [] then sourceExtensions else extensions,
            (suffixOf name).lower = extension.lower) ∧
      (extensions = [] → ∀ found ∈ files.listFiles path extensions, found.path.dialect? ≠ none) := by
  refine ⟨fun entries leads => exists_resolve_of_find leads, ?_⟩
  intro start resolved
  refine ⟨nodup_listFiles distinct path extensions, listFiles_increasing distinct path extensions,
    fun found => mem_listFiles_iff distinct resolved, ?_⟩
  rintro rfl found listed
  exact dialect_of_mem_listFiles listed

/-- Entries of all kinds: files in and outside hidden directories and packages, a link to a directory
and one that leads nowhere. -/
def variedEntries : List (Place × Node) :=
  [(["site".toList, "b.VUE".toList], .file []),
    (["site".toList, ".vue".toList], .file []),
    (["site".toList, "node_modules".toList, "c.js".toList], .file []),
    (["site".toList, "lib".toList], .link "src".toList),
    (["site".toList, "gone.ts".toList], .link "nowhere".toList),
    (["site".toList, "src".toList, "a.tsx".toList], .file [])]

def variedTree : FileSystem :=
  ⟨variedEntries.foldl (fun root entry => root.put entry.1 entry.2) (.directory []), []⟩

theorem hasDistinctNames_variedTree : variedTree.root.HasDistinctNames := by
  apply Node.HasDistinctNames.foldl_put
  · have empty : ∀ entry ∈ variedEntries, entry.2.entries = [] := by simp [variedEntries, Node.entries]
    exact fun entry member => Node.hasDistinctNames_of_entries_eq_nil (empty entry member)
  · exact Node.hasDistinctNames_of_entries_eq_nil rfl

theorem resolve_variedTree : variedTree.resolve (Path.ofText "site".toList) = .ok ["site".toList] := by
  have inside : variedTree.root.holdsDirectory ["site".toList] = true := by decide
  obtain ⟨entries, there⟩ := Node.holdsDirectory_iff.mp inside
  calc variedTree.root.follow false 4096 [] ["site".toList]
    _ = variedTree.root.follow false 4096 ["site".toList] [] :=
      Node.follow_name (by decide) (by decide) (by decide) there (by simp)
    _ = .ok ["site".toList] := by rw [Node.follow]

theorem leadsToDirectory_variedTree :
    variedTree.leadsToDirectory ["site".toList, "gone.ts".toList] = false := by
  have inside : variedTree.root.holdsDirectory ["site".toList] = true := by decide
  obtain ⟨entries, there⟩ := Node.holdsDirectory_iff.mp inside
  have link : variedTree.root.at? ["site".toList, "gone.ts".toList] = some (.link "nowhere".toList) := rfl
  have lost : variedTree.locate (Place.path ["site".toList, "gone.ts".toList]) = .error .missing := calc
    _ = variedTree.root.follow true 40 ["site".toList] ["gone.ts".toList] :=
      Node.follow_name (fun _ => rfl) (by decide) (by decide) there (by simp)
    _ = variedTree.root.follow true 39 ["site".toList] ["nowhere".toList] :=
      Node.follow_link (fun _ => inside) (by decide) (by decide) link
    _ = .error .missing := Node.follow_missing inside (by decide) (by decide) rfl
  rw [leadsToDirectory, find, lost]

theorem listFiles_exact_varied :
    variedTree.root.HasDistinctNames ∧
    variedTree.resolve (Path.ofText "site".toList) = .ok ["site".toList] ∧
    ["site".toList, "src".toList, "a.tsx".toList] ∈
      variedTree.listFiles (Path.ofText "site".toList) [] ∧
    ["site".toList, "gone.ts".toList] ∈ variedTree.listFiles (Path.ofText "site".toList) [] ∧
    ["site".toList, "lib".toList, "a.tsx".toList] ∉
      variedTree.listFiles (Path.ofText "site".toList) [] := by
  obtain ⟨-, listing⟩ := listFiles_exact hasDistinctNames_variedTree (Path.ofText "site".toList) []
  obtain ⟨-, -, members, -⟩ := listing ["site".toList] resolve_variedTree
  refine ⟨hasDistinctNames_variedTree, resolve_variedTree, ?_, ?_, ?_⟩
  · have visible : variedTree.IsVisibleFile ["site".toList] ["src".toList] "a.tsx".toList :=
      isVisibleFile_cons.mpr ⟨by decide, by decide, by decide,
        isVisibleFile_nil.mpr ⟨⟨.file [], rfl, rfl, by simp⟩, by decide⟩⟩
    exact (members _).mpr ⟨_, _, rfl, visible, ".tsx".toList,
      mem_sourceExtensions_iff.mpr ⟨.jsx, by decide, by decide⟩, by decide⟩
  · have visible : variedTree.IsVisibleFile ["site".toList] [] "gone.ts".toList :=
      isVisibleFile_nil.mpr ⟨⟨.link "nowhere".toList, rfl, rfl, fun _ _ => leadsToDirectory_variedTree⟩, by decide⟩
    exact (members _).mpr ⟨_, _, rfl, visible, ".ts".toList,
      mem_sourceExtensions_iff.mpr ⟨.jsx, by decide, by decide⟩, by decide⟩
  · intro listed
    obtain ⟨between, name, same, visible, -⟩ := (members _).mp listed
    have parts : ["lib".toList] ++ ["a.tsx".toList] = between ++ [name] := (List.cons.inj same).2
    obtain ⟨rfl, -⟩ := List.append_inj' parts rfl
    have directory := (isVisibleFile_cons.mp visible).1
    revert directory
    decide

end FileSystem
end ClassUsage
