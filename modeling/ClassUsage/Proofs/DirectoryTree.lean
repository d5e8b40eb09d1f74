import ClassUsage.Source.Resolve
import Mathlib.Data.List.Basic

set_option autoImplicit false

/-!
Trees of directories in which each directory has a name for one entry only. Trees put together from
single entries are of this kind, and an entry of theirs is just what is found at its place.
-/
namespace ClassUsage

namespace Node

/-- Trees are built from files and links, and from directories of entries that are trees. -/
@[elab_as_elim]
theorem inductionOn {motive : Node → Prop} (node : Node) (file : ∀ bytes, motive (.file bytes))
    (link : ∀ target, motive (.link target))
    (directory : ∀ entries, (∀ entry ∈ entries, motive entry.2) → motive (.directory entries)) :
    motive node :=
  match node with
  | .file bytes => file bytes
  | .link target => link target
  | .directory entries =>
    directory entries fun entry _ => inductionOn entry.2 file link directory
termination_by sizeOf node
decreasing_by
  have smaller := List.sizeOf_lt_of_mem ‹entry ∈ entries›
  cases entry
  simp only [Prod.mk.sizeOf_spec, Node.directory.sizeOf_spec] at smaller ⊢
  omega

theorem at?_cons (root : Node) (name : Text) (rest : Place) :
    root.at? (name :: rest) = (root.entries.lookup name).bind (·.at? rest) := by
  cases root with
  | file bytes => rfl
  | link target => rfl
  | directory entries =>
    rw [at?, Node.entries]
    cases entries.lookup name <;> rfl

theorem exists_entries_of_at? {root node : Node} {name : Text} {rest : Place}
    (there : root.at? (name :: rest) = some node) : ∃ entries, root = .directory entries := by
  cases root with
  | file bytes => cases there
  | link target => cases there
  | directory entries => exact ⟨entries, rfl⟩

theorem at?_append (root : Node) (first second : Place) :
    root.at? (first ++ second) = (root.at? first).bind (·.at? second) := by
  induction first generalizing root with
  | nil => rfl
  | cons name rest ih =>
    rw [List.cons_append, at?_cons, at?_cons, Option.bind_assoc]
    exact congrArg _ (funext ih)

theorem at?_child {root : Node} {place : Place} {entries : List (Text × Node)}
    (here : root.at? place = some (.directory entries)) (name : Text) :
    root.at? (place ++ [name]) = entries.lookup name := by
  rw [at?_append, here, Option.bind_some, at?_cons]
  exact Option.bind_fun_some _

theorem isDirectory_iff {node : Node} :
    node.isDirectory = true ↔ ∃ entries, node = .directory entries := by
  cases node <;> simp [isDirectory]

theorem holdsDirectory_iff {root : Node} {place : Place} :
    root.holdsDirectory place = true ↔ ∃ entries, root.at? place = some (.directory entries) := by
  rw [holdsDirectory]
  cases root.at? place with
  | none => simp
  | some node => simp [isDirectory_iff]

/-- No directory of the tree has two entries of one name. -/
def HasDistinctNames (root : Node) : Prop :=
  ∀ place entries, root.at? place = some (.directory entries) → (entries.map (·.1)).Nodup

theorem lookup_eq_some_iff {entries : List (Text × Node)} (distinct : (entries.map (·.1)).Nodup)
    {name : Text} {node : Node} : entries.lookup name = some node ↔ (name, node) ∈ entries := by
  induction entries with
  | nil => simp
  | cons entry others ih =>
    obtain ⟨absent, apart⟩ := List.nodup_cons.mp distinct
    by_cases same : name = entry.1
    · subst same
      have elsewhere : (entry.1, node) ∉ others := fun member =>
        absent (List.mem_map.mpr ⟨_, member, rfl⟩)
      rw [List.lookup_cons_self, List.mem_cons, or_iff_left elsewhere, Option.some_inj,
        Prod.ext_iff]
      simp [eq_comm]
    · have different : (name, node) ≠ entry := fun equal => same (congrArg (·.1) equal)
      rw [List.lookup_cons, beq_eq_false_iff_ne.mpr same, List.mem_cons, or_iff_right different]
      exact ih apart

theorem HasDistinctNames.below {root node : Node} (distinct : root.HasDistinctNames) (place : Place)
    (here : root.at? place = some node) : node.HasDistinctNames := by
  intro beyond entries there
  apply distinct (place ++ beyond)
  rw [at?_append, here, Option.bind_some, there]

theorem hasDistinctNames_of_entries_eq_nil {node : Node} (empty : node.entries = []) :
    node.HasDistinctNames := by
  intro place entries there
  cases place with
  | nil =>
    cases there
    rw [show entries = [] from empty]
    exact List.nodup_nil
  | cons name rest =>
    rw [at?_cons, empty] at there
    cases there

theorem lookup_putEntry (name : Text) (node : Node) (entries : List (Text × Node)) (other : Text) :
    (putEntry name node entries).lookup other =
      if other = name then some node else entries.lookup other := by
  induction entries with
  | nil =>
    rw [putEntry, List.lookup_cons]
    by_cases same : other = name
    · simp [same]
    · simp [same, beq_eq_false_iff_ne.mpr same]
  | cons entry others ih =>
    rw [putEntry]
    by_cases found : entry.1 = name
    · rw [if_pos found, List.lookup_cons, List.lookup_cons, found]
      by_cases same : other = name
      · simp [same]
      · simp [same, beq_eq_false_iff_ne.mpr same]
    · rw [if_neg found, List.lookup_cons, ih, List.lookup_cons]
      by_cases here : other = entry.1
      · simp [here, found]
      · simp [beq_eq_false_iff_ne.mpr here]

theorem names_putEntry (name : Text) (node : Node) (entries : List (Text × Node)) :
    (putEntry name node entries).map (·.1) =
      if name ∈ entries.map (·.1) then entries.map (·.1) else entries.map (·.1) ++ [name] := by
  induction entries with
  | nil => rfl
  | cons entry others ih =>
    rw [putEntry]
    by_cases found : entry.1 = name
    · simp [found]
    · rw [if_neg found, List.map_cons, ih, List.map_cons]
      simp only [List.mem_cons, or_iff_right (Ne.symm found)]
      split <;> rfl

theorem nodup_putEntry (name : Text) (node : Node) {entries : List (Text × Node)}
    (distinct : (entries.map (·.1)).Nodup) : ((putEntry name node entries).map (·.1)).Nodup := by
  rw [names_putEntry]
  split
  · exact distinct
  · rename_i absent
    exact (List.perm_append_singleton name _).nodup_iff.mpr (List.nodup_cons.mpr ⟨absent, distinct⟩)

/-- A tree with an entry put into it has distinct names if the tree and the entry have. -/
theorem HasDistinctNames.put {root node : Node} (distinct : root.HasDistinctNames)
    (added : node.HasDistinctNames) (place : Place) : (root.put place node).HasDistinctNames := by
  induction place generalizing root with
  | nil => exact added
  | cons name rest ih =>
    have entries : (root.entries.map (·.1)).Nodup := by
      cases root with
      | file bytes => exact List.nodup_nil
      | link target => exact List.nodup_nil
      | directory entries => exact distinct [] entries rfl
    have child : ((root.entries.lookup name).getD (directory [])).HasDistinctNames := by
      cases found : root.entries.lookup name with
      | none => exact hasDistinctNames_of_entries_eq_nil rfl
      | some child =>
        apply distinct.below [name]
        rw [at?_cons, found]
        rfl
    intro place inner there
    rw [Node.put] at there
    cases place with
    | nil =>
      cases there
      exact nodup_putEntry name _ entries
    | cons first beyond =>
      rw [at?_cons, Node.entries, lookup_putEntry] at there
      split at there
      · exact ih child beyond inner there
      · apply distinct (first :: beyond)
        rwa [at?_cons]

theorem HasDistinctNames.foldl_put {entries : List (Place × Node)}
    (added : ∀ entry ∈ entries, entry.2.HasDistinctNames) {root : Node}
    (distinct : root.HasDistinctNames) :
    (entries.foldl (fun root entry => root.put entry.1 entry.2) root).HasDistinctNames := by
  induction entries generalizing root with
  | nil => exact distinct
  | cons entry others ih =>
    apply ih fun other member => added other (List.mem_cons_of_mem entry member)
    exact distinct.put (added entry List.mem_cons_self) entry.1

end Node
end ClassUsage
