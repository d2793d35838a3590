import SourceWriter.Run.FileTree

/-! # Overwriting files

To overwrite a file is to change what stands at its place (`FileTree.node?_replace`). No directory
comes or goes by it, and so every path still leads where it led before
(`FileTree.SameShape.resolve_eq`).
-/

namespace SourceWriter

/-- A node after a text was written to it. -/
def Node.overwritten (text : Text) : Node → Node
  | .file _ => .file (.text text)
  | node => node

namespace FileTree

variable {tree other : FileTree} {place : Place} {content : Content}

/-- Trees with the same directories. -/
structure SameShape (tree other : FileTree) : Prop where
  start_eq : other.directory = tree.directory
  directory_iff : ∀ place,
    other.node? place = some .directory ↔ tree.node? place = some .directory

namespace SameShape

theorem refl (tree : FileTree) : SameShape tree tree :=
  ⟨rfl, fun _ => .rfl⟩

theorem trans {last : FileTree} (first : SameShape tree other) (second : SameShape other last) :
    SameShape tree last :=
  ⟨second.start_eq.trans first.start_eq,
    fun place => (second.directory_iff place).trans (first.directory_iff place)⟩

/-- Trees of the same shape are followed to the same place. -/
theorem follow_eq (same : SameShape tree other) (pieces : List Text) (place : Place) :
    other.follow place pieces = tree.follow place pieces := by
  induction pieces generalizing place with
  | nil => rfl
  | cons piece rest ih => simp only [follow, same.directory_iff, ih]

/-- Paths lead to the same places. -/
theorem resolve_eq (same : SameShape tree other) (path : Text) :
    other.resolve path = tree.resolve path := by
  simp only [resolve, same.start_eq, same.follow_eq]

end SameShape

/-- What is found as a file is listed: what is only implied is a directory. -/
theorem lookup_of_node?_file (found : tree.node? place = some (.file content)) :
    tree.nodes.lookup place = some (.file content) := by
  unfold node? at found
  cases listed : tree.nodes.lookup place with
  | some node =>
      rw [listed] at found
      exact found
  | none =>
      simp only [listed] at found
      split at found <;> cases found

/-- After a node is replaced, it is found at its own place, and all others as before. -/
theorem lookup_replaced (nodes : List (Place × Node)) (place : Place) (node : Node)
    (wanted : Place) :
    (nodes.map fun entry => if entry.1 = place then (place, node) else entry).lookup wanted =
      if wanted = place then (nodes.lookup place).map fun _ => node else nodes.lookup wanted := by
  induction nodes with
  | nil => simp
  | cons entry rest ih =>
      obtain ⟨listed, old⟩ := entry
      by_cases here : listed = place
      · subst here
        by_cases same : wanted = listed
        · subst same
          simp
        · simp [List.lookup_cons, beq_false_of_ne same, ih, same]
      · by_cases same : wanted = place
        · subst same
          simp [List.lookup_cons, here, beq_false_of_ne (Ne.symm here), ih]
        · simp [List.lookup_cons, here, ih, same]

theorem isImplied_replace (tree : FileTree) (place : Place) (node : Node) (wanted : Place) :
    (tree.replace place node).isImplied wanted = tree.isImplied wanted := by
  have places (entry : Place × Node) :
      (if entry.1 = place then (place, node) else entry).1 = entry.1 := by
    split
    · exact Eq.symm ‹_›
    · rfl
  simp only [isImplied, replace, List.any_map, Function.comp_def, places]

/-- A file that is replaced stands where the old one stood, and everything else stays. -/
theorem node?_replace (found : tree.node? place = some (.file content)) (node : Node)
    (wanted : Place) :
    (tree.replace place node).node? wanted =
      if wanted = place then some node else tree.node? wanted := by
  simp only [node?, isImplied_replace]
  simp only [replace, lookup_replaced, lookup_of_node?_file found]
  by_cases same : wanted = place <;> simp only [same, ↓reduceIte, Option.map_some]

/-- Replacing a file by a file keeps the shape of a tree. -/
theorem sameShape_replace (found : tree.node? place = some (.file content)) (new : Content) :
    SameShape tree (tree.replace place (.file new)) where
  start_eq := rfl
  directory_iff wanted := by
    rw [node?_replace found]
    split
    · next same =>
        subst same
        simp [found]
    · rfl

/-- Writing to a file or a device succeeds. A file then holds the text, and a device is what it
was. -/
theorem exists_writeFile {path : Text} {node : Node} (resolved : tree.resolve path = some place)
    (found : tree.node? place = some node) (writable : node ≠ .directory) (text : Text) :
    ∃ after, tree.writeFile path text = .ok after ∧ SameShape tree after ∧
      ∀ wanted, after.node? wanted =
        if wanted = place then some (node.overwritten text) else tree.node? wanted := by
  have device (kept : node.overwritten text = node) : ∀ wanted, tree.node? wanted =
      if wanted = place then some (node.overwritten text) else tree.node? wanted := by
    intro wanted
    split
    · next same => rw [same, found, kept]
    · rfl
  cases node with
  | file content =>
      refine ⟨tree.replace place (.file (.text text)), ?_, sameShape_replace found _, ?_⟩
      · simp only [writeFile, resolved, found]
      · exact node?_replace found _
  | directory => exact absurd rfl writable
  | null =>
      refine ⟨tree, ?_, .refl tree, device rfl⟩
      simp only [writeFile, resolved, found]
  | input =>
      refine ⟨tree, ?_, .refl tree, device rfl⟩
      simp only [writeFile, resolved, found]

end FileTree

end SourceWriter
