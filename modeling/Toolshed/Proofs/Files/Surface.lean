import Toolshed.Proofs.Files.Writing

/-!
# What stands at a location

Of a node one sees from above that it is a file with a content, a link, or a directory.  A node that
is put at a location, or dropped from it, is seen there and below it, and everywhere else one sees
what was there.
-/

namespace Toolshed.FileTree

variable {tree : FileTree} {here location : List String} {name : String}
  {entries : List (String × FileTree)}

/-- A node without what is below it; of a file only the content is seen. -/
def surface : FileTree → FileTree
  | .file content _ _ => .file content 0 false
  | .link target => .link target
  | .directory _ => empty

/-- What is seen at a location. -/
def surfaceAt? (location : List String) (tree : FileTree) : Option FileTree :=
  (tree.at? location).map surface

theorem surfaceAt?_eq_none :
  tree.surfaceAt? location = none ↔ tree.at? location = none
  := Option.map_eq_none_iff

theorem surfaceAt?_eq_empty :
  tree.surfaceAt? location = some empty ↔ ∃ entries, tree.at? location = some (.directory entries)
  := by
  rw [surfaceAt?]
  rcases tree.at? location with _ | ⟨content, modified, isExecutable⟩ | target | entries
  · simp
  · simp [surface, empty]
  · simp [surface, empty]
  · simp [surface]

theorem contentOf?_surface (node : FileTree) :
  node.surface.contentOf? = node.contentOf?
  := by
  rcases node with ⟨content, modified, isExecutable⟩ | target | entries
  · rfl
  · rfl
  · rfl

/-- What the file at a location holds. -/
def contentAt? (location : List String) (tree : FileTree) : Option ByteArray :=
  (tree.at? location).bind contentOf?

theorem contentAt?_eq (location : List String) (tree : FileTree) :
  tree.contentAt? location = (tree.surfaceAt? location).bind contentOf?
  := by
  rw [contentAt?, surfaceAt?, Option.bind_map]
  congr 1
  funext node
  symm
  apply contentOf?_surface

/-! ### Changes -/

/-- A change of the entries of a directory is not seen outside of it. -/
theorem surfaceAt?_changeAt (change : List (String × FileTree) → List (String × FileTree))
    (directory : tree.at? here = some (.directory entries))
    (apart : ∀ name below, location = here ++ name :: below →
      child? name (change entries) = child? name entries) :
  (tree.changeAt change here).surfaceAt? location = tree.surfaceAt? location
  := by
  rw [surfaceAt?, surfaceAt?]
  by_cases within : here <+: location
  · obtain ⟨below, rfl⟩ := within
    rw [at?_changeAt_append change directory, at?_append, directory]
    rcases below with _ | ⟨name, below⟩
    · rfl
    · rw [at?, apart name below rfl]
      rfl
  · rcases at?_changeAt_of_not_prefix change directory within with same | ⟨_, _, old, new⟩
    · rw [same]
    · rw [old, new]
      rfl

theorem at?_put (directory : tree.at? here = some (.directory entries)) (name : String)
    (node : FileTree) (below : List String) :
  (tree.put (here ++ [name]) node).at? (here ++ name :: below) = node.at? below
  := by
  rw [put_concat, at?_changeAt_append _ directory, at?, child?_putEntry, if_pos rfl]
  rfl

theorem surfaceAt?_put (directory : tree.at? here = some (.directory entries)) (node : FileTree)
    (apart : ¬ here ++ [name] <+: location) :
  (tree.put (here ++ [name]) node).surfaceAt? location = tree.surfaceAt? location
  := by
  rw [put_concat]
  apply surfaceAt?_changeAt _ directory
  rintro other below rfl
  rw [child?_putEntry, if_neg]
  rintro rfl
  apply apart
  simp

theorem at?_drop (directory : tree.at? here = some (.directory entries)) (name : String) :
  (tree.drop (here ++ [name])).at? (here ++ [name]) = none
  := by
  rw [drop_concat, at?_changeAt_append _ directory, at?, child?_filter, if_pos rfl]
  rfl

theorem surfaceAt?_drop (directory : tree.at? here = some (.directory entries))
    (apart : ¬ here ++ [name] <+: location) :
  (tree.drop (here ++ [name])).surfaceAt? location = tree.surfaceAt? location
  := by
  rw [drop_concat]
  apply surfaceAt?_changeAt _ directory
  rintro other below rfl
  rw [child?_filter, if_neg]
  rintro rfl
  apply apart
  simp

end Toolshed.FileTree
