import Toolshed.Proofs.Shell.Lexer
import Toolshed.Proofs.Template.Pieces

/-!
# Values in templates that a shell reads

The values that a template is filled with are quoted if need be.  This keeps a shell from taking
them for anything but words only where they stand outside of quotes and nothing before them is
left open.  A template whose values all stand so is guarded.

Main statement: the structure that a shell finds in a filled template is the same for all values
of the variables exactly when the template is guarded (`fill_shape_iff_guarded`).
-/

namespace Toolshed.Template

open Shell

/-! ### Values of the same names -/

/-- No value is empty. -/
structure NoneEmpty (env : Environment) (params : Option Environment) : Prop where
  inEnv : ∀ name, ∀ value ∈ Assoc.get? name env, value ≠ ""
  inParams : ∀ name, ∀ value ∈ params.bind (Assoc.get? name), value ≠ ""

/-- The same names have values. -/
structure SameNames (env : Environment) (params : Option Environment) (env' : Environment)
    (params' : Option Environment) : Prop where
  inEnv : ∀ name, (Assoc.get? name env').isSome = (Assoc.get? name env).isSome
  inParams : ∀ name, (params'.bind (Assoc.get? name)).isSome
    = (params.bind (Assoc.get? name)).isSome

theorem NoneEmpty.bound {env : Environment} {params : Option Environment} {p : Placeholder}
    {value : String} (h : NoneEmpty env params) (found : bound? env params p = some value) :
  value.toList ≠ []
  := by
  rw [ne_eq, String.toList_eq_nil_iff]
  rcases p with r | name
  · apply h.inEnv _ _ found
  · rcases Option.or_eq_some_iff.mp found with found | ⟨-, found⟩
    · apply h.inEnv _ _ found
    · apply h.inParams _ _ found

theorem SameNames.bound {env env' : Environment} {params params' : Option Environment}
    (h : SameNames env params env' params') (p : Placeholder) :
  (bound? env' params' p).isSome = (bound? env params p).isSome
  := by
  rcases p with r | name
  · apply h.inEnv
  · rw [bound?, bound?, Option.isSome_or, Option.isSome_or, h.inEnv, h.inParams]

/-- The environment with the same value for all of its names. -/
def allSet (value : String) (env : Environment) : Environment :=
  env.map fun (name, _) => (name, value)

theorem get?_allSet (value : String) (env : Environment) (name : String) :
  Assoc.get? name (allSet value env) = (Assoc.get? name env).map fun _ => value
  := by
  induction env with
  | nil => rfl
  | cons entry env ih =>
      obtain ⟨key, _⟩ := entry
      simp only [allSet, List.map_cons, Assoc.get?] at ih ⊢
      split
      · rfl
      · apply ih

theorem bind_get?_allSet (value : String) (params : Option Environment) (name : String) :
  (params.map (allSet value)).bind (Assoc.get? name)
    = (params.bind (Assoc.get? name)).map fun _ => value
  := by
  cases params with
  | none => rfl
  | some params => apply get?_allSet

theorem bound?_allSet (value : String) (env : Environment) (params : Option Environment)
    (p : Placeholder) :
  bound? (allSet value env) (params.map (allSet value)) p
    = (bound? env params p).map fun _ => value
  := by
  rcases p with r | name
  · apply get?_allSet
  · rw [bound?, bound?, get?_allSet, bind_get?_allSet, Option.map_or]

/-- A value that consists of copies of a character. -/
def copies (n : Nat) (u : Char) : String :=
  String.ofList (List.replicate n u)

theorem copies_toList_ne_nil (n : Nat) (u : Char) :
  (copies (n + 1) u).toList ≠ []
  := by
  rw [copies, String.toList_ofList, List.replicate_succ]
  apply List.cons_ne_nil

theorem copies_ne_empty (n : Nat) (u : Char) :
  copies (n + 1) u ≠ ""
  := by
  intro h
  apply copies_toList_ne_nil n u
  rw [h]
  rfl

theorem noneEmpty_allSet {value : String} (h : value ≠ "") (env : Environment)
    (params : Option Environment) :
  NoneEmpty (allSet value env) (params.map (allSet value))
  := by
  constructor
  · intro name v found
    rw [get?_allSet, Option.mem_def, Option.map_eq_some_iff] at found
    obtain ⟨-, -, rfl⟩ := found
    apply h
  · intro name v found
    rw [bind_get?_allSet, Option.mem_def, Option.map_eq_some_iff] at found
    obtain ⟨-, -, rfl⟩ := found
    apply h

theorem sameNames_allSet (value : String) (env : Environment) (params : Option Environment) :
  SameNames env params (allSet value env) (params.map (allSet value))
  := by
  constructor
  · intro name
    rw [get?_allSet, Option.isSome_map]
  · intro name
    rw [bind_get?_allSet, Option.isSome_map]

/-! ### Guarded templates -/

/-- The piece gives way to a value. -/
def Piece.isBound (env : Environment) (params : Option Environment) : Piece → Bool
  | .character _ => false
  | .placeholder p => (bound? env params p).isSome

theorem Piece.text_of_isBound {env : Environment} {params : Option Environment} {piece : Piece}
    (h : NoneEmpty env params) (bound : piece.isBound env params = true) :
  ∃ value, value ≠ [] ∧ piece.text env params = quoteIfUnsafe value
  := by
  rcases piece with c | p
  · cases bound
  · obtain ⟨value, found⟩ := Option.isSome_iff_exists.mp bound
    exact ⟨value.toList, h.bound found, substitute_of_bound found⟩

theorem Piece.text_of_not_isBound {env env' : Environment} {params params' : Option Environment}
    {piece : Piece} (names : SameNames env params env' params')
    (unbound : piece.isBound env params = false) :
  piece.text env' params' = piece.text env params
  := by
  rcases piece with c | p
  · rfl
  · apply substitute_of_unbound
    · rw [← Option.isNone_iff_eq_none, ← Option.not_isSome, names.bound]
      rw [isBound] at unbound
      rw [unbound]
      rfl
    · rw [← Option.isNone_iff_eq_none, ← Option.not_isSome]
      rw [isBound] at unbound
      rw [unbound]
      rfl

theorem SameNames.isBound {env env' : Environment} {params params' : Option Environment}
    (h : SameNames env params env' params') (piece : Piece) :
  piece.isBound env' params' = piece.isBound env params
  := by
  rcases piece with c | p
  · rfl
  · apply h.bound

theorem Piece.text_allSet {env : Environment} {params : Option Environment} {piece : Piece}
    (value : String) (bound : piece.isBound env params = true) :
  piece.text (allSet value env) (params.map (allSet value)) = quoteIfUnsafe value.toList
  := by
  rcases piece with c | p
  · cases bound
  · obtain ⟨_, found⟩ := Option.isSome_iff_exists.mp bound
    apply substitute_of_bound
    rw [bound?_allSet, found]
    rfl

/-- Every value stands where a shell that reads the pieces from a state on has nothing open. -/
def GuardedFrom (env : Environment) (params : Option Environment) :
    ReadState → List Piece → Prop
  | _, [] => True
  | s, piece :: rest =>
    if piece.isBound env params then s.IsOpen ∧ GuardedFrom env params .inside rest
    else GuardedFrom env params (read s (piece.text env params)).2 rest

instance decidableGuardedFrom (env : Environment) (params : Option Environment) :
    (s : ReadState) → (row : List Piece) → Decidable (GuardedFrom env params s row)
  | _, [] => .isTrue trivial
  | s, piece :: rest =>
    have := decidableGuardedFrom env params .inside rest
    have := decidableGuardedFrom env params (read s (piece.text env params)).2 rest
    inferInstanceAs (Decidable (ite _ _ _))

/-- Every value stands outside of quotes, and neither after a backslash nor after a dollar sign or
the name of an expansion. -/
def Guarded (env : Environment) (params : Option Environment) (text : String) : Prop :=
  GuardedFrom env params .start (pieces text.toList)

instance (env : Environment) (params : Option Environment) (text : String) :
    Decidable (Guarded env params text) :=
  decidableGuardedFrom env params .start (pieces text.toList)

/-! ### Guarded templates keep their structure -/

/-- Whatever the values are, a shell finds the same in guarded pieces, the characters of words
apart. -/
theorem outline_of_guardedFrom {env env' : Environment} {params params' : Option Environment}
    (names : SameNames env params env' params') (nonempty₁ : NoneEmpty env params)
    (nonempty₂ : NoneEmpty env' params') {s : ReadState} {row : List Piece}
    (guarded : GuardedFrom env params s row) :
  outline (read s (row.flatMap (Piece.text env' params'))).1
      = outline (read s (row.flatMap (Piece.text env params))).1 ∧
    (read s (row.flatMap (Piece.text env' params'))).2
      = (read s (row.flatMap (Piece.text env params))).2
  := by
  induction row generalizing s with
  | nil => exact ⟨rfl, rfl⟩
  | cons piece rest ih =>
      rw [GuardedFrom] at guarded
      rw [List.flatMap_cons, List.flatMap_cons, read_append, read_append]
      split at guarded
      · rename_i bound
        obtain ⟨⟨inWord, rfl⟩, guarded⟩ := guarded
        obtain ⟨value, nonempty, text⟩ := Piece.text_of_isBound nonempty₁ bound
        obtain ⟨value', nonempty', text'⟩ :=
          Piece.text_of_isBound nonempty₂ ((names.isBound piece).trans bound)
        obtain ⟨marks, state⟩ := ih guarded
        rw [text, text', read_quoteIfUnsafe nonempty, read_quoteIfUnsafe nonempty']
        simp only [after, outline_append, outline_map_text, marks, state, and_self]
      · rename_i unbound
        rw [Bool.not_eq_true] at unbound
        obtain ⟨marks, state⟩ := ih guarded
        rw [Piece.text_of_not_isBound names unbound]
        simp only [after, outline_append, marks, state, and_self]

/-- In pieces that are not guarded there are values that show up as operators or expansions, as
often as one wants. -/
theorem exists_active_of_not_guardedFrom {env : Environment} {params : Option Environment}
    {s : ReadState} {row : List Piece} (h : ¬ GuardedFrom env params s row) :
  ∃ u, ∀ n, n + 1 ≤ (read s (row.flatMap (Piece.text (allSet (copies (n + 1) u) env)
    (params.map (allSet (copies (n + 1) u)))))).1.countP Mark.isActive
  := by
  induction row generalizing s with
  | nil => exact (h trivial).elim
  | cons piece rest ih =>
      rw [GuardedFrom] at h
      split at h
      · rename_i bound
        by_cases isOpen : s.IsOpen
        · -- The value is a word here, so the fault is further on.
          obtain ⟨u, active⟩ := ih fun guarded => h ⟨isOpen, guarded⟩
          obtain ⟨inWord, rfl⟩ := isOpen
          use u
          intro n
          have more := active n
          rw [List.flatMap_cons, read_append, Piece.text_allSet _ bound,
            read_quoteIfUnsafe (copies_toList_ne_nil n u)]
          simp only [after, List.countP_append]
          omega
        · obtain ⟨u, active⟩ := exists_active_of_not_isOpen isOpen
          use u
          intro n
          have here := active n
          rw [List.flatMap_cons, read_append, Piece.text_allSet _ bound, copies,
            String.toList_ofList]
          simp only [after, List.countP_append]
          omega
      · rename_i unbound
        rw [Bool.not_eq_true] at unbound
        obtain ⟨u, active⟩ := ih h
        use u
        intro n
        have more := active n
        rw [List.flatMap_cons, read_append,
          Piece.text_of_not_isBound (sameNames_allSet _ env params) unbound]
        simp only [after, List.countP_append]
        omega

/-- The structure of a filled template is the same for all values of its variables exactly when
the template is guarded. -/
theorem fill_shape_iff_guarded (text : String) (env : Environment) (params : Option Environment)
    (h : NoneEmpty env params) :
  (∀ env' params', SameNames env params env' params' → NoneEmpty env' params' →
      shape (fillText env' params' text).toList = shape (fillText env params text).toList)
    ↔ Guarded env params text
  := by
  constructor
  · intro same
    by_contra exposed
    obtain ⟨u, active⟩ := exists_active_of_not_guardedFrom exposed
    -- With one copy more than there are marks for `env`, the structures differ.
    obtain ⟨size, hsize⟩ : ∃ size, size = (shape (fillText env params text).toList).size :=
      ⟨_, rfl⟩
    have shapes := same _ _ (sameNames_allSet (copies (size + 1) u) env params)
      (noneEmpty_allSet (copies_ne_empty size u) env params)
    have sizes := congrArg Shape.size shapes
    have more := active size
    rw [← hsize, fillText, String.toList_ofList, shape, size_shapeOf, readText, List.countP_append,
      fill_eq_flatMap] at sizes
    omega
  · intro guarded env' params' names nonempty
    obtain ⟨marks, state⟩ := outline_of_guardedFrom names h nonempty guarded
    simp only [shape, readText, fillText, String.toList_ofList, fill_eq_flatMap]
    rw [← shapeOf_outline, outline_append, marks, state, ← outline_append, shapeOf_outline]

/-- A value as an argument of its own is a word, whatever it is; between double quotes it is not. -/
theorem fill_shape_of_argument :
  NoneEmpty [("X", "a")] none ∧
    (∀ env' params', SameNames [("X", "a")] none env' params' → NoneEmpty env' params' →
      shape (fillText env' params' "echo $\x7bX\x7d").toList
        = shape (fillText [("X", "a")] none "echo $\x7bX\x7d").toList) ∧
    ¬ ∀ env' params', SameNames [("X", "a")] none env' params' → NoneEmpty env' params' →
      shape (fillText env' params' "echo \"$\x7bX\x7d\"").toList
        = shape (fillText [("X", "a")] none "echo \"$\x7bX\x7d\"").toList
  := by
  have h : NoneEmpty [("X", "a")] none := by
    constructor
    · intro name value found
      simp only [Assoc.get?, Option.mem_def] at found
      split at found
      · cases found
        decide
      · cases found
    · rintro name value ⟨⟩
  refine ⟨h, ?_, ?_⟩
  · apply (fill_shape_iff_guarded _ _ _ h).mpr
    decide +kernel
  · intro same
    have guarded := (fill_shape_iff_guarded _ _ _ h).mp same
    revert guarded
    decide +kernel

end Toolshed.Template
