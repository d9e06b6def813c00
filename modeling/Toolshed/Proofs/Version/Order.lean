import Toolshed.Version

/-!
# The order of versions

Lists of numbers are compared as if both were padded with zeros to one width, and it does not
matter to which.  So versions are in a total preorder, and so are the texts that write them,
whatever is in them.
-/

namespace Toolshed.Version

open Std

/-! ### Numbers -/

/-- The first numbers decide, and a number that is missing is zero. -/
theorem orderNumbers_eq_then (xs ys : List Nat) :
  orderNumbers xs ys = (compare (xs.headD 0) (ys.headD 0)).then (orderNumbers xs.tail ys.tail)
  := by
  rcases xs with _ | ⟨x, xs⟩
  · rcases ys with _ | ⟨y, ys⟩
    · simp [orderNumbers]
    · simp [orderNumbers]
  · rcases ys with _ | ⟨y, ys⟩
    · simp [orderNumbers]
    · simp [orderNumbers]

theorem rightpad_succ (width : Nat) (xs : List Nat) :
  xs.rightpad (width + 1) 0 = xs.headD 0 :: xs.tail.rightpad width 0
  := by
  rcases xs with _ | ⟨x, xs⟩
  · simp [List.rightpad, List.replicate_succ]
  · simp [List.rightpad]

/-- Two lists are compared like the lists that both are padded to, at any width they have. -/
theorem orderNumbers_eq_compare {width : Nat} {xs ys : List Nat} (fits : xs.length ≤ width)
    (fits' : ys.length ≤ width) :
  orderNumbers xs ys = compare (xs.rightpad width 0) (ys.rightpad width 0)
  := by
  induction width generalizing xs ys with
  | zero =>
      rw [List.length_eq_zero_iff.mp (Nat.le_zero.mp fits),
        List.length_eq_zero_iff.mp (Nat.le_zero.mp fits'), orderNumbers]
      rfl
  | succ width ih =>
      have shorter : xs.tail.length ≤ width := by
        rw [List.length_tail]
        omega
      have shorter' : ys.tail.length ≤ width := by
        rw [List.length_tail]
        omega
      rw [orderNumbers_eq_then, rightpad_succ, rightpad_succ, List.compare_cons_cons,
        ih shorter shorter']

/-- Lists of numbers in lexicographic order, the shorter one padded with zeros. -/
def comparePadded (xs ys : List Nat) : Ordering :=
  let width := max xs.length ys.length
  compare (xs.rightpad width 0) (ys.rightpad width 0)

theorem orderNumbers_eq_comparePadded (xs ys : List Nat) :
  orderNumbers xs ys = comparePadded xs ys
  := by
  apply orderNumbers_eq_compare
  · apply Nat.le_max_left
  · apply Nat.le_max_right

instance : TransCmp orderNumbers where
  eq_swap {xs ys} := by
    rw [orderNumbers_eq_comparePadded, orderNumbers_eq_comparePadded, comparePadded, comparePadded,
      Nat.max_comm]
    apply OrientedOrd.eq_swap
  isLE_trans {xs ys zs} first second := by
    -- One width serves all three lists.
    have fits : xs.length ≤ xs.length + ys.length + zs.length := by
      omega
    have fits' : ys.length ≤ xs.length + ys.length + zs.length := by
      omega
    have fits'' : zs.length ≤ xs.length + ys.length + zs.length := by
      omega
    rw [orderNumbers_eq_compare fits fits'] at first
    rw [orderNumbers_eq_compare fits' fits''] at second
    rw [orderNumbers_eq_compare fits fits'']
    apply TransOrd.isLE_trans first second

/-! ### Suffixes -/

/-- Texts are in lexicographic order. -/
theorem orderText_eq_compare (cs ds : List Char) :
  orderText cs ds = compare (cs.map Char.toNat) (ds.map Char.toNat)
  := by
  induction cs generalizing ds with
  | nil =>
      rcases ds with _ | ⟨d, ds⟩
      · rfl
      · rfl
  | cons c cs ih =>
      rcases ds with _ | ⟨d, ds⟩
      · rfl
      · rw [orderText, List.map_cons, List.map_cons, List.compare_cons_cons, ih]

instance : TransCmp orderText where
  eq_swap {cs ds} := by
    rw [orderText_eq_compare, orderText_eq_compare]
    apply OrientedOrd.eq_swap
  isLE_trans {cs ds es} first second := by
    rw [orderText_eq_compare] at first second ⊢
    apply TransOrd.isLE_trans first second

instance : TransCmp orderSuffix where
  eq_swap {x y} := by
    have texts : TransCmp orderText := inferInstance
    rcases x with _ | x
    · rcases y with _ | y
      · rfl
      · rfl
    · rcases y with _ | y
      · rfl
      · apply texts.eq_swap
  isLE_trans {x y z} first second := by
    have texts : TransCmp orderText := inferInstance
    -- No suffix is greatest, so nothing but it comes after it.
    rcases z with _ | z
    · rcases x with _ | x
      · rfl
      · rfl
    · rcases y with _ | y
      · cases second
      · rcases x with _ | x
        · cases first
        · apply texts.isLE_trans first second

/-! ### Versions -/

/-- What is compared by a part of it is compared as this part is. -/
theorem transCmp_by {α β : Type} (cmp : β → β → Ordering) [TransCmp cmp] (part : α → β) :
  TransCmp fun a b => cmp (part a) (part b)
  where
  eq_swap := OrientedCmp.eq_swap
  isLE_trans := TransCmp.isLE_trans

instance : TransCmp order :=
  have := transCmp_by orderNumbers numbers
  have := transCmp_by orderSuffix preRelease
  inferInstanceAs (TransCmp (compareLex (fun a b : Version => orderNumbers a.numbers b.numbers)
    fun a b => orderSuffix a.preRelease b.preRelease))

instance : TransCmp compareTexts :=
  transCmp_by order ofText

theorem compareTexts_eq (a b : String) :
  compareTexts a b = (comparePadded (ofText a).numbers (ofText b).numbers).then
    (orderSuffix (ofText a).preRelease (ofText b).preRelease)
  := by
  rw [compareTexts, order, orderNumbers_eq_comparePadded]

/-- A text writes a version that does not come after the one that another text writes. -/
def AtMost (a b : String) : Prop :=
  (compareTexts a b).isLE = true

theorem atMost_iff_ne_gt {a b : String} :
  AtMost a b ↔ compareTexts a b ≠ .gt
  := by
  apply Ordering.isLE_iff_ne_gt

theorem atMost_iff_ne_lt {a b : String} :
  AtMost b a ↔ compareTexts a b ≠ .lt
  := by
  rw [AtMost, ← OrientedCmp.isGE_iff_isLE]
  apply Ordering.isGE_iff_ne_lt

theorem AtMost.trans {a b c : String} (first : AtMost a b) (second : AtMost b c) :
  AtMost a c
  := by
  apply TransCmp.isLE_trans first second

/-- A comparison orders texts totally, up to texts that it takes for equal. -/
structure IsTotalPreorder (cmp : String → String → Ordering) : Prop where
  self : ∀ a, cmp a a = .eq
  swap : ∀ a b, cmp b a = (cmp a b).swap
  trans : ∀ a b c, (cmp a b).isLE = true → (cmp b c).isLE = true → (cmp a c).isLE = true
  strict : ∀ a b c, (cmp a b).isLE = true → (cmp b c).isLE = true →
    cmp a b = .lt ∨ cmp b c = .lt → cmp a c = .lt

theorem isTotalPreorder_compareTexts :
  IsTotalPreorder compareTexts
  where
  self _ := ReflCmp.compare_self
  swap _ _ := OrientedCmp.eq_swap
  trans _ _ _ := TransCmp.isLE_trans
  strict a b c first second := by
    rintro (below | below)
    · apply TransCmp.lt_of_lt_of_isLE below second
    · apply TransCmp.lt_of_isLE_of_lt first below

end Toolshed.Version
