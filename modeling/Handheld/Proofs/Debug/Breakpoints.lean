import Handheld.Debug.Breakpoints

/-!
# Breakpoints as a set

The list of breakpoints ascends strictly, and adding and removing an address keep it so
(`Breakpoints.Ascending.insert`, `Breakpoints.Ascending.erase`). Beyond that both do to the members
what their names say.
-/

namespace Handheld.Breakpoints

variable {breakpoints : Breakpoints} {address other : Word}

instance : Membership Word Breakpoints := ⟨fun breakpoints address => address ∈ breakpoints.toList⟩

theorem mem_def : address ∈ breakpoints ↔ address ∈ breakpoints.toList := Iff.rfl

/-- The debugger finds a breakpoint exactly if it is one. The list is searched from its start, so
this does not depend on the order. -/
theorem contains_iff : breakpoints.contains address = true ↔ address ∈ breakpoints :=
  List.contains_iff_mem

/-! ## Members -/

/-- An address that is inserted joins the list, and nothing leaves it. By induction on the list,
along the search for its place. -/
theorem mem_insertAddress {list : List Word} :
    other ∈ insertAddress address list ↔ other = address ∨ other ∈ list := by
  induction list with
  | nil => rw [insertAddress, List.mem_singleton, or_iff_left List.not_mem_nil]
  | cons next rest ih =>
      unfold insertAddress
      split
      · exact List.mem_cons
      · split
        · rename_i same
          rw [same]
          exact (or_iff_right_of_imp fun here => here ▸ List.mem_cons_self).symm
        · rw [List.mem_cons, List.mem_cons, ih, or_left_comm]

/-- A breakpoint that is set joins the others. -/
theorem mem_insert : other ∈ breakpoints.insert address ↔ other = address ∨ other ∈ breakpoints :=
  mem_insertAddress

/-- One that is removed leaves, and no other does. -/
theorem mem_erase : other ∈ breakpoints.erase address ↔ other ∈ breakpoints ∧ other ≠ address := by
  rw [mem_def, erase, List.mem_filter, bne_iff_ne]
  rfl

/-! ## Order -/

/-- The addresses are in strictly ascending order. -/
def Ascending (breakpoints : Breakpoints) : Prop := breakpoints.toList.Pairwise (· < ·)

/-- An address is inserted at its place in the order, and not at all if it is there already. By
induction on the list. -/
theorem pairwise_insertAddress {list : List Word} (ascending : list.Pairwise (· < ·)) :
    (insertAddress address list).Pairwise (· < ·) := by
  induction list with
  | nil => exact List.pairwise_singleton _ _
  | cons next rest ih =>
      obtain ⟨first, later⟩ := List.pairwise_cons.mp ascending
      unfold insertAddress
      split
      · rename_i before
        refine List.pairwise_cons.mpr ⟨?_, ascending⟩
        intro member among
        rcases List.mem_cons.mp among with rfl | after
        · exact before
        · exact BitVec.lt_trans before (first member after)
      · split
        · exact ascending
        · rename_i notBefore different
          refine List.pairwise_cons.mpr ⟨?_, ih later⟩
          intro member among
          rcases mem_insertAddress.mp among with rfl | after
          · rw [BitVec.lt_def] at notBefore ⊢
            rw [← BitVec.toNat_inj] at different
            omega
          · exact first member after

namespace Ascending

/-- At the start there are no breakpoints. -/
theorem empty : Ascending .empty := .nil

/-- Setting a breakpoint keeps them in strictly ascending order. -/
theorem insert (ascending : breakpoints.Ascending) (address : Word) :
    (breakpoints.insert address).Ascending :=
  pairwise_insertAddress ascending

/-- So does removing one. -/
theorem erase (ascending : breakpoints.Ascending) (address : Word) :
    (breakpoints.erase address).Ascending :=
  List.Pairwise.filter _ ascending

end Ascending

end Handheld.Breakpoints
