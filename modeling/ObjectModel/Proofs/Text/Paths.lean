import ObjectModel.Name
import Mathlib.Data.List.Basic

/-! # Paths

Names of constants joined by double colons. No such name has a colon, so a joined text tells its names: the last one is
what stands behind the last double colon.
-/

namespace ObjectModel

namespace Name

/-- One or more names of constants. -/
def IsPath (path : List String) : Prop := path ≠ [] ∧ ∀ name ∈ path, isConstant name

/-- A text of which every part between double colons may name a constant. -/
def join (path : List String) : String := "::".intercalate path

variable {name : String} {path : List String}

theorem colon_notMem (hname : isConstant name) : ':' ∉ name.toList := by
  intro hcolon
  rw [isConstant] at hname
  cases hchars : name.toList with
  | nil => simp [hchars] at hcolon
  | cons first rest =>
      rw [hchars, isConstantChars, Bool.and_eq_true, List.all_eq_true] at hname
      rw [hchars] at hcolon
      rcases List.mem_cons.mp hcolon with rfl | hrest
      · exact absurd hname.1 (by decide)
      · exact absurd (hname.2 ':' hrest) (by decide)

/-- A constant has a name that begins with a capital letter. -/
theorem exists_capital (hname : isConstant name) :
    ∃ first rest, name.toList = first :: rest ∧ isCapital first := by
  rw [isConstant] at hname
  cases hchars : name.toList with
  | nil => simp [hchars, isConstantChars] at hname
  | cons first rest =>
      rw [hchars, isConstantChars, Bool.and_eq_true] at hname
      exact ⟨first, rest, rfl, hname.1⟩

/-- What stands around the last one of its kind is known. -/
theorem eq_of_append_cons {α : Type} {middle : α} {front back front' back' : List α}
    (hback : middle ∉ back) (hback' : middle ∉ back')
    (heq : front ++ middle :: back = front' ++ middle :: back') : front = front' ∧ back = back' := by
  rcases List.append_eq_append_iff.mp heq with ⟨between, rfl, hrest⟩ | ⟨between, rfl, hrest⟩
  · cases between with
    | nil => exact ⟨(List.append_nil front).symm, (List.cons.inj hrest).2⟩
    | cons first others =>
        obtain ⟨-, rfl⟩ := List.cons.inj hrest
        exact absurd (List.mem_append_right others List.mem_cons_self) hback
  · cases between with
    | nil => exact ⟨List.append_nil front', (List.cons.inj hrest).2.symm⟩
    | cons first others =>
        obtain ⟨-, rfl⟩ := List.cons.inj hrest
        exact absurd (List.mem_append_right others List.mem_cons_self) hback'

theorem join_singleton (name : String) : join [name] = name := String.intercalate_singleton

theorem join_append {front : List String} (hfront : front ≠ []) (name : String) :
    join (front ++ [name]) = join front ++ "::" ++ name := by
  rw [join, String.intercalate_append_of_ne_nil hfront (List.cons_ne_nil name []),
    String.intercalate_singleton]
  rfl

namespace IsPath

/-- A path is cut before its last name. -/
theorem cases_last (hpath : IsPath path) :
    (∃ last, isConstant last ∧ path = [last]) ∨
      ∃ front last, IsPath front ∧ isConstant last ∧ path = front ++ [last] := by
  obtain ⟨hthere, hnames⟩ := hpath
  obtain rfl | ⟨front, last, rfl⟩ := List.eq_nil_or_concat' path
  · exact absurd rfl hthere
  · have hlast := hnames last (List.mem_append_right front List.mem_cons_self)
    by_cases hfront : front = []
    · subst hfront
      exact .inl ⟨last, hlast, rfl⟩
    · exact .inr ⟨front, last,
        ⟨hfront, fun name hname => hnames name (List.mem_append_left _ hname)⟩, hlast, rfl⟩

/-- A name without double colons is a path for itself. -/
theorem eq_singleton (hpath : IsPath path) (hname : isConstant name) (heq : join path = name) :
    path = [name] := by
  obtain ⟨last, -, rfl⟩ | ⟨front, last, hfront, -, rfl⟩ := hpath.cases_last
  · rw [← heq, join_singleton]
  · rw [join_append hfront.1] at heq
    refine absurd ?_ (colon_notMem hname)
    rw [← heq]
    simp [String.toList_append]

/-- A name behind double colons is the last one of the path, and what stands before them is the rest of it. -/
theorem eq_append (hpath : IsPath path) (hname : isConstant name) {scope : String}
    (heq : join path = scope ++ "::" ++ name) :
    ∃ front, IsPath front ∧ join front = scope ∧ path = front ++ [name] := by
  obtain ⟨last, hlast, rfl⟩ | ⟨front, last, hfront, hlast, rfl⟩ := hpath.cases_last
  · rw [join_singleton] at heq
    refine absurd ?_ (colon_notMem hlast)
    rw [heq]
    simp [String.toList_append]
  · rw [join_append hfront.1] at heq
    have hchars : ((join front).toList ++ [':']) ++ ':' :: last.toList =
        (scope.toList ++ [':']) ++ ':' :: name.toList := by
      simpa [String.toList_append] using congrArg String.toList heq
    obtain ⟨hscope, hnames⟩ :=
      eq_of_append_cons (colon_notMem hlast) (colon_notMem hname) hchars
    obtain rfl := String.toList_inj.mp hnames
    exact ⟨front, hfront, String.toList_inj.mp (List.append_cancel_right hscope), rfl⟩

/-- A path begins with a capital letter. -/
theorem exists_capital (hpath : IsPath path) :
    ∃ first rest, (join path).toList = first :: rest ∧ isCapital first := by
  obtain ⟨hthere, hnames⟩ := hpath
  cases path with
  | nil => exact absurd rfl hthere
  | cons name others =>
      obtain ⟨first, rest, hchars, hfirst⟩ := Name.exists_capital (hnames name List.mem_cons_self)
      cases others with
      | nil => exact ⟨first, rest, by rw [join_singleton, hchars], hfirst⟩
      | cons other more =>
          refine ⟨first, rest ++ "::".toList ++ (join (other :: more)).toList, ?_, hfirst⟩
          rw [join, String.intercalate_cons_cons, String.toList_append, String.toList_append, hchars]
          rfl

end IsPath

end Name

end ObjectModel
