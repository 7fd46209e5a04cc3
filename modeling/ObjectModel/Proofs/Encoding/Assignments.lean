import ObjectModel.Encoding.Defaults

/-! # Default encodings and their log

Default encodings change by assignments alone, and each of them is logged. So the log tells what the defaults are: each
is what the last assignment to it gave it, or what it was at the start if nothing was assigned to it.
-/

namespace ObjectModel.Encoding

/-- What an assignment gave the internal default, if it is about that one. -/
def Assignment.internal? : Assignment → Option (Option EncodingId)
  | .internal encoding => some encoding
  | .external _ => none

/-- What an assignment gave the external default, if it is about that one. -/
def Assignment.external? : Assignment → Option EncodingId
  | .internal _ => none
  | .external encoding => some encoding

/-- The internal default after some assignments. -/
def lastInternal (start : Option EncodingId) (log : List Assignment) : Option EncodingId :=
  (log.filterMap Assignment.internal?).getLast?.getD start

/-- The external default after some assignments. -/
def lastExternal (start : EncodingId) (log : List Assignment) : EncodingId :=
  (log.filterMap Assignment.external?).getLast?.getD start

namespace Defaults

variable {first second third : Defaults}

/-- One comes of the other by assignments. -/
def Follows (first second : Defaults) : Prop :=
  ∃ made : List Assignment, second = made.foldl assign first

theorem Follows.refl (defaults : Defaults) : defaults.Follows defaults := ⟨[], rfl⟩

theorem Follows.trans (hfirst : first.Follows second) (hsecond : second.Follows third) :
    first.Follows third := by
  obtain ⟨made, rfl⟩ := hfirst
  obtain ⟨more, rfl⟩ := hsecond
  exact ⟨made ++ more, (List.foldl_append ..).symm⟩

theorem follows_assign (defaults : Defaults) (assignment : Assignment) :
    defaults.Follows (defaults.assign assignment) := ⟨[assignment], rfl⟩

/-- Assignments one after the other leave in each default what the last of them to it gave it, and are all logged. -/
theorem foldl_assign (defaults : Defaults) (made : List Assignment) :
    made.foldl assign defaults =
      { external := lastExternal defaults.external made
        internal := lastInternal defaults.internal made
        log := defaults.log ++ made } := by
  induction made generalizing defaults with
  | nil => simp [lastExternal, lastInternal]
  | cons assignment rest ih =>
      rw [List.foldl_cons, ih]
      -- the first assignment is what is left unless a later one is about the same default
      cases assignment <;>
        simp [assign, lastExternal, lastInternal, Assignment.internal?, Assignment.external?,
          List.getLast?_cons]

/-- Defaults whose log began empty are told by it. -/
theorem Follows.eq_last (hfollows : first.Follows second) (hlog : first.log = []) :
    second.internal = lastInternal first.internal second.log ∧
      second.external = lastExternal first.external second.log := by
  obtain ⟨made, rfl⟩ := hfollows
  rw [foldl_assign, hlog]
  exact ⟨rfl, rfl⟩

end Defaults

end ObjectModel.Encoding
