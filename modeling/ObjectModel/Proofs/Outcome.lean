import Mathlib.Data.List.Forall2

/-! # Outcomes that are results

A chain of steps has a result just if each of its steps has one.
-/

namespace ObjectModel

variable {ε α β : Type}

theorem bind_eq_ok_iff {outcome : Except ε α} {next : α → Except ε β} {result : β} :
    outcome >>= next = .ok result ↔ ∃ value, outcome = .ok value ∧ next value = .ok result := by
  cases outcome with
  | error failure => exact iff_of_false nofun nofun
  | ok value =>
      constructor
      · exact fun hnext => ⟨value, rfl, hnext⟩
      · rintro ⟨_, heq, hnext⟩
        obtain rfl := Except.ok.inj heq
        exact hnext

theorem mapM_eq_ok_iff {step : α → Except ε β} {items : List α} {results : List β} :
    items.mapM step = .ok results ↔
      List.Forall₂ (fun item result => step item = .ok result) items results := by
  induction items generalizing results with
  | nil =>
      rw [List.mapM_nil, List.forall₂_nil_left_iff]
      exact ⟨fun heq => (Except.ok.inj heq).symm, fun heq => congrArg _ heq.symm⟩
  | cons item rest ih =>
      rw [List.mapM_cons, bind_eq_ok_iff, List.forall₂_cons_left_iff]
      constructor
      · rintro ⟨result, hitem, hrest⟩
        obtain ⟨others, hothers, heq⟩ := bind_eq_ok_iff.mp hrest
        exact ⟨result, others, hitem, ih.mp hothers, (Except.ok.inj heq).symm⟩
      · rintro ⟨result, others, hitem, hothers, rfl⟩
        exact ⟨result, hitem, bind_eq_ok_iff.mpr ⟨others, ih.mpr hothers, rfl⟩⟩

end ObjectModel
