import Mathlib.Data.List.Sort
import ObjectModel.Graph.Lookup
import ObjectModel.Proofs.Table

/-! # Listing methods

The names of the methods of a class are gathered from sorted tables with a list of the names that were seen. What is
listed are the names under which a lookup finds a method that is not private, each once; and since every table is sorted
before it is read, the order in which it holds its entries plays no part.
-/

namespace ObjectModel.Graph

variable {graph other : Graph} {id : ClassId} {name : Symbol}

/-- The tables of methods have an entry for each name at most once. -/
def DistinctNames (graph : Graph) : Prop := ∀ id, (graph.record id).methods.keys.Nodup

/-- The method tables of two graphs with the same ancestors differ only in the order of their entries. -/
structure Shuffles (graph other : Graph) : Prop where
  ancestors : ∀ id, other.ancestors id = graph.ancestors id
  methods : ∀ id, (graph.record id).methods.entries.Perm (other.record id).methods.entries

/-- The first entry of a name along the ancestors of a class is a method that is not private. -/
def Exposes (graph : Graph) (id : ClassId) (name : Symbol) : Prop :=
  ∃ entry, graph.firstEntry? id name = some entry ∧ entry.isDefined ∧ ¬ entry.isPrivate

/-- The first entry of a name along the ancestors of a class is a method. -/
def Provides (graph : Graph) (id : ClassId) (name : Symbol) : Prop :=
  ∃ entry, graph.firstEntry? id name = some entry ∧ entry.isDefined

/-! ## Sorted tables -/

/-- The order of table entries by the positions of their names. -/
def NameLE (first second : Symbol × MethodEntry) : Prop := first.1.index ≤ second.1.index

instance : DecidableRel NameLE := fun first second =>
  inferInstanceAs (Decidable (first.1.index ≤ second.1.index))

instance : Std.Total NameLE := ⟨fun first second => Nat.le_total first.1.index second.1.index⟩

instance : IsTrans (Symbol × MethodEntry) NameLE := ⟨fun _ _ _ => Nat.le_trans⟩

theorem insertByName_eq (pair : Symbol × MethodEntry) (pairs : List (Symbol × MethodEntry)) :
    insertByName pair pairs = pairs.orderedInsert NameLE pair := by
  induction pairs with
  | nil => rfl
  | cons first rest ih =>
      rw [insertByName, List.orderedInsert_cons, ih]
      rfl

theorem sortedMethods_eq (graph : Graph) (id : ClassId) :
    graph.sortedMethods id = (graph.record id).methods.entries.insertionSort NameLE := by
  rw [sortedMethods, List.insertionSort]
  exact congrArg (fun insert => List.foldr insert [] (graph.record id).methods.entries)
    (funext₂ insertByName_eq)

theorem perm_sortedMethods (graph : Graph) (id : ClassId) :
    (graph.record id).methods.entries.Perm (graph.sortedMethods id) := by
  rw [sortedMethods_eq]
  exact (List.perm_insertionSort NameLE _).symm

/-- In a sorted table a name is found like in the table. -/
theorem DistinctNames.look_sortedMethods (hnames : graph.DistinctNames) (id : ClassId)
    (name : Symbol) :
    Table.look name (graph.sortedMethods id) = (graph.record id).methods.find? name :=
  Table.look_perm (hnames id) (graph.perm_sortedMethods id) name

/-- Sorting leaves nothing of the order in which a table holds its entries. -/
theorem DistinctNames.sortedMethods_of_perm (hnames : graph.DistinctNames)
    (hperm : (graph.record id).methods.entries.Perm (other.record id).methods.entries) :
    other.sortedMethods id = graph.sortedMethods id := by
  have hsorted (graph : Graph) : (graph.sortedMethods id).Pairwise NameLE := by
    rw [sortedMethods_eq]
    exact List.pairwise_insertionSort NameLE _
  have hother := (graph.perm_sortedMethods id).symm.trans (hperm.trans (other.perm_sortedMethods id))
  refine (List.Perm.eq_of_pairwise ?_ (hsorted graph) (hsorted other) hother).symm
  -- two entries with the same name in one table are one entry
  intro first second hfirst hsecond hle hge
  have hname : first.1 = second.1 := by
    have hindex := Nat.le_antisymm hle hge
    cases hcase : first.1
    cases hother : second.1
    simp_all
  have hkeys : ((graph.sortedMethods id).map Prod.fst).Nodup :=
    ((graph.perm_sortedMethods id).map Prod.fst).nodup_iff.mp (hnames id)
  have hthere := hother.mem_iff.mpr hsecond
  have hsame := (Table.look_of_mem hkeys hfirst).symm.trans
    ((congrArg (Table.look · (graph.sortedMethods id)) hname).trans (Table.look_of_mem hkeys hthere))
  exact Prod.ext hname (Option.some.inj hsame)

/-! ## Visible names -/

section

variable {seen : List Symbol} {pair : Symbol × MethodEntry} {rest : List (Symbol × MethodEntry)}

theorem visibleNames_of_seen (hseen : pair.1 ∈ seen) :
    visibleNames seen (pair :: rest) = visibleNames seen rest :=
  if_pos hseen

theorem visibleNames_of_visible (hseen : pair.1 ∉ seen)
    (hvisible : pair.2.isDefined ∧ ¬ pair.2.isPrivate) :
    visibleNames seen (pair :: rest) = pair.1 :: visibleNames (pair.1 :: seen) rest := by
  rw [visibleNames, if_neg hseen, if_pos (by simpa using hvisible)]

theorem visibleNames_of_hidden (hseen : pair.1 ∉ seen)
    (hhidden : ¬ (pair.2.isDefined ∧ ¬ pair.2.isPrivate)) :
    visibleNames seen (pair :: rest) = visibleNames (pair.1 :: seen) rest := by
  rw [visibleNames, if_neg hseen, if_neg (by simpa using hhidden)]

end

/-- A name is visible if it was not seen before and its first entry is a method that is not private. -/
theorem mem_visibleNames {seen : List Symbol} {pairs : List (Symbol × MethodEntry)} :
    name ∈ visibleNames seen pairs ↔ name ∉ seen ∧
      ∃ entry, Table.look name pairs = some entry ∧ entry.isDefined ∧ ¬ entry.isPrivate := by
  induction pairs generalizing seen with
  | nil => simp [visibleNames, Table.look]
  | cons pair rest ih =>
      rw [Table.look]
      by_cases hseen : pair.1 ∈ seen
      · rw [visibleNames_of_seen hseen, ih]
        apply and_congr_right
        intro hfresh
        have hother : pair.1 ≠ name := by
          rintro rfl
          exact hfresh hseen
        rw [if_neg hother]
      -- what follows cannot bring the name back, since it counts as seen from here on
      · by_cases hvisible : pair.2.isDefined ∧ ¬ pair.2.isPrivate
        · rw [visibleNames_of_visible hseen hvisible, List.mem_cons, ih, List.mem_cons]
          by_cases hname : pair.1 = name
          · simp [← hname, hseen, hvisible]
          · simp [hname, Ne.symm hname]
        · rw [visibleNames_of_hidden hseen hvisible, ih, List.mem_cons]
          by_cases hname : pair.1 = name
          · rw [if_pos hname]
            simp_all
          · simp [hname, Ne.symm hname]

theorem nodup_visibleNames (seen : List Symbol) (pairs : List (Symbol × MethodEntry)) :
    (visibleNames seen pairs).Nodup := by
  induction pairs generalizing seen with
  | nil => exact List.nodup_nil
  | cons pair rest ih =>
      rw [visibleNames]
      split
      · exact ih seen
      · split
        · refine List.nodup_cons.mpr ⟨?_, ih _⟩
          intro hmem
          exact (mem_visibleNames.mp hmem).1 List.mem_cons_self
        · exact ih _

/-! ## Lists of methods -/

theorem DistinctNames.look_flatMap (hnames : graph.DistinctNames) (searched : List ClassId)
    (name : Symbol) :
    Table.look name (searched.flatMap graph.sortedMethods) =
      searched.findSome? fun cls => (graph.record cls).methods.find? name := by
  induction searched with
  | nil => rfl
  | cons cls rest ih =>
      rw [List.flatMap_cons, Table.look_append, hnames.look_sortedMethods, ih, List.findSome?_cons]
      cases (graph.record cls).methods.find? name <;> rfl

/-- Just the names that a class exposes are listed for it. -/
theorem DistinctNames.mem_instanceMethods (hnames : graph.DistinctNames) :
    name ∈ graph.instanceMethods id true ↔ graph.Exposes id name := by
  rw [instanceMethods, if_pos rfl, mem_visibleNames, hnames.look_flatMap]
  exact and_iff_right (List.not_mem_nil)

/-- No name is listed twice. -/
theorem nodup_instanceMethods (graph : Graph) (id : ClassId) (inherited : Bool) :
    (graph.instanceMethods id inherited).Nodup :=
  nodup_visibleNames _ _

/-- The list does not depend on the order in which the tables hold their entries. -/
theorem DistinctNames.instanceMethods_of_shuffles (hnames : graph.DistinctNames)
    (hshuffles : graph.Shuffles other) (id : ClassId) (inherited : Bool) :
    other.instanceMethods id inherited = graph.instanceMethods id inherited := by
  have hsorted : other.sortedMethods = graph.sortedMethods :=
    funext fun cls => hnames.sortedMethods_of_perm (hshuffles.methods cls)
  rw [instanceMethods, hshuffles.ancestors, hsorted, instanceMethods]

/-! ## Finding a method -/

theorem provides_iff : graph.Provides id name ↔ ∃ entry, graph.findMethod? id name = some entry := by
  simp only [Provides, findMethod?, Option.filter_eq_some_iff]

theorem exposes_iff :
    graph.Exposes id name ↔ ∃ entry, graph.findMethod? id name = some entry ∧ ¬ entry.isPrivate := by
  simp only [Exposes, findMethod?, Option.filter_eq_some_iff, and_assoc]

theorem methodDefined_iff : graph.methodDefined id name ↔ graph.Exposes id name := by
  rw [methodDefined, Option.any_eq_true, exposes_iff]
  simp only [Bool.not_eq_true', Bool.not_eq_true]

end ObjectModel.Graph
