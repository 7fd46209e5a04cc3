import ObjectModel.Proofs.State.Constants
import ObjectModel.Proofs.State.ConstantTables

/-! # Listing constants

A listing gathers the public names of the tables of a class and of its ancestors up to `Object`, while a lookup takes the
first table that has the name and then asks whether the entry is public. So a public name that is found first is
listed, but a listed name is not always one that can be read: a private entry may stand in front of the public one.
-/

namespace ObjectModel

namespace Graph

variable {graph : Graph} {id owner : ClassId} {name : Symbol} {entry : ConstantEntry}
  {inherited : Bool}

/-! ## The tables that are read -/

/-- The classes whose tables are searched for a constant: the ancestors, and then `Object` for a module. -/
def constantPath (graph : Graph) (id : ClassId) : List ClassId :=
  graph.ancestors id ++ if graph.isModule id then [CoreClass.object.id] else []

/-- The ancestors of a class that stand before `Object`; for `Object` itself all of them. -/
def ancestorsBeforeObject (graph : Graph) (id : ClassId) : List ClassId :=
  (graph.ancestors id).takeWhile fun ancestor => ancestor ≠ CoreClass.object.id || id = CoreClass.object.id

/-- The public constants of a class are listed for another one: they are the same, or inherited constants are wanted and
the first is an ancestor that stands before `Object`. -/
def Lists (graph : Graph) (id : ClassId) (inherited : Bool) (scope : ClassId) : Prop :=
  scope = id ∨ inherited ∧ scope ∈ graph.ancestorsBeforeObject id

theorem resolveConstant_eq (graph : Graph) (id : ClassId) (name : Symbol) :
    graph.resolveConstant? id name =
      (graph.constantPath id).findSome? fun scope => graph.ownConstant? scope name := by
  rw [resolveConstant?, constantPath, List.findSome?_append]
  cases (graph.ancestors id).findSome? fun scope => graph.ownConstant? scope name with
  | some found => rfl
  | none =>
      cases graph.isModule id with
      | false => rfl
      | true =>
          change graph.ownConstant? CoreClass.object.id name = _
          simp

/-- The entry that is found stands in the first table that has the name. -/
theorem resolveConstant_eq_some : graph.resolveConstant? id name = some (owner, entry) ↔
    ∃ front back, graph.constantPath id = front ++ owner :: back ∧
      (graph.record owner).constants.find? name = some entry ∧
      ∀ scope ∈ front, (graph.record scope).constants.find? name = none := by
  rw [resolveConstant_eq, List.findSome?_eq_some_iff]
  constructor
  · rintro ⟨front, scope, back, hpath, hown, hfront⟩
    obtain ⟨found, hfind, hpair⟩ := Option.map_eq_some_iff.mp hown
    obtain ⟨rfl, rfl⟩ := Prod.mk.inj hpair
    exact ⟨front, back, hpath, hfind, fun other hother => Option.map_eq_none_iff.mp (hfront other hother)⟩
  · rintro ⟨front, back, hpath, hfind, hfront⟩
    refine ⟨front, owner, back, hpath, Option.map_eq_some_iff.mpr ⟨entry, hfind, rfl⟩, ?_⟩
    exact fun other hother => Option.map_eq_none_iff.mpr (hfront other hother)

/-- It does not matter that the class is left out before the ancestors are cut, since it is `Object` only if nothing is
cut. -/
theorem constantScopes_eq (graph : Graph) (id : ClassId) :
    graph.constantScopes id = (graph.ancestorsBeforeObject id).filter (· ≠ id) := by
  rw [constantScopes, List.takeWhile_filter, ancestorsBeforeObject]
  congr 2
  funext ancestor
  by_cases hancestor : ancestor = id
  · by_cases hobject : id = CoreClass.object.id <;> simp [hancestor, hobject]
  · simp [hancestor]

theorem mem_listed_iff {scope : ClassId} :
    scope ∈ id :: (if inherited then graph.constantScopes id else []) ↔ graph.Lists id inherited scope := by
  rw [List.mem_cons, Lists]
  cases inherited with
  | false => simp
  | true =>
      rw [if_pos rfl, constantScopes_eq, List.mem_filter]
      by_cases hself : scope = id <;> simp [hself]

/-- Every class whose constants are listed is searched. -/
theorem Lists.mem_constantPath (hlists : graph.Lists id inherited owner) (hstacked : graph.Stacked)
    (hid : graph.Has id) : owner ∈ graph.constantPath id := by
  apply List.mem_append_left
  rcases hlists with rfl | ⟨-, hbefore⟩
  · exact hstacked.self_mem_ancestors hid
  · exact (List.takeWhile_sublist _).mem hbefore

/-! ## What is listed -/

theorem DistinctConstants.mem_publicConstants (hdistinct : graph.DistinctConstants) :
    name ∈ (graph.record id).publicConstants ↔
      ∃ entry, (graph.record id).constants.find? name = some entry ∧ ¬ entry.isPrivate := by
  rw [ClassRecord.publicConstants, List.mem_map]
  constructor
  · rintro ⟨pair, hpair, rfl⟩
    obtain ⟨hmem, hpublic⟩ := List.mem_filter.mp hpair
    exact ⟨pair.2, Table.look_of_mem (hdistinct id) hmem, by simpa using hpublic⟩
  · rintro ⟨entry, hfind, hpublic⟩
    exact ⟨(name, entry), List.mem_filter.mpr ⟨Table.mem_of_find hfind, by simpa using hpublic⟩, rfl⟩

/-- A name is listed if one of the tables that are gathered has a public entry for it. -/
theorem DistinctConstants.mem_constantNames (hdistinct : graph.DistinctConstants) :
    name ∈ graph.constantNames id inherited ↔ ∃ scope entry, graph.Lists id inherited scope ∧
      (graph.record scope).constants.find? name = some entry ∧ ¬ entry.isPrivate := by
  rw [constantNames, List.mem_eraseDups, List.mem_flatMap]
  constructor
  · rintro ⟨scope, hscope, hpublic⟩
    obtain ⟨entry, hentry⟩ := hdistinct.mem_publicConstants.mp hpublic
    exact ⟨scope, entry, mem_listed_iff.mp hscope, hentry⟩
  · rintro ⟨scope, entry, hlists, hentry⟩
    exact ⟨scope, mem_listed_iff.mpr hlists, hdistinct.mem_publicConstants.mpr ⟨entry, hentry⟩⟩

/-- The entry of a name in the table of `owner` stands in front of a public one in a table that is gathered. -/
def Shadows (graph : Graph) (id : ClassId) (inherited : Bool) (owner : ClassId) (name : Symbol) : Prop :=
  ∃ front back scope entry, graph.constantPath id = front ++ owner :: back ∧ scope ∈ back ∧
    graph.Lists id inherited scope ∧ (graph.record scope).constants.find? name = some entry ∧
    ¬ entry.isPrivate

/-- A listed name is found; and if what is found is private, then it stands in front of what is listed. -/
theorem DistinctConstants.resolve_of_listed (hdistinct : graph.DistinctConstants)
    (hstacked : graph.Stacked) (hid : graph.Has id) (hname : name ∈ graph.constantNames id inherited) :
    ∃ owner entry, graph.resolveConstant? id name = some (owner, entry) ∧
      (entry.isPrivate → graph.Shadows id inherited owner name) := by
  obtain ⟨scope, listed, hlists, hlisted, hpublic⟩ := hdistinct.mem_constantNames.mp hname
  cases hresolve : graph.resolveConstant? id name with
  | none =>
      rw [resolveConstant_eq, List.findSome?_eq_none_iff] at hresolve
      have hmissing := hresolve scope (hlists.mem_constantPath hstacked hid)
      rw [ownConstant?, hlisted] at hmissing
      cases hmissing
  | some pair =>
      obtain ⟨owner, entry⟩ := pair
      refine ⟨owner, entry, rfl, fun hprivate => ?_⟩
      obtain ⟨front, back, hpath, hfound, hfront⟩ := resolveConstant_eq_some.mp hresolve
      refine ⟨front, back, scope, listed, hpath, ?_, hlists, hlisted, hpublic⟩
      -- the listed table is searched, but neither before the owner nor as the owner
      have hsearched := hlists.mem_constantPath hstacked hid
      rw [hpath, List.mem_append, List.mem_cons] at hsearched
      rcases hsearched with hbefore | rfl | hbehind
      · rw [hfront scope hbefore] at hlisted
        cases hlisted
      · obtain rfl := Option.some.inj (hfound.symm.trans hlisted)
        exact absurd hprivate hpublic
      · exact hbehind

end Graph

namespace State

variable {state : State} {scope : ClassId} {inherited : Bool} {name : String}

/-! ## Reading what is listed -/

/-- Reading a constant gives a value. -/
def CanRead (state : State) (scope : ClassId) (name : String) : Prop :=
  ∃ value, state.result (constantGet scope name) = .ok value

/-- The table of `owner` stands in front of a public constant of a name that is listed. -/
def Shadows (state : State) (scope : ClassId) (inherited : Bool) (owner : ClassId) (name : String) : Prop :=
  ∃ symbol, state.names.find? name = some symbol ∧ state.graph.Shadows scope inherited owner symbol

theorem resolve_of_find {symbol : Symbol} (hname : state.names.find? name = some symbol) :
    state.resolveConstant? scope name false = state.graph.resolveConstant? scope symbol := by
  rw [resolveConstant?, hname]
  rfl

/-- A constant can be read if its name may be one and what is found is public. -/
theorem canRead_iff {owner : ClassId} {entry : ConstantEntry}
    (hresolve : state.resolveConstant? scope name false = some (owner, entry)) :
    state.CanRead scope name ↔ Name.isConstant name ∧ ¬ entry.isPrivate := by
  rcases state.run_constantGet scope name with
    ⟨other, found, warnings, hrun, hname, hfound, hpublic⟩ | ⟨fault, hrun, hprivate⟩
  · obtain ⟨-, rfl⟩ := Prod.mk.inj (Option.some.inj (hresolve.symm.trans hfound))
    exact iff_of_true ⟨_, congrArg Prod.fst hrun⟩ ⟨hname, hpublic⟩
  · refine iff_of_false ?_ fun hpublic => hpublic.2 (hprivate owner entry hpublic.1 hresolve)
    rintro ⟨value, hvalue⟩
    cases hvalue.symm.trans (congrArg Prod.fst hrun)

/-- A symbol that is listed is found under its text. -/
theorem Unambiguous.find_symbolText (hunambiguous : state.Unambiguous) (hsound : state.Sound)
    {symbol : Symbol} (hlisted : symbol ∈ state.graph.constantNames scope inherited) :
    state.names.find? (state.symbolText symbol) = some symbol := by
  obtain ⟨other, entry, hentry⟩ := Graph.exists_of_constantNames hlisted
  exact State.find_symbolText hunambiguous.names ((hsound.record other).constants _ hentry).1

/-- Just the texts of listed symbols are listed. -/
theorem Unambiguous.mem_constants (hunambiguous : state.Unambiguous) (hsound : state.Sound) :
    name ∈ state.constants scope inherited ↔
      ∃ symbol, state.names.find? name = some symbol ∧
        symbol ∈ state.graph.constantNames scope inherited := by
  rw [State.constants, List.mem_map]
  constructor
  · rintro ⟨symbol, hlisted, rfl⟩
    exact ⟨symbol, hunambiguous.find_symbolText hsound hlisted, hlisted⟩
  · rintro ⟨symbol, hname, hlisted⟩
    exact ⟨symbol, hlisted, symbolText_of_find hname⟩

theorem Unambiguous.nodup_constants (hunambiguous : state.Unambiguous) (hsound : state.Sound)
    (scope : ClassId) (inherited : Bool) : (state.constants scope inherited).Nodup := by
  refine List.Nodup.map_on ?_ (nodup_eraseDups _)
  intro first hfirst second hsecond hsame
  have hfound := hunambiguous.find_symbolText hsound hfirst
  rw [hsame, hunambiguous.find_symbolText hsound hsecond] at hfound
  exact (Option.some.inj hfound).symm

/-- The listing names no constant twice, and it has every name for which a public constant is found in a table that is
gathered. Each name that it has is found, but it can be read just if what is found is public; a private constant that
is found stands in front of a public one that is gathered, and then the name is listed nevertheless. -/
theorem constants_listed (hreachable : state.Reachable) (hscope : state.graph.Has scope)
    (inherited : Bool) :
    (state.constants scope inherited).Nodup ∧
    (∀ name ∈ state.constants scope inherited, ∃ owner entry,
      state.resolveConstant? scope name false = some (owner, entry) ∧
      (state.CanRead scope name ↔ Name.isConstant name ∧ ¬ entry.isPrivate) ∧
      (entry.isPrivate → state.Shadows scope inherited owner name)) ∧
    (∀ name owner entry, state.resolveConstant? scope name false = some (owner, entry) →
      ¬ entry.isPrivate → state.graph.Lists scope inherited owner →
        name ∈ state.constants scope inherited) ∧
    ∀ name owner, state.Shadows scope inherited owner name → name ∈ state.constants scope inherited := by
  have hunambiguous := hreachable.unambiguous
  have hsound := hreachable.sound
  refine ⟨hunambiguous.nodup_constants hsound scope inherited, ?_, ?_, ?_⟩
  · intro name hlisted
    obtain ⟨symbol, hname, hlisted⟩ := (hunambiguous.mem_constants hsound).mp hlisted
    obtain ⟨owner, entry, hresolve, hshadows⟩ :=
      hunambiguous.constants.resolve_of_listed hsound.graph.stacked hscope hlisted
    have hfound : state.resolveConstant? scope name false = some (owner, entry) :=
      (resolve_of_find hname).trans hresolve
    exact ⟨owner, entry, hfound, canRead_iff hfound, fun hprivate => ⟨symbol, hname, hshadows hprivate⟩⟩
  · intro name owner entry hfound hpublic hlists
    obtain ⟨symbol, hname, hresolve⟩ := Option.bind_eq_some_iff.mp hfound
    obtain ⟨-, -, -, hentry, -⟩ := Graph.resolveConstant_eq_some.mp hresolve
    exact (hunambiguous.mem_constants hsound).mpr
      ⟨symbol, hname, hunambiguous.constants.mem_constantNames.mpr ⟨owner, entry, hlists, hentry, hpublic⟩⟩
  · rintro name owner ⟨symbol, hname, -, -, other, entry, -, -, hlists, hentry, hpublic⟩
    exact (hunambiguous.mem_constants hsound).mpr
      ⟨symbol, hname, hunambiguous.constants.mem_constantNames.mpr ⟨other, entry, hlists, hentry, hpublic⟩⟩

/-! ## A private constant in front of a public one -/

/-- A class gets a public constant, and its subclass a private one of the same name. -/
def hideLimit : Expr :=
  .sequence [.perform (.defineClass "Base") [.classAt [], .constant .nil] none,
    .perform (.constantSet "LIMIT") [.classAt ["Base"], .constant (.int 1)] none,
    .perform (.defineClass "Child") [.classAt [], .classAt ["Base"]] none,
    .perform (.constantSet "LIMIT") [.classAt ["Child"], .constant (.int 2)] none,
    .perform (.privateConstant "LIMIT") [.classAt ["Child"]] none]

theorem uses_hideLimit : hideLimit.Uses plain.Has := by
  refine .sequence (List.forall_mem_cons.mpr ⟨?_, List.forall_mem_cons.mpr ⟨?_, List.forall_mem_cons.mpr
    ⟨?_, List.forall_mem_cons.mpr ⟨?_, List.forall_mem_singleton.mpr ?_⟩⟩⟩⟩)
  · exact .perform _ nofun (List.forall_mem_cons.mpr
      ⟨.classAt _, List.forall_mem_singleton.mpr (.constant trivial)⟩)
  · exact .perform _ nofun (List.forall_mem_cons.mpr
      ⟨.classAt _, List.forall_mem_singleton.mpr (.constant trivial)⟩)
  · exact .perform _ nofun (List.forall_mem_cons.mpr
      ⟨.classAt _, List.forall_mem_singleton.mpr (.classAt _)⟩)
  · exact .perform _ nofun (List.forall_mem_cons.mpr
      ⟨.classAt _, List.forall_mem_singleton.mpr (.constant trivial)⟩)
  · exact .perform _ nofun (List.forall_mem_singleton.mpr (.classAt _))

/-- The state in which the constant of the subclass is private. -/
def limited : State := plain.after (hideLimit.evaluate (runBody 1) .nil [])

/-- The class with the public constant, and its subclass. -/
def limitedBase : ClassId := ⟨30⟩

def limitedChild : ClassId := ⟨32⟩

theorem reachable_limited : limited.Reachable :=
  reachable_plain.reaches (.single (.evaluate 1 uses_hideLimit))

/-- The subclass lists the name, since its superclass has a public constant for it, but reading it is refused. -/
theorem constants_list_private :
    limited.Reachable ∧ limited.graph.Has limitedChild ∧
      limited.constants limitedChild true = ["LIMIT"] ∧ limited.constants limitedChild false = [] ∧
      limited.result (constantGet limitedChild "LIMIT") =
        .error (.fault (.privateConstant "Child" "LIMIT")) := by
  refine ⟨reachable_limited, ?_⟩
  decide +kernel

/-- In the superclass the name that is listed can be read; in the subclass its own constant stands in front of it. -/
theorem constants_listed_limited :
    limited.CanRead limitedBase "LIMIT" ∧ ¬ limited.CanRead limitedChild "LIMIT" ∧
      limited.Shadows limitedChild true limitedChild "LIMIT" := by
  obtain ⟨hbase, hchild, hlisted, hlists, hpublic, hprivate⟩ :
      limited.graph.Has limitedBase ∧ limited.graph.Has limitedChild ∧
        "LIMIT" ∈ limited.constants limitedBase true ∧ "LIMIT" ∈ limited.constants limitedChild true ∧
        limited.resolveConstant? limitedBase "LIMIT" false = some (limitedBase, ⟨.int 1, false, false⟩) ∧
        limited.resolveConstant? limitedChild "LIMIT" false = some (limitedChild, ⟨.int 2, true, false⟩) := by
    decide +kernel
  obtain ⟨-, hbase, -⟩ := constants_listed reachable_limited hbase true
  obtain ⟨-, hchild, -⟩ := constants_listed reachable_limited hchild true
  obtain ⟨owner, entry, hfound, hread, -⟩ := hbase "LIMIT" hlisted
  obtain ⟨other, hidden, hother, hrefused, hshadows⟩ := hchild "LIMIT" hlists
  obtain ⟨-, rfl⟩ := Prod.mk.inj (Option.some.inj (hfound.symm.trans hpublic))
  obtain ⟨rfl, rfl⟩ := Prod.mk.inj (Option.some.inj (hother.symm.trans hprivate))
  exact ⟨hread.mpr (by decide), fun hcan => (hrefused.mp hcan).2 rfl, hshadows rfl⟩

end State

end ObjectModel
