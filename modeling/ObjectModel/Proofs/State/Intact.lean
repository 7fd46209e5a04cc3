import ObjectModel.Proofs.State.Homes

/-! # Intact builtin methods

A builtin method stands in its home as the last installation put it there, until another method is put in its
place or it is taken out. An installation puts all builtin methods into their homes, where each of them has a
place of its own, so after it all are intact. All changes that write to none of these places keep them so.
-/

namespace ObjectModel

namespace Graph

variable {graph first second : Graph} {id : ClassId}

theorem update_of_same {change : ClassRecord → ClassRecord}
    (hsame : change (graph.record id) = graph.record id) : graph.update id change = graph := by
  obtain ⟨records⟩ := graph
  apply congrArg Graph.mk
  apply List.ext_getElem?
  intro position
  rw [List.getElem?_modify]
  change _ <$> records[position]? = records[position]?
  cases hrecord : records[position]? with
  | none => rfl
  | some found =>
      by_cases hposition : id.index = position
      · rw [record, hposition, hrecord] at hsame
        exact congrArg some ((if_pos hposition).trans hsame)
      · exact congrArg some (if_neg hposition)

/-- A class that is there keeps its methods when no method table is written to. -/
theorem Develops.methods (hdevelops : first.Develops second) (hid : first.Has id) :
    (second.record id).methods = (first.record id).methods := by
  have hrewrite {changed : ClassId} {change : ClassRecord → ClassRecord}
      (hmethods : ∀ record : ClassRecord, (change record).methods = record.methods) :
      ((first.update changed change).record id).methods = (first.record id).methods :=
    @forall_record_update (fun first second => second.methods = first.methods) first changed _
      (fun _ => rfl) hmethods id
  cases hdevelops with
  | extension hextends =>
      obtain ⟨slot, _, hrecord⟩ := hextends.record hid
      rw [hrecord]
  | mix hchange => rcases hchange with rfl | rfl <;> exact hrewrite fun _ => rfl
  | rewrite _ hmethods => exact hrewrite hmethods

/-! ## Homes -/

/-- Every builtin method has a home. -/
theorem Sound.exists_home (hsound : graph.Sound) (builtin : Builtin) :
    ∃ home, graph.home? builtin = some home := by
  rw [home?]
  split
  · have hkind : (graph.record builtin.owner.id).kind ≠ .singleton := by
      rw [hsound.mirrored.core_kind]
      cases builtin.owner <;> decide
    exact Option.isSome_iff_exists.mp (hsound.filled _ (hsound.stacked.has_core builtin.owner) hkind)
  · exact ⟨_, rfl⟩

/-- A class is the home of the builtin methods that are meant for one core class, either for its instances or
for the class itself. -/
theorem Mirrored.eq_of_home (hmirrored : graph.Mirrored) {first second : Builtin} {home : ClassId}
    (hfirst : graph.home? first = some home) (hsecond : graph.home? second = some home) :
    first.owner = second.owner ∧ first.onMetaclass = second.onMetaclass := by
  -- a metaclass is no core class, since it is attached to something
  have hcore (core other : CoreClass) (hslot : (graph.record core.id).metaclass = some other.id) : False := by
    have hkind := hmirrored.toPlaced.kind_of_attached (hmirrored.mirrors hslot).1
    rw [hmirrored.core_kind] at hkind
    cases other <;> cases hkind
  rw [home?] at hfirst hsecond
  split at hfirst <;> split at hsecond
  next hone htwo =>
    have hattached := (hmirrored.mirrors hfirst).1.symm.trans (hmirrored.mirrors hsecond).1
    injection hattached with hvalue
    injection hvalue with hid
    exact ⟨CoreClass.id_injective hid, hone.trans htwo.symm⟩
  next => exact (hcore _ _ (hfirst.trans hsecond.symm)).elim
  next => exact (hcore _ _ (hsecond.trans hfirst.symm)).elim
  next hone htwo =>
    have hid := Option.some.inj (hfirst.trans hsecond.symm)
    exact ⟨CoreClass.id_injective hid, (Bool.eq_false_of_not_eq_true hone).trans
      (Bool.eq_false_of_not_eq_true htwo).symm⟩

end Graph

/-! ## Places of builtin methods -/

/-- Where a registration puts its method, said without a class graph. -/
def Registration.place (registration : Registration) : CoreClass × Bool × String :=
  (registration.builtin.owner, registration.builtin.onMetaclass, registration.name)

/-- Each builtin method has a place of its own. -/
theorem Builtin.nodup_places : (Builtin.registrations.map Registration.place).Nodup := by
  decide +kernel

namespace State

variable {state later : State} {installation : Nat} {registration other : Registration}

/-- A class and a name are where a registration puts its method. -/
def IsPlace (state : State) (registration : Registration) (id : ClassId) (name : Symbol) : Prop :=
  state.graph.home? registration.builtin = some id ∧ state.names.find? registration.name = some name

/-- No two registrations put their methods into one place. -/
theorem Sound.place_injective (hsound : state.Sound) {id : ClassId} {name : Symbol}
    (hfirst : state.IsPlace registration id name) (hsecond : state.IsPlace other id name) :
    registration.place = other.place := by
  obtain ⟨howner, hmeta⟩ := hsound.graph.mirrored.eq_of_home hfirst.1 hsecond.1
  rw [Registration.place, howner, hmeta, Interner.eq_of_find hfirst.2 hsecond.2, Registration.place]

/-- The entry that an installation puts into a class for a registration. -/
def installedEntry (home : ClassId) (registration : Registration) (installation : Nat) : MethodEntry :=
  { owner := home, body := .builtin registration.builtin installation, visibility := registration.visibility }

/-- A builtin method stands in its home as an installation puts it there. -/
def Installed (state : State) (installation : Nat) (registration : Registration) : Prop :=
  ∃ home name, state.IsPlace registration home name ∧
    (state.graph.record home).methods.find? name = some (installedEntry home registration installation)

/-- No builtin method was overridden, removed, undefined or given another visibility: all stand as the last
installation put them. -/
def Intact (state : State) : Prop :=
  ∀ registration ∈ Builtin.registrations, state.Installed (state.installations - 1) registration

/-! ## Putting methods in -/

/-- What putting one builtin method in does, when its home is known. -/
theorem installOne_of_home {home : ClassId} (hhome : state.graph.home? registration.builtin = some home) :
    state.installOne installation registration =
      (Change.putMethod home (state.names.intern registration.name).1 (.builtin registration.builtin installation)
        registration.visibility).apply ((Change.intern registration.name).apply state) := by
  have howner : state.builtinOwner registration.builtin = (home, state) := by
    rw [Graph.home?] at hhome
    rw [builtinOwner]
    split at hhome
    next hmeta =>
      rw [if_pos hmeta, Change.apply, Graph.metaclassOf_of_some hhome]
      rfl
    next hmeta => rw [if_neg hmeta, Option.some.inj hhome]
  rw [installOne_eq, howner]

/-- Putting in a builtin method that stands there. -/
theorem Installed.installOne (hinstalled : state.Installed installation registration) :
    state.installOne installation registration = state := by
  obtain ⟨home, name, ⟨hhome, hname⟩, hentry⟩ := hinstalled
  have hput : state.graph.update home (.putMethod name (installedEntry home registration installation)) =
      state.graph := by
    apply Graph.update_of_same
    rw [ClassRecord.putMethod, Table.insert_of_find hentry]
  rw [installOne_of_home hhome, Change.apply, Interner.intern_of_find hname]
  exact congrArg (fun graph => { state with graph }) hput

theorem Installed.foldl {registrations : List Registration}
    (hinstalled : ∀ registration ∈ registrations, state.Installed installation registration) :
    registrations.foldl (State.installOne installation) state = state := by
  induction registrations with
  | nil => rfl
  | cons registration rest ih =>
      rw [List.foldl_cons, (hinstalled registration List.mem_cons_self).installOne]
      exact ih fun other hother => hinstalled other (List.mem_cons_of_mem _ hother)

/-! ## Changes that spare them -/

/-- A builtin method stands as it did when its place still holds what it held. -/
theorem Installed.keep (hinstalled : state.Installed installation registration)
    (hwidens : state.graph.Widens later.graph) (hnames : state.names.Grows later.names)
    (hentry : ∀ {home name}, state.IsPlace registration home name →
      (later.graph.record home).methods.find? name = (state.graph.record home).methods.find? name) :
    later.Installed installation registration := by
  obtain ⟨home, name, hplace, hfind⟩ := hinstalled
  exact ⟨home, name, ⟨hwidens.home hplace.1, hnames.find hplace.2⟩, (hentry hplace).trans hfind⟩

/-- A method table changed at another place. -/
theorem Installed.changeClass (hinstalled : state.Installed installation registration) (hsound : state.Sound)
    {id : ClassId} {name : Symbol} (hspared : ¬ state.IsPlace registration id name)
    {change : ClassRecord → ClassRecord} (hframe : ∀ record : ClassRecord, record.SameFrame (change record))
    (hothers : ∀ record : ClassRecord, ∀ other ≠ name,
      (change record).methods.find? other = record.methods.find? other) :
    (state.changeClass id change).Installed installation registration := by
  have hwidens := hsound.graph.stacked.widens_of_sameFrame (state.graph.sameFrame_update id hframe)
  refine hinstalled.keep hwidens (List.prefix_refl _) fun {home found} hplace => ?_
  rcases state.graph.record_update id home change with hsame | ⟨rfl, _, hchanged⟩
  · exact congrArg (fun record : ClassRecord => record.methods.find? found) hsame
  · refine (congrArg (fun record : ClassRecord => record.methods.find? found) hchanged).trans ?_
    exact hothers _ found fun hname : found = name => hspared (hname ▸ hplace)

theorem Installed.putMethod (hinstalled : state.Installed installation registration) (hsound : state.Sound)
    {id : ClassId} {name : Symbol} (hspared : ¬ state.IsPlace registration id name) (body : Body)
    (visibility : Visibility) :
    ((Change.putMethod id name body visibility).apply state).Installed installation registration :=
  hinstalled.changeClass hsound hspared (fun record => record.sameFrame_with _ _ _ _ _ _)
    fun record _ hother => Table.find?_insert_of_ne hother record.methods _

theorem Installed.eraseMethod (hinstalled : state.Installed installation registration) (hsound : state.Sound)
    {id : ClassId} {name : Symbol} (hspared : ¬ state.IsPlace registration id name) :
    ((Change.eraseMethod id name).apply state).Installed installation registration :=
  hinstalled.changeClass hsound hspared (fun record => record.sameFrame_with _ _ _ _ _ _)
    fun record _ hother => Table.find?_erase_of_ne hother record.methods

/-- A change that writes to no method table. -/
theorem Installed.develops (hinstalled : state.Installed installation registration) (hsound : state.Sound)
    {change : Change} (hfits : change.Fits state) (hwrites : ¬ change.WritesMethods) :
    (change.apply state).Installed installation registration := by
  have hdevelops := hsound.develops hfits hwrites
  refine hinstalled.keep (hsound.widens hfits hdevelops) (hsound.apply hfits).2.names fun {home name} hplace => ?_
  rw [hdevelops.methods (hsound.graph.stacked.has_home hplace.1)]

/-! ## Installations -/

/-- A builtin method that was just put in stands in its place. -/
theorem Sound.installed_installOne (hsound : state.Sound) (installation : Nat) (registration : Registration) :
    (state.installOne installation registration).Installed installation registration := by
  obtain ⟨home, hhome⟩ := hsound.graph.exists_home registration.builtin
  have hstacked := hsound.graph.stacked
  have hwidens := hstacked.widens_of_sameFrame (state.graph.sameFrame_putMethod home
    (state.names.intern registration.name).1 (installedEntry home registration installation))
  rw [installOne_of_home hhome]
  refine ⟨home, _, ⟨hwidens.home hhome, Interner.find_intern_self _ _⟩, ?_⟩
  refine (congrArg (fun record : ClassRecord => record.methods.find? _)
    (Graph.record_update_self (hstacked.has_home hhome) _)).trans ?_
  exact Table.find?_insert_self _ _ _

/-- One that stands in its place stays there when another one is put in. -/
theorem Installed.installOne_of_ne (hinstalled : state.Installed installation registration)
    (hsound : state.Sound) (hother : registration.place ≠ other.place) :
    (state.installOne installation other).Installed installation registration := by
  obtain ⟨home, hhome⟩ := hsound.graph.exists_home other.builtin
  have hnamed := (hsound.intern other.name).1
  have hstill : ((Change.intern other.name).apply state).Installed installation registration :=
    hinstalled.develops hsound trivial id
  rw [installOne_of_home hhome]
  refine hstill.putMethod hnamed (fun hplace => hother ?_) _ _
  exact hnamed.place_injective hplace ⟨hhome, Interner.find_intern_self _ _⟩

theorem Installed.foldl_of_ne (hinstalled : state.Installed installation registration) (hsound : state.Sound)
    (hcount : installation < state.installations) {registrations : List Registration}
    (hothers : ∀ other ∈ registrations, registration.place ≠ other.place) :
    (registrations.foldl (State.installOne installation) state).Installed installation registration := by
  induction registrations generalizing state with
  | nil => exact hinstalled
  | cons other rest ih =>
      obtain ⟨hnext, _, hsame⟩ := hsound.installOne hcount other
      have hstill := hinstalled.installOne_of_ne hsound (hothers other List.mem_cons_self)
      exact ih hstill hnext (hsame.symm ▸ hcount) fun later hlater => hothers later (List.mem_cons_of_mem _ hlater)

/-- Builtin methods with places of their own all stand there when they were put in. -/
theorem Sound.installed_foldl (hsound : state.Sound) (hcount : installation < state.installations)
    {registrations : List Registration} (hplaces : (registrations.map Registration.place).Nodup) :
    ∀ registration ∈ registrations,
      (registrations.foldl (State.installOne installation) state).Installed installation registration := by
  induction registrations generalizing state with
  | nil => exact fun _ hnone => absurd hnone List.not_mem_nil
  | cons first rest ih =>
      obtain ⟨hfirst, hrest⟩ := List.nodup_cons.mp hplaces
      obtain ⟨hnext, _, hsame⟩ := hsound.installOne hcount first
      have hlast : installation < (state.installOne installation first).installations := hsame.symm ▸ hcount
      intro registration hregistration
      rcases List.mem_cons.mp hregistration with rfl | hlater
      · exact (hsound.installed_installOne installation registration).foldl_of_ne hnext hlast
          fun other hother hplace => hfirst (hplace ▸ List.mem_map_of_mem hother)
      · exact ih hnext hlast hrest registration hlater

/-- After an installation the builtin methods are intact, whatever was done to them before. -/
theorem Sound.intact_installBuiltins (hsound : state.Sound) : state.installBuiltins.Intact := by
  obtain ⟨hcounted, _⟩ := hsound.withInstallations (Nat.le_succ state.installations)
  have hall := hcounted.installed_foldl (Nat.lt_succ_self _) Builtin.nodup_places
  rw [State.foldl_installOne] at hall
  exact hall

/-! ## Intact all along -/

end State

/-- A change leaves the places of the builtin methods alone, or it puts all of them in. -/
def Change.SparesBuiltins (state : State) : Change → Prop
  | .putMethod id name _ _ | .eraseMethod id name =>
      ∀ registration ∈ Builtin.registrations, ¬ state.IsPlace registration id name
  | _ => True

namespace State

variable {state : State}

/-- Only an installation is counted as one. -/
theorem installations_apply (state : State) {change : Change} (hinstall : change ≠ .installBuiltins) :
    (change.apply state).installations = state.installations := by
  have hsame {α : Type} (result : Except Fault (α × Graph)) :
      (state.orSame result).installations = state.installations := by
    cases result <;> rfl
  cases change with
  | newClass superclass => exact hsame _
  | includeModule id mixin => exact hsame _
  | prependModule id mixin => exact hsame _
  | putVariable value => cases value <;> rfl
  | freeze value => cases value <;> rfl
  | installBuiltins => exact absurd rfl hinstall
  | _ => rfl

/-- Builtin methods stay intact when their places are spared. -/
theorem Sound.intact_apply (hsound : state.Sound) (hintact : state.Intact) {change : Change}
    (hfits : change.Fits state) (hspares : change.SparesBuiltins state) : (change.apply state).Intact := by
  by_cases hinstall : change = .installBuiltins
  · exact hinstall ▸ hsound.intact_installBuiltins
  · intro registration hregistration
    rw [installations_apply state hinstall]
    have hinstalled := hintact registration hregistration
    cases change with
    | putMethod id name body visibility =>
        exact hinstalled.putMethod hsound (hspares registration hregistration) body visibility
    | eraseMethod id name => exact hinstalled.eraseMethod hsound (hspares registration hregistration)
    | installBuiltins => exact absurd rfl hinstall
    | _ => exact hinstalled.develops hsound hfits id

theorem Sound.intact_foldl_nameEncoding (hsound : state.Sound) (hintact : state.Intact)
    {pairs : List (EncodingId × String)} (hpairs : pairs ⊆ encodingConstants) :
    (pairs.foldl State.nameEncoding state).Intact := by
  induction pairs generalizing state with
  | nil => exact hintact
  | cons pair rest ih =>
      obtain ⟨hpair, hrest⟩ := List.cons_subset.mp hpairs
      have hcatalog := lt_of_mem_encodingConstants hpair
      have hnamed := (hsound.intern pair.2).1
      have hinterned : ((Change.intern pair.2).apply state).Intact := hsound.intact_apply hintact trivial trivial
      refine ih (hsound.nameEncoding hcatalog).1 ?_ hrest
      rcases state.nameEncoding_eq pair with heq | heq
      · exact heq ▸ hinterned
      · rw [heq]
        exact hnamed.intact_apply hinterned
          ⟨hnamed.graph.stacked.has_core .encoding, state.names.has_intern pair.2, hcatalog⟩ trivial

theorem intact_standard : standard.Intact :=
  sound_bare.installBuiltins.1.intact_foldl_nameEncoding sound_bare.intact_installBuiltins (List.Subset.refl _)

/-- The builtin methods of a new object model are intact. -/
theorem intact_initial (options : Options) (defaults : Encoding.Defaults) (configuration : Config.Settings) :
    (initial options defaults configuration).Intact := by
  -- said of any state, so that the standard one is not evaluated
  have hsame : ∀ state : State,
      ({ state with options, defaults, configuration } : State).Intact ↔ state.Intact := fun _ => .rfl
  exact (hsame standard).mpr intact_standard

end State

end ObjectModel
