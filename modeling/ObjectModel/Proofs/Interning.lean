import Mathlib.Data.Finset.Dedup
import Mathlib.Data.Set.Function
import ObjectModel.Proofs.FirstOccurrence
import ObjectModel.Proofs.State.ConstantTables

/-! # Symbols number the texts

Whatever is asked of a table of names, the symbols that it hands out number the texts that it has seen, in the order in
which they came first. A number once given stays, so symbols are told apart just as texts are, and tables with symbols for
their keys are as good as tables with texts.
-/

namespace ObjectModel

/-- What may be asked of a table of names. -/
inductive NameRequest
  | intern (text : String)
  | find (text : String)
  | contains (text : String)
  | resolve (symbol : Symbol)
  deriving DecidableEq, Repr

namespace NameRequest

/-- The table after a request. -/
def serve (names : Interner) : NameRequest → Interner
  | .intern text => (names.intern text).2
  | .find _ | .contains _ | .resolve _ => names

/-- The text that a request brings in. -/
def brought? : NameRequest → Option String
  | .intern text => some text
  | .find _ | .contains _ | .resolve _ => none

end NameRequest

namespace Interner

variable {names : Interner} {requests : List NameRequest} {text : String} {symbol : Symbol}

/-- The table after several requests. -/
def serveAll (names : Interner) (requests : List NameRequest) : Interner :=
  requests.foldl NameRequest.serve names

/-- The texts that requests bring in, again and again if they do so. -/
def brought (requests : List NameRequest) : List String := requests.filterMap NameRequest.brought?

/-! ## One request -/

theorem names_intern (names : Interner) (text : String) :
    (names.intern text).2.names = if text ∈ names.names then names.names else names.names ++ [text] := by
  cases hfind : names.find? text with
  | some symbol =>
      have hmem : text ∈ names.names := by
        by_contra hnew
        cases hfind.symm.trans (find?_eq_none_iff.mpr hnew)
      rw [intern_of_find hfind, if_pos hmem]
  | none => rw [if_neg (find?_eq_none_iff.mp hfind), intern, hfind]

theorem text_intern (names : Interner) (text : String) :
    (names.intern text).2.text? (names.intern text).1 = some text :=
  text_of_find (names.find_intern_self text)

theorem Grows.text_of_text {first second : Interner} (hgrows : first.Grows second)
    (htext : first.text? symbol = some text) : second.text? symbol = some text := by
  obtain ⟨rest, hrest⟩ := hgrows
  obtain ⟨hlt, hthere⟩ := List.getElem?_eq_some_iff.mp htext
  rw [text?, ← hrest, List.getElem?_append_left hlt]
  exact htext

theorem grows_serve (names : Interner) (request : NameRequest) : names.Grows (request.serve names) := by
  cases request with
  | intern text => exact names.grows_intern text
  | find | contains | resolve => exact List.prefix_refl _

/-! ## A run of requests -/

theorem serveAll_append (names : Interner) (first second : List NameRequest) :
    names.serveAll (first ++ second) = (names.serveAll first).serveAll second := List.foldl_append

theorem grows_serveAll (names : Interner) (requests : List NameRequest) :
    names.Grows (names.serveAll requests) := by
  induction requests generalizing names with
  | nil => exact List.prefix_refl _
  | cons request rest ih => exact (grows_serve names request).trans (ih _)

/-- Only what is brought in changes the table. -/
theorem serveAll_eq_internAll (names : Interner) (requests : List NameRequest) :
    names.serveAll requests = names.internAll (brought requests) := by
  induction requests generalizing names with
  | nil => rfl
  | cons request rest ih => cases request <;> exact ih _

/-- A table that starts empty has the texts that were brought in, in the order in which they came first. -/
theorem names_serveAll (requests : List NameRequest) :
    (Interner.empty.serveAll requests).names = (brought requests).eraseDups := by
  rw [serveAll_eq_internAll]
  generalize brought requests = texts
  induction texts using List.reverseRecOn with
  | nil => rfl
  | append_singleton texts text ih =>
      rw [internAll, List.foldl_append]
      change ((Interner.empty.internAll texts).intern text).2.names = _
      rw [names_intern, ih, eraseDups_concat]
      simp only [List.mem_eraseDups]

theorem distinct_serveAll (requests : List NameRequest) : (Interner.empty.serveAll requests).Distinct := by
  rw [Distinct, names_serveAll]
  exact nodup_eraseDups _

theorem mem_serveAll : text ∈ (Interner.empty.serveAll requests).names ↔ text ∈ brought requests := by
  rw [names_serveAll, List.mem_eraseDups]

theorem length_eraseDups (texts : List String) : texts.eraseDups.length = texts.toFinset.card := by
  rw [← List.toFinset_card_of_nodup (nodup_eraseDups texts)]
  congr 1
  ext text
  simp

/-- As many symbols are handed out as there are different texts. -/
theorem size_serveAll (requests : List NameRequest) :
    (Interner.empty.serveAll requests).size = (brought requests).toFinset.card := by
  rw [size, names_serveAll, length_eraseDups]

/-! ## Symbols and texts -/

theorem Distinct.find_iff (hdistinct : names.Distinct) :
    names.find? text = some symbol ↔ names.text? symbol = some text :=
  ⟨text_of_find, hdistinct.find_of_text⟩

/-- A text that is known has its symbol, and bringing it in again changes nothing. -/
theorem intern_of_mem (hmem : text ∈ names.names) :
    (names.intern text).2 = names ∧ names.find? text = some (names.intern text).1 := by
  cases hfind : names.find? text with
  | none => exact absurd hmem (find?_eq_none_iff.mp hfind)
  | some symbol =>
      rw [intern_of_find hfind]
      exact ⟨rfl, rfl⟩

theorem contains_iff : names.contains text ↔ text ∈ names.names := by
  rw [contains, Option.isSome_iff_ne_none, ne_eq, find?_eq_none_iff, not_not]

/-- The symbols of the texts that are known are just those that were handed out. -/
theorem Distinct.bijOn_intern (hdistinct : names.Distinct) :
    Set.BijOn (fun text => (names.intern text).1.index) {text | text ∈ names.names} (Set.Iio names.size) := by
  refine ⟨?_, ?_, ?_⟩
  · intro text hmem
    exact has_of_find (intern_of_mem hmem).2
  · intro first hfirst second hsecond hsame
    have hsymbol : (names.intern first).1 = (names.intern second).1 := congrArg Symbol.mk hsame
    exact eq_of_find (intern_of_mem hfirst).2 (hsymbol ▸ (intern_of_mem hsecond).2)
  · intro index hindex
    obtain ⟨text, htext⟩ : ∃ text, names.text? ⟨index⟩ = some text := ⟨_, List.getElem?_eq_getElem hindex⟩
    refine ⟨text, List.mem_of_getElem? htext, ?_⟩
    dsimp only
    rw [intern_of_find (hdistinct.find_of_text htext)]

/-- The symbol of a text is told by the different texts that came before it. -/
theorem intern_of_brought {before after : List String} (hbrought : brought requests = before ++ text :: after)
    (hfirst : text ∉ before) :
    ((Interner.empty.serveAll requests).intern text).1 = ⟨before.toFinset.card⟩ := by
  have hthere : (Interner.empty.serveAll requests).text? ⟨before.toFinset.card⟩ = some text := by
    obtain ⟨rest, hrest⟩ := exists_eraseDups_append hfirst after
    rw [text?, names_serveAll, hbrought, hrest, ← length_eraseDups, List.getElem?_append_right (Nat.le_refl _),
      Nat.sub_self]
    rfl
  rw [intern_of_find ((distinct_serveAll requests).find_of_text hthere)]

/-- A symbol that was once handed out for a text stands for that text. -/
theorem text_of_handed {earlier later : List NameRequest} (hrequests : requests = earlier ++ .intern text :: later) :
    (Interner.empty.serveAll requests).text? ((Interner.empty.serveAll earlier).intern text).1 = some text := by
  rw [hrequests, serveAll_append]
  exact (grows_serveAll _ later).text_of_text (text_intern _ text)

/-- Symbols that were handed out, one maybe long before the other, are equal just if their texts are. -/
theorem handed_eq_iff {other : String} {earlier earlier' later later' : List NameRequest}
    (hrequests : requests = earlier ++ .intern text :: later)
    (hrequests' : requests = earlier' ++ .intern other :: later') :
    ((Interner.empty.serveAll earlier).intern text).1 = ((Interner.empty.serveAll earlier').intern other).1 ↔
      text = other := by
  have htext := text_of_handed hrequests
  have hother := text_of_handed hrequests'
  constructor
  · intro hsame
    exact Option.some.inj (htext.symm.trans (hsame ▸ hother))
  · rintro rfl
    have hdistinct := distinct_serveAll requests
    exact Option.some.inj ((hdistinct.find_of_text htext).symm.trans (hdistinct.find_of_text hother))

/-- With few different texts a symbol is not cut off by 32 bits. -/
theorem ofNat_index (hfew : (brought requests).toFinset.card < 2 ^ 32)
    (hsymbol : (Interner.empty.serveAll requests).Has symbol) : Symbol.ofNat symbol.index = symbol := by
  have hlt : symbol.index < 2 ^ 32 := by
    calc symbol.index < (Interner.empty.serveAll requests).size := hsymbol
      _ = (brought requests).toFinset.card := size_serveAll requests
      _ < 2 ^ 32 := hfew
  exact congrArg Symbol.mk (Nat.mod_eq_of_lt hlt)

end Interner

namespace State

variable {state later : State} {symbol first second : Symbol}

/-- A symbol that was handed out keeps its text. -/
theorem Grows.symbolText (hgrows : state.Grows later) (hsymbol : state.names.Has symbol) :
    later.symbolText symbol = state.symbolText symbol := by
  obtain ⟨text, htext⟩ : ∃ text, state.names.text? symbol = some text := ⟨_, List.getElem?_eq_getElem hsymbol⟩
  rw [State.symbolText, State.symbolText, hgrows.names.text_of_text htext, htext]

/-- Symbols that were handed out are told apart by their texts. -/
theorem Reachable.symbolText_inj (hreachable : state.Reachable) (hfirst : state.names.Has first)
    (hsecond : state.names.Has second) : state.symbolText first = state.symbolText second ↔ first = second := by
  have hdistinct := hreachable.unambiguous.names
  refine ⟨?_, fun hsame => hsame ▸ rfl⟩
  intro hsame
  have hfind := find_symbolText hdistinct hfirst
  rw [hsame, find_symbolText hdistinct hsecond] at hfind
  exact (Option.some.inj hfind).symm

end State

/-! ## Numbering -/

namespace Interner

/-- Take any requests to a table of names that starts empty, with fewer than 2³² different texts. The texts that were brought
in have the symbols from zero on, each text one of them and no symbol left over, and the symbol of a text is the number of
different texts that came before it. A text is found under a symbol just if the symbol stands for the text. All symbols fit
into 32 bits. What was handed out for a text once, at whatever time, still stands for it, so two of these symbols are equal
just if their texts are. To bring in a text again changes nothing, and what else is asked adds no name. In a running object
model, too, symbols keep their texts and are told apart by them. -/
theorem symbols_number_texts (requests : List NameRequest)
    (hfew : (brought requests).toFinset.card < 2 ^ 32) :
    let names := Interner.empty.serveAll requests
    (Set.BijOn (fun text => (names.intern text).1.index) {text | text ∈ brought requests} (Set.Iio names.size) ∧
      ∀ before text after, brought requests = before ++ text :: after → text ∉ before →
        (names.intern text).1.index = before.toFinset.card) ∧
    (∀ text symbol, names.find? text = some symbol ↔ names.text? symbol = some text) ∧
    (∀ text, names.contains text ↔ text ∈ brought requests) ∧
    (∀ symbol, names.Has symbol → Symbol.ofNat symbol.index = symbol) ∧
    (∀ earlier text later, requests = earlier ++ .intern text :: later →
      let symbol := ((Interner.empty.serveAll earlier).intern text).1
      names.text? symbol = some text ∧
        ∀ earlier' text' later', requests = earlier' ++ .intern text' :: later' →
          (symbol = ((Interner.empty.serveAll earlier').intern text').1 ↔ text = text')) ∧
    (∀ text ∈ brought requests, (names.intern text).2 = names) ∧
    (∀ request : NameRequest, request.brought? = none → request.serve names = names) ∧
    names = Interner.empty.internAll (brought requests) ∧
    ∀ state : State, state.Reachable →
      (∀ first second, state.names.Has first → state.names.Has second →
        (state.symbolText first = state.symbolText second ↔ first = second)) ∧
      ∀ later, state.Reaches later → ∀ symbol, state.names.Has symbol →
        later.names.Has symbol ∧ later.symbolText symbol = state.symbolText symbol := by
  intro names
  have hdistinct : names.Distinct := distinct_serveAll requests
  have hmem {text : String} : text ∈ names.names ↔ text ∈ brought requests := mem_serveAll
  have hbij := hdistinct.bijOn_intern
  simp only [hmem] at hbij
  refine ⟨⟨hbij, ?_⟩, fun _ _ => hdistinct.find_iff, fun _ => contains_iff.trans hmem,
    fun _ hsymbol => ofNat_index hfew hsymbol, ?_, ?_, ?_, serveAll_eq_internAll _ _, ?_⟩
  · intro before text after hbrought hfirst
    exact congrArg Symbol.index (intern_of_brought hbrought hfirst)
  · intro earlier text later hrequests symbol
    exact ⟨text_of_handed hrequests, fun _ _ _ hrequests' => handed_eq_iff hrequests hrequests'⟩
  · intro text hbrought
    exact (intern_of_mem (hmem.mpr hbrought)).1
  · intro request hnone
    cases request with
    | intern text => cases hnone
    | find | contains | resolve => rfl
  · intro state hreachable
    refine ⟨fun _ _ hfirst hsecond => hreachable.symbolText_inj hfirst hsecond, ?_⟩
    intro later hreaches symbol hsymbol
    have hgrows := (hreachable.sound.reaches hreaches).2
    exact ⟨hgrows.names.has hsymbol, hgrows.symbolText hsymbol⟩

/-- A text that comes twice has the same symbol both times, and it counts once for the text after it. -/
theorem symbols_number_repeated_texts :
    let requests : List NameRequest :=
      [.find "to_s", .intern "to_s", .contains "inspect", .intern "to_s", .intern "inspect", .resolve ⟨1⟩]
    let names := Interner.empty.serveAll requests
    (brought requests).toFinset.card < 2 ^ 32 ∧ (names.intern "inspect").1.index = 1 ∧
      (names.intern "inspect").2 = names ∧ names.contains "to_s" ∧
      (Interner.empty.intern "to_s").1 = ((Interner.empty.serveAll (requests.take 3)).intern "to_s").1 ∧
      State.plain.symbolText ⟨0⟩ ≠ State.plain.symbolText ⟨1⟩ := by
  intro requests names
  have hfew : (brought requests).toFinset.card < 2 ^ 32 := by decide
  obtain ⟨⟨-, hnumber⟩, -, hcontains, -, hhanded, hknown, -, -, hreachable⟩ := symbols_number_texts requests hfew
  obtain ⟨-, hsame⟩ := hhanded (requests.take 1) "to_s" (requests.drop 2) rfl
  have hone : State.plain.names.Has ⟨1⟩ := show 1 < State.plain.names.size by decide +kernel
  have hzero : State.plain.names.Has ⟨0⟩ := Nat.lt_trans Nat.zero_lt_one hone
  refine ⟨hfew, hnumber ["to_s", "to_s"] "inspect" [] rfl (by decide), hknown "inspect" (by decide),
    (hcontains "to_s").mpr (by decide), (hsame (requests.take 3) "to_s" (requests.drop 4) rfl).mpr rfl, ?_⟩
  exact fun htexts => absurd (((hreachable _ State.reachable_plain).1 _ _ hzero hone).mp htexts) (by decide)

end Interner

end ObjectModel
