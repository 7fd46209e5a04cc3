import ObjectModel.Config.Settings
import ObjectModel.Proofs.Config.Render
import ObjectModel.Proofs.Table

/-! # Configuration texts

A text with one written literal on a line, each with a key in front of it, and with blank and comment lines anywhere in
between, gives the keys and the literals back in order. If the keys are different and the literals are texts, then it
makes up a configuration that answers each key with its text.
-/

namespace ObjectModel.Config

open Text

/-! ## Lines -/

/-- What may stand in front of an equals sign and is read as it stands there. -/
structure IsKey (key : List Char) : Prop where
  filled : key ≠ []
  trimmed : trim key = key
  single : '\n' ∉ key
  undivided : '=' ∉ key
  noComment : key.head? ≠ some '#'

/-- A line of a configuration text. -/
inductive Line
  /-- A line that says nothing. -/
  | skipped (text : List Char)
  | assignment (key : String) (value : Raw)

namespace Line

def text : Line → List Char
  | skipped text => text
  | assignment key value => key.toList ++ [' ', '=', ' '] ++ value.render

/-- What the line says. -/
def pair? : Line → Option (Raw × Raw)
  | skipped _ => none
  | assignment key value => some (.text key, value)

/-- A line that is passed over is blank or a comment. -/
def Fits : Line → Prop
  | skipped text => '\n' ∉ text ∧ ((∀ character ∈ text, isBlank character) ∨ (trim text).head? = some '#')
  | assignment key value => IsKey key.toList ∧ value.Fits

end Line

/-- The text that consists of several lines. -/
def document (lines : List Line) : String := String.ofList (['\n'].intercalate (lines.map Line.text))

/-! ## Ends of lines -/

theorem newline_not_mem_escape (character : Char) : '\n' ∉ escape character := by
  rw [escape]
  split
  · decide
  · split
    · decide
    · split
      · decide
      · split
        · decide
        next hnewline _ => simpa using Ne.symm hnewline

theorem not_mem_intercalate {character : Char} {separator : List Char} {items : List (List Char)}
    (hseparator : character ∉ separator) (hitems : ∀ item ∈ items, character ∉ item) :
    character ∉ separator.intercalate items := by
  induction items with
  | nil => exact List.not_mem_nil
  | cons first rest ih =>
      obtain ⟨hfirst, hrest⟩ := List.forall_mem_cons.mp hitems
      cases rest with
      | nil => rwa [List.intercalate_singleton]
      | cons second rest =>
          rw [List.intercalate_cons_cons]
          simp [hfirst, hseparator, ih hrest]

/-- A literal is written on one line. -/
theorem newline_not_mem_render {value : Raw} (hfits : value.Fits) : '\n' ∉ value.render := by
  induction hfits with
  | text content =>
      rw [Raw.render]
      simp [newline_not_mem_escape]
  | int =>
      intro hnewline
      exact absurd (isPlain_of_mem_toString hnewline).2 (by decide)
  | bool flag => cases flag <;> decide
  | null => decide
  | list _ ih =>
      rw [Raw.render, Raw.renderAll_eq_map]
      have hseparator : '\n' ∉ [',', ' '] := by decide
      have hitems := not_mem_intercalate hseparator (List.forall_mem_map.mpr ih)
      simp [hitems]

theorem Line.newline_not_mem_text {line : Line} (hfits : line.Fits) : '\n' ∉ line.text := by
  cases line with
  | skipped text => exact hfits.1
  | assignment key value =>
      obtain ⟨hkey, hvalue⟩ := hfits
      simp [Line.text, hkey.single, newline_not_mem_render hvalue]

/-- The lines of a text are those of which it was made. -/
theorem lines_document {texts : List (List Char)} (hlines : ∀ text ∈ texts, '\n' ∉ text)
    (hthere : texts ≠ []) : lines (['\n'].intercalate texts) = texts :=
  List.splitOn_intercalate '\n' hlines hthere

/-! ## Reading a line -/

section

variable {key value : List Char}

/-- A line with a key and a value is cut between them. -/
theorem splitAssignment_eq (hkey : IsKey key) (hvalue : IsTrimmed value) :
    splitAssignment (key ++ [' ', '=', ' '] ++ value) = some (key, value) := by
  have hline : key ++ [' ', '=', ' '] ++ value = (key ++ [' ']) ++ '=' :: ' ' :: value := by simp
  have hbefore : ∀ character ∈ key ++ [' '], (character ≠ '=' : Bool) := by
    intro character hcharacter
    rcases List.mem_append.mp hcharacter with hmem | hmem
    · have hother : character ≠ '=' := fun hsame => hkey.undivided (hsame ▸ hmem)
      exact decide_eq_true hother
    · obtain rfl := List.mem_singleton.mp hmem
      rfl
  rw [hline, splitAssignment, if_pos (by simp), List.takeWhile_append_of_pos hbefore,
    List.dropWhile_append_of_pos hbefore, List.takeWhile_cons_of_neg (by decide),
    List.dropWhile_cons_of_neg (by decide), List.append_nil, trim_concat (by decide), hkey.trimmed,
    List.drop_one, List.tail_cons, trim_cons (by decide), trim_of_isTrimmed hvalue]

theorem trim_assignment (hkey : IsKey key) (hvalue : IsTrimmed value) (hthere : value ≠ []) :
    trim (key ++ [' ', '=', ' '] ++ value) = key ++ [' ', '=', ' '] ++ value := by
  have htrimmed := isTrimmed_trim key
  rw [hkey.trimmed] at htrimmed
  exact trim_of_isTrimmed (isTrimmed_append htrimmed hvalue hkey.filled hthere _)

theorem isSkipped_assignment (hkey : IsKey key) (rest : List Char) :
    isSkipped (key ++ rest) = false := by
  obtain ⟨first, more, rfl⟩ := List.exists_cons_of_ne_nil hkey.filled
  have hfirst : first ≠ '#' := fun hsame => hkey.noComment (hsame ▸ rfl)
  simp [isSkipped, hfirst]

end

theorem readAssignment_render {key : String} {value : Raw} (hkey : IsKey key.toList)
    (hfits : value.Fits) :
    readAssignment (Line.text (.assignment key value)) = some (.text key, value) := by
  rw [readAssignment, Line.text, splitAssignment_eq hkey (isTrimmed_render value), Option.bind_eq_bind,
    Option.bind_some]
  dsimp only
  rw [if_neg hkey.filled, readValue_render hfits, String.ofList_toList]
  rfl

theorem isSkipped_trim {text : List Char}
    (hskipped : (∀ character ∈ text, isBlank character) ∨ (trim text).head? = some '#') :
    isSkipped (trim text) := by
  rw [isSkipped, Bool.or_eq_true, decide_eq_true_eq, decide_eq_true_eq]
  rcases hskipped with hblank | hcomment
  · left
    have hgone := @List.dropWhile_append_of_pos _ isBlank text [] hblank
    rw [List.append_nil, List.dropWhile_nil] at hgone
    rw [trim, hgone]
    rfl
  · exact .inr hcomment

/-- The lines of a text give what they say in order, whatever number the first one has. -/
theorem readLines_text {lines : List Line} (hlines : ∀ line ∈ lines, line.Fits) (number : Nat) :
    readLines number (lines.map Line.text) = .ok (lines.filterMap Line.pair?) := by
  induction lines generalizing number with
  | nil => rfl
  | cons line rest ih =>
      obtain ⟨hline, hrest⟩ := List.forall_mem_cons.mp hlines
      rw [List.map_cons, readLines]
      cases line with
      | skipped text =>
          rw [Line.text, if_pos (isSkipped_trim hline.2), ih hrest]
          rfl
      | assignment key value =>
          obtain ⟨hkey, hvalue⟩ := hline
          have htrimmed : trim (Line.text (.assignment key value)) = Line.text (.assignment key value) :=
            trim_assignment hkey (isTrimmed_render value) (render_ne_nil value)
          rw [htrimmed, readAssignment_render hkey hvalue, ih hrest, if_neg]
          · rfl
          · rw [Line.text, List.append_assoc, isSkipped_assignment hkey]
            exact Bool.false_ne_true

/-- A text of written lines is a source of what they say. -/
theorem pairs_document {lines : List Line} (hlines : ∀ line ∈ lines, line.Fits) (installed : Bool) :
    Source.pairs { origin := .text (document lines), installed } =
      .ok (lines.filterMap Line.pair?) := by
  rw [Source.pairs, document]
  dsimp only
  rw [String.toList_ofList]
  cases lines with
  | nil => rfl
  | cons first rest =>
      have htexts : ∀ text ∈ (first :: rest).map Line.text, '\n' ∉ text :=
        List.forall_mem_map.mpr fun line hline => Line.newline_not_mem_text (hlines line hline)
      rw [lines_document htexts (by simp), readLines_text hlines]

/-! ## Settings -/

/-- A key and the entry that it gets for a text. -/
def keep (frozen : Bool) (pair : String × String) : String × Entry :=
  (pair.1, { value := pair.2, frozen })

theorem keys_keep (frozen : Bool) (pairs : List (String × String)) :
    (pairs.map (keep frozen)).map Prod.fst = pairs.map Prod.fst := by
  rw [List.map_map]
  rfl

/-- Texts under different keys that are new to a table are put at its end, in order. -/
theorem addPairs_texts (frozen : Bool) {pairs : List (String × String)}
    (hkeys : (pairs.map Prod.fst).Nodup) {table : Table String Entry}
    (hnew : ∀ key ∈ pairs.map Prod.fst, table.find? key = none) :
    Settings.addPairs frozen table (pairs.map fun pair => (.text pair.1, .text pair.2)) =
      .ok ⟨table.entries ++ pairs.map (keep frozen)⟩ := by
  induction pairs generalizing table with
  | nil =>
      rw [List.map_nil, List.map_nil, List.append_nil]
      rfl
  | cons pair rest ih =>
      obtain ⟨hfirst, hrest⟩ := List.nodup_cons.mp hkeys
      obtain ⟨hfree, hothers⟩ := List.forall_mem_cons.mp hnew
      have hchecked : Settings.checkPair table (.text pair.1, .text pair.2) = .ok pair := by
        simp only [Settings.checkPair, Table.contains, hfree]
        rfl
      have hstill : ∀ key ∈ rest.map Prod.fst,
          (table.insert pair.1 { value := pair.2, frozen }).find? key = none := by
        intro key hkey
        rw [Table.find?_insert_of_ne (by rintro rfl; exact hfirst hkey), hothers key hkey]
      rw [List.map_cons, Settings.addPairs, hchecked]
      change Settings.addPairs frozen (table.insert pair.1 { value := pair.2, frozen }) _ = _
      rw [ih hrest hstill, Table.insert, Table.put_of_look_none hfree, List.append_assoc,
        List.singleton_append, List.map_cons]
      rfl

/-- A source of texts under different keys makes up a configuration of just these. -/
theorem ofSource_texts {source : Source} {pairs : List (String × String)} (policy : Policy)
    (hpairs : source.pairs = .ok (pairs.map fun pair => (.text pair.1, .text pair.2)))
    (hkeys : (pairs.map Prod.fst).Nodup) :
    ∃ settings, Settings.ofSource source policy = .ok settings ∧ settings.entries = pairs ∧
      ∀ pair ∈ pairs, settings.get? pair.1 = some pair.2 := by
  have hadded := @addPairs_texts (policy = .frozen) pairs hkeys Table.empty fun _ _ => rfl
  refine ⟨{ table := ⟨pairs.map (keep (policy = .frozen))⟩, installed := source.installed }, ?_, ?_, ?_⟩
  · rw [Settings.ofSource, hpairs]
    change (Settings.addPairs (policy = .frozen) Table.empty _ >>= _) = _
    rw [hadded]
    rfl
  · rw [Settings.entries, List.map_map]
    exact List.map_id pairs
  · intro pair hpair
    have hdifferent : ((pairs.map (keep (policy = Policy.frozen))).map Prod.fst).Nodup := by
      rwa [keys_keep]
    have hfound := Table.look_of_mem hdifferent (List.mem_map_of_mem hpair)
    rw [Settings.get?, Table.find?, hfound, Option.map_some]

/-! ## Configuration texts are read back -/

/-- Every literal is read back from how it is written. So a text with one written literal and its key on a line, and with
any blank and comment lines, gives the keys and literals in order; and if the keys are different and the literals are
texts, it makes up a configuration that answers each key with its text, unchanged. -/
theorem written_literals_read_back :
    (∀ value : Raw, value.Fits → readValue value.render = some value) ∧
      ∀ (lines : List Line) (installed : Bool), (∀ line ∈ lines, line.Fits) →
        Source.pairs { origin := .text (document lines), installed } =
            .ok (lines.filterMap Line.pair?) ∧
          ∀ (pairs : List (String × String)) (policy : Policy),
            lines.filterMap Line.pair? = pairs.map (fun pair => (.text pair.1, .text pair.2)) →
            (pairs.map Prod.fst).Nodup →
            ∃ settings,
              Settings.ofSource { origin := .text (document lines), installed } policy = .ok settings ∧
                settings.entries = pairs ∧
                ∀ pair ∈ pairs, settings.get? pair.1 = some pair.2 := by
  refine ⟨fun value hfits => readValue_render hfits, ?_⟩
  intro lines installed hlines
  have hpairs := pairs_document hlines installed
  refine ⟨hpairs, ?_⟩
  intro pairs policy htexts hkeys
  rw [htexts] at hpairs
  exact ofSource_texts policy hpairs hkeys

/-- A nested list with quotes, brackets and commas in its texts is read back, and so is a text with a comment above it. -/
theorem quoted_commas_read_back :
    let value := Raw.list [.text "a, \"b\"]", .list [], .list [.int (-7), .text "\\\n", .null]]
    let source : Source :=
      { origin := .text (document [.skipped "# paths".toList, .assignment "path" (.text "a = [b")])
        installed := false }
    readValue value.render = some value ∧ source.pairs = .ok [(.text "path", .text "a = [b")] ∧
      ∃ settings, Settings.ofSource source .mutable = .ok settings ∧
        settings.get? "path" = some "a = [b" := by
  intro value source
  have hvalue : value.Fits := by
    have hinner : ∀ item ∈ [Raw.int (-7), .text "\\\n", .null], item.Fits :=
      List.forall_mem_cons.mpr ⟨.int (by decide) (by decide),
        List.forall_mem_cons.mpr ⟨.text _, List.forall_mem_singleton.mpr .null⟩⟩
    exact .list (List.forall_mem_cons.mpr ⟨.text _,
      List.forall_mem_cons.mpr ⟨.list nofun, List.forall_mem_singleton.mpr (.list hinner)⟩⟩)
  have hlines : ∀ line ∈ [Line.skipped "# paths".toList, .assignment "path" (.text "a = [b")],
      line.Fits :=
    List.forall_mem_cons.mpr ⟨⟨by decide, .inr (by decide)⟩, List.forall_mem_singleton.mpr
      ⟨⟨by decide, by decide, by decide, by decide, by decide⟩, .text _⟩⟩
  obtain ⟨hvalues, htexts⟩ := written_literals_read_back
  obtain ⟨hpairs, hsettings⟩ := htexts _ false hlines
  obtain ⟨settings, hmade, -, hget⟩ := hsettings [("path", "a = [b")] .mutable rfl (by decide)
  exact ⟨hvalues value hvalue, hpairs, settings, hmade, hget _ List.mem_cons_self⟩

end ObjectModel.Config
