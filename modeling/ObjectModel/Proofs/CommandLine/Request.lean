import ObjectModel.CommandLine.Request
import ObjectModel.Proofs.Outcome

/-! # The grammar of the command line

Which arguments make a request, said without a way to read them: a command, then its own words in the form that it asks
for, among which the words `json` and `verbose` may stand anywhere, and no option. Reading arguments gives the
request that they make, and finds misuse just where they make none.
-/

namespace ObjectModel.CommandLine

/-! ## Assignments -/

/-- A word that assigns a text to a key. -/
def assigning (key content : String) : String := key ++ "=" ++ content

/-- The first assignment to a key among some words, and the words without it. -/
inductive Takes (key : String) : List String → Option String → List String → Prop
  | nothing {words : List String} (hnone : ∀ word ∈ words, ∀ content, word ≠ assigning key content) :
      Takes key words none words
  | first {before after : List String} {content : String}
      (hbefore : ∀ word ∈ before, ∀ other, word ≠ assigning key other) :
      Takes key (before ++ assigning key content :: after) (some content) (before ++ after)

theorem toList_assigning (key content : String) :
    (assigning key content).toList = (key.toList ++ ['=']) ++ content.toList := by
  rw [assigning, String.toList_append, String.toList_append]
  rfl

theorem assigned_eq_some_iff {key content word : String} :
    assigned? key word = some content ↔ word = assigning key content := by
  rw [assigned?, ← String.toList_inj, toList_assigning]
  constructor
  · intro hassigned
    split at hassigned
    next hprefix =>
      obtain ⟨rest, hrest⟩ := List.isPrefixOf_iff_prefix.mp hprefix
      obtain rfl := Option.some.inj hassigned
      rw [← hrest, List.drop_left, String.toList_ofList]
    · cases hassigned
  · intro hword
    rw [hword, if_pos (List.isPrefixOf_iff_prefix.mpr (List.prefix_append _ _)), List.drop_left,
      String.ofList_toList]

theorem assigned_eq_none_iff {key word : String} :
    assigned? key word = none ↔ ∀ content, word ≠ assigning key content := by
  rw [Option.eq_none_iff_forall_ne_some]
  exact forall_congr' fun content => not_congr assigned_eq_some_iff

theorem takes_takeAssignment (key : String) (words : List String) :
    Takes key words (takeAssignment key words).1 (takeAssignment key words).2 := by
  induction words with
  | nil => exact .nothing nofun
  | cons word rest ih =>
      rw [takeAssignment]
      cases hassigned : assigned? key word with
      | some content =>
          obtain rfl := assigned_eq_some_iff.mp hassigned
          exact @Takes.first key [] rest content nofun
      | none =>
          have hword := assigned_eq_none_iff.mp hassigned
          dsimp only
          cases hrest : takeAssignment key rest with
          | mk found others =>
              rw [hrest] at ih
              cases ih with
              | nothing hnone => exact .nothing (List.forall_mem_cons.mpr ⟨hword, hnone⟩)
              | @first before after content hbefore =>
                  exact @Takes.first key (word :: before) after content
                    (List.forall_mem_cons.mpr ⟨hword, hbefore⟩)

/-- There is one first assignment at most. -/
theorem Takes.eq_takeAssignment {key : String} {words others : List String} {content : Option String}
    (htakes : Takes key words content others) : takeAssignment key words = (content, others) := by
  cases htakes with
  | nothing hnone =>
      induction words with
      | nil => rfl
      | cons word rest ih =>
          obtain ⟨hword, hrest⟩ := List.forall_mem_cons.mp hnone
          rw [takeAssignment, assigned_eq_none_iff.mpr hword, ih hrest]
  | @first before after content hbefore =>
      induction before with
      | nil =>
          rw [List.nil_append, takeAssignment, assigned_eq_some_iff.mpr rfl]
          rfl
      | cons word rest ih =>
          obtain ⟨hword, hrest⟩ := List.forall_mem_cons.mp hbefore
          rw [List.cons_append, takeAssignment, assigned_eq_none_iff.mpr hword, ih hrest]
          rfl

/-! ## Commands -/

/-- The name of a command and its own words. -/
inductive Command.Written : String → List String → Command → Prop
  | configuration {words keys : List String} {source : Option String}
      (hsource : Takes "source" words source keys) :
      Written "config" words (.configuration source keys)
  /-- What is no assignment to the source is passed over. -/
  | flags {words others : List String} {source : Option String}
      (hsource : Takes "source" words source others) : Written "config-flags" words (.flags source)
  | encodings {words others : List String} {internal external : Option String}
      (hinternal : Takes "internal" words internal others)
      (hexternal : Takes "external" others external []) :
      Written "encoding" words (.encodings internal external)
  | ownConstants {path : String} (hpath : path ≠ "all") :
      Written "constants" [path] (.constants path false)
  | allConstants {words : List String} {path : String}
      (hwords : words = ["all", path] ∨ words = [path, "all"]) :
      Written "constants" words (.constants path true)
  | ancestors (path : String) : Written "ancestors" [path] (.ancestors path)
  | methods (path : String) : Written "methods" [path] (.methods path)
  | scenarioNames : Written "scenario" ["list"] .scenarioNames
  | demonstration {scenario : Scenario} (hscenario : scenario ∈ Scenario.catalog) :
      Written "scenario" [scenario.name] (.demonstration scenario)

theorem find_name {scenario : Scenario} (hscenario : scenario ∈ Scenario.catalog) :
    Scenario.find? scenario.name = some scenario ∧ scenario.name ≠ "list" := by
  simp only [Scenario.catalog, List.mem_cons, List.not_mem_nil, or_false] at hscenario
  rcases hscenario with rfl | rfl | rfl | rfl | rfl | rfl | rfl | rfl <;>
    exact ⟨rfl, by decide⟩

theorem single_eq_ok_iff {kind word : String} {words : List String} :
    single kind words = .ok word ↔ words = [word] := by
  match words with
  | [] => simp [single]
  | [other] => simp [single]
  | first :: second :: rest => simp [single]

/-- What is left of the words besides one `all`. -/
theorem erase_all_eq_singleton_iff {words : List String} {path : String} :
    words.erase "all" = [path] ↔
      words = [path] ∧ path ≠ "all" ∨ words = ["all", path] ∨ words = [path, "all"] := by
  match words with
  | [] => simp
  | [word] =>
      by_cases hword : word = "all"
      · simp +contextual [hword, eq_comm]
      · rw [List.erase_cons_tail (by simpa using hword)]
        constructor
        · intro heq
          obtain ⟨rfl, -⟩ := List.cons.inj heq
          exact .inl ⟨rfl, hword⟩
        · rintro (⟨heq, -⟩ | heq | heq)
          · exact heq
          · simp at heq
          · simp at heq
  | [word, other] =>
      by_cases hword : word = "all"
      · simp +contextual [hword, eq_comm]
      · by_cases hother : other = "all"
        · simp [hword, hother]
        · simp [hword, hother]
  | first :: second :: third :: rest =>
      have hlength := List.le_length_erase (a := "all") (l := first :: second :: third :: rest)
      refine iff_of_false ?_ (by simp)
      intro herase
      rw [herase] at hlength
      simp at hlength

theorem contains_all_singleton {path : String} (hpath : path ≠ "all") :
    [path].contains "all" = false := by
  simpa using Ne.symm hpath

theorem contains_all_of_pair {words : List String} {path : String}
    (hwords : words = ["all", path] ∨ words = [path, "all"]) : words.contains "all" = true := by
  rcases hwords with rfl | rfl <;> simp

theorem single_bind_eq_ok_iff {kind : String} {words : List String}
    {make : String → Except Misuse Command} {command : Command} :
    single kind words >>= make = .ok command ↔ ∃ word, words = [word] ∧ make word = .ok command := by
  rw [bind_eq_ok_iff]
  exact exists_congr fun word => and_congr_left' single_eq_ok_iff

theorem Command.Written.read {name : String} {words : List String} {command : Command}
    (hwritten : command.Written name words) : Command.read name words = .ok command := by
  cases hwritten with
  | configuration hsource => rw [Command.read, hsource.eq_takeAssignment]
  | flags hsource => rw [Command.read, hsource.eq_takeAssignment]
  | encodings hinternal hexternal =>
      rw [Command.read, hinternal.eq_takeAssignment]
      dsimp only
      rw [hexternal.eq_takeAssignment]
  | @ownConstants path hpath =>
      rw [Command.read, erase_all_eq_singleton_iff.mpr (.inl ⟨rfl, hpath⟩)]
      rw [contains_all_singleton hpath]
      rfl
  | @allConstants words path hwords =>
      rw [Command.read, erase_all_eq_singleton_iff.mpr (.inr hwords)]
      rw [contains_all_of_pair hwords]
      rfl
  | ancestors path => rfl
  | methods path => rfl
  | scenarioNames => rfl
  | @demonstration scenario hscenario =>
      obtain ⟨hfind, hname⟩ := find_name hscenario
      change (if scenario.name = "list" then _ else _) = _
      rw [if_neg hname, hfind]
      rfl

theorem Command.written_of_read {name : String} {words : List String} {command : Command}
    (hread : Command.read name words = .ok command) : command.Written name words := by
  unfold Command.read at hread
  split at hread
  · obtain rfl := Except.ok.inj hread
    exact .configuration (takes_takeAssignment "source" words)
  · obtain rfl := Except.ok.inj hread
    exact .flags (takes_takeAssignment "source" words)
  · have hinternal := takes_takeAssignment "internal" words
    have hexternal := takes_takeAssignment "external" (takeAssignment "internal" words).2
    dsimp only at hread
    split at hread
    next hothers =>
      obtain rfl := Except.ok.inj hread
      exact .encodings hinternal (hothers ▸ hexternal)
    · cases hread
  · obtain ⟨path, hpath, hmade⟩ := single_bind_eq_ok_iff.mp hread
    obtain rfl := Except.ok.inj hmade
    rcases erase_all_eq_singleton_iff.mp hpath with ⟨rfl, hother⟩ | hwords
    · rw [contains_all_singleton hother]
      exact .ownConstants hother
    · rw [contains_all_of_pair hwords]
      exact .allConstants hwords
  · obtain ⟨path, rfl, hmade⟩ := single_bind_eq_ok_iff.mp hread
    obtain rfl := Except.ok.inj hmade
    exact .ancestors path
  · obtain ⟨path, rfl, hmade⟩ := single_bind_eq_ok_iff.mp hread
    obtain rfl := Except.ok.inj hmade
    exact .methods path
  · obtain ⟨word, rfl, hmade⟩ := single_bind_eq_ok_iff.mp hread
    split at hmade
    next hlist =>
      obtain rfl := Except.ok.inj hmade
      exact hlist ▸ .scenarioNames
    · split at hmade
      next scenario hfind =>
        obtain rfl := Except.ok.inj hmade
        obtain rfl : scenario.name = word := by simpa using List.find?_some hfind
        exact .demonstration (List.mem_of_find?_eq_some hfind)
      · cases hmade
  · cases hread

/-! ## Requests -/

/-- The arguments that make a request. -/
inductive Request.Written : List String → Request → Prop
  | command {name : String} {words : List String} {command : Command}
      (hplain : ∀ word ∈ words, ∀ rest, word ≠ "--" ++ rest)
      (hwritten : command.Written name (words.filter fun word => word ≠ "json" && word ≠ "verbose")) :
      Written (name :: words) { command, asJson := "json" ∈ words }

theorem startsWith_dashes_iff {word : String} :
    word.startsWith "--" ↔ ∃ rest, word = "--" ++ rest := by
  rw [String.startsWith_string_iff]
  constructor
  · rintro ⟨rest, hrest⟩
    refine ⟨String.ofList rest, ?_⟩
    rw [← String.toList_inj, String.toList_append, ← hrest]
    exact congrArg _ String.toList_ofList.symm
  · rintro ⟨rest, rfl⟩
    rw [String.toList_append]
    exact List.prefix_append _ _

/-- Reading arguments gives the request that they make. -/
theorem Request.read_eq_ok_iff {arguments : List String} {request : Request} :
    Request.read arguments = .ok request ↔ request.Written arguments := by
  constructor
  · intro hread
    cases arguments with
    | nil => cases hread
    | cons name words =>
        rw [Request.read] at hread
        split at hread
        · cases hread
        next hplain =>
          rw [List.find?_eq_none] at hplain
          obtain ⟨command, hcommand, hmade⟩ := bind_eq_ok_iff.mp hread
          obtain rfl := Except.ok.inj hmade
          have hwritten := Request.Written.command
            (fun word hword rest heq => hplain word hword (startsWith_dashes_iff.mpr ⟨rest, heq⟩))
            (Command.written_of_read hcommand)
          rwa [← List.contains_eq_mem] at hwritten
  · intro hwritten
    cases hwritten with
    | @command name words command hplain hwritten =>
        have hnone : words.find? (·.startsWith "--") = none := by
          rw [List.find?_eq_none]
          intro word hword hstarts
          obtain ⟨rest, heq⟩ := startsWith_dashes_iff.mp hstarts
          exact hplain word hword rest heq
        rw [Request.read, hnone]
        simp only [hwritten.read]
        rw [← List.contains_eq_mem]
        rfl

end ObjectModel.CommandLine
