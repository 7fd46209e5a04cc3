import ObjectModel.Proofs.CommandLine.Answer

/-! # Exit codes

The three ways in which a request can end, and what is printed and complained about in each of them. Whether arguments are
misused is told by the grammar of the command line alone, and whether a command fails at its work by the rules
for what it prints.
-/

namespace ObjectModel.CommandLine

/-! ## Messages -/

theorem append_ne_empty {front : String} (hfront : front ≠ "") (back : String) : front ++ back ≠ "" :=
  fun hempty => hfront (String.append_eq_empty_iff.mp hempty).1

theorem Misuse.message_ne_empty (misuse : Misuse) : misuse.message ≠ "" := by
  cases misuse with
  | noCommand => decide
  | unknownCommand name => exact append_ne_empty (append_ne_empty (append_ne_empty (by decide) _) _) _
  | unknownOption | unexpectedArgument | unknownScenario => exact append_ne_empty (by decide) _
  | missing => exact append_ne_empty (append_ne_empty (by decide) _) _

theorem Failure.message_ne_empty (failure : Failure) : failure.message ≠ "" := by
  cases failure with
  | configuration failure => exact append_ne_empty (by decide) _
  | halt halt =>
      cases halt with
      | fault fault =>
          apply append_ne_empty
          intro hempty
          exact absurd (String.append_eq_empty_iff.mp hempty).2 (by decide)
      | exhausted => decide

theorem endLines_singleton (line : String) : endLines [line] = line ++ "\n" := by
  simp [endLines, String.join]

/-! ## Replies -/

section

variable {arguments : List String} {request : Request}

theorem reply_eq_misuse (read : Reader) (hnone : ∀ request : Request, ¬ request.Written arguments) :
    ∃ misuse, reply read arguments = .misuse misuse := by
  rw [reply]
  cases hread : Request.read arguments with
  | error misuse => exact ⟨misuse, rfl⟩
  | ok request => exact absurd (Request.read_eq_ok_iff.mp hread) (hnone request)

theorem Request.Written.ends (hwritten : request.Written arguments) (read : Reader) :
    request.command.Ends read (request.command.printout read) := by
  cases hwritten with
  | command _ hcommand => exact hcommand.ends read

theorem reply_eq_success {read : Reader} {printout : Printout} (hwritten : request.Written arguments)
    (hprints : request.command.Prints read printout) :
    reply read arguments = .success (printout.text request.asJson) := by
  rw [reply, Request.read_eq_ok_iff.mpr hwritten]
  dsimp only
  rw [Request.reply]
  have hends := hwritten.ends read
  generalize request.command.printout read = outcome at hends
  cases hends with
  | printed hother => rw [hother.unique hprints]
  | failed _ hnone => exact absurd hprints (hnone printout)

theorem reply_eq_failure {read : Reader} (hwritten : request.Written arguments)
    (hnone : ∀ printout, ¬ request.command.Prints read printout) :
    ∃ failure, failure ≠ .halt .exhausted ∧ reply read arguments = .failure failure := by
  rw [reply, Request.read_eq_ok_iff.mpr hwritten]
  dsimp only
  rw [Request.reply]
  have hends := hwritten.ends read
  generalize request.command.printout read = outcome at hends
  cases hends with
  | printed hprints => exact absurd hprints (hnone _)
  | failed hfailure _ => exact ⟨_, hfailure, rfl⟩

end

/-- The key that was asked for is there, but a later line spoils the source, so its value is not printed. -/
example : reply (fun _ => .ok "arch = \"x86\"\nlevels = 3\n") ["config", "source=build", "arch"] =
    { code := 1, output := "", errors := "ConfigError: value of levels must be a String, not Integer\n" } := by
  decide +kernel

end ObjectModel.CommandLine
