import NameOutputs.Proofs.Agreement
import NameOutputs.Proofs.Rejection

/-!
# Searching reports the verdict

There are two ways to ask for the operation of a script that do not fail where there is none: the
test whether there is one, and the reading of an output. `searches_report_verdict` shows that both
report what parsing the script under the standard encoding comes to. An operation that is found is
the one that is parsed and is not logged, and the cause of a rejection is logged once, by the one
that asked. The payment of an output is found either way.

Both search by `Descriptor.search`, which passes on every fault but a rejection. There is no other:
the standard encoding is known, and under a known encoding a script that is not accepted is rejected
(`Operation.exists_rejection_of_parse_known`).
-/

namespace NameOutputs

namespace Descriptor

/-- Under the standard encoding a script is accepted or rejected. -/
theorem parse_standard_cases (script : Script) :
    (∃ d, parse .standard (.ofLocking script) (ScriptPair.ofLocking script) = .ok d) ∨
      ∃ cause : Rejection, parse .standard (.ofLocking script) (ScriptPair.ofLocking script) =
        .error (.rejected cause) := by
  cases h : parse .standard (.ofLocking script) (ScriptPair.ofLocking script) with
  | ok d => exact .inl ⟨d, rfl⟩
  | error fault =>
    obtain ⟨cause, rfl⟩ := Operation.exists_rejection_of_parse_known (parse_eq_error_iff.mp h)
    exact .inr ⟨cause, rfl⟩

end Descriptor

/-- What the lines of a channel begin with, up to the cause. -/
def Channel.heading : Channel → Text
  | nameScripts => Text.ofString "DEBUG Nmc.namescript: not a name script: "
  | outputs => Text.ofString "DEBUG Nmc.chains: txout carries no name operation: "

/-- A record is shown as the heading of its channel and the cause. -/
theorem LogRecord.render_eq (r : LogRecord) : r.render = r.channel.heading ++ r.cause.message := by
  have hfront : Text.ofString "DEBUG " ++ r.channel.label ++ Text.ofString ": " ++
      r.channel.opening = r.channel.heading := by
    cases r.channel <;> decide +kernel
  rw [render, hfront]

/-- Testing for an operation and reading an output never fail. They find an operation exactly if
parsing the script does, and reading finds that very descriptor. Then nothing is logged. If parsing
fails, each logs one record of its own, with the wording of the fault. The payment is found in both
cases. -/
theorem searches_report_verdict (script : Script) :
    let parsed := Descriptor.parse .standard (.ofLocking script) (ScriptPair.ofLocking script)
    ∃ (found : Logged Bool) (output : Logged Output),
      Script.carriesOperation script = .ok found ∧ Output.ofScript script = .ok output ∧
        (found.answer = true ↔ ∃ d, parsed = .ok d) ∧
        (∀ d, output.answer.descriptor? = some d ↔ parsed = .ok d) ∧
        output.answer.payment = Payment.ofOutput script ∧
        (∀ d, parsed = .ok d → found.log = [] ∧ output.log = []) ∧
        ∀ fault, parsed = .error fault → ∃ tested read : LogRecord,
          found.log = [tested] ∧ tested.channel = .nameScripts ∧
            tested.render = Channel.heading .nameScripts ++ fault.message ∧
          output.log = [read] ∧ read.channel = .outputs ∧
            read.render = Channel.heading .outputs ++ fault.message := by
  intro parsed
  rcases Descriptor.parse_standard_cases script with ⟨d, h⟩ | ⟨cause, h⟩
  · have hparsed : parsed = .ok d := h
    have hfound : Script.carriesOperation script = .ok { answer := true, log := [] } := by
      rw [Script.carriesOperation, Descriptor.search_of_parse .nameScripts h]
      rfl
    refine ⟨_, _, hfound, Output.ofScript_of_parse h, ?_⟩
    rw [hparsed]
    refine ⟨iff_of_true rfl ⟨d, rfl⟩, fun other => ?_, rfl, fun _ _ => ⟨rfl, rfl⟩, nofun⟩
    rw [Option.some.injEq, Except.ok.injEq]
  · have hparsed : parsed = .error (.rejected cause) := h
    have hfound : Script.carriesOperation script =
        .ok { answer := false, log := [{ channel := .nameScripts, cause }] } := by
      rw [Script.carriesOperation, Descriptor.search_of_parse_eq_error .nameScripts h]
      rfl
    refine ⟨_, _, hfound, Output.ofScript_of_parse_eq_error h, ?_⟩
    rw [hparsed]
    refine ⟨iff_of_false nofun nofun, fun other => iff_of_false nofun nofun, rfl, nofun, ?_⟩
    -- What is raised is the rejection with the cause that is logged.
    intro fault hfault
    obtain rfl := Except.error.inj hfault
    exact ⟨_, _, rfl, rfl, LogRecord.render_eq _, rfl, rfl, LogRecord.render_eq _⟩

end NameOutputs
