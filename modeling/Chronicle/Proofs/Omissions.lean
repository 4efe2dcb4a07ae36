/-
# Omitted transactions leave no trace

A report without failures passes over the transactions that did not succeed.
Transactions and receipts belong together by their places, so an omission that
shifted one list against the other would give a transaction the receipt of its
neighbor. Here pairs are omitted, before or after they are put together: what is
covered is the same, and the report, which goes by what is covered alone, asks,
learns and logs the same.

Key definition: `Report.succeeding`.
Key theorems: `Report.covered_succeeding`, `Narrator.report_eq_of_covered`,
`Narrator.report_succeeding`.
-/
import Chronicle.Proofs.Reports

namespace Chronicle

theorem Executed.status_told (transaction : Transaction) : ∀ receipt : Option Receipt,
    (told transaction receipt).status = .success ↔ receipt.any (·.succeeded) = true
  | none => iff_of_false nofun nofun
  | some ⟨true, _⟩ => iff_of_true rfl rfl
  | some ⟨false, _⟩ => iff_of_false nofun nofun

namespace Report

/-- The transactions with their receipts, without those whose receipt is missing or tells of a
failure. -/
def succeeding (transactions : List Transaction) (receipts : List (Option Receipt)) :
    List (Transaction × Option Receipt) :=
  (transactions.zip receipts).filter fun pair => pair.2.any (·.succeeded)

/-- Without failures, what is covered is what succeeded. -/
theorem covered_eq_map (transactions : List Transaction) (receipts : List (Option Receipt)) :
    covered transactions (some receipts) false =
      (succeeding transactions receipts).map fun pair => Executed.told pair.1 pair.2 := by
  unfold covered succeeding
  dsimp only
  rw [← List.map_uncurry_zip_eq_zipWith, List.filter_map]
  refine congrArg (List.map _) (List.filter_congr fun pair _ => ?_)
  have hstatus : (Function.uncurry Executed.told pair).status = .success ↔
      pair.2.any (·.succeeded) = true := Executed.status_told pair.1 pair.2
  simp [hstatus]

/-- Of pairs that succeeded none is left out. -/
theorem succeeding_of_forall {pairs : List (Transaction × Option Receipt)}
    (h : ∀ pair ∈ pairs, pair.2.any (·.succeeded) = true) :
    succeeding (pairs.map (·.1)) (pairs.map (·.2)) = pairs := by
  unfold succeeding
  rw [List.zip_map', List.map_id']
  exact List.filter_eq_self.2 h

/-- What is covered is the same if what did not succeed is left out before. -/
theorem covered_succeeding (transactions : List Transaction) (receipts : List (Option Receipt)) :
    covered ((succeeding transactions receipts).map (·.1))
        (some ((succeeding transactions receipts).map (·.2))) false =
      covered transactions (some receipts) false := by
  rw [covered_eq_map, covered_eq_map, succeeding_of_forall]
  exact fun pair hpair => (List.mem_filter.1 hpair).2

end Report

namespace Narrator

variable (narrator : Narrator) (registry : Registry)

/-- Reports that cover the same are the same computation. -/
theorem report_eq_of_covered {transactions others : List Transaction}
    {receipts receipts' : Option (List (Option Receipt))} {includeFailed : Bool}
    (h : ∀ list ∈ receipts, list.length = transactions.length)
    (h' : ∀ list ∈ receipts', list.length = others.length)
    (hcovered : Report.covered transactions receipts includeFailed =
      Report.covered others receipts' includeFailed) :
    narrator.report registry transactions receipts includeFailed =
      narrator.report registry others receipts' includeFailed := by
  obtain ⟨executed, hexecuted, hfilter⟩ := Executed.ofReceipts_covered h includeFailed
  obtain ⟨executed', hexecuted', hfilter'⟩ := Executed.ofReceipts_covered h' includeFailed
  have hok (list : List Executed) :
      (Narration.ofExcept (.ok list) : Narration (List Executed)) = pure list := rfl
  unfold report Report.ofTransactions
  rw [hexecuted, hexecuted', hok, hok, pure_bind, pure_bind, hfilter, hfilter', hcovered]

/-- From every session, the report that passes over what did not succeed has the outcome of the
report on the rest alone, and leaves the same labels, decimals, questions and log. The log has
warnings and errors only: a record of lesser weight that a transaction is passed over is no part
of it. -/
theorem report_succeeding {transactions : List Transaction} {receipts : List (Option Receipt)}
    (hlength : receipts.length = transactions.length) (session : Session) :
    (narrator.report registry transactions (some receipts) false).run.run session =
      (narrator.report registry ((Report.succeeding transactions receipts).map (·.1))
        (some ((Report.succeeding transactions receipts).map (·.2))) false).run.run session := by
  have hrest : narrator.report registry transactions (some receipts) false =
      narrator.report registry ((Report.succeeding transactions receipts).map (·.1))
        (some ((Report.succeeding transactions receipts).map (·.2))) false := by
    refine report_eq_of_covered narrator registry ?_ ?_ ?_
    · rintro _ ⟨⟩
      exact hlength
    · rintro _ ⟨⟩
      rw [List.length_map, List.length_map]
    · exact (Report.covered_succeeding transactions receipts).symm
  rw [hrest]

end Narrator

namespace Day

/-- A failure, a deployment that succeeded, and a transaction that waits for its receipt. -/
def mixedReceipts : List (Option Receipt) := [some ⟨false, none⟩, some ⟨true, some "0xD0"⟩, none]

end Day

/-- The input that is too short is neither decoded nor warned about before the deployment and after
it: the sender of the deployment is all that is asked for. -/
theorem Narrator.report_succeeding_day :
    (Day.narrator.report Registry.known [Day.short, Day.deployment, Day.short]
        (some Day.mixedReceipts) false).run.run .fresh =
      (Day.narrator.report Registry.known [Day.deployment]
        (some [some ⟨true, some "0xD0"⟩]) false).run.run .fresh ∧
    ∃ report after, (Day.narrator.report Registry.known [Day.short, Day.deployment, Day.short]
        (some Day.mixedReceipts) false).run.run .fresh = (.ok report, after) ∧
      report.details.map (·.hash) = ["0xb2"] ∧ after.log = [] ∧
      after.labelQuestions = ["0xcccccccccccccccccccccccccccccccccccccccc"] := by
  have hlength : Day.mixedReceipts.length = [Day.short, Day.deployment, Day.short].length := rfl
  have hrest := Narrator.report_succeeding Day.narrator Registry.known hlength .fresh
  refine ⟨hrest, ?_⟩
  rw [hrest]
  refine ⟨_, _, rfl, rfl, rfl, ?_⟩
  decide +kernel

end Chronicle
