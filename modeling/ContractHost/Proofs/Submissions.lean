/-
  ContractHost.Proofs.Submissions — the transactions of a service know nothing of each other.

  Code sees the surroundings only through their ledger, so surroundings with the same
  ledger answer alike (`Setting.answersAlike_ledger`), and as long as signals do not change
  the ledger every transaction of a service is answered as it would be alone on a fresh one
  (`Service.executeBatch_alone`).

  The statistics are a fold of the answers. What they say of the answers is kept by one
  more answer (`Statistics.Tells.count`) and so holds of all (`Statistics.tells_foldl`),
  and two answers are counted in either order alike (`Statistics.count_comm`), the total
  that stops at the cap included; so the order of a batch does not matter
  (`Service.submit_independent`).
-/

import ContractHost.Proofs.Lockstep
import ContractHost.Proofs.Settlement
import ContractHost.Service

namespace ContractHost

variable {ε σ : Type}

/-! ## The same ledger -/

namespace Setting

variable {S : Setting ε σ} (hfixed : ∀ event s, S.ledger (S.react event s) = S.ledger s)

include hfixed

/-- Where signals do not change the ledger, nothing else of the surroundings is seen. -/
theorem answersAlike_ledger : S.AnswersAlike (fun _ => False) fun s s' => S.ledger s' = S.ledger s where
  ledger hL := by rw [hL]
  perform hL r h _ := by rw [hL]
  react hL event := by rw [hfixed, hfixed, hL]

/-- Signals that leave the ledger alone leave it as it was before the transaction. -/
theorem ledger_transact (tx : Transaction) (h : Host) (s : σ) : S.ledger (S.transact tx h s).around = S.ledger s := by
  show S.ledger (S.process tx h s).around = _
  have hprocessed := S.process_processed tx h s
  generalize S.process tx h s = t at hprocessed ⊢
  cases hprocessed with
  | rejected e h' => rfl
  | paid hkind hcallee ht => rfl
  | ran hkind hcallee ht hmeter hrun => rw [hrun.around_eq, ledger_after hfixed]

end Setting

/-! ## Answers and their count -/

namespace Statistics

/-- The reports among some answers. -/
def reportsOf (replies : List (Except ServiceError Report)) : List Report := replies.filterMap Except.toOption

/-- What the statistics of a service say that gave these answers. -/
structure Tells (st : Statistics) (replies : List (Except ServiceError Report)) : Prop where
  submitted : st.executed + st.rejected = replies.length
  executed : st.executed = (reportsOf replies).length
  outcomes : st.successful + st.failed = st.executed
  successful : st.successful = (reportsOf replies).countP (·.output.isSuccess)
  violated : st.violated = (reportsOf replies).countP fun r => !r.violations.isEmpty
  gas : st.totalGasUsed = Capped.clamp ((reportsOf replies).map (·.gasUsed.val)).sum

theorem tells_zero : zero.Tells [] := ⟨rfl, rfl, rfl, rfl, rfl, rfl⟩

variable {st : Statistics} {replies : List (Except ServiceError Report)}

theorem Tells.count (h : st.Tells replies) (reply : Except ServiceError Report) :
    (st.count reply).Tells (replies ++ [reply]) := by
  obtain ⟨hsubmitted, hexecuted, houtcomes, hsuccessful, hviolated, hgas⟩ := h
  cases reply with
  | error e =>
    have hsame : reportsOf (replies ++ [.error e]) = reportsOf replies := by simp [reportsOf, Except.toOption]
    refine ⟨?_, hsame ▸ hexecuted, houtcomes, hsame ▸ hsuccessful, hsame ▸ hviolated, hsame ▸ hgas⟩
    rw [List.length_append, ← hsubmitted]
    rfl
  | ok r =>
    have hmore : reportsOf (replies ++ [.ok r]) = reportsOf replies ++ [r] := by simp [reportsOf, Except.toOption]
    refine ⟨?_, ?_, ?_, ?_, ?_, ?_⟩
    · show st.executed + 1 + st.rejected = _
      rw [List.length_append, ← hsubmitted, List.length_singleton]
      omega
    · rw [hmore, List.length_append, ← hexecuted]
      rfl
    · show st.successful + (if r.output.isSuccess then 1 else 0) + (st.failed + if r.output.isSuccess then 0 else 1) =
        st.executed + 1
      split <;> omega
    · rw [hmore, List.countP_append, List.countP_singleton, ← hsuccessful]
      rfl
    · rw [hmore, List.countP_append, List.countP_singleton, ← hviolated]
      show st.violated + (if r.violations.isEmpty then 0 else 1) = _
      cases r.violations.isEmpty <;> rfl
    · ext
      show (st.totalGasUsed + r.gasUsed).val = _
      rw [hmore, List.map_append, List.sum_append, List.map_singleton, List.sum_singleton, hgas, Capped.val_add,
        Capped.val_clamp, Capped.val_clamp]
      omega

theorem tells_foldl {before : List (Except ServiceError Report)} (h : st.Tells before) :
    (replies.foldl Statistics.count st).Tells (before ++ replies) := by
  induction replies generalizing st before with
  | nil => simpa using h
  | cons reply replies ih =>
    have hrest := ih (h.count reply)
    rwa [List.append_assoc] at hrest

/-- Every number but the total, which stops by itself, fits in 64 bits. -/
structure Fits (st : Statistics) : Prop where
  executed : st.executed < 2 ^ 64
  successful : st.successful < 2 ^ 64
  failed : st.failed < 2 ^ 64
  rejected : st.rejected < 2 ^ 64
  violated : st.violated < 2 ^ 64

theorem Tells.fits (h : st.Tells replies) (hfew : replies.length < 2 ^ 64) : st.Fits := by
  have hsubmitted := h.submitted
  have houtcomes := h.outcomes
  have hviolated : st.violated ≤ st.executed := by
    rw [h.violated, h.executed]
    exact List.countP_le_length
  constructor <;> omega

/-- Two answers are counted in either order alike. -/
theorem count_comm (st : Statistics) (a b : Except ServiceError Report) :
    (st.count a).count b = (st.count b).count a := by
  have hadd : ∀ x y z : U64, x + y + z = x + z + y := by
    intro x y z
    ext
    simp only [Capped.val_add]
    omega
  cases a with
  | error e => cases b <;> rfl
  | ok r =>
    cases b with
    | error e => rfl
    | ok r' => simp only [Statistics.count, hadd st.totalGasUsed r.gasUsed, Nat.add_right_comm]

end Statistics

/-- A failure leaves no gas, and nothing leaves more than was given. -/
theorem Setting.gasRemaining_transact (S : Setting ε σ) (tx : Transaction) (gas : U64) (s : σ) :
    let output := (S.transact tx (.start gas) s).reply
    output.gasRemaining ≤ gas ∧ (output.isSuccess = false → output.gasRemaining = 0) := by
  intro output
  let t := S.process tx (.start gas) s
  have hprovided : t.host.meter.frame.provided = gas := (S.sameStacks_process tx (.start gas) s).meter.provided
  have hleft : t.host.meter.left ≤ gas := hprovided ▸ Nat.sub_le _ _
  refine ⟨Nat.le_trans (t.host.gasRemaining_conclude t.reply).1 hleft, ?_⟩
  show (t.host.conclude t.reply).isSuccess = false → (t.host.conclude t.reply).gasRemaining = 0
  rcases t.host.conclude_cases t.reply with ⟨e, -, hout⟩ | ⟨-, -, hout⟩ <;> rw [hout]
  · exact fun _ => rfl
  · exact fun hfailed => by cases hfailed

namespace Service

variable {v : Service ε σ}

/-- A transaction is rejected and nothing runs, or runs on a host of its own. -/
theorem execute_cases (v : Service ε σ) (tx : Transaction) (s : σ) :
    (∃ cause, v.check tx = .error cause ∧
      v.execute tx s = ⟨.error (.invalidTransaction cause),
        { v with statistics := v.statistics.count (.error (.invalidTransaction cause)) }, s, []⟩) ∨
    v.check tx = .ok () ∧
      let t := v.setting.transact tx (.start tx.gasLimit) s
      v.execute tx s = ⟨.ok (v.report tx t.reply),
        { v with statistics := v.statistics.count (.ok (v.report tx t.reply)) }, t.around, t.deeds⟩ := by
  unfold execute answer
  cases v.check tx with
  | error cause => exact .inl ⟨cause, rfl, rfl⟩
  | ok _ => exact .inr ⟨rfl, rfl⟩

/-- What was not used is what the output has left, so all of it was where the output is a failure. -/
theorem gasUsed_of_report {tx : Transaction} {s : σ} {r : Report} (hreply : (v.execute tx s).reply = .ok r) :
    r.gasUsed.val + r.output.gasRemaining.val = tx.gasLimit.val ∧
      (r.output.isSuccess = false → r.gasUsed = tx.gasLimit) := by
  obtain ⟨hle, hfailed⟩ := v.setting.gasRemaining_transact tx tx.gasLimit s
  rcases v.execute_cases tx s with ⟨cause, -, hx⟩ | ⟨-, hx⟩ <;> rw [hx] at hreply <;> cases hreply
  refine ⟨Nat.sub_add_cancel hle, fun hs => ?_⟩
  show tx.gasLimit - (v.setting.transact tx (.start tx.gasLimit) s).reply.gasRemaining = tx.gasLimit
  rw [hfailed hs]
  rfl

/-- A transaction that is rejected is counted as that and leaves nothing else behind. -/
theorem execute_rejected {tx : Transaction} {s : σ} {e : ServiceError} (hreply : (v.execute tx s).reply = .error e) :
    v.execute tx s =
      ⟨.error e, { v with statistics := { v.statistics with rejected := v.statistics.rejected + 1 } }, s, []⟩ := by
  rcases v.execute_cases tx s with ⟨cause, -, hx⟩ | ⟨-, hx⟩ <;> rw [hx] at hreply ⊢ <;> cases hreply
  rfl

/-- The service with these statistics. -/
def counting (v : Service ε σ) (st : Statistics) : Service ε σ := { v with statistics := st }

/-- One answer as a list of them. -/
def Answered.one {α : Type} (answered : Answered ε σ α) : Answered ε σ (List α) :=
  ⟨[answered.reply], answered.service, answered.around, answered.deeds⟩

/-- Answers and those after them. -/
def Answered.followedBy {α : Type} (first rest : Answered ε σ (List α)) : Answered ε σ (List α) :=
  ⟨first.reply ++ rest.reply, rest.service, rest.around, first.deeds ++ rest.deeds⟩

/-- Transactions as they come to a service: one, or some together. -/
inductive Submission where
  | transaction (tx : Transaction)
  | batch (txs : List Transaction)

def Submission.transactions : Submission → List Transaction
  | .transaction tx => [tx]
  | .batch txs => txs

def perform (v : Service ε σ) (s : σ) : Submission → Answered ε σ (List (Except ServiceError Report))
  | .transaction tx => (v.execute tx s).one
  | .batch txs => v.executeBatch txs s

/-- Submissions one after another. -/
def submit (v : Service ε σ) : List Submission → σ → Answered ε σ (List (Except ServiceError Report))
  | [], s => ⟨[], v, s, []⟩
  | submission :: later, s =>
    let first := v.perform s submission
    first.followedBy (submit first.service later first.around)

/-- Transactions are answered as each is alone, by the service `v` from `s`, and counted on top of `st`. -/
structure AnswersAlone (v : Service ε σ) (s : σ) (st : Statistics) (txs : List Transaction)
    (answered : Answered ε σ (List (Except ServiceError Report))) : Prop where
  reply : answered.reply = txs.map fun tx => (v.execute tx s).reply
  service : answered.service = v.counting (answered.reply.foldl Statistics.count st)
  ledger : v.setting.ledger answered.around = v.setting.ledger s

theorem AnswersAlone.followedBy {s : σ} {st : Statistics} {txs later : List Transaction}
    {first rest : Answered ε σ (List (Except ServiceError Report))} (hfirst : v.AnswersAlone s st txs first)
    (hrest : v.AnswersAlone s (first.reply.foldl Statistics.count st) later rest) :
    v.AnswersAlone s st (txs ++ later) (first.followedBy rest) where
  reply := by rw [List.map_append, ← hfirst.reply, ← hrest.reply]; rfl
  service := hrest.service.trans (congrArg v.counting List.foldl_append.symm)
  ledger := hrest.ledger

section Fixed

variable (hfixed : ∀ event s, v.setting.ledger (v.setting.react event s) = v.setting.ledger s)

include hfixed

/-- What was counted before and what signals left is no matter to an answer. -/
theorem execute_alone (tx : Transaction) (st : Statistics) {s s' : σ} (hL : v.setting.ledger s' = v.setting.ledger s) :
    v.AnswersAlone s st [tx] ((v.counting st).execute tx s').one := by
  have hcheck : (v.counting st).check tx = v.check tx := rfl
  rcases v.execute_cases tx s with ⟨cause, hc, hx⟩ | ⟨hc, hx⟩ <;>
    rcases (v.counting st).execute_cases tx s' with ⟨cause', hc', hx'⟩ | ⟨hc', hx'⟩ <;>
      cases hc.symm.trans (hcheck.symm.trans hc') <;> rw [hx']
  · exact ⟨by rw [List.map_singleton, hx]; rfl, rfl, hL⟩
  · have hsame := Setting.transact_alike (Setting.answersAlike_ledger hfixed) tx (.start tx.gasLimit) hL
      (fun _ _ _ => id) (fun _ _ => id)
    have hkept := Setting.ledger_transact hfixed tx (.start tx.gasLimit) s'
    refine ⟨?_, rfl, hkept.trans hL⟩
    rw [List.map_singleton, hx]
    exact congrArg (fun output => [Except.ok (v.report tx output)]) hsame.reply

theorem executeBatch_alone (txs : List Transaction) (st : Statistics) {s s' : σ}
    (hL : v.setting.ledger s' = v.setting.ledger s) :
    v.AnswersAlone s st txs ((v.counting st).executeBatch txs s') := by
  induction txs generalizing st s' with
  | nil => exact ⟨rfl, rfl, hL⟩
  | cons tx txs ih =>
    let first := ((v.counting st).execute tx s').one
    have hfirst : v.AnswersAlone s st [tx] first := execute_alone hfixed tx st hL
    have hrest := ih (first.reply.foldl Statistics.count st) hfirst.ledger
    rw [← hfirst.service] at hrest
    exact hfirst.followedBy hrest

theorem submit_alone (submissions : List Submission) (st : Statistics) {s s' : σ}
    (hL : v.setting.ledger s' = v.setting.ledger s) :
    v.AnswersAlone s st (submissions.flatMap (·.transactions)) ((v.counting st).submit submissions s') := by
  induction submissions generalizing st s' with
  | nil => exact ⟨rfl, rfl, hL⟩
  | cons submission later ih =>
    let first := (v.counting st).perform s' submission
    have hfirst : v.AnswersAlone s st submission.transactions first := by
      cases submission with
      | transaction tx => exact execute_alone hfixed tx st hL
      | batch txs => exact executeBatch_alone hfixed txs st hL
    have hrest := ih (first.reply.foldl Statistics.count st) hfirst.ledger
    rw [← hfirst.service] at hrest
    rw [List.flatMap_cons]
    exact hfirst.followedBy hrest

/-- The transactions of a batch may come in any order: each gets its answer, and the statistics come out the same. -/
theorem executeBatch_perm {txs txs' : List Transaction} (hperm : txs'.Perm txs) (st : Statistics) (s : σ) :
    let answered := (v.counting st).executeBatch txs s
    let answered' := (v.counting st).executeBatch txs' s
    (txs'.zip answered'.reply).Perm (txs.zip answered.reply) ∧ answered'.service = answered.service := by
  intro answered answered'
  have h := executeBatch_alone hfixed txs st (rfl : v.setting.ledger s = v.setting.ledger s)
  have h' := executeBatch_alone hfixed txs' st (rfl : v.setting.ledger s = v.setting.ledger s)
  have hreplies : answered'.reply.Perm answered.reply := by
    rw [h.reply, h'.reply]
    exact hperm.map _
  constructor
  · rw [h.reply, h'.reply, ← List.map_prod_left_eq_zip, ← List.map_prod_left_eq_zip]
    exact hperm.map _
  · rw [h.service, h'.service, hreplies.foldl_eq' fun a _ b _ st => st.count_comm a b]

end Fixed

/-- Whatever is submitted to a fresh service, one by one or together, is answered as it would be by another, and the
    statistics say what the answers were; what was rejected has only been counted, and the order of a batch is free. -/
theorem submit_independent (hfresh : v.statistics = .zero)
    (hfixed : ∀ event s, v.setting.ledger (v.setting.react event s) = v.setting.ledger s)
    (submissions : List Submission) (s : σ) (hfew : (submissions.flatMap (·.transactions)).length < 2 ^ 64) :
    let answered := v.submit submissions s
    let after := answered.service
    answered.reply = (submissions.flatMap (·.transactions)).map (fun tx => (v.execute tx s).reply) ∧
    after.statistics.Tells answered.reply ∧
    after.statistics.Fits ∧
    (∀ tx r, (v.execute tx s).reply = .ok r → r.gasUsed.val + r.output.gasRemaining.val = tx.gasLimit.val ∧
      (r.output.isSuccess = false → r.gasUsed = tx.gasLimit)) ∧
    (∀ tx e, (after.execute tx answered.around).reply = .error e →
      after.execute tx answered.around = ⟨.error e,
        after.counting { after.statistics with rejected := after.statistics.rejected + 1 }, answered.around, []⟩) ∧
    ∀ txs txs', txs'.Perm txs →
      let batch := after.executeBatch txs answered.around
      let batch' := after.executeBatch txs' answered.around
      (txs'.zip batch'.reply).Perm (txs.zip batch.reply) ∧ batch'.service = batch.service := by
  intro answered after
  have hv : v.counting .zero = v := by rw [counting, ← hfresh]
  have halone := submit_alone hfixed submissions .zero (rfl : v.setting.ledger s = v.setting.ledger s)
  rw [hv] at halone
  have hafter : after = v.counting after.statistics := by rw [show after = _ from halone.service]; rfl
  have htells : after.statistics.Tells answered.reply := by
    rw [show after = _ from halone.service]
    exact Statistics.tells_foldl Statistics.tells_zero
  refine ⟨halone.reply, htells, htells.fits ?_, fun tx r => gasUsed_of_report, fun tx e => execute_rejected, ?_⟩
  · rwa [show answered.reply = _ from halone.reply, List.length_map]
  · intro txs txs' hperm
    rw [hafter]
    exact executeBatch_perm hfixed hperm after.statistics answered.around

/-- Code that signals and fails. -/
def complainingGuest : Guest Unit := .signal () (.done (.error .outOfFunds))

/-- A service whose surroundings count the signals beside the ledger. -/
def complainingService : Service Unit (World × Nat) where
  setting := ⟨.standard, fun _ => complainingGuest, fun w => w.1.ledger, fun _ w => (w.1, w.2 + 1)⟩
  maxGasLimit := 1000
  checkInvariants := true
  statistics := .zero

def complainingWorld : World :=
  .ofSteps [.putAccount (.named "alice") ⟨40, 0, [], .none⟩, .putAccount (.named "bob") ⟨0, 0, [7], .none⟩]

/-- One that is failed, one that is rejected for its gas and one that goes well. -/
def complainingBatch : List Transaction :=
  [.call (.named "alice") (.named "bob") "f" 500, .call (.named "alice") (.named "bob") "f" 2000,
    .transfer (.named "alice") (.named "carol") 5]

theorem submit_independent_complaining :
    let answered := complainingService.submit [.batch complainingBatch] (complainingWorld, 0)
    let answered' := answered.service.executeBatch complainingBatch.reverse answered.around
    answered.service.statistics = ⟨2, 1, 1, 500, 1, 0⟩ ∧
      answered.reply = complainingBatch.map (fun tx => (complainingService.execute tx (complainingWorld, 0)).reply) ∧
      answered.around.2 = 1 ∧
      answered'.service = (answered.service.executeBatch complainingBatch answered.around).service := by
  have h := submit_independent (v := complainingService) rfl (fun _ _ => rfl) [.batch complainingBatch]
    (complainingWorld, 0) (by decide)
  obtain ⟨hreply, -, -, -, -, hperm⟩ := h
  exact ⟨by decide +kernel, hreply, by decide +kernel, (hperm _ _ complainingBatch.reverse_perm).2⟩

end Service

end ContractHost
