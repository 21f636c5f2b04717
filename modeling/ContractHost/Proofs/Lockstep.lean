/-
  ContractHost.Proofs.Lockstep — code that cannot tell two surroundings apart.

  Guest code sees its surroundings only through what its requests are answered, and a call
  or a transaction through the accounts it finds before its code runs. Surroundings that
  are alike in both stay so by every signal (`Setting.AnswersAlike`), so from either of
  them the same code takes the same turn, deed by deed: a request is answered the same, a
  nested call begins the same and runs the same code one level further in
  (`Setting.run_alike`), and so does a transaction (`Setting.transact_alike`).

  Requests may be answered differently to a call that works on a shut account. Then the
  turns are the same as long as no call enters one in a destination context.
-/

import ContractHost.Proofs.Bystander

namespace ContractHost

variable {ε σ : Type}

/-- Surroundings that `R` relates are the same to code outside of the accounts that are `shut`, before a signal and
    after it. -/
structure Setting.AnswersAlike (S : Setting ε σ) (shut : Address → Prop) (R : σ → σ → Prop) : Prop where
  /-- The ledgers differ in what is stored at most. -/
  ledger : ∀ {s s'}, R s s' → S.ledger s' = { S.ledger s with storage := (S.ledger s').storage }
  perform : ∀ {s s'}, R s s' → ∀ (r : Request) (h : Host), ¬ shut h.address →
    r.perform S.config (S.ledger s') h = r.perform S.config (S.ledger s) h
  react : ∀ {s s'}, R s s' → ∀ event, R (S.react event s) (S.react event s')

/-- Two turns that differ in what surrounds them at most, and there as `R` says. -/
structure Turn.Alike {α : Type} (R : σ → σ → Prop) (t t' : Turn ε σ α) : Prop where
  reply : t'.reply = t.reply
  host : t'.host = t.host
  deeds : t'.deeds = t.deeds
  around : R t.around t'.around

theorem Turn.Alike.following {α : Type} {R : σ → σ → Prop} {t t' : Turn ε σ α} (ht : Alike R t t') (ds : List (Deed ε)) :
    Alike R (t.following ds) (t'.following ds) :=
  ⟨ht.reply, ht.host, congrArg (ds ++ ·) ht.deeds, ht.around⟩

/-- Outside of the accounts that are `shut`, what starts in surroundings that `R` relates ends alike. -/
def AlikeFrom {α : Type} (shut : Address → Prop) (R : σ → σ → Prop) (x : Host → σ → Turn ε σ α) : Prop :=
  ∀ h s s', ¬ shut h.address → R s s' → (∀ a ∈ destinationsOf (x h s).deeds, ¬ shut a) →
    Turn.Alike R (x h s) (x h s')

/-! ## Before any code runs -/

namespace Host

variable {c : HostConfig} {L L' : Ledger} (hL : L' = { L with storage := L'.storage })

include hL

theorem moveValue_alike (sender receiver : Address) (value : U256) (data : Bytes) :
    moveValue L' sender receiver value data = moveValue L sender receiver value data := by
  rw [hL]
  rfl

theorem begin_alike (caller : Address) (call : NestedCall) (gas : U64) :
    begin c L' caller call gas = begin c L caller call gas := by
  rw [hL]
  rfl

theorem prepare_alike (tx : Transaction) : prepare c L' tx = prepare c L tx := by
  rw [hL]
  rfl

end Host

/-! ## Runs -/

theorem Setting.address_nested (S : Setting ε σ) (levels : Nat) (mode : CallMode) (call : NestedCall) (h : Host)
    (s : σ) : (S.nested (S.callee levels) mode call h s).host.address = h.address :=
  ((S.nested_called levels mode call h s).sameCall fun _ hlevel _ _ _ hrun => sameCall_inside hlevel hrun).address

section Alike

variable {S : Setting ε σ} {shut : Address → Prop} {R : σ → σ → Prop} (hR : S.AnswersAlike shut R)

include hR

/-- Guest code whose nested calls do the same does the same. -/
theorem Guest.run_alike {levels : Nat}
    (hnested : ∀ mode call, AlikeFrom shut R (S.nested (S.callee levels) mode call)) (g : Guest ε) :
    AlikeFrom shut R (g.run (fun s r => r.perform S.config (S.ledger s)) (S.nested (S.callee levels)) S.react) := by
  intro h s s' ha hs hdest
  induction g generalizing h s s' with
  | done result => exact ⟨rfl, rfl, rfl, hs⟩
  | ask r next ih =>
    unfold run at hdest ⊢
    dsimp only at hdest ⊢
    rw [hR.perform hs r h ha]
    have hafter : (r.perform S.config (S.ledger s) h).2.address = h.address := (r.perform_effect _ _ h).sameCall.address
    refine Turn.Alike.following (ih _ _ _ _ (hafter ▸ ha) hs ?_) _
    rw [Turn.following, destinationsOf_append] at hdest
    exact fun a hmem => hdest a (List.mem_append_right _ hmem)
  | call mode call next ih =>
    unfold run at hdest ⊢
    dsimp only at hdest ⊢
    rw [Turn.following, destinationsOf_append, List.forall_mem_append] at hdest
    obtain ⟨hreply, hhost, hdeeds, haround⟩ := hnested mode call h s s' ha hs hdest.1
    rw [hreply, hhost, hdeeds]
    exact Turn.Alike.following (ih _ _ _ _ (S.address_nested levels mode call h s ▸ ha) haround hdest.2) _
  | look next ih => exact ih h h s s' ha hs hdest
  | signal event next ih => exact Turn.Alike.following (ih h _ _ ha (hR.react hs event) hdest) _

theorem Setting.nested_alike {callee : Option (Callee ε σ)}
    (hcallee : ∀ code, callee = some code → ∀ input, AlikeFrom shut R (code input)) (mode : CallMode)
    (call : NestedCall) : AlikeFrom shut R (S.nested callee mode call) := by
  intro h s s' ha hs hdest
  obtain ⟨staging, output, before, depth, fatal⟩ := h
  unfold nested at hdest ⊢
  cases fatal with
  | some e => exact ⟨rfl, rfl, rfl, hs⟩
  | none =>
    cases callee with
    | none => exact ⟨rfl, rfl, rfl, hs⟩
    | some code =>
      dsimp only at hdest ⊢
      cases hm : before.use? (Host.baseCost S.config mode) with
      | none => exact ⟨rfl, rfl, rfl, hs⟩
      | some meter =>
        let parent : Host := ⟨staging, output, meter, depth, none⟩
        have hbegun : Host.begin S.config (S.ledger s) parent.address call (min call.gasLimit meter.left)
            (parent.enter mode call.callee (min call.gasLimit meter.left)) = S.begun mode call parent s := rfl
        rw [hm] at hdest
        dsimp only at hdest ⊢
        rw [hbegun] at hdest
        rw [Host.begin_alike (hR.ledger hs), hbegun]
        rcases hb : S.begun mode call parent s with ⟨e | input, inner⟩ <;> rw [hb] at hdest
        · exact ⟨rfl, rfl, rfl, hs⟩
        · dsimp only at hdest ⊢
          have hinner : ∀ a ∈ inner.address :: destinationsOf (code input inner s).deeds, ¬ shut a := by
            intro a hmem
            rcases List.mem_cons.1 (destinations_begun hb hmem) with rfl | hmem
            · exact ha
            · exact hdest a hmem
          rw [List.forall_mem_cons] at hinner
          obtain ⟨hreply, hhost, hdeeds, haround⟩ := hcallee code rfl input inner s s' hinner.1 hs hinner.2
          rw [hreply, hhost, hdeeds]
          exact ⟨rfl, rfl, rfl, haround⟩

theorem Setting.run_alike (levels : Nat) (g : Guest ε) : AlikeFrom shut R (S.run levels g) := by
  induction levels generalizing g with
  | zero =>
    rw [S.run_eq]
    exact g.run_alike hR (nested_alike hR fun code hcode => by cases hcode)
  | succ levels ih =>
    rw [S.run_eq]
    exact g.run_alike hR (nested_alike hR fun code hcode input => by cases hcode; exact ih (S.executor input))

/-! ## Transactions -/

variable (tx : Transaction) (h : Host) {s s' : σ} (hs : R s s')
  (hcallee : ∀ callee, tx.kind ≠ .transfer → (S.ledger s).callee tx = .ok callee → ¬ shut callee)

include hs hcallee

theorem Setting.process_alike (hdest : ∀ a ∈ destinationsOf (S.process tx h s).deeds, ¬ shut a) :
    Turn.Alike R (S.process tx h s) (S.process tx h s') := by
  unfold process at hdest ⊢
  split
  · rw [Host.moveValue_alike (hR.ledger hs)]
    exact ⟨rfl, rfl, rfl, hs⟩
  · rename_i hkind
    rw [if_neg hkind] at hdest
    rw [Host.prepare_alike (hR.ledger hs)]
    rcases Host.prepare_cases (c := S.config) (L := S.ledger s) tx h with
      ⟨e, h', -, -, hx⟩ | ⟨callee, code, output, meter, hc, -, -, hx⟩ <;> rw [hx] at hdest ⊢
    · exact ⟨rfl, rfl, rfl, hs⟩
    · exact run_alike hR _ _ _ s s' (hcallee callee hkind hc) hs hdest

theorem Setting.transact_alike (hdest : ∀ a ∈ destinationsOf (S.transact tx h s).deeds, ¬ shut a) :
    Turn.Alike R (S.transact tx h s) (S.transact tx h s') := by
  have hprocess : Turn.Alike R (S.process tx h s) (S.process tx h s') := process_alike hR tx h hs hcallee hdest
  refine ⟨?_, hprocess.host, hprocess.deeds, hprocess.around⟩
  show (S.process tx h s').host.conclude _ = (S.process tx h s).host.conclude _
  rw [hprocess.reply, hprocess.host]

end Alike

end ContractHost
