/-
  ContractHost.Proofs.Secrecy — nobody sees the storage of a closed account.

  Two ledgers may differ in what an account `X` has stored, where its metadata lets nobody
  read that (`Ledger.Alike`). Storage is read in three ways: under the account of the
  running call, from another account that is readable, and for the price of a write, again
  under the account of the running call. So a host whose running call is not in `X` gets
  the same answers from both (`Request.perform_alike`): with `X` shut the surroundings
  answer alike (`Setting.answersAlike_closed`), and runs of the same guest code stay the
  same deed by deed as long as no call in a destination context enters `X`. Whose code it
  is that runs does not matter.
-/

import ContractHost.Proofs.Lockstep

namespace ContractHost

/-- Two ledgers that differ in the storage of `X` at most, which others may not read. -/
structure Ledger.Alike (X : Address) (L L' : Ledger) : Prop where
  storage : ∀ a, a ≠ X → L'.storage a = L.storage a
  account : L'.account? = L.account?
  newAddress : L'.newAddress = L.newAddress
  closed : ∀ metadata, L.metadata X = .ok metadata → metadata.readable = false

variable {X : Address} {L L' : Ledger}

/-- Another value in the storage of a closed account makes no more difference than that. -/
theorem World.alike_setStorage {w : World}
    (hclosed : ∀ metadata, w.ledger.metadata X = .ok metadata → metadata.readable = false) (key value : Bytes) :
    w.ledger.Alike X (w.apply (.setStorage X key value)).ledger := by
  refine ⟨fun a ha => funext fun key' => ?_, rfl, rfl, hclosed⟩
  have hsame : (w.storage.insert X ((w.storage.getD X ∅).insert key value)).getD a ∅ = w.storage.getD a ∅ := by
    rw [Std.ExtTreeMap.getD_insert, if_neg (mt Std.LawfulEqCmp.compare_eq_iff_eq.1 (Ne.symm ha))]
  exact congrArg (fun values : BytesMap Bytes => w.answer (values.getD key' [])) hsame

/-- The second ledger is the first with another storage. -/
theorem Ledger.Alike.eq (h : L.Alike X L') : L' = { L with storage := L'.storage } := by
  obtain ⟨storage, account?, newAddress⟩ := L'
  cases h.account
  cases h.newAddress
  rfl

/-! ## Reads -/

namespace Staging

variable {s : Staging} {key : Bytes}

theorem valueOf_alike (hL : L.Alike X L') {a : Address} (ha : a ≠ X) : s.valueOf L' a key = s.valueOf L a key := by
  unfold valueOf
  rw [hL.storage a ha]

theorem get_alike (hL : L.Alike X L') (ha : s.frame.address ≠ X) : s.get L' key = s.get L key := valueOf_alike hL ha

theorem getFrom_alike (hL : L.Alike X L') (ha : s.frame.address ≠ X) (a : Address) :
    s.getFrom L' a key = s.getFrom L a key := by
  have hmetadata : L'.metadata a = L.metadata a := by rw [hL.eq]; rfl
  unfold getFrom
  rw [get_alike hL ha, hmetadata]
  split
  · rfl
  cases hm : L.metadata a with
  | error e => rfl
  | ok metadata =>
    by_cases haX : a = X
    · have hclosed := hL.closed metadata (haX ▸ hm)
      simp [hclosed]
    · rw [valueOf_alike hL haX]

theorem write_alike {c : HostConfig} (hL : L.Alike X L') (ha : s.frame.address ≠ X) (m : Meter) (value : Bytes) :
    s.write c L' m key value = s.write c L m key value := by
  unfold write
  rw [get_alike hL ha]

end Staging

/-! ## Actions -/

/-- Actions that do the same wherever the running call is not in `X`. -/
def Action.Alike {α : Type} (X : Address) (x x' : Action α) : Prop := ∀ h : Host, h.address ≠ X → x' h = x h

namespace Action

variable {α β : Type} {x x' : Action α} {f f' : α → Action β}

theorem Alike.refl (x : Action α) : Alike X x x := fun _ _ => rfl

theorem Alike.read {g g' : Host → α} (hg : ∀ h : Host, h.address ≠ X → g' h = g h) : Alike X (read g) (read g') := by
  intro h ha
  rw [read_apply, read_apply, hg h ha]

theorem Alike.bind (hx : Alike X x x') (hkeeps : Keeps Host.address x) (hf : ∀ a, Alike X (f a) (f' a)) :
    Alike X (x >>= f) (x' >>= f') := by
  intro h ha
  have haddress := hkeeps h
  simp only [bind_apply, hx h ha]
  rcases hstep : x h with ⟨e | a, after⟩
  · rfl
  · rw [hstep] at haddress
    exact hf a after (haddress ▸ ha)

/-- What follows is the same anyway. -/
theorem Alike.andThen (hx : Alike X x x') (f : α → Action β) : Alike X (x >>= f) (x' >>= f) := by
  intro h ha
  simp only [bind_apply, hx h ha]

end Action

/-! ## Requests -/

namespace Host

open ContractHost.Action

variable {c : HostConfig}

theorem keeps_address_useGas (amount : U64) : Keeps address (useGas amount) := keeps_useGas fun _ => rfl

theorem writeStorage_alike (hL : L.Alike X L') (key value : Bytes) :
    Alike X (writeStorage c L key value) (writeStorage c L' key value) := by
  intro h ha
  unfold writeStorage
  rw [Staging.write_alike hL ha]

theorem unguarded_alike {α : Type} {x x' : Action α} (hx : Alike X x x') : Alike X (unguarded x) (unguarded x') := by
  intro h ha
  unfold unguarded
  rw [hx { h with staging := h.staging.setGuarded false } ha]

theorem store_alike (hL : L.Alike X L') (key value : Bytes) : Alike X (store c L key value) (store c L' key value) :=
  (Alike.refl _).bind (keeps_address_useGas _) fun _ => writeStorage_alike hL key value

theorem load_alike (hL : L.Alike X L') (key : Bytes) : Alike X (load c L key) (load c L' key) :=
  (Alike.read fun _ ha => Staging.get_alike hL ha).andThen _

theorem loadFrom_alike (hL : L.Alike X L') (a : Address) (key : Bytes) :
    Alike X (loadFrom c L a key) (loadFrom c L' a key) :=
  (Alike.read fun _ ha => Staging.getFrom_alike hL ha a).andThen _

theorem upgrade_alike (hL : L.Alike X L') (code : Bytes) (metadata : CodeMetadata) :
    Alike X (upgrade c L code metadata) (upgrade c L' code metadata) := by
  have hmetadata : L'.metadata = L.metadata := by rw [hL.eq]; rfl
  unfold upgrade
  rw [hmetadata]
  refine (Alike.refl _).bind (keeps_read _) fun readOnly => (Alike.refl _).bind (keeps_require _ _) fun _ => ?_
  refine (Alike.refl _).bind (keeps_read _) fun a => (Alike.refl _).bind (keeps_lookup _) fun current => ?_
  refine (Alike.refl _).bind (keeps_require _ _) fun _ => (Alike.refl _).bind (keeps_address_useGas _) fun _ => ?_
  exact (unguarded_alike (writeStorage_alike hL _ _)).andThen _

end Host

/-- A request that is not made in `X` tells nothing of the storage of `X`. -/
theorem Request.perform_alike {c : HostConfig} (hL : L.Alike X L') (r : Request) :
    Action.Alike X (r.perform c L) (r.perform c L') := by
  cases r with
  | useGas amount => exact .refl _
  | store key value => exact Host.store_alike hL key value
  | load key => exact Host.load_alike hL key
  | loadFrom a key => exact Host.loadFrom_alike hL a key
  | finish data => exact .refl _
  | transfer receiver value data =>
    rw [hL.eq]
    exact .refl _
  | log identifier topics data => exact .refl _
  | upgrade code metadata => exact Host.upgrade_alike hL code metadata
  | balance a =>
    rw [hL.eq]
    exact .refl _

/-! ## Transactions -/

section Transactions

variable {ε σ : Type} {S : Setting ε σ}

/-- Surroundings whose ledgers differ in the storage of a closed account answer alike outside of it. -/
theorem Setting.answersAlike_closed
    (hreact : ∀ e s s', (S.ledger s).Alike X (S.ledger s') → (S.ledger (S.react e s)).Alike X (S.ledger (S.react e s'))) :
    S.AnswersAlike (· = X) fun s s' => (S.ledger s).Alike X (S.ledger s') where
  ledger hL := hL.eq
  perform hL r h ha := r.perform_alike hL h ha
  react hL event := hreact event _ _ hL

/-- Two committed states that differ in the storage of a closed account at most give the same output and the same run,
    unless that account is the callee of the transaction or of a call in a destination context. -/
theorem Setting.transact_conceals
    (hreact : ∀ e s s', (S.ledger s).Alike X (S.ledger s') → (S.ledger (S.react e s)).Alike X (S.ledger (S.react e s')))
    {tx : Transaction} {gas : U64} {s s' : σ} (hL : (S.ledger s).Alike X (S.ledger s'))
    (hcallee : tx.kind ≠ .transfer → (S.ledger s).callee tx ≠ .ok X)
    (hdest : X ∉ destinationsOf (S.transact tx (.start gas) s).deeds) :
    (S.transact tx (.start gas) s').reply = (S.transact tx (.start gas) s).reply ∧
      (S.transact tx (.start gas) s').deeds = (S.transact tx (.start gas) s).deeds := by
  have houtside : ∀ callee, tx.kind ≠ .transfer → (S.ledger s).callee tx = .ok callee → callee ≠ X := by
    rintro callee hkind hc rfl
    exact hcallee hkind hc
  have halike := transact_alike (answersAlike_closed hreact) tx (.start gas) hL houtside
    (fun a ha heq => hdest (heq ▸ ha))
  exact ⟨halike.reply, halike.deeds⟩

/-- Code that runs the code of another account in its own, which there reads and writes under one key and asks for
    the value that its own account has. -/
def pryingGuest (input : CallInput) : Guest Unit :=
  if input.depth = 0 then .call .sameContext ⟨.named "carol", 0, "pry", [], 50000⟩ fun _ => .done (.ok ())
  else
    .ask (.store [1] [2]) fun _ => .ask (.load [1]) fun own => .ask (.loadFrom (.named "carol") [1]) fun other =>
      .ask (.finish (match own, other with
        | .ok value, .ok none => value
        | _, _ => [])) fun reply => .done reply

def pryingSetting : Setting Unit World := ⟨.standard, pryingGuest, World.ledger, fun _ w => w⟩

def pryingWorld : World :=
  .ofSteps [.putAccount (.named "bob") ⟨40, 0, [7], .none⟩, .putAccount (.named "carol") ⟨9, 0, [8], .none⟩,
    .setStorage (.named "carol") [1] [5, 5, 5]]

def pryingCall : Transaction := .call (.named "alice") (.named "bob") "f" 100000

theorem Setting.transact_conceals_prying :
    let richer := pryingWorld.apply (.setStorage (.named "carol") [1] [6, 7])
    richer.ledger.storage (.named "carol") [1] ≠ pryingWorld.ledger.storage (.named "carol") [1] ∧
      (pryingSetting.transact pryingCall (.start 100000) richer).reply =
        (pryingSetting.transact pryingCall (.start 100000) pryingWorld).reply ∧
      (pryingSetting.transact pryingCall (.start 100000) pryingWorld).reply.finishData = [[2], Host.successMarker] := by
  have hclosed : ∀ metadata, pryingWorld.ledger.metadata (.named "carol") = .ok metadata →
      metadata.readable = false := by
    intro metadata hmetadata
    have hnone : pryingWorld.ledger.metadata (.named "carol") = .ok .none := by decide +kernel
    cases hmetadata.symm.trans hnone
    rfl
  have hL := World.alike_setStorage hclosed [1] [6, 7]
  have hcallee : pryingCall.kind ≠ .transfer → pryingWorld.ledger.callee pryingCall ≠ .ok (.named "carol") := by decide
  have hdest : Address.named "carol" ∉
      destinationsOf (pryingSetting.transact pryingCall (.start 100000) pryingWorld).deeds := by decide +kernel
  have hsame := Setting.transact_conceals (S := pryingSetting) (fun _ _ _ hL => hL) hL hcallee hdest
  exact ⟨by decide +kernel, hsame.1, by decide +kernel⟩

end Transactions

end ContractHost
