import Registrar.Proofs.Exchange
import Registrar.Rpc.Submission

/-!
This module contains what the submission of a transaction comes to, whatever a node answers. Without
a key nothing is asked. Otherwise the transaction is completed by requests in a fixed order, the
first failure being the end of it, and only a transaction that has been completed is sent, once, and
not in a dry run. Receipts are asked for until one tells how the transaction ended.
-/

namespace Registrar.Rpc

def quantityOf (y : Except Failure Json) : Except Failure Nat :=
  readAs "a quantity" (quantity? (2 ^ 64)) y

def historyOf (y : Except Failure Json) : Except Failure FeeHistory :=
  readAs "a history of fees" feeHistory? y

/-- The hash that a node gives for what it has been sent. -/
def givenHash (y : Except Failure Json) : Except Failure Bytes :=
  readAs "a hash" (bytesOf? 32) y

/-- The latest block, if there is one. -/
def blockOf (y : Except Failure Json) : Except Failure (Option Block) :=
  y.bind fun
    | .null => .ok none
    | j => (readAs "a block" block? (.ok j)).map some

def Block.feeOf : Option Block → Except Failure Nat
  | none => .error .null
  | some b => b.baseFee.elim (.error (.unsupported "eip1559")) .ok

/-- The base fee that the latest block tells. -/
def blockFee (y : Except Failure Json) : Except Failure Nat :=
  (blockOf y).bind Block.feeOf

/-- Whether the transaction succeeded, if there is a receipt. -/
def receiptOf (y : Except Failure Json) : Except Failure (Option Bool) :=
  y.bind fun
    | .null => .ok none
    | j => (readAs "a receipt" receipt? (.ok j)).map some

def askQuantity (q : Request) : Exchange Nat :=
  ask q >>= fun j => expect "a quantity" (quantity? (2 ^ 64) j)

def askHistory : Exchange FeeHistory :=
  ask .feeHistory >>= fun j => expect "a history of fees" (feeHistory? j)

def askHash (envelope : Bytes) : Exchange Bytes :=
  ask (.sendTransaction envelope) >>= fun j => expect "a hash" (bytesOf? 32 j)

theorem askQuantity_inquires (q : Request) : Inquires (askQuantity q) q quantityOf :=
  inquires_expect _ _ _

theorem askHistory_inquires : Inquires askHistory .feeHistory historyOf :=
  inquires_expect _ _ _

theorem askHash_inquires (envelope : Bytes) :
    Inquires (askHash envelope) (.sendTransaction envelope) givenHash :=
  inquires_expect _ _ _

theorem receipt_inquires (hash : Bytes) : Inquires (receipt hash) (.receipt hash) receiptOf := by
  apply (inquires_ask _).bind
  intro j log r
  cases j with
  | null => exact runs_pure_iff
  | _ => exact runs_expect_bind_iff

theorem latestBlock_inquires : Inquires latestBlock .latestBlock blockOf := by
  apply (inquires_ask _).bind
  intro j log r
  cases j with
  | null => exact runs_pure_iff
  | _ => exact runs_expect_bind_iff

/-- The base fee is told by the history of fees, or else by the latest block. -/
inductive Priced (history : FeeHistory) : Log → Nat → Prop where
  | told {fee : Nat} (hh : history.latestBaseFee = some fee) : Priced history [] fee
  | asked {y : Except Failure Json} {fee : Nat} (hh : history.latestBaseFee = none)
      (hy : blockFee y = .ok fee) : Priced history [⟨.latestBlock, y⟩] fee

theorem baseFee_of_some {history : FeeHistory} {fee : Nat}
    (hh : history.latestBaseFee = some fee) : baseFee history = pure fee := by
  unfold baseFee
  rw [hh]

theorem baseFee_inquires {history : FeeHistory} (hh : history.latestBaseFee = none) :
    Inquires (baseFee history) .latestBlock blockFee := by
  unfold baseFee
  rw [hh]
  apply latestBlock_inquires.bind
  intro b log r
  cases b with
  | none => exact runs_throw_iff
  | some b =>
    unfold Block.feeOf
    dsimp only
    cases b.baseFee with
    | none => exact runs_throw_iff
    | some fee => exact runs_pure_iff

theorem runs_baseFee_ok_iff {history : FeeHistory} {log : Log} {fee : Nat} :
    Runs (baseFee history) log (.ok fee) ↔ Priced history log fee := by
  cases hh : history.latestBaseFee with
  | some told =>
    rw [baseFee_of_some hh, runs_pure_iff]
    constructor
    . rintro ⟨rfl, ⟨⟩⟩
      exact .told hh
    . intro h
      cases h with
      | told hh' =>
        cases hh.symm.trans hh'
        exact ⟨rfl, rfl⟩
      | asked hh' => cases hh.symm.trans hh'
  | none =>
    rw [baseFee_inquires hh]
    constructor
    . rintro ⟨y, rfl, hy⟩
      exact .asked hh hy.symm
    . intro h
      cases h with
      | told hh' => cases hh.symm.trans hh'
      | @asked y _ _ hy => exact ⟨y, rfl, hy.symm⟩

/-- The transaction is completed with what the answers are read as. -/
inductive Completes (sender : Address) (t : Transaction) : Log → FilledTransaction → Prop where
  | intro {y₁ y₂ y₃ y₄ : Except Failure Json} {nonce chainId gasLimit base : Nat}
      {history : FeeHistory} {u : Log}
      (h₁ : quantityOf y₁ = .ok nonce) (h₂ : quantityOf y₂ = .ok chainId)
      (h₃ : quantityOf y₃ = .ok gasLimit) (h₄ : historyOf y₄ = .ok history)
      (hu : Priced history u base) :
      Completes sender t
        (⟨.transactionCount sender, y₁⟩ :: ⟨.chainId, y₂⟩ ::
          ⟨.estimateGas ⟨some sender, t.target, t.calldata⟩, y₃⟩ :: ⟨.feeHistory, y₄⟩ :: u)
        { chainId, nonce, gasLimit, target := t.target, calldata := t.calldata,
          priorityFee := priorityFee history.rewards,
          maxFee := 2 * base + priorityFee history.rewards }

theorem complete_eq (sender : Address) (t : Transaction) :
    complete sender t = (do
      let nonce ← askQuantity (.transactionCount sender)
      let chainId ← askQuantity .chainId
      let gasLimit ← askQuantity (.estimateGas ⟨some sender, t.target, t.calldata⟩)
      let history ← askHistory
      let base ← baseFee history
      return { chainId, nonce, gasLimit, target := t.target, calldata := t.calldata,
               priorityFee := priorityFee history.rewards,
               maxFee := 2 * base + priorityFee history.rewards }) := by
  unfold complete chainId askQuantity askHistory
  simp only [bind_assoc]

theorem runs_complete_ok_iff {sender : Address} {t : Transaction} {log : Log}
    {filled : FilledTransaction} :
    Runs (complete sender t) log (.ok filled) ↔ Completes sender t log filled := by
  rw [complete_eq]
  simp only [(askQuantity_inquires _).runs_bind_ok_iff, askHistory_inquires.runs_bind_ok_iff]
  constructor
  . rintro ⟨y₁, nonce, _, h₁, rfl, y₂, chainId, _, h₂, rfl, y₃, gasLimit, _, h₃, rfl,
      y₄, history, _, h₄, rfl, h⟩
    obtain ⟨base, u, v, rfl, hu, h⟩ | ⟨f, ⟨⟩, -⟩ := runs_bind_iff.1 h
    obtain ⟨rfl, ⟨⟩⟩ := runs_pure_iff.1 h
    rw [List.append_nil]
    exact .intro h₁ h₂ h₃ h₄ (runs_baseFee_ok_iff.1 hu)
  . rintro ⟨h₁, h₂, h₃, h₄, hu⟩
    refine ⟨_, _, _, h₁, rfl, _, _, _, h₂, rfl, _, _, _, h₃, rfl, _, _, _, h₄, rfl, ?_⟩
    have hbase := runs_baseFee_ok_iff.2 hu
    apply runs_bind_iff.2
    exact Or.inl ⟨_, _, [], (List.append_nil _).symm, hbase, runs_pure_iff.2 ⟨rfl, rfl⟩⟩

/-- What a transaction is completed with is asked for in this order. The latest block is asked for
only if the history does not tell its base fee. -/
def preparation (sender : Address) (t : Transaction) : List Request :=
  [.transactionCount sender, .chainId, .estimateGas ⟨some sender, t.target, t.calldata⟩,
   .feeHistory, .latestBlock]

/-- The failure that an answer amounts to. -/
def Exchanged.failure? : Exchanged → Option Failure
  | ⟨.transactionCount _, y⟩ => failureOf (quantityOf y)
  | ⟨.chainId, y⟩ => failureOf (quantityOf y)
  | ⟨.estimateGas _, y⟩ => failureOf (quantityOf y)
  | ⟨.feeHistory, y⟩ => failureOf (historyOf y)
  | ⟨.latestBlock, y⟩ => failureOf (blockFee y)
  | ⟨.sendTransaction _, y⟩ => failureOf (givenHash y)
  | ⟨.receipt _, y⟩ => failureOf (receiptOf y)
  | ⟨_, y⟩ => failureOf y

theorem complete_orderly (sender : Address) (t : Transaction) :
    Orderly Exchanged.failure? (preparation sender t) (complete sender t) := by
  rw [complete_eq]
  apply (askQuantity_inquires _).orderly_bind fun _ => rfl
  intro nonce
  apply (askQuantity_inquires _).orderly_bind fun _ => rfl
  intro chainId
  apply (askQuantity_inquires _).orderly_bind fun _ => rfl
  intro gasLimit
  apply askHistory_inquires.orderly_bind fun _ => rfl
  intro history
  cases hh : history.latestBaseFee with
  | some fee =>
    rw [baseFee_of_some hh, pure_bind]
    apply orderly_pure
  | none =>
    apply (baseFee_inquires hh).orderly_bind fun _ => rfl
    intro base
    apply orderly_pure

/-- How receipts are asked for: again and again, up to `n` times, until one tells how the
transaction ended. -/
inductive Polls (hash : Bytes) : Nat → Log → Except Failure Bool → Prop where
  | tired : Polls hash 0 [] (.error (.transport "transaction was not confirmed within the timeout"))
  | failed {n : Nat} {y : Except Failure Json} {f : Failure} (hy : receiptOf y = .error f) :
      Polls hash (n + 1) [⟨.receipt hash, y⟩] (.error f)
  | told {n : Nat} {y : Except Failure Json} {success : Bool}
      (hy : receiptOf y = .ok (some success)) :
      Polls hash (n + 1) [⟨.receipt hash, y⟩] (.ok success)
  | again {n : Nat} {y : Except Failure Json} {log : Log} {r : Except Failure Bool}
      (hy : receiptOf y = .ok none) (h : Polls hash n log r) :
      Polls hash (n + 1) (⟨.receipt hash, y⟩ :: log) r

theorem runs_awaitReceipt_iff {hash : Bytes} {n : Nat} {log : Log} {r : Except Failure Bool} :
    Runs (awaitReceipt hash n) log r ↔ Polls hash n log r := by
  induction n generalizing log with
  | zero =>
    refine runs_throw_iff.trans ?_
    constructor
    . rintro ⟨rfl, rfl⟩
      exact .tired
    . intro h
      cases h
      exact ⟨rfl, rfl⟩
  | succ n ih =>
    unfold awaitReceipt
    rw [(receipt_inquires hash).runs_bind_iff]
    constructor
    . rintro (⟨y, f, hy, rfl, rfl⟩ | ⟨y, success, u, hy, rfl, h⟩)
      . exact .failed hy
      . cases success with
        | none => exact .again hy (ih.1 h)
        | some success =>
          obtain ⟨rfl, rfl⟩ := runs_pure_iff.1 h
          exact .told hy
    . intro h
      cases h with
      | failed hy => exact Or.inl ⟨_, _, hy, rfl, rfl⟩
      | told hy => exact Or.inr ⟨_, _, [], hy, rfl, runs_pure_iff.2 ⟨rfl, rfl⟩⟩
      | again hy h => exact Or.inr ⟨_, _, _, hy, rfl, ih.2 h⟩

/-- How a transaction is confirmed: what the first receipt tells does not count yet. -/
inductive Confirms (hash : Bytes) (n : Nat) : Log → Except Failure Bool → Prop where
  | failed {y : Except Failure Json} {f : Failure} (hy : receiptOf y = .error f) :
      Confirms hash n [⟨.receipt hash, y⟩] (.error f)
  | polled {y : Except Failure Json} {success : Option Bool} {log : Log} {r : Except Failure Bool}
      (hy : receiptOf y = .ok success) (h : Polls hash n log r) :
      Confirms hash n (⟨.receipt hash, y⟩ :: log) r

def confirm (hash : Bytes) (n : Nat) : Exchange Bool :=
  receipt hash >>= fun _ => awaitReceipt hash n

theorem runs_confirm_iff {hash : Bytes} {n : Nat} {log : Log} {r : Except Failure Bool} :
    Runs (confirm hash n) log r ↔ Confirms hash n log r := by
  unfold confirm
  rw [(receipt_inquires hash).runs_bind_iff]
  simp only [runs_awaitReceipt_iff]
  constructor
  . rintro (⟨y, f, hy, rfl, rfl⟩ | ⟨y, success, u, hy, rfl, h⟩)
    . exact .failed hy
    . exact .polled hy h
  . intro h
    cases h with
    | failed hy => exact Or.inl ⟨_, _, hy, rfl, rfl⟩
    | polled hy h => exact Or.inr ⟨_, _, _, hy, rfl, h⟩

/-- What a transaction comes to that has been sent, given how it was confirmed. -/
def ending (hash : Bytes) : Except Failure Bool → Except TransactionError TransactionOutcome
  | .error f => .error (.receipt hash f.message)
  | .ok false => .error (.reverted hash)
  | .ok true => .ok { hash, included := true }

/-- What is done with an envelope: in a dry run nothing, and otherwise it is sent, once, and
confirmed under the hash that the node gives. -/
inductive Concludes (s : Submitter) (envelope : Bytes) :
    Log → Except TransactionError TransactionOutcome → Prop where
  | rehearsed (hd : s.dryRun = true) :
      Concludes s envelope [] (.ok { hash := envelopeHash envelope, included := false })
  | refused {y : Except Failure Json} {f : Failure} (hd : s.dryRun = false)
      (hy : givenHash y = .error f) :
      Concludes s envelope [⟨.sendTransaction envelope, y⟩]
        (.error (.broadcast (envelopeHash envelope) f.message))
  | confirmed {y : Except Failure Json} {given : Bytes} {log : Log} {success : Except Failure Bool}
      (hd : s.dryRun = false) (hy : givenHash y = .ok given)
      (h : Confirms given s.patience log success) :
      Concludes s envelope (⟨.sendTransaction envelope, y⟩ :: log)
        (ending (envelopeHash envelope) success)

section Submit

variable {s : Submitter} {t : Transaction} {envelope : Bytes} {log : Log}
  {r : Except TransactionError TransactionOutcome}

theorem send_eq (s : Submitter) (envelope : Bytes) :
    s.send envelope = Interaction.bind (ExceptT.run (askHash envelope)) fun
      | .error f => .done (.error (.broadcast (envelopeHash envelope) f.message))
      | .ok given => Interaction.bind (ExceptT.run (confirm given s.patience)) fun success =>
        .done (ending (envelopeHash envelope) success) := by
  unfold Submitter.send
  show Interaction.bind (ExceptT.run (askHash envelope)) _ = _
  congr 1
  funext sent
  cases sent with
  | error f => rfl
  | ok given =>
    show Interaction.bind (ExceptT.run (confirm given s.patience)) _ = _
    congr 1
    funext success
    rcases success with f | _ | _ <;> rfl

/-- What is done with the result of an exchange. -/
theorem run_exchange_bind_iff {α β : Type} {x : Exchange α}
    {k : Except Failure α → Interaction Request Reply β} {b : β} :
    Interaction.Run (Interaction.bind (ExceptT.run x) k) log b ↔
      ∃ a u v, log = u ++ v ∧ Runs x u a ∧ Interaction.Run (k a) v b :=
  Interaction.run_bind_iff

theorem run_send_iff (hd : s.dryRun = false) :
    Interaction.Run (s.send envelope) log r ↔ Concludes s envelope log r := by
  rw [send_eq, run_exchange_bind_iff]
  simp only [askHash_inquires envelope _ _]
  constructor
  . rintro ⟨_, _, v, rfl, ⟨y, rfl, rfl⟩, h⟩
    cases hy : givenHash y with
    | error f =>
      rw [hy] at h
      obtain ⟨rfl, rfl⟩ := Interaction.run_done_iff.1 h
      exact .refused hd hy
    | ok given =>
      rw [hy] at h
      obtain ⟨success, u, w, rfl, hu, h⟩ := run_exchange_bind_iff.1 h
      obtain ⟨rfl, rfl⟩ := Interaction.run_done_iff.1 h
      rw [List.append_nil]
      exact .confirmed hd hy (runs_confirm_iff.1 hu)
  . intro h
    cases h with
    | rehearsed hd' => cases hd.symm.trans hd'
    | @refused y f _ hy =>
      refine ⟨.error f, _, [], rfl, ⟨y, rfl, hy.symm⟩, ?_⟩
      exact Interaction.run_done_iff.2 ⟨rfl, rfl⟩
    | @confirmed y given u success _ hy hu =>
      refine ⟨.ok given, [⟨_, y⟩], u, rfl, ⟨y, rfl, hy.symm⟩, ?_⟩
      refine run_exchange_bind_iff.2 ⟨success, u, [], (List.append_nil u).symm, ?_, ?_⟩
      . exact runs_confirm_iff.2 hu
      . exact Interaction.run_done_iff.2 ⟨rfl, rfl⟩

theorem run_rehearsal_iff (hd : s.dryRun = true) :
    Interaction.Run (.done (.ok { hash := envelopeHash envelope, included := false })) log r ↔
      Concludes s envelope log r := by
  rw [Interaction.run_done_iff]
  constructor
  . rintro ⟨rfl, rfl⟩
    exact .rehearsed hd
  . intro h
    cases h with
    | rehearsed => exact ⟨rfl, rfl⟩
    | refused hd' => cases hd.symm.trans hd'
    | confirmed hd' => cases hd.symm.trans hd'

theorem run_submit_none_iff (hk : s.key = none) :
    Interaction.Run (s.submit t) log r ↔ log = [] ∧ r = .error (.unsigned t.method) := by
  unfold Submitter.submit
  rw [hk]
  exact Interaction.run_done_iff

theorem run_submit_some_iff {key : Secp256k1.SecretKey} (hk : s.key = some key) :
    Interaction.Run (s.submit t) log r ↔
      (∃ f, Runs (complete key.address t) log (.error f) ∧
          r = .error (.build t.method f.message)) ∨
        ∃ u v filled, log = u ++ v ∧ Completes key.address t u filled ∧
          Concludes s (filled.envelope key) v r := by
  have hconclude (filled : FilledTransaction) (v : Log) :
      Interaction.Run (if s.dryRun then
          .done (.ok { hash := envelopeHash (filled.envelope key), included := false })
        else s.send (filled.envelope key)) v r ↔ Concludes s (filled.envelope key) v r := by
    cases hd : s.dryRun with
    | true => exact run_rehearsal_iff hd
    | false => exact run_send_iff hd
  unfold Submitter.submit
  rw [hk]
  show Interaction.Run (Interaction.bind (ExceptT.run (complete key.address t)) _) log r ↔ _
  rw [run_exchange_bind_iff]
  constructor
  . rintro ⟨completed, u, v, rfl, hu, h⟩
    cases completed with
    | error f =>
      obtain ⟨rfl, rfl⟩ := Interaction.run_done_iff.1 h
      rw [List.append_nil]
      exact Or.inl ⟨f, hu, rfl⟩
    | ok filled =>
      exact Or.inr ⟨u, v, filled, rfl, runs_complete_ok_iff.1 hu, (hconclude filled v).1 h⟩
  . rintro (⟨f, hf, rfl⟩ | ⟨u, v, filled, rfl, hu, h⟩)
    . refine ⟨.error f, log, [], (List.append_nil log).symm, hf, ?_⟩
      exact Interaction.run_done_iff.2 ⟨rfl, rfl⟩
    . exact ⟨.ok filled, u, v, rfl, runs_complete_ok_iff.2 hu, (hconclude filled v).2 h⟩

end Submit

def Request.isSending : Request → Bool
  | .sendTransaction _ => true
  | _ => false

/-- The hash that a result tells. -/
def hashOf? : Except TransactionError TransactionOutcome → Option Bytes
  | .ok o => some o.hash
  | .error (.broadcast hash _) => some hash
  | .error (.receipt hash _) => some hash
  | .error (.reverted hash) => some hash
  | .error (.build _ _) => none
  | .error (.unsigned _) => none

/-- The transaction has been completed at the beginning of the log. -/
def CompletedIn (log : Log) (sender : Address) (t : Transaction) (filled : FilledTransaction) :
    Prop :=
  ∃ asked rest, log = asked ++ rest ∧ Completes sender t asked filled

section Consequences

variable {s : Submitter} {t : Transaction} {sender : Address} {filled : FilledTransaction}
  {envelope hash : Bytes} {n : Nat} {log : Log} {f : Failure} {success : Except Failure Bool}
  {r : Except TransactionError TransactionOutcome}

theorem not_isSending_of_prefix (h : log.map Sigma.fst <+: preparation sender t) :
    ∀ e ∈ log, e.1.isSending = false := by
  intro e he
  have hmem : e.1 ∈ preparation sender t := h.subset (List.mem_map_of_mem he)
  have hall : ∀ q ∈ preparation sender t, q.isSending = false := by
    simp [preparation, Request.isSending]
  exact hall _ hmem

theorem countP_isSending (h : ∀ e ∈ log, e.1.isSending = false) :
    log.countP (fun e => e.1.isSending) = 0 := by
  rw [List.countP_eq_zero]
  intro e he
  rw [h e he]
  exact Bool.false_ne_true

/-- What is signed is the transaction, completed with the answers to four requests at least. -/
theorem Completes.keeps (h : Completes sender t log filled) :
    4 ≤ log.length ∧ filled.target = t.target ∧ filled.calldata = t.calldata := by
  obtain ⟨h₁, h₂, h₃, h₄, hu⟩ := h
  exact ⟨by simp, rfl, rfl⟩

theorem Polls.receipts (h : Polls hash n log success) : ∀ e ∈ log, e.1 = .receipt hash := by
  induction h with
  | tired => exact nofun
  | failed => simp
  | told => simp
  | again _ _ ih => exact List.forall_mem_cons.2 ⟨rfl, ih⟩

theorem Confirms.receipts (h : Confirms hash n log success) : ∀ e ∈ log, e.1 = .receipt hash := by
  cases h with
  | failed => simp
  | polled _ h => exact List.forall_mem_cons.2 ⟨rfl, h.receipts⟩

/-- What the last receipt tells counts. -/
theorem Polls.last {b : Bool} (h : Polls hash n log (.ok b)) :
    ∃ before y, log = before ++ [⟨.receipt hash, y⟩] ∧ receiptOf y = .ok (some b) := by
  generalize hr : Except.ok b = r at h
  induction h with
  | tired => cases hr
  | failed => cases hr
  | told hy =>
    cases hr
    exact ⟨[], _, rfl, hy⟩
  | again _ _ ih =>
    obtain ⟨before, y, rfl, hy⟩ := ih hr
    exact ⟨_ :: before, y, rfl, hy⟩

theorem Confirms.last {b : Bool} (h : Confirms hash n log (.ok b)) :
    ∃ before y, log = before ++ [⟨.receipt hash, y⟩] ∧ receiptOf y = .ok (some b) := by
  cases h with
  | polled _ h =>
    obtain ⟨before, y, rfl, hy⟩ := h.last
    exact ⟨_ :: before, y, rfl, hy⟩

theorem Confirms.not_isSending (h : Confirms hash n log success) :
    ∀ e ∈ log, e.1.isSending = false := by
  intro e he
  rw [h.receipts e he]
  rfl

theorem ending_eq_ok_iff {o : TransactionOutcome} :
    ending hash success = .ok o ↔ success = .ok true ∧ o = { hash, included := true } := by
  rcases success with f | _ | _ <;> simp [ending, eq_comm]

theorem hashOf?_ending (hash : Bytes) (success : Except Failure Bool) :
    hashOf? (ending hash success) = some hash := by
  rcases success with f | _ | _ <;> rfl

theorem Concludes.countP_le (h : Concludes s envelope log r) :
    log.countP (fun e => e.1.isSending) ≤ 1 := by
  cases h with
  | rehearsed => exact Nat.zero_le 1
  | refused => exact Nat.le_refl 1
  | confirmed _ _ h =>
    rw [List.countP_cons, countP_isSending h.not_isSending]
    exact Nat.le_refl 1

theorem Concludes.sent {e : Exchanged} {other : Bytes} (h : Concludes s envelope log r)
    (he : e ∈ log) (hsent : e.1 = .sendTransaction other) :
    s.dryRun = false ∧ other = envelope := by
  have hhere (y : Except Failure Json)
      (heq : e = (⟨.sendTransaction envelope, y⟩ : Exchanged)) : other = envelope := by
    rw [heq] at hsent
    cases hsent
    rfl
  cases h with
  | rehearsed => cases he
  | refused hd => exact ⟨hd, hhere _ (List.mem_singleton.1 he)⟩
  | confirmed hd _ h =>
    refine ⟨hd, ?_⟩
    cases List.mem_cons.1 he with
    | inl heq => exact hhere _ heq
    | inr he =>
      have hreceipt := h.receipts e he
      rw [hsent] at hreceipt
      cases hreceipt

theorem Concludes.of_ok {o : TransactionOutcome} (h : Concludes s envelope log (.ok o)) :
    (o.included = false ↔ s.dryRun = true) ∧
      (o.included = true → ∃ y given receipts y',
        log = ⟨.sendTransaction envelope, y⟩ :: (receipts ++ [⟨.receipt given, y'⟩]) ∧
        givenHash y = .ok given ∧ receiptOf y' = .ok (some true)) := by
  generalize hr : Except.ok o = r at h
  cases h with
  | rehearsed hd =>
    cases hr
    exact ⟨by simp [hd], nofun⟩
  | refused => cases hr
  | @confirmed y given receipts _ hd hy h =>
    obtain ⟨rfl, rfl⟩ := ending_eq_ok_iff.1 hr.symm
    refine ⟨by simp [hd], fun _ => ?_⟩
    obtain ⟨before, y', rfl, hy'⟩ := h.last
    exact ⟨y, given, before, y', rfl, hy, hy'⟩

theorem Concludes.hashOf?_eq (h : Concludes s envelope log r) :
    hashOf? r = some (envelopeHash envelope) := by
  cases h with
  | rehearsed => rfl
  | refused => rfl
  | confirmed => exact hashOf?_ending _ _

/-- Without a key nothing is asked. Otherwise nonce, chain, gas and fees are asked for in this
order, and the first failure is the end. What is sent is sent once, not in a dry run, and only if
all of this has succeeded; it is the envelope of the transaction with its target and calldata. A dry
run succeeds without a receipt, and any other run only if the last receipt reports success. The hash
that is told is always that of the envelope. -/
theorem submit_completes_then_sends (hr : Interaction.Run (s.submit t) log r) :
    (s.key = none → log = [] ∧ r = .error (.unsigned t.method)) ∧
    (∀ key, s.key = some key → ∃ asked rest, log = asked ++ rest ∧
      asked.map Sigma.fst <+: preparation key.address t ∧
      ((∃ before e f, asked = before ++ [e] ∧
          (∀ e' ∈ before, Exchanged.failure? e' = none) ∧ Exchanged.failure? e = some f ∧
          rest = [] ∧ r = .error (.build t.method f.message)) ∨
        (∀ e ∈ asked, Exchanged.failure? e = none) ∧ 4 ≤ asked.length ∧
          ∃ filled, Completes key.address t asked filled ∧
            Concludes s (filled.envelope key) rest r)) ∧
    log.countP (fun e => e.1.isSending) ≤ 1 ∧
    (∀ e ∈ log, ∀ envelope, e.1 = .sendTransaction envelope →
      s.dryRun = false ∧ ∃ key filled, s.key = some key ∧ CompletedIn log key.address t filled ∧
        envelope = filled.envelope key ∧ filled.target = t.target ∧
        filled.calldata = t.calldata) ∧
    (∀ o, r = .ok o → (o.included = false ↔ s.dryRun = true) ∧
      (o.included = true → ∃ before envelope y given receipts y',
        log = before ++ ⟨.sendTransaction envelope, y⟩ :: (receipts ++ [⟨.receipt given, y'⟩]) ∧
        givenHash y = .ok given ∧ receiptOf y' = .ok (some true))) ∧
    ∀ hash, hashOf? r = some hash → ∃ key filled, s.key = some key ∧
      CompletedIn log key.address t filled ∧ hash = envelopeHash (filled.envelope key) := by
  cases hk : s.key with
  | none =>
    obtain ⟨rfl, rfl⟩ := (run_submit_none_iff hk).1 hr
    refine ⟨fun _ => ⟨rfl, rfl⟩, nofun, Nat.zero_le 1, nofun, nofun, nofun⟩
  | some key =>
    obtain ⟨f, hf, rfl⟩ | ⟨asked, rest, filled, rfl, hasked, hrest⟩ :=
      (run_submit_some_iff hk).1 hr
    . obtain ⟨horder, before, e, heq, hbefore, he⟩ := complete_orderly key.address t _ _ hf
      have hunsent := not_isSending_of_prefix horder
      refine ⟨nofun, ?_, ?_, ?_, nofun, nofun⟩
      . intro key' hkey
        cases hkey
        exact ⟨log, [], (List.append_nil log).symm, horder,
          Or.inl ⟨before, e, f, heq, hbefore, he, rfl, rfl⟩⟩
      . rw [countP_isSending hunsent]
        exact Nat.zero_le 1
      . intro e he envelope hsent
        have h := hunsent e he
        rw [hsent] at h
        cases h
    . have hcompleted : CompletedIn (asked ++ rest) key.address t filled :=
        ⟨asked, rest, rfl, hasked⟩
      obtain ⟨hlength, htarget, hcalldata⟩ := hasked.keeps
      obtain ⟨horder, hnone⟩ := complete_orderly key.address t _ _ (runs_complete_ok_iff.2 hasked)
      have hunsent := not_isSending_of_prefix horder
      refine ⟨nofun, ?_, ?_, ?_, ?_, ?_⟩
      . intro key' hkey
        cases hkey
        exact ⟨asked, rest, rfl, horder, Or.inr ⟨hnone, hlength, filled, hasked, hrest⟩⟩
      . rw [List.countP_append, countP_isSending hunsent, Nat.zero_add]
        exact hrest.countP_le
      . intro e he envelope hsent
        cases List.mem_append.1 he with
        | inl he =>
          have h := hunsent e he
          rw [hsent] at h
          cases h
        | inr he =>
          obtain ⟨hd, henvelope⟩ := hrest.sent he hsent
          exact ⟨hd, key, filled, rfl, hcompleted, henvelope, htarget, hcalldata⟩
      . rintro o rfl
        obtain ⟨hdry, hincluded⟩ := hrest.of_ok
        refine ⟨hdry, fun ho => ?_⟩
        obtain ⟨y, given, receipts, y', rfl, hy, hy'⟩ := hincluded ho
        exact ⟨asked, _, y, given, receipts, y', rfl, hy, hy'⟩
      . intro hash hhash
        rw [hrest.hashOf?_eq] at hhash
        exact ⟨key, filled, rfl, hcompleted, (Option.some.inj hhash).symm⟩

end Consequences

def pocketKey : Secp256k1.SecretKey := ⟨1, by decide, by decide⟩

def rehearsing : Submitter where
  key := some pocketKey
  dryRun := true
  patience := 1

/-- A history of fees with two blocks. -/
def quietHistory : Json :=
  .object
    [("oldestBlock", .string "0x64"),
     ("baseFeePerGas", .array [.string "0x3b9aca00", .string "0x3b9aca00"]),
     ("reward", .array [.array [.string "0xf4240"]])]

/-- In a dry run everything is asked for and nothing is sent. -/
theorem submit_completes_then_sends_rehearsing :
    ∃ (log : Log) (filled : FilledTransaction),
      Interaction.Run (rehearsing.submit default) log
        (.ok { hash := envelopeHash (filled.envelope pocketKey), included := false }) ∧
      filled.nonce = 7 ∧ filled.chainId = 17000 ∧ filled.gasLimit = 60000 ∧ log.length = 4 ∧
      ∀ e ∈ log, ∀ envelope, e.1 ≠ .sendTransaction envelope := by
  have hnonce : quantityOf (.ok (.string "0x7")) = .ok 7 := readAs_eq_ok (by decide +kernel)
  have hchain : quantityOf (.ok (.string "0x4268")) = .ok 17000 := readAs_eq_ok (by decide +kernel)
  have hgas : quantityOf (.ok (.string "0xea60")) = .ok 60000 := readAs_eq_ok (by decide +kernel)
  have hhistory : historyOf (.ok quietHistory) =
      .ok { baseFees := [1000000000, 1000000000], rewards := [[1000000]] } :=
    readAs_eq_ok (by decide +kernel)
  have hcompletes : Completes pocketKey.address default _ _ :=
    .intro hnonce hchain hgas hhistory (.told rfl)
  have hr : Interaction.Run (rehearsing.submit default) _ _ :=
    (run_submit_some_iff rfl).2 (Or.inr ⟨_, [], _, rfl, hcompletes, .rehearsed rfl⟩)
  refine ⟨_, _, hr, rfl, rfl, rfl, rfl, ?_⟩
  intro e he envelope hsent
  obtain ⟨-, -, -, hsends, -, -⟩ := submit_completes_then_sends hr
  cases (hsends e he envelope hsent).1

end Registrar.Rpc
