import EvServer.Lib.Outcome
import EvServer.Roaming.SessionUpdate
import Mathlib.Data.List.Induction

/-!
# The energy and the cost of a session

The consumptions of a session are to add up to the highest energy and to the last cost that the
platform has reported.  What an update saves is a difference to the last update, so they do as
long as the last update is the one with the highest energy, and the last cost is the one that the
consumptions add up to (`Accountable`).

An update with less energy than the last one takes its place all the same: what comes after it is
counted from there, and a part of the energy is counted again.
-/

namespace EvServer.Emsp

open EvServer.Emsp.OCPIUtilsService

/-! ## What has been reported and what has been counted -/

/-- The highest energy of some updates, in Wh. -/
def highestWh (accepted : List OCPISession) : ℚ :=
  accepted.foldl (fun highest session => max highest session.energyWh) 0

/-- The cost of the last update with energy. -/
def lastCost (accepted : List OCPISession) : ℚ :=
  ((accepted.filter fun session => 0 < session.kwh.getD 0).getLast?).elim 0 OCPISession.totalCost

namespace SessionStore

/-- The energy of the consumptions that are saved, in Wh. -/
def savedWh (store : SessionStore) : ℚ :=
  (store.consumptions.docs.map Consumption.consumptionWh).sum

/-- The cost of the consumptions that are saved. -/
def savedAmount (store : SessionStore) : ℚ :=
  (store.consumptions.docs.map Consumption.amount).sum

/-- The total of the transaction, if there is one. -/
def totalWh (store : SessionStore) : ℚ := store.updated.elim 0 Transaction.currentTotalConsumptionWh

/-- **No energy and no cost is counted twice**, and none is lost. -/
structure CountsOnce (store : SessionStore) : Prop where
  saved_eq_total : store.savedWh = store.totalWh
  total_eq_highest : store.totalWh = highestWh store.accepted
  amount_eq_last : store.savedAmount = lastCost store.accepted

end SessionStore

variable {store store' : SessionStore} {context : SessionContext} {session : OCPISession}
  {transaction : Transaction} {accepted : List OCPISession} {consumptions : Consumptions}

theorem highestWh_append (accepted : List OCPISession) (session : OCPISession) :
    highestWh (accepted ++ [session]) = max (highestWh accepted) session.energyWh := by
  rw [highestWh, List.foldl_append]
  rfl

theorem highestWh_nonneg (accepted : List OCPISession) : 0 ≤ highestWh accepted := by
  induction accepted using List.reverseRecOn with
  | nil => exact le_rfl
  | append_singleton accepted session ih =>
      rw [highestWh_append]
      exact ih.trans (le_max_left _ _)

theorem lastCost_append (accepted : List OCPISession) (session : OCPISession) :
    lastCost (accepted ++ [session]) =
      if 0 < session.kwh.getD 0 then session.totalCost else lastCost accepted := by
  rw [lastCost, List.filter_append]
  split
  · rename_i energy
    rw [List.filter_cons_of_pos (by simpa using energy), List.getLast?_append]
    rfl
  · rename_i noEnergy
    rw [List.filter_cons_of_neg (by simpa using noEnergy), List.filter_nil, List.append_nil]
    rfl

theorem energyWh_pos_iff : 0 < session.energyWh ↔ 0 < session.kwh.getD 0 :=
  mul_pos_iff_of_pos_right (by norm_num)

/-! ## The condition -/

/-- The update is saved: there is more energy, or time has passed. -/
def Saves (transaction : Transaction) (session : OCPISession) : Prop :=
  (lastConsumption transaction).value < session.energyWh ∨
    (lastConsumption transaction).timestamp < session.lastUpdated

instance : Decidable (Saves transaction session) := by
  unfold Saves
  infer_instance

/-- **An update that can be accounted for** by its difference to the last one. -/
structure Accountable (store : SessionStore) (transaction : Transaction) (session : OCPISession) :
    Prop where
  /-- The total is known; a session that has been completed has lost it. -/
  total : transaction.currentTotalConsumptionWh = highestWh store.accepted
  /-- The last update is the one with the highest energy, or has no less than this one. -/
  fromHighest : 0 < session.kwh.getD 0 →
    (lastConsumption transaction).value = highestWh store.accepted ∨
      session.energyWh ≤ (lastConsumption transaction).value
  /-- The last cost is the one that the consumptions add up to. -/
  fromLastCost : 0 < session.kwh.getD 0 → Saves transaction session →
    ∀ price ∈ transaction.price, price = lastCost store.accepted
  /-- An update that is not saved has the cost that the consumptions add up to. -/
  sameCost : 0 < session.kwh.getD 0 → ¬ Saves transaction session →
    session.totalCost = lastCost store.accepted
  /-- No consumption that counts ends when this one does. -/
  replacesNothing : 0 < session.kwh.getD 0 → Saves transaction session →
    ∀ consumption ∈ store.consumptions.docs, consumption.endedAt = session.lastUpdated →
      consumption.consumptionWh = 0 ∧ consumption.amount = 0

instance : Decidable (Accountable store transaction session) :=
  decidable_of_iff
    (transaction.currentTotalConsumptionWh = highestWh store.accepted ∧
      (0 < session.kwh.getD 0 →
        (lastConsumption transaction).value = highestWh store.accepted ∨
          session.energyWh ≤ (lastConsumption transaction).value) ∧
      (0 < session.kwh.getD 0 → Saves transaction session →
        ∀ price ∈ transaction.price, price = lastCost store.accepted) ∧
      (0 < session.kwh.getD 0 → ¬ Saves transaction session →
        session.totalCost = lastCost store.accepted) ∧
      (0 < session.kwh.getD 0 → Saves transaction session →
        ∀ consumption ∈ store.consumptions.docs, consumption.endedAt = session.lastUpdated →
          consumption.consumptionWh = 0 ∧ consumption.amount = 0))
    ⟨fun ⟨total, highest, last, same, nothing⟩ => ⟨total, highest, last, same, nothing⟩,
      fun ⟨total, highest, last, same, nothing⟩ => ⟨total, highest, last, same, nothing⟩⟩

/-! ## One update -/

theorem consumptionWh_pos_iff : 0 < consumptionWh transaction session ↔
    (lastConsumption transaction).value < session.energyWh := sub_pos

theorem duration_pos_iff : 0 < duration transaction session ↔
    (lastConsumption transaction).timestamp < session.lastUpdated := by
  unfold duration Utils.durationSecs
  rw [div_pos_iff_of_pos_right (by norm_num), Int.cast_pos, sub_pos]

theorem countConsumption_currentTotalConsumptionWh :
    (countConsumption transaction session).currentTotalConsumptionWh =
      transaction.currentTotalConsumptionWh + countedWh transaction session := by
  unfold countConsumption
  dsimp only
  split <;> rfl

theorem countConsumption_currentConsumptionWh :
    (countConsumption transaction session).currentConsumptionWh =
      countedWh transaction session := by
  unfold countConsumption
  dsimp only
  split <;> rfl

/-- What is counted raises the highest energy to that of the update. -/
theorem highestWh_add_countedWh (bounded : (lastConsumption transaction).value ≤ highestWh accepted)
    (fromHighest : (lastConsumption transaction).value = highestWh accepted ∨
      session.energyWh ≤ (lastConsumption transaction).value) :
    highestWh accepted + countedWh transaction session =
      max (highestWh accepted) session.energyWh := by
  unfold countedWh
  split
  · rename_i more
    have above := consumptionWh_pos_iff.mp more
    rcases fromHighest with same | below
    · unfold consumptionWh
      rw [same] at above ⊢
      rw [max_eq_right above.le]
      ring
    · exact absurd below (not_le.mpr above)
  · rename_i noMore
    have below := not_lt.mp (consumptionWh_pos_iff.not.mp noMore)
    rw [add_zero, max_eq_left (below.trans bounded)]

/-- The figure of a consumption that replaces nothing is added. -/
theorem sum_map_save_of_replacesNothing {consumption : Consumption} (figure : Consumption → ℚ)
    (nothing : ∀ stored ∈ consumptions.docs, stored.endedAt = consumption.endedAt →
      figure stored = 0) :
    ((consumptions.save consumption).docs.map figure).sum =
      (consumptions.docs.map figure).sum + figure consumption := by
  rw [Collection.sum_map_save]
  cases found : consumptions.find consumption.key with
  | none => exact sub_zero _
  | some stored =>
      have same : stored.endedAt = consumption.endedAt :=
        congrArg Prod.snd (Collection.key_of_find found)
      rw [Option.map_some, Option.getD_some, nothing stored (Collection.mem_of_find found) same,
        sub_zero]

/-- What is created of an update. -/
theorem createConsumption_eq_ok {counted : Transaction × Consumptions}
    (h : createConsumption transaction session consumptions = .ok counted) :
    (0 < session.kwh.getD 0 → ¬ Saves transaction session) ∧ counted = (transaction, consumptions) ∨
      0 < session.kwh.getD 0 ∧ Saves transaction session ∧ ∃ price,
        transaction.price = some price ∧
          counted = (countConsumption transaction session,
            consumptions.save (consumptionOf (countConsumption transaction session) session
              (session.totalCost - price))) := by
  have saves_iff : (0 < consumptionWh transaction session ∨ 0 < duration transaction session) ↔
      Saves transaction session := or_congr consumptionWh_pos_iff duration_pos_iff
  unfold createConsumption computeAndSaveConsumption at h
  split at h
  · rename_i energy
    split at h
    · rename_i saves
      cases hprice : transaction.price with
      | none =>
          rw [hprice] at h
          cases h
      | some price =>
          rw [hprice] at h
          exact .inr ⟨energy, saves_iff.mp saves, price, rfl, (Except.ok.inj h).symm⟩
    · rename_i notSaved
      exact .inl ⟨fun _ saves => notSaved (saves_iff.mpr saves), (Except.ok.inj h).symm⟩
  · rename_i noEnergy
    exact .inl ⟨fun energy => absurd energy noEnergy, (Except.ok.inj h).symm⟩

/-- An update without energy raises no highest energy. -/
theorem max_highestWh_of_no_energy (accepted : List OCPISession)
    (noEnergy : ¬ 0 < session.kwh.getD 0) :
    max (highestWh accepted) session.energyWh = highestWh accepted :=
  max_eq_left ((not_lt.mp (energyWh_pos_iff.not.mpr noEnergy)).trans (highestWh_nonneg accepted))

/-- **What one update counts.** -/
theorem countsOnce_saveUpdate {counted : Transaction × Consumptions} (once : store.CountsOnce)
    (bounded : (lastConsumption transaction).value ≤ highestWh store.accepted)
    (accountable : Accountable store transaction session)
    (h : createConsumption transaction session store.consumptions = .ok counted) :
    (saveUpdate context store session counted).CountsOnce := by
  have savedWh : store.savedWh = highestWh store.accepted :=
    once.saved_eq_total.trans once.total_eq_highest
  rcases createConsumption_eq_ok h with ⟨notSaved, rfl⟩ | ⟨energy, saves, price, hprice, rfl⟩
  · -- Nothing is saved: there is no energy, or no more of it at the same time.
    have same : max (highestWh store.accepted) session.energyWh = highestWh store.accepted := by
      by_cases energy : 0 < session.kwh.getD 0
      · have noMore := not_lt.mp fun more => notSaved energy (.inl more)
        exact max_eq_left (noMore.trans bounded)
      · exact max_highestWh_of_no_energy store.accepted energy
    have total : (saveUpdate context store session (transaction, store.consumptions)).totalWh =
        highestWh store.accepted := accountable.total
    refine ⟨savedWh.trans total.symm, ?_, ?_⟩
    · show _ = highestWh (store.accepted ++ [session])
      rw [total, highestWh_append, same]
    · show store.savedAmount = lastCost (store.accepted ++ [session])
      rw [once.amount_eq_last, lastCost_append]
      split
      · rename_i energy
        exact (accountable.sameCost energy (notSaved energy)).symm
      · rfl
  · -- The difference to the last update is saved.
    have nothing := accountable.replacesNothing energy saves
    have raised := highestWh_add_countedWh bounded (accountable.fromHighest energy)
    have total : (saveUpdate context store session (countConsumption transaction session,
        store.consumptions.save (consumptionOf (countConsumption transaction session) session
          (session.totalCost - price)))).totalWh =
        max (highestWh store.accepted) session.energyWh := by
      show (countConsumption transaction session).currentTotalConsumptionWh = _
      rw [countConsumption_currentTotalConsumptionWh, accountable.total, raised]
    refine ⟨?_, ?_, ?_⟩
    · rw [total, ← raised, ← savedWh]
      refine (sum_map_save_of_replacesNothing _ fun stored mem same =>
        (nothing stored mem same).1).trans ?_
      show store.savedWh + (countConsumption transaction session).currentConsumptionWh = _
      rw [countConsumption_currentConsumptionWh]
    · show _ = highestWh (store.accepted ++ [session])
      rw [total, highestWh_append]
    · refine (sum_map_save_of_replacesNothing _ fun stored mem same =>
        (nothing stored mem same).2).trans ?_
      show store.savedAmount + (session.totalCost - price) =
        lastCost (store.accepted ++ [session])
      rw [lastCost_append, if_pos energy, once.amount_eq_last,
        accountable.fromLastCost energy saves price hprice]
      ring

/-! ## What is stored between two updates -/

/-- A transaction that is stored. -/
structure Kept (highest : ℚ) (transaction : Transaction) : Prop where
  meterStart : transaction.meterStart = 0
  /-- The last update has no more energy than the highest one. -/
  bounded : (lastConsumption transaction).value ≤ highest
  priced : transaction.price.isSome

/-- The consumptions add up, and the transaction is one that has been stored. -/
structure SessionStore.Accounts (store : SessionStore) : Prop where
  once : store.CountsOnce
  kept : ∀ transaction, store.transaction = some transaction →
    Kept (highestWh store.accepted) transaction

theorem kept_toStored {highest : ℚ} (meterStart : transaction.meterStart = 0)
    (nonneg : 0 ≤ highest) (reported : ∀ last, transaction.lastConsumption = some last →
      last.value ≤ highest) : Kept highest transaction.toStored := by
  have bounded : (lastConsumption transaction).value ≤ highest := by
    unfold lastConsumption
    cases h : transaction.lastConsumption with
    | none => exact meterStart.le.trans nonneg
    | some last => exact reported last h
  unfold Transaction.toStored
  dsimp only
  split
  · exact ⟨meterStart, meterStart.le.trans nonneg, rfl⟩
  · exact ⟨meterStart, bounded, rfl⟩

theorem countConsumption_meterStart :
    (countConsumption transaction session).meterStart = transaction.meterStart := by
  unfold countConsumption
  dsimp only
  split <;> rfl

theorem createConsumption_meterStart {counted : Transaction × Consumptions}
    (h : createConsumption transaction session consumptions = .ok counted) :
    counted.1.meterStart = transaction.meterStart := by
  rcases createConsumption_eq_ok h with ⟨-, rfl⟩ | ⟨-, -, _, -, rfl⟩
  · rfl
  · exact countConsumption_meterStart

/-- A new transaction has consumed nothing. -/
theorem createTransaction_eq_ok {chargingStations : ChargingStations}
    (h : createTransaction context chargingStations session = .ok transaction) :
    transaction.meterStart = 0 ∧ transaction.price = none ∧
      transaction.lastConsumption = some ⟨0, session.startDatetime⟩ := by
  unfold createTransaction at h
  cases huser : context.getUser (OCPISession.text session.auth_id) with
  | none =>
      rw [huser] at h
      cases h
  | some userID =>
      rw [huser] at h
      dsimp only at h
      cases hstation : getChargingStationByOcpiLocationEvseUid chargingStations
          (session.location.bind OCPILocation.id) session.evse.uid with
      | none =>
          rw [hstation] at h
          cases h
      | some chargingStation =>
          rw [hstation] at h
          obtain rfl := Except.ok.inj h
          exact ⟨rfl, rfl, rfl⟩

theorem transactionOf_eq_ok (accounts : store.Accounts)
    (h : transactionOf context store session = .ok transaction) :
    transaction.meterStart = 0 ∧
      (lastConsumption transaction).value ≤ highestWh store.accepted := by
  unfold transactionOf at h
  cases known : store.transaction with
  | some stored =>
      rw [known] at h
      obtain rfl := Except.ok.inj h
      exact ⟨(accounts.kept stored known).meterStart, (accounts.kept stored known).bounded⟩
  | none =>
      rw [known] at h
      obtain ⟨meterStart, -, last⟩ := createTransaction_eq_ok h
      refine ⟨meterStart, ?_⟩
      rw [lastConsumption, last]
      exact highestWh_nonneg store.accepted

/-! ## Steps -/

/-- An update that is valid and about a transaction is ignored, or counted. -/
theorem updateTransaction_of_found (valid : session.validateSession = true)
    (found : transactionOf context store session.withDefaults = .ok transaction) :
    updateTransaction context store session =
      if isStale transaction session.withDefaults then .ok store
      else createConsumption transaction session.withDefaults store.consumptions >>= fun counted =>
        .ok (saveUpdate context store session.withDefaults counted) := by
  unfold updateTransaction
  rw [if_neg fun invalid => Bool.false_ne_true (invalid.symm.trans valid)]
  dsimp only
  rw [found]
  rfl

/-- What an update that does not throw has done. -/
theorem updateTransaction_eq_ok (h : updateTransaction context store session = .ok store') :
    ∃ transaction, transactionOf context store session.withDefaults = .ok transaction ∧
      (store' = store ∨ isStale transaction session.withDefaults = false ∧ ∃ counted,
        createConsumption transaction session.withDefaults store.consumptions = .ok counted ∧
          store' = saveUpdate context store session.withDefaults counted) := by
  have checked := h
  unfold updateTransaction at checked
  split at checked
  · cases checked
  · rename_i valid
    obtain ⟨transaction, found, -⟩ := Outcome.bind_eq_ok.mp checked
    refine ⟨transaction, found, ?_⟩
    rw [updateTransaction_of_found (Bool.eq_true_of_not_eq_false valid) found] at h
    split at h
    · exact .inl (Except.ok.inj h).symm
    · rename_i current
      obtain ⟨counted, hcounted, h⟩ := Outcome.bind_eq_ok.mp h
      exact .inr ⟨Bool.eq_false_of_not_eq_true current, counted, hcounted, (Except.ok.inj h).symm⟩

theorem accounts_updateTransaction (accounts : store.Accounts)
    (accountable : ∀ transaction,
      transactionOf context store session.withDefaults = .ok transaction →
        isStale transaction session.withDefaults = false →
          Accountable store transaction session.withDefaults)
    (h : updateTransaction context store session = .ok store') : store'.Accounts := by
  obtain ⟨transaction, found, rfl | ⟨current, counted, hcounted, rfl⟩⟩ :=
    updateTransaction_eq_ok h
  · exact accounts
  · obtain ⟨meterStart, bounded⟩ := transactionOf_eq_ok accounts found
    refine ⟨countsOnce_saveUpdate accounts.once bounded (accountable transaction found current)
      hcounted, fun stored hstored => ?_⟩
    obtain rfl := Option.some.inj hstored
    show Kept (highestWh (store.accepted ++ [session.withDefaults])) _
    refine kept_toStored ?_ (highestWh_nonneg _) fun last hlast => ?_
    · exact (createConsumption_meterStart hcounted).trans meterStart
    · obtain rfl := Option.some.inj hlast
      rw [highestWh_append]
      exact le_max_right _ _

/-- **No update throws** once the transaction is stored. -/
theorem exists_updateTransaction (accounts : store.Accounts) (known : store.transaction.isSome)
    (valid : session.validateSession = true) :
    ∃ store', updateTransaction context store session = .ok store' := by
  obtain ⟨transaction, known⟩ := Option.isSome_iff_exists.mp known
  obtain ⟨price, hprice⟩ := Option.isSome_iff_exists.mp (accounts.kept transaction known).priced
  have found : transactionOf context store session.withDefaults = .ok transaction := by
    rw [transactionOf, known]
  have created : ∃ counted,
      createConsumption transaction session.withDefaults store.consumptions = .ok counted := by
    unfold createConsumption computeAndSaveConsumption
    rw [hprice]
    split
    · split <;> exact ⟨_, rfl⟩
    · exact ⟨_, rfl⟩
  obtain ⟨counted, hcounted⟩ := created
  rw [updateTransaction_of_found valid found]
  split
  · exact ⟨_, rfl⟩
  · rw [hcounted]
    exact ⟨_, rfl⟩

end EvServer.Emsp
