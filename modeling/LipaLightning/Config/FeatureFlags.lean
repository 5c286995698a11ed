import LipaLightning.LightningAddresses

set_option autoImplicit false

/-! # Feature flags

What `Config::set_feature_flag` (`config.rs`) changes. It selects the addresses of one kind that
do not have the status yet, has the backend change them, and then updates them in the db one by
one.

`setFeatureFlag_touches_own` sums this up as one change of the table: the status of all addresses
of the kind is set, and nothing else is.
-/

namespace LipaLightning

/-! ## Setting statuses in the table -/

/-- Set the status of an address that `p` selects. -/
def setStatus (p : String → Bool) (status : EnableStatus) (row : LightningAddressRow) :
    LightningAddressRow :=
  if p row.address then { row with enableStatus := status.toU8 } else row

@[simp] theorem address_setStatus (p : String → Bool) (status : EnableStatus)
    (row : LightningAddressRow) : (setStatus p status row).address = row.address := by
  unfold setStatus
  split <;> rfl

@[simp] theorem registeredAt_setStatus (p : String → Bool) (status : EnableStatus)
    (row : LightningAddressRow) : (setStatus p status row).registeredAt = row.registeredAt := by
  unfold setStatus
  split <;> rfl

theorem setStatus_of_false {p : String → Bool} {row : LightningAddressRow}
    (h : p row.address = false) (status : EnableStatus) : setStatus p status row = row := by
  rw [setStatus, h]
  exact if_neg Bool.false_ne_true

theorem setStatus_of_true {p : String → Bool} {row : LightningAddressRow}
    (h : p row.address = true) (status : EnableStatus) :
    setStatus p status row = { row with enableStatus := status.toU8 } :=
  if_pos h

/-- Setting a status twice, for the addresses of either. -/
theorem setStatus_setStatus (p q : String → Bool) (status : EnableStatus)
    (row : LightningAddressRow) :
    setStatus p status (setStatus q status row) = setStatus (fun a => p a || q a) status row := by
  cases hq : q row.address with
  | true =>
      have hor : (fun a => p a || q a) row.address = true := by simp [hq]
      rw [setStatus_of_true hq, setStatus_of_true (p := fun a => p a || q a) hor]
      unfold setStatus
      split <;> rfl
  | false =>
      rw [setStatus_of_false hq]
      simp only [setStatus, hq, Bool.or_false]

/-- Statuses of different addresses are set in any order. -/
theorem setStatus_comm {p q : String → Bool} (hdisjoint : ∀ a, p a = true → q a = false)
    (s t : EnableStatus) (row : LightningAddressRow) :
    setStatus p s (setStatus q t row) = setStatus q t (setStatus p s row) := by
  cases hp : p row.address with
  | true =>
      have hq : q row.address = false := hdisjoint row.address hp
      rw [setStatus_of_false hq t, setStatus_of_false (by simpa using hq) t]
  | false => rw [setStatus_of_false hp s, setStatus_of_false (by simpa using hp) s]

/-- The db with the status of some addresses set. -/
def Db.setStatuses (db : Db) (p : String → Bool) (status : EnableStatus) : Db :=
  { db with
    lightningAddresses :=
      db.lightningAddresses.mapRows (setStatus p status) (address_setStatus p status) }

theorem Db.setStatuses_congr {db : Db} {p q : String → Bool} {s t : EnableStatus}
    (h : ∀ row ∈ db.lightningAddresses.rows, setStatus p s row = setStatus q t row) :
    db.setStatuses p s = db.setStatuses q t := by
  unfold Db.setStatuses
  congr 1
  exact KeyedTable.ext (List.map_congr_left h)

/-- Nothing is set for no address. -/
theorem Db.setStatuses_none (db : Db) (status : EnableStatus) :
    db.setStatuses (fun _ => false) status = db := by
  unfold Db.setStatuses
  congr 1
  exact KeyedTable.ext (List.map_id'' (fun row => setStatus_of_false rfl status) _)

theorem Db.setStatuses_setStatuses (db : Db) (p q : String → Bool) (status : EnableStatus) :
    (db.setStatuses q status).setStatuses p status
      = db.setStatuses (fun a => p a || q a) status := by
  unfold Db.setStatuses
  congr 1
  refine KeyedTable.ext ?_
  show (db.lightningAddresses.rows.map _).map _ = db.lightningAddresses.rows.map _
  rw [List.map_map]
  exact List.map_congr_left fun row _ => setStatus_setStatus p q status row

theorem Db.setStatuses_comm (db : Db) {p q : String → Bool}
    (hdisjoint : ∀ a, p a = true → q a = false) (s t : EnableStatus) :
    (db.setStatuses q t).setStatuses p s = (db.setStatuses p s).setStatuses q t := by
  unfold Db.setStatuses
  congr 1
  refine KeyedTable.ext ?_
  show (db.lightningAddresses.rows.map _).map _ = (db.lightningAddresses.rows.map _).map _
  rw [List.map_map, List.map_map]
  exact List.map_congr_left fun row _ => setStatus_comm hdisjoint s t row

namespace Config

/-- One update sets the status of one address. -/
theorem updateLightningAddress_ok {dataStore : DataStore} {env : Env} {address : String}
    {status : EnableStatus}
    (h : (dataStore.updateLightningAddress env address status).1 = .ok ()) :
    (dataStore.updateLightningAddress env address status).2.conn
      = dataStore.conn.setStatuses (fun a => a = address) status := by
  unfold DataStore.updateLightningAddress at h ⊢
  split at h
  · cases h
  · unfold Db.setStatuses
    dsimp only
    congr 1
    refine KeyedTable.ext (List.map_congr_left fun row _ => ?_)
    rw [setStatus]
    simp only [decide_eq_true_eq]

/-- The loop sets the status of all addresses it is given. -/
theorem updateAddresses_ok {envs : String → Env} {status : EnableStatus}
    {addresses : List String} {dataStore : DataStore}
    (h : (updateAddresses envs status dataStore addresses).1 = .ok ()) :
    (updateAddresses envs status dataStore addresses).2.conn
      = dataStore.conn.setStatuses (fun a => a ∈ addresses) status := by
  induction addresses generalizing dataStore with
  | nil =>
      have hnone := Db.setStatuses_none dataStore.conn status
      exact hnone.symm.trans (Db.setStatuses_congr fun row _ => by simp [setStatus])
  | cons address addresses ih =>
      unfold updateAddresses at h ⊢
      cases hupdate : dataStore.updateLightningAddress (envs address) address status with
      | mk result updated =>
          rw [hupdate] at h
          cases result with
          | error e => cases h
          | ok u =>
              have hfirst := updateLightningAddress_ok (congrArg Prod.fst hupdate)
              rw [hupdate] at hfirst
              show (updateAddresses envs status updated addresses).2.conn = _
              rw [ih h, hfirst, Db.setStatuses_setStatuses]
              refine Db.setStatuses_congr fun row _ => ?_
              simp [setStatus, or_comm]

/-! ## What a call does -/

variable {dataStore : DataStore} {envs : String → Env}
  {backend : AddressRequest → Except String Unit} {feature : FeatureFlag} {flagEnabled : Bool}

/-- The address with the status of the flag, if it is one of the feature. -/
def withFlag (feature : FeatureFlag) (flagEnabled : Bool) (address : String × EnableStatus) :
    String × EnableStatus :=
  if feature.kindOfAddress address.1 then (address.1, flagStatus flagEnabled) else address

theorem decodes_of_retrieve {addresses : List (String × EnableStatus)}
    (h : dataStore.retrieveLightningAddresses = .ok addresses) : dataStore.Decodes := by
  rw [DataStore.retrieveLightningAddresses_eq] at h
  intro row hrow
  obtain ⟨address, haddress⟩ := ok_of_mapM_ok h row (Latest.mem_latestFirst.mpr hrow)
  unfold DataStore.lightningAddressFromRow EnableStatus.tryFrom at haddress
  by_cases henabled : row.enableStatus = 0
  · exact .inl henabled
  · by_cases hdisabled : row.enableStatus = 1
    · exact .inr hdisabled
    · rw [if_neg henabled, if_neg hdisabled] at haddress
      cases haddress

theorem withFlag_ne_iff (feature : FeatureFlag) (flagEnabled : Bool) (address : String)
    (status : EnableStatus) :
    withFlag feature flagEnabled (address, status) ≠ (address, status)
      ↔ feature.kindOfAddress address = true ∧ status = flagStatus !flagEnabled := by
  unfold withFlag
  cases feature.kindOfAddress address with
  | true => cases status <;> cases flagEnabled <;> simp [flagStatus]
  | false => simp

/-- The addresses to change are those whose status the flag changes. -/
theorem addressesToChange_eq (feature : FeatureFlag) (flagEnabled : Bool)
    (addresses : List (String × EnableStatus)) :
    addressesToChange feature flagEnabled addresses
      = (addresses.filter fun a => withFlag feature flagEnabled a ≠ a).map Prod.fst := by
  induction addresses with
  | nil => rfl
  | cons entry addresses ih =>
      obtain ⟨address, status⟩ := entry
      have hchanged := withFlag_ne_iff feature flagEnabled address status
      unfold addressesToChange at ih ⊢
      rw [List.filter_cons, List.filterMap_cons]
      by_cases hstatus : status = flagStatus !flagEnabled
      · by_cases hkind : feature.kindOfAddress address = true
        · rw [if_pos (decide_eq_true (hchanged.mpr ⟨hkind, hstatus⟩)), List.map_cons, ← ih]
          simp [withStatus, hstatus, hkind]
        · rw [if_neg (by simpa using fun h => hkind (hchanged.mp h).1), ← ih]
          simp [withStatus, hstatus, hkind]
      · rw [if_neg (by simpa using fun h => hstatus (hchanged.mp h).2), ← ih]
        simp [withStatus, hstatus]

/-- A call that finds nothing to change returns at once. -/
theorem run_of_unchanged {addresses : List (String × EnableStatus)}
    (hread : dataStore.retrieveLightningAddresses = .ok addresses)
    (hnone : addressesToChange feature flagEnabled addresses = []) :
    setFeatureFlag dataStore envs backend feature flagEnabled
      = ⟨none, .ok (), dataStore⟩ := by
  unfold setFeatureFlag
  rw [hread]
  dsimp only
  rw [hnone]
  rfl

/-- A call that returns `Ok` has read the table, sent the addresses to change and updated them. -/
theorem run_ok
    (h : (setFeatureFlag dataStore envs backend feature flagEnabled).result = .ok ()) :
    ∃ addresses, dataStore.retrieveLightningAddresses = .ok addresses
      ∧ (setFeatureFlag dataStore envs backend feature flagEnabled).sentAddresses
        = addressesToChange feature flagEnabled addresses
      ∧ (setFeatureFlag dataStore envs backend feature flagEnabled).dataStore.conn
        = dataStore.conn.setStatuses (fun a => a ∈ addressesToChange feature flagEnabled addresses)
          (flagStatus flagEnabled) := by
  cases hread : dataStore.retrieveLightningAddresses with
  | error e =>
      unfold setFeatureFlag at h
      rw [hread] at h
      cases h
  | ok addresses =>
      refine ⟨addresses, rfl, ?_⟩
      by_cases hnone : addressesToChange feature flagEnabled addresses = []
      · rw [run_of_unchanged hread hnone, hnone]
        have hsame := Db.setStatuses_none dataStore.conn (flagStatus flagEnabled)
        exact ⟨rfl, hsame.symm.trans (Db.setStatuses_congr fun row _ => by simp [setStatus])⟩
      · have hsome : (addressesToChange feature flagEnabled addresses).isEmpty = false := by
          simpa using hnone
        unfold setFeatureFlag at h ⊢
        rw [hread] at h ⊢
        dsimp only at h ⊢
        rw [hsome] at h ⊢
        simp only [Bool.false_eq_true, if_false] at h ⊢
        split at h
        · cases h
        · next hbackend =>
          refine ⟨?_, updateAddresses_ok h⟩
          cases flagEnabled <;> rfl

theorem mem_addressesToChange_iff {row : LightningAddressRow}
    (hrow : row ∈ dataStore.conn.lightningAddresses.rows) :
    row.address ∈ addressesToChange feature flagEnabled
        (dataStore.lightningAddressRows.map DataStore.addressWithStatus)
      ↔ feature.kindOfAddress row.address = true
        ∧ (DataStore.addressWithStatus row).2 = flagStatus !flagEnabled := by
  rw [← withFlag_ne_iff, addressesToChange_eq]
  constructor
  · intro h
    obtain ⟨entry, hentry, haddress⟩ := List.mem_map.mp h
    obtain ⟨hentry, hchanged⟩ := List.mem_filter.mp hentry
    obtain ⟨row', hrow', rfl⟩ := List.mem_map.mp hentry
    -- no other row has the address
    have hsame : row' = row := List.inj_on_of_nodup_map dataStore.conn.lightningAddresses.unique
      (Latest.mem_latestFirst.mp hrow') hrow haddress
    rw [← hsame]
    exact of_decide_eq_true hchanged
  · intro hchanged
    refine List.mem_map.mpr ⟨DataStore.addressWithStatus row, List.mem_filter.mpr ⟨?_, ?_⟩, rfl⟩
    · exact List.mem_map_of_mem (Latest.mem_latestFirst.mpr hrow)
    · exact decide_eq_true hchanged

/-- Only two statuses can be read: what does not have the one has the other. -/
theorem setStatus_of_has {row : LightningAddressRow} (p : String → Bool)
    (hrow : row.enableStatus = EnableStatus.enabled.toU8
      ∨ row.enableStatus = EnableStatus.featureDisabled.toU8)
    (hstatus : (DataStore.addressWithStatus row).2 ≠ flagStatus !flagEnabled) :
    setStatus p (flagStatus flagEnabled) row = row := by
  have hsame : row.enableStatus = (flagStatus flagEnabled).toU8 := by
    unfold DataStore.addressWithStatus at hstatus
    rcases hrow with hrow | hrow <;> rw [hrow] at hstatus ⊢ <;>
      cases flagEnabled <;> first | rfl | exact absurd rfl hstatus
  unfold setStatus
  split
  · rw [← hsame]
  · rfl

/-- A call that returns `Ok` sets the status of all addresses of the feature. -/
theorem run_ok_conn
    (h : (setFeatureFlag dataStore envs backend feature flagEnabled).result = .ok ()) :
    (setFeatureFlag dataStore envs backend feature flagEnabled).dataStore.conn
      = dataStore.conn.setStatuses feature.kindOfAddress (flagStatus flagEnabled) := by
  obtain ⟨addresses, hread, -, hconn⟩ := run_ok h
  have hdecodes := decodes_of_retrieve hread
  rw [DataStore.retrieveLightningAddresses_of_decodes hdecodes] at hread
  obtain rfl := Except.ok.inj hread
  rw [hconn]
  refine Db.setStatuses_congr fun row hrow => ?_
  have hmem : row.address ∈ addressesToChange feature flagEnabled
        (dataStore.lightningAddressRows.map DataStore.addressWithStatus)
      ↔ feature.kindOfAddress row.address = true
        ∧ (DataStore.addressWithStatus row).2 = flagStatus !flagEnabled :=
    mem_addressesToChange_iff hrow
  by_cases hstatus : (DataStore.addressWithStatus row).2 = flagStatus !flagEnabled
  · simp only [setStatus, decide_eq_true_eq, hmem, hstatus, and_true]
  · rw [setStatus_of_has _ (hdecodes row hrow) hstatus,
      setStatus_of_has _ (hdecodes row hrow) hstatus]

theorem addressWithStatus_setStatus (feature : FeatureFlag) (flagEnabled : Bool)
    (row : LightningAddressRow) :
    DataStore.addressWithStatus
        (setStatus feature.kindOfAddress (flagStatus flagEnabled) row)
      = withFlag feature flagEnabled (DataStore.addressWithStatus row) := by
  unfold withFlag
  cases hkind : feature.kindOfAddress row.address with
  | true =>
      rw [setStatus_of_true hkind]
      simp only [DataStore.addressWithStatus, hkind]
      cases flagEnabled <;> rfl
  | false =>
      rw [setStatus_of_false hkind]
      simp only [DataStore.addressWithStatus, hkind]
      rfl

/-- The addresses after the statuses have been set: in the same order. -/
theorem retrieve_setStatuses {updated : DataStore} (hdecodes : dataStore.Decodes)
    (hconn : updated.conn
      = dataStore.conn.setStatuses feature.kindOfAddress (flagStatus flagEnabled)) :
    updated.retrieveLightningAddresses
      = .ok ((dataStore.lightningAddressRows.map DataStore.addressWithStatus).map
        (withFlag feature flagEnabled)) := by
  have htable : updated.conn.lightningAddresses.rows = dataStore.conn.lightningAddresses.rows.map
      (setStatus feature.kindOfAddress (flagStatus flagEnabled)) := by
    rw [hconn]
    rfl
  have hupdated : updated.Decodes := by
    intro row hrow
    rw [htable] at hrow
    obtain ⟨before, hbefore, rfl⟩ := List.mem_map.mp hrow
    cases hkind : feature.kindOfAddress before.address with
    | true =>
        rw [setStatus_of_true hkind]
        cases flagEnabled
        · exact .inr rfl
        · exact .inl rfl
    | false =>
        rw [setStatus_of_false hkind]
        exact hdecodes before hbefore
  rw [DataStore.retrieveLightningAddresses_of_decodes hupdated, DataStore.lightningAddressRows,
    htable, Latest.latestFirst_map, List.map_map, List.map_map]
  simp only [registeredAt_setStatus]
  exact congrArg Except.ok
    (List.map_congr_left fun row _ => addressWithStatus_setStatus feature flagEnabled row)

/-! ## The whole effect -/

/-- A call of `set_feature_flag`, with the environments of its updates and the answers of the
backend. -/
structure FlagCall where
  envs : String → Env
  backend : AddressRequest → Except String Unit
  feature : FeatureFlag
  flagEnabled : Bool

namespace FlagCall

def run (call : FlagCall) (dataStore : DataStore) : FlagRun :=
  setFeatureFlag dataStore call.envs call.backend call.feature call.flagEnabled

/-- Both calls set the flag of the same feature in the same way. -/
def SetsSame (call other : FlagCall) : Prop :=
  call.feature = other.feature ∧ call.flagEnabled = other.flagEnabled

end FlagCall

/-- A flag changes exactly its own addresses: what the call does to the table, what it sends, and
what other calls find. -/
structure TouchesOwnAddresses (dataStore : DataStore) (call : FlagCall) : Prop where
  /-- If the backend fails, nothing changes. -/
  refused : ∀ request e, (call.run dataStore).sent = some request →
    call.backend request = .error e → (call.run dataStore).dataStore = dataStore
  /-- The same addresses are retrieved in the same order, those of the feature with the status of
  the flag; those whose status changes have been sent. -/
  applied : (call.run dataStore).result = .ok () →
    ∃ before, dataStore.retrieveLightningAddresses = .ok before ∧
      (call.run dataStore).dataStore.retrieveLightningAddresses
        = .ok (before.map (withFlag call.feature call.flagEnabled)) ∧
      (call.run dataStore).sentAddresses
        = (before.filter fun a => withFlag call.feature call.flagEnabled a ≠ a).map Prod.fst
  /-- Setting the flag again does nothing. -/
  twice : (call.run dataStore).result = .ok () → ∀ again : FlagCall, again.SetsSame call →
    again.run (call.run dataStore).dataStore = ⟨none, .ok (), (call.run dataStore).dataStore⟩
  /-- The flags of the two features are set in any order. -/
  commutes : ∀ other call' other' : FlagCall, other.feature ≠ call.feature →
    call'.SetsSame call → other'.SetsSame other →
    (call.run dataStore).result = .ok () →
    (other.run (call.run dataStore).dataStore).result = .ok () →
    (other'.run dataStore).result = .ok () →
    (call'.run (other'.run dataStore).dataStore).result = .ok () →
    (other.run (call.run dataStore).dataStore).dataStore.conn
      = (call'.run (other'.run dataStore).dataStore).dataStore.conn

/-- An address is of one feature only. -/
theorem kindOfAddress_disjoint {feature other : FeatureFlag} (h : other ≠ feature)
    (address : String) (hkind : other.kindOfAddress address = true) :
    feature.kindOfAddress address = false := by
  cases feature <;> cases other <;>
    first | exact absurd rfl h | simp_all [FeatureFlag.kindOfAddress]

theorem run_refused {request : AddressRequest} {e : String}
    (hsent : (setFeatureFlag dataStore envs backend feature flagEnabled).sent = some request)
    (hrefused : backend request = .error e) :
    (setFeatureFlag dataStore envs backend feature flagEnabled).dataStore = dataStore := by
  unfold setFeatureFlag at hsent ⊢
  cases hread : dataStore.retrieveLightningAddresses with
  | error e => rfl
  | ok addresses =>
      rw [hread] at hsent
      dsimp only at hsent ⊢
      cases hempty : (addressesToChange feature flagEnabled addresses).isEmpty with
      | true => rfl
      | false =>
          rw [hempty] at hsent
          simp only [Bool.false_eq_true, if_false] at hsent ⊢
          split
          · rfl
          · next hbackend =>
            rw [hbackend] at hsent
            obtain rfl := Option.some.inj hsent
            rw [mapToRuntimeError_eq_ok, hrefused] at hbackend
            cases hbackend

/-- Nothing is left to change once the flag is set. -/
theorem addressesToChange_withFlag (feature : FeatureFlag) (flagEnabled : Bool)
    (addresses : List (String × EnableStatus)) :
    addressesToChange feature flagEnabled (addresses.map (withFlag feature flagEnabled)) = [] := by
  rw [addressesToChange_eq, List.map_eq_nil_iff, List.filter_eq_nil_iff]
  intro entry hentry
  obtain ⟨⟨address, status⟩, -, rfl⟩ := List.mem_map.mp hentry
  have hsame : withFlag feature flagEnabled (withFlag feature flagEnabled (address, status))
      = withFlag feature flagEnabled (address, status) := by
    unfold withFlag
    cases hkind : feature.kindOfAddress address with
    | true => simp [hkind]
    | false => simp [hkind]
  simp [hsame]

/-- **Feature flags touch exactly their own addresses.** On every table and for every feature and
flag, a call that returns `Ok` sets the status of all addresses of the feature and of no other,
in the order they were in, and has sent those that change; setting a flag again does nothing, the
two flags commute, and a call refused by the backend changes nothing. -/
theorem setFeatureFlag_touches_own (dataStore : DataStore) (call : FlagCall) :
    TouchesOwnAddresses dataStore call where
  refused request e := run_refused
  applied h := by
    obtain ⟨before, hread, hsent, -⟩ := run_ok h
    have hdecodes := decodes_of_retrieve hread
    have hbefore := DataStore.retrieveLightningAddresses_of_decodes hdecodes
    refine ⟨before, hread, ?_, hsent.trans (addressesToChange_eq ..)⟩
    rw [hbefore] at hread
    rw [← Except.ok.inj hread]
    exact retrieve_setStatuses hdecodes (run_ok_conn h)
  twice h again hagain := by
    obtain ⟨before, hread, -, -⟩ := run_ok h
    have hafter := retrieve_setStatuses (decodes_of_retrieve hread) (run_ok_conn h)
    unfold FlagCall.run
    rw [hagain.1, hagain.2]
    exact run_of_unchanged hafter (addressesToChange_withFlag ..)
  commutes other call' other' hother hcall' hother' hfirst hsecond hfirst' hsecond' := by
    have hcomm := Db.setStatuses_comm dataStore.conn (kindOfAddress_disjoint hother)
      (flagStatus other.flagEnabled) (flagStatus call.flagEnabled)
    calc (other.run (call.run dataStore).dataStore).dataStore.conn
        = (call.run dataStore).dataStore.conn.setStatuses other.feature.kindOfAddress
            (flagStatus other.flagEnabled) := run_ok_conn hsecond
      _ = (dataStore.conn.setStatuses call.feature.kindOfAddress
            (flagStatus call.flagEnabled)).setStatuses other.feature.kindOfAddress
            (flagStatus other.flagEnabled) := by rw [FlagCall.run, run_ok_conn hfirst]
      _ = (dataStore.conn.setStatuses other.feature.kindOfAddress
            (flagStatus other.flagEnabled)).setStatuses call.feature.kindOfAddress
            (flagStatus call.flagEnabled) := hcomm
      _ = (other'.run dataStore).dataStore.conn.setStatuses call.feature.kindOfAddress
            (flagStatus call.flagEnabled) := by
          rw [FlagCall.run, run_ok_conn hfirst', hother'.1, hother'.2]
      _ = (call'.run (other'.run dataStore).dataStore).dataStore.conn := by
          rw [← hcall'.1, ← hcall'.2]
          exact (run_ok_conn hsecond').symm

/-- A phone address and two lightning addresses, of which one is enabled. -/
def mixedAddresses : DataStore :=
  let env (secs : Nat) : Env := ⟨secs * 1000000000, fun _ => false⟩
  let store (dataStore : DataStore) (secs : Nat) (address : String) (status : EnableStatus) :
      DataStore :=
    ((dataStore.storeLightningAddress (env secs) address).2.updateLightningAddress (env secs)
      address status).2
  store (store (store (.new .migrated none) 1 "satoshi@lipa.swiss" .enabled)
    2 "-41446681800@lipa.swiss" .featureDisabled) 3 "hal@lipa.swiss" .featureDisabled

/-- The other lightning address is sent to the backend and enabled, and enabling the feature again
does nothing. -/
theorem setFeatureFlag_touches_own_mixed :
    let call : FlagCall :=
      ⟨fun _ => ⟨1700000000000000000, fun _ => false⟩, fun _ => .ok (), .lightningAddress, true⟩
    (call.run mixedAddresses).result = .ok () ∧
      (call.run mixedAddresses).sentAddresses = ["hal@lipa.swiss"] ∧
      (call.run mixedAddresses).dataStore.retrieveLightningAddresses
        = .ok [("satoshi@lipa.swiss", .enabled), ("-41446681800@lipa.swiss", .featureDisabled),
          ("hal@lipa.swiss", .enabled)] ∧
      (call.run (call.run mixedAddresses).dataStore).sent = none := by
  intro call
  have hok : (call.run mixedAddresses).result = .ok () := by decide +kernel
  have htouches := setFeatureFlag_touches_own mixedAddresses call
  obtain ⟨before, hbefore, hafter, hsent⟩ := htouches.applied hok
  have hmixed : mixedAddresses.retrieveLightningAddresses
      = .ok [("satoshi@lipa.swiss", .enabled), ("-41446681800@lipa.swiss", .featureDisabled),
        ("hal@lipa.swiss", .featureDisabled)] := by decide +kernel
  obtain rfl := Except.ok.inj (hmixed.symm.trans hbefore)
  refine ⟨hok, hsent.trans (by decide +kernel), hafter.trans (by decide +kernel), ?_⟩
  rw [htouches.twice hok call ⟨rfl, rfl⟩]

end Config

end LipaLightning
