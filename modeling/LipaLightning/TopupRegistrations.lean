import LipaLightning.Basic.Latest
import LipaLightning.CreatedInvoices
import LipaLightning.DataStore.Frames

set_option autoImplicit false

/-! # Registering for fiat topups

`FiatTopup::register`, `reset` and `get_info` (`fiat_topup.rs`). A registration is set up with the
backend, which gives a challenge for the node to sign, and what it completes is stored. The
registration that is shown is the latest by the clock, which need not be the last that was made.

`registrations_run` says this for every run: the table holds the registrations that returned `Ok`
since the last reset, no two with the same order id, and each of them was completed with a signed
challenge. A registration that has just returned is shown exactly if all others are earlier.
-/

namespace LipaLightning

open Runs

/-- `crow`'s challenge to the owner of a wallet. -/
structure TopupChallenge where
  id : String
  challenge : String
  deriving DecidableEq, Repr

structure TopupRequest where
  email : Option String
  userIban : String
  userCurrency : String
  provider : String
  referralCode : Option String
  deriving DecidableEq, Repr

/-- What a registration learns from the parsers, the node and the offer manager. -/
structure TopupServices where
  parsesIban : String → Bool
  parsesEmail : String → Bool
  nodeState : Except String NodeState
  startTopupSetup : String → TopupRequest → Except String TopupChallenge
  signMessage : String → Except String String
  completeTopupSetup : String → String → String → Except String FiatTopupSetupInfo

/-- The reads of the latest registration that fail. -/
structure TopupReadFaults where
  prepare : Bool
  select : Bool
  deriving DecidableEq, Repr

namespace DataStore

/-- The text of `created_at` is ordered as the instants it was written for. -/
def retrieveLatestFiatTopupInfo (self : DataStore) (faults : TopupReadFaults) :
    Result (Option FiatTopupSetupInfo) := do
  ensure (faults.prepare = false)
    (.permanentFailure "Failed to prepare query latest fiat topup info statement")
  ensure (faults.select = false)
    (.permanentFailure "Failed to bind parameter to prepared SQL query")
  .ok ((Latest.latestFirst FiatTopupInfoRow.createdAt self.conn.fiatTopupInfo.rows).head?.map
    FiatTopupInfoRow.info)

end DataStore

/-- A call of `register`, with what it meets. -/
structure RegisterCall where
  services : TopupServices
  topupReferralCodeMaxLength : UInt32
  request : TopupRequest
  env : Env

namespace FiatTopup

def checkReferralCode (maxLength : UInt32) : Option String → Result Unit
  | none => .ok ()
  | some referralCode =>
      let stringLength := referralCode.utf8ByteSize
      if stringLength > maxLength.toNat then
        .error (.invalidInput
          ("Invalid referral code [string length: " ++ toString stringLength ++ "]"))
      else .ok ()

/-- The message that confirms the wallet. -/
def confirmation (challenge : TopupChallenge) : String :=
  "I confirm my bitcoin wallet. [" ++ challenge.challenge ++ "]"

/-- What a registration does before it is stored. -/
def setUp (support : Support) (call : RegisterCall) : Result FiatTopupSetupInfo := do
  let services := call.services
  let request := call.request
  ensure (services.parsesIban request.userIban = true) (.invalidInput "Invalid user_iban")
  ensure (request.email.all services.parsesEmail = true) (.invalidInput "Invalid email")
  checkReferralCode call.topupReferralCodeMaxLength request.referralCode
  let nodeInfo ← support.getNodeInfo services.nodeState
  let challenge ← mapToRuntimeError (services.startTopupSetup nodeInfo.nodePubkey request)
    .offerServiceUnavailable "Failed to start fiat topup setup"
  let signature ← mapToRuntimeError (services.signMessage (confirmation challenge))
    .nodeUnavailable "Failed to sign message"
  mapToRuntimeError (services.completeTopupSetup challenge.id signature request.userIban)
    .offerServiceUnavailable "Failed to complete fiat topup setup"

def register (support : Support) (call : RegisterCall) :
    Result FiatTopupSetupInfo × Support :=
  match setUp support call with
  | .error e => (.error e, support)
  | .ok topupInfo =>
      let (stored, dataStore) := support.dataStore.storeFiatTopupInfo call.env topupInfo
      (stored.map fun _ => topupInfo, { support with dataStore := dataStore })

/-- Resets a previous fiat topup registration. -/
def reset (support : Support) (env : Env) : Result Unit × Support :=
  let (cleared, dataStore) := support.dataStore.clearFiatTopupInfo env
  (cleared, { support with dataStore := dataStore })

def getInfo (support : Support) (faults : TopupReadFaults) :
    Result (Option FiatTopupSetupInfo) :=
  support.dataStore.retrieveLatestFiatTopupInfo faults

end FiatTopup

/-! ## Runs -/

/-- An operation that does not write to the registrations. -/
def Operation.isTopupRegistration : Operation → Bool
  | .storeFiatTopupInfo _ => true
  | .clearFiatTopupInfo => true
  | _ => false

inductive TopupAction where
  | register (call : RegisterCall)
  | reset (env : Env)
  /-- What the rest of the library does to the db. -/
  | operation (call : Call) (other : call.op.isTopupRegistration = false)
  | setMemory (userPreferences : UserPreferences) (taskManager : TaskManager)

/-- A registration that returned `Ok`. -/
structure Registration where
  call : RegisterCall
  info : FiatTopupSetupInfo

namespace Registration

def row (r : Registration) : FiatTopupInfoRow := ⟨r.call.env.now, r.info⟩

/-- The registration was valid and completed with a signature of the challenge that the backend
gave the node. -/
def Completed (r : Registration) : Prop :=
  let services := r.call.services
  let request := r.call.request
  services.parsesIban request.userIban = true
    ∧ (∀ email, request.email = some email → services.parsesEmail email = true)
    ∧ (∀ code, request.referralCode = some code →
        code.utf8ByteSize ≤ r.call.topupReferralCodeMaxLength.toNat)
    ∧ ∃ state challenge signature, services.nodeState = .ok state
      ∧ services.startTopupSetup state.id request = .ok challenge
      ∧ services.signMessage (FiatTopup.confirmation challenge) = .ok signature
      ∧ services.completeTopupSetup challenge.id signature request.userIban = .ok r.info

end Registration

/-- The wallet and the registrations since the last reset. -/
structure TopupState where
  support : Support
  registrations : List Registration

namespace TopupState

def step (s : TopupState) : TopupAction → TopupState
  | .register call =>
      match FiatTopup.register s.support call with
      | (.ok info, support) => ⟨support, s.registrations ++ [⟨call, info⟩]⟩
      | (.error _, support) => ⟨support, s.registrations⟩
  | .reset env =>
      match FiatTopup.reset s.support env with
      | (.ok (), support) => ⟨support, []⟩
      | (.error _, support) => ⟨support, s.registrations⟩
  | .operation call _ =>
      { s with support := { s.support with
          dataStore := { s.support.dataStore with conn := call.step s.support.dataStore.conn } } }
  | .setMemory userPreferences taskManager =>
      { s with support := { s.support with
          userPreferences := userPreferences, taskManager := taskManager } }

/-- The rows of the table. -/
def rows (s : TopupState) : List FiatTopupInfoRow := s.support.dataStore.conn.fiatTopupInfo.rows

/-- The table holds the registrations, and they were completed. -/
structure Recorded (s : TopupState) : Prop where
  rows_eq : s.rows = s.registrations.map Registration.row
  completed : ∀ r ∈ s.registrations, r.Completed

/-- What is shown is the latest of the registrations. -/
def ShowsLatest (s : TopupState) : Option FiatTopupSetupInfo → Prop
  | none => s.registrations = []
  | some info => ∃ r ∈ s.registrations, r.info = info
      ∧ ∀ other ∈ s.registrations, other.call.env.now ≤ r.call.env.now

end TopupState

/-! ## One step -/

namespace FiatTopup

variable {support : Support} {call : RegisterCall} {info : FiatTopupSetupInfo}

theorem checkReferralCode_ok {maxLength : UInt32} {code : Option String} {u : Unit}
    (h : checkReferralCode maxLength code = .ok u) (c : String) (hc : code = some c) :
    c.utf8ByteSize ≤ maxLength.toNat := by
  subst hc
  unfold checkReferralCode at h
  split at h
  · next heq => cases heq
  · next heq =>
    obtain rfl := Option.some.inj heq
    dsimp only at h
    split at h
    · cases h
    · next hle => exact Nat.le_of_not_gt hle

theorem setUp_ok (h : setUp support call = .ok info) :
    Registration.Completed ⟨call, info⟩ := by
  unfold setUp at h
  obtain ⟨_, hiban, h⟩ := bind_eq_ok.mp h
  obtain ⟨_, hemail, h⟩ := bind_eq_ok.mp h
  obtain ⟨_, hcode, h⟩ := bind_eq_ok.mp h
  obtain ⟨nodeInfo, hnode, h⟩ := bind_eq_ok.mp h
  obtain ⟨challenge, hchallenge, h⟩ := bind_eq_ok.mp h
  obtain ⟨signature, hsignature, hcomplete⟩ := bind_eq_ok.mp h
  rw [mapToRuntimeError_eq_ok] at hchallenge hsignature hcomplete
  rw [ensure_eq_ok] at hiban hemail
  refine ⟨hiban, fun email he => ?_, checkReferralCode_ok hcode, ?_⟩
  · rw [he] at hemail
    exact hemail
  · cases hstate : call.services.nodeState with
    | error e =>
        rw [hstate] at hnode
        cases hnode
    | ok state =>
        rw [hstate] at hnode
        obtain rfl := Except.ok.inj hnode
        exact ⟨state, challenge, signature, rfl, hchallenge, hsignature, hcomplete⟩

/-- A registration is completed and stored as the last row, under an order id of its own, or it
fails and nothing is stored. -/
theorem register_cases (support : Support) (call : RegisterCall) :
    (∃ e, register support call = (.error e, support))
      ∨ ∃ info table, register support call = (.ok info, { support with
            dataStore := { support.dataStore with
              conn := { support.dataStore.conn with fiatTopupInfo := table } } })
        ∧ Registration.Completed ⟨call, info⟩
        ∧ support.dataStore.conn.fiatTopupInfo.lookup info.orderId = none
        ∧ table.rows = support.dataStore.conn.fiatTopupInfo.rows ++ [⟨call.env.now, info⟩] := by
  unfold register
  cases hsetUp : setUp support call with
  | error e => exact .inl ⟨e, rfl⟩
  | ok info =>
      simp only [DataStore.storeFiatTopupInfo]
      split
      · next table _ htable =>
        obtain ⟨hnone, hrows⟩ := KeyedTable.insert_eq_some htable
        exact .inr ⟨info, table, rfl, setUp_ok hsetUp, hnone, hrows⟩
      · exact .inl ⟨_, rfl⟩

theorem reset_cases (support : Support) (env : Env) :
    (∃ e, reset support env = (.error e, support))
      ∨ reset support env = (.ok (), { support with
          dataStore := { support.dataStore with
            conn := { support.dataStore.conn with fiatTopupInfo := .empty } } }) := by
  unfold reset DataStore.clearFiatTopupInfo
  cases execute env .deleteFiatTopupInfo
      (.permanentFailure "Failed to delete fiat topup info") with
  | error e => exact .inl ⟨e, rfl⟩
  | ok _ => exact .inr rfl

end FiatTopup

/-- The other operations leave the registrations alone. -/
theorem fiatTopupInfo_step (db : Db) {call : Call} (h : call.op.isTopupRegistration = false) :
    (call.step db).fiatTopupInfo = db.fiatTopupInfo := by
  have hframe := call.step_frame db
  obtain ⟨op, env⟩ := call
  cases op with
  | storePaymentInfo =>
      obtain ⟨_, _, _, hstep⟩ := hframe
      rw [hstep]
  | storeFiatTopupInfo info => cases h
  | clearFiatTopupInfo => cases h
  | _ =>
      obtain ⟨_, hstep⟩ := hframe
      rw [hstep]

namespace TopupState

open FiatTopup

variable {s : TopupState}

theorem recorded_step (h : s.Recorded) (a : TopupAction) : (s.step a).Recorded := by
  cases a with
  | register call =>
      rcases register_cases s.support call with ⟨e, hregister⟩ |
        ⟨info, table, hregister, hcompleted, -, hrows⟩
      · simp only [step, hregister]
        exact ⟨h.rows_eq, h.completed⟩
      · simp only [step, hregister]
        refine ⟨?_, fun r hr => ?_⟩
        · show table.rows = (s.registrations ++ [Registration.mk call info]).map Registration.row
          rw [hrows, List.map_append]
          exact congrArg (· ++ [_]) h.rows_eq
        · rcases List.mem_append.mp hr with hr | hr
          · exact h.completed r hr
          · rw [List.mem_singleton.mp hr]
            exact hcompleted
  | reset env =>
      rcases reset_cases s.support env with ⟨e, hreset⟩ | hreset
      · simp only [step, hreset]
        exact ⟨h.rows_eq, h.completed⟩
      · simp only [step, hreset]
        exact ⟨rfl, fun r hr => absurd hr List.not_mem_nil⟩
  | operation call other =>
      refine ⟨?_, h.completed⟩
      show (call.step s.support.dataStore.conn).fiatTopupInfo.rows = _
      rw [fiatTopupInfo_step _ other]
      exact h.rows_eq
  | setMemory userPreferences taskManager => exact ⟨h.rows_eq, h.completed⟩

theorem recorded_run (as : List TopupAction) (h : s.Recorded) : (run step s as).Recorded := by
  induction as generalizing s with
  | nil => exact h
  | cons a as ih => exact ih (recorded_step h a)

/-- The order ids of the registrations, which are the keys of the table. -/
theorem orderIds_nodup (h : s.Recorded) :
    (s.registrations.map fun r => r.info.orderId).Nodup := by
  have hunique : (s.rows.map FiatTopupInfoRow.orderId).Nodup :=
    s.support.dataStore.conn.fiatTopupInfo.unique
  rw [h.rows_eq, List.map_map] at hunique
  exact hunique

/-! ## What is shown -/

theorem getInfo_eq (support : Support) :
    getInfo support ⟨false, false⟩
      = .ok ((Latest.latestFirst FiatTopupInfoRow.createdAt
          support.dataStore.conn.fiatTopupInfo.rows).head?.map FiatTopupInfoRow.info) := rfl

theorem getInfo_latest (h : s.Recorded) :
    ∃ shown, getInfo s.support ⟨false, false⟩ = .ok shown ∧ s.ShowsLatest shown := by
  refine ⟨_, getInfo_eq s.support, ?_⟩
  have hrows : s.support.dataStore.conn.fiatTopupInfo.rows
      = s.registrations.map Registration.row := h.rows_eq
  rw [hrows, Latest.latestFirst_map, List.head?_map, Option.map_map]
  have hpairwise := @Latest.pairwise_latestFirst Registration (fun r => r.call.env.now)
    s.registrations
  have hmem (r : Registration) :
      r ∈ Latest.latestFirst (fun r : Registration => r.call.env.now) s.registrations
        ↔ r ∈ s.registrations := Latest.mem_latestFirst
  have htime : (fun r : Registration => FiatTopupInfoRow.createdAt r.row)
      = fun r => r.call.env.now := rfl
  rw [htime]
  cases hsorted : Latest.latestFirst (fun r : Registration => r.call.env.now)
      s.registrations with
  | nil =>
      refine List.eq_nil_iff_forall_not_mem.mpr fun r hr => ?_
      have := (hmem r).mpr hr
      rw [hsorted] at this
      exact List.not_mem_nil this
  | cons first later =>
      rw [hsorted] at hpairwise hmem
      refine ⟨first, (hmem first).mp List.mem_cons_self, rfl, fun other hother => ?_⟩
      rcases List.mem_cons.mp ((hmem other).mpr hother) with rfl | hlater
      · exact le_refl _
      · exact (List.pairwise_cons.mp hpairwise).1 other hlater

/-- A registration that has returned is shown if all others are earlier, and only then. -/
theorem getInfo_register_iff (h : s.Recorded) {call : RegisterCall} {info : FiatTopupSetupInfo}
    (hregistered : (register s.support call).1 = .ok info) :
    getInfo (register s.support call).2 ⟨false, false⟩ = .ok (some info)
      ↔ ∀ r ∈ s.registrations, r.call.env.now < call.env.now := by
  rcases register_cases s.support call with ⟨e, hregister⟩ |
    ⟨info', table, hregister, -, hnone, hrows⟩
  · rw [hregister] at hregistered
    cases hregistered
  · rw [hregister] at hregistered ⊢
    obtain rfl := Except.ok.inj hregistered
    let row : FiatTopupInfoRow := ⟨call.env.now, info'⟩
    have hnew : ∀ r ∈ s.rows, r.info.orderId ≠ info'.orderId := by
      intro r hr horder
      have hkey := KeyedTable.lookup_eq_none.mp hnone
      exact hkey (List.mem_map.mpr ⟨r, hr, horder⟩)
    have hnot : row ∉ s.rows := fun hr => hnew row hr rfl
    rw [getInfo_eq]
    show Except.ok ((Latest.latestFirst FiatTopupInfoRow.createdAt table.rows).head?.map
      FiatTopupInfoRow.info) = _ ↔ _
    have hrows' : table.rows = s.rows ++ [row] := hrows
    have hhead : (Latest.latestFirst FiatTopupInfoRow.createdAt (s.rows ++ [row])).head?.map
        FiatTopupInfoRow.info = some info' ↔
        (Latest.latestFirst FiatTopupInfoRow.createdAt (s.rows ++ [row])).head? = some row := by
      rw [Option.map_eq_some_iff]
      constructor
      · rintro ⟨r, hr, hinfo⟩
        have hmem := Latest.mem_latestFirst.mp (List.mem_of_mem_head? hr)
        rcases List.mem_append.mp hmem with hmem | hmem
        · exact absurd (congrArg FiatTopupSetupInfo.orderId hinfo) (hnew r hmem)
        · rw [hr, List.mem_singleton.mp hmem]
      · intro hr
        exact ⟨row, hr, rfl⟩
    rw [hrows', Except.ok.injEq, hhead, Latest.head?_latestFirst_append hnot]
    show (∀ r ∈ s.rows, r.createdAt < call.env.now) ↔ _
    rw [h.rows_eq, List.forall_mem_map]
    exact Iff.rfl

/-- A new wallet, which has no registrations. -/
def new (userPreferences : UserPreferences) (taskManager : TaskManager)
    (backupFile : Option Db) : TopupState :=
  ⟨newWallet userPreferences taskManager backupFile, []⟩

theorem recorded_new (userPreferences : UserPreferences) (taskManager : TaskManager)
    (backupFile : Option Db) : (new userPreferences taskManager backupFile).Recorded where
  rows_eq := rfl
  completed _ h := absurd h List.not_mem_nil

/-- **Which registration is shown.** After any run of registrations, resets and other operations,
whichever of them fail, the registrations since the last reset have different order ids and were
all completed with a signed challenge, and the one that is shown is the latest of them by the
clock. The next one that returns `Ok` is shown exactly if all of them are earlier, and one that
fails changes nothing. -/
theorem registrations_run (userPreferences : UserPreferences) (taskManager : TaskManager)
    (backupFile : Option Db) (as : List TopupAction) :
    let s := run step (new userPreferences taskManager backupFile) as
    (∃ shown, getInfo s.support ⟨false, false⟩ = .ok shown ∧ s.ShowsLatest shown)
      ∧ (∀ r ∈ s.registrations, r.Completed)
      ∧ (s.registrations.map fun r => r.info.orderId).Nodup
      ∧ ∀ call, (∀ info, (register s.support call).1 = .ok info →
          (getInfo (register s.support call).2 ⟨false, false⟩ = .ok (some info)
            ↔ ∀ r ∈ s.registrations, r.call.env.now < call.env.now))
        ∧ ∀ e, (register s.support call).1 = .error e →
          (register s.support call).2 = s.support := by
  intro s
  have hrecorded : s.Recorded :=
    recorded_run as (recorded_new userPreferences taskManager backupFile)
  refine ⟨getInfo_latest hrecorded, hrecorded.completed, orderIds_nodup hrecorded,
    fun call => ⟨fun info => getInfo_register_iff hrecorded, fun e he => ?_⟩⟩
  rcases register_cases s.support call with ⟨e', hregister⟩ | ⟨info, table, hregister, -⟩
  · rw [hregister]
  · rw [hregister] at he
    cases he

end TopupState

end LipaLightning
