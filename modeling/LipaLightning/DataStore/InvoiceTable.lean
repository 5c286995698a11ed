import LipaLightning.Basic.Runs
import LipaLightning.DataStore.Payments
import LipaLightning.Text
import Mathlib.Data.List.TakeDrop
import Mathlib.Data.List.TakeWhile

set_option autoImplicit false

/-! # The table of created invoices

`created_invoices.hash` is declared `INTEGER`, and a payment hash is written to it as text. A
hash of 64 hex digits is kept as text unless it reads as a number: its digits are decimal ones
only, or all but an `e` between two of them are. Such a hash is stored as a number, which
rusqlite does not read as a `String`, and the row it is in fails every query that selects it.

`createdInvoices_complete_iff` is the exact condition under which what is stored by
`store_created_invoice` comes back complete.
-/

namespace LipaLightning

/-! ## Payment hashes -/

def IsHexDigit (c : Char) : Prop := c.isDigit = true ∨ 'a' ≤ c ∧ c ≤ 'f'

instance (c : Char) : Decidable (IsHexDigit c) :=
  inferInstanceAs (Decidable (c.isDigit = true ∨ 'a' ≤ c ∧ c ≤ 'f'))

/-- The hex string of 32 bytes. -/
structure IsPaymentHash (s : String) : Prop where
  length : s.length = 64
  hex : ∀ c ∈ s.toList, IsHexDigit c

/-- Decimal digits, or decimal digits with an `e` in between. -/
def LooksNumeric (s : String) : Prop :=
  ∃ whole exponent : List Char, whole ≠ [] ∧ (∀ c ∈ whole ++ exponent, c.isDigit = true) ∧
    (s.toList = whole ∨ exponent ≠ [] ∧ s.toList = whole ++ 'e' :: exponent)

theorem isHexDigit_iff (c : Char) :
    IsHexDigit c ↔ (48 ≤ c.toNat ∧ c.toNat ≤ 57) ∨ (97 ≤ c.toNat ∧ c.toNat ≤ 102) := by
  rw [IsHexDigit, isDigit_iff]
  exact or_congr Iff.rfl (and_congr UInt32.le_iff_toNat_le UInt32.le_iff_toNat_le)

namespace IsHexDigit

/-- A hex digit is no space, sign, point or capital letter. -/
theorem ne {c d : Char} (h : IsHexDigit c)
    (hd : d.toNat < 48 ∨ (57 < d.toNat ∧ d.toNat < 97)) : c ≠ d := by
  rintro rfl
  rw [isHexDigit_iff] at h
  omega

theorem not_space {c : Char} (h : IsHexDigit c) :
    decide (c = ' ' ∨ ('\t' ≤ c ∧ c ≤ '\r')) = false := by
  refine decide_eq_false ?_
  rintro (hc | ⟨-, hle⟩)
  · exact h.ne (d := ' ') (by decide) hc
  · have hle : c.toNat ≤ 13 := UInt32.le_iff_toNat_le.mp hle
    rw [isHexDigit_iff] at h
    omega

end IsHexDigit

/-! ## Which hashes are converted -/

theorem dropWhile_eq_self {α : Type} {p : α → Bool} {l : List α} (h : ∀ a ∈ l, p a = false) :
    l.dropWhile p = l := by
  cases l with
  | nil => rfl
  | cons a l =>
      have ha : ¬ p a = true := by
        rw [h a List.mem_cons_self]
        exact Bool.false_ne_true
      exact List.dropWhile_cons_of_neg ha

/-- A hex string has an exponent if it consists of decimal digits: there is no sign. -/
theorem exponentLiteral_hex {cs : List Char} (hex : ∀ c ∈ cs, IsHexDigit c) :
    exponentLiteral cs ≠ none ↔ cs ≠ [] ∧ ∀ c ∈ cs, c.isDigit = true := by
  cases cs with
  | nil => simp [exponentLiteral]
  | cons c cs =>
      have hminus : c ≠ '-' := (hex c List.mem_cons_self).ne (by decide)
      have hplus : c ≠ '+' := (hex c List.mem_cons_self).ne (by decide)
      simp [exponentLiteral, hminus, hplus]

/-- The scan of a hex string: there is no space, no sign and no fraction. -/
theorem numericLiteral_hex {s : String} (hex : ∀ c ∈ s.toList, IsHexDigit c) :
    numericLiteral s ≠ none ↔ s.toList.takeWhile Char.isDigit ≠ [] ∧
      ∀ c cs, s.toList.dropWhile Char.isDigit = c :: cs → c = 'e' ∧ exponentLiteral cs ≠ none := by
  have hspace : ∀ c ∈ s.toList, decide (c = ' ' ∨ ('\t' ≤ c ∧ c ≤ '\r')) = false :=
    fun c hc => (hex c hc).not_space
  have hspace' : ∀ c ∈ s.toList.reverse, decide (c = ' ' ∨ ('\t' ≤ c ∧ c ≤ '\r')) = false :=
    fun c hc => hspace c (List.mem_reverse.mp hc)
  unfold numericLiteral
  dsimp only
  rw [dropWhile_eq_self hspace, dropWhile_eq_self hspace', List.reverse_reverse]
  clear hspace hspace'
  generalize s.toList = cs at hex
  split
  · exact absurd rfl ((hex _ List.mem_cons_self).ne (d := '-') (by decide))
  · exact absurd rfl ((hex _ List.mem_cons_self).ne (d := '+') (by decide))
  · simp only [List.span_eq_takeWhile_dropWhile]
    have hrest : ∀ c ∈ cs.dropWhile Char.isDigit, IsHexDigit c :=
      fun c hc => hex c ((List.dropWhile_suffix _).subset hc)
    generalize cs.dropWhile Char.isDigit = rest at hrest
    cases rest with
    | nil => simp
    | cons c rest =>
        have hpoint : c ≠ '.' := (hrest c List.mem_cons_self).ne (by decide)
        have hupper : c ≠ 'E' := (hrest c List.mem_cons_self).ne (by decide)
        simp [hpoint, hupper]

/-- Decimal digits in front of something else are scanned. -/
theorem digits_scan {whole : List Char} (hwhole : ∀ c ∈ whole, c.isDigit = true)
    (rest : List Char) (hrest : ∀ c ∈ rest.head?, c.isDigit = false) :
    (whole ++ rest).takeWhile Char.isDigit = whole
      ∧ (whole ++ rest).dropWhile Char.isDigit = rest := by
  rw [List.takeWhile_append_of_pos hwhole, List.dropWhile_append_of_pos hwhole]
  cases rest with
  | nil => simp
  | cons c rest =>
      have hc : ¬ c.isDigit = true := by
        rw [hrest c rfl]
        exact Bool.false_ne_true
      rw [List.takeWhile_cons_of_neg hc, List.dropWhile_cons_of_neg hc, List.append_nil]
      exact ⟨rfl, rfl⟩

theorem looksNumeric_iff (s : String) :
    LooksNumeric s ↔ s.toList.takeWhile Char.isDigit ≠ [] ∧
      ∀ c cs, s.toList.dropWhile Char.isDigit = c :: cs →
        c = 'e' ∧ cs ≠ [] ∧ ∀ d ∈ cs, d.isDigit = true := by
  constructor
  · rintro ⟨whole, exponent, hne, hdigits, hs⟩
    have hwhole : ∀ c ∈ whole, c.isDigit = true :=
      fun c hc => hdigits c (List.mem_append_left _ hc)
    have hexponent : ∀ c ∈ exponent, c.isDigit = true :=
      fun c hc => hdigits c (List.mem_append_right _ hc)
    rcases hs with hs | ⟨hnil, hs⟩
    · obtain ⟨htake, hdrop⟩ := digits_scan hwhole [] fun c hc => nomatch hc
      rw [List.append_nil] at htake hdrop
      rw [hs, htake, hdrop]
      exact ⟨hne, fun c cs h => nomatch h⟩
    · obtain ⟨htake, hdrop⟩ := digits_scan hwhole ('e' :: exponent)
        fun c hc => by rw [← Option.some.inj hc]; rfl
      rw [hs, htake, hdrop]
      refine ⟨hne, fun c cs h => ?_⟩
      obtain ⟨rfl, rfl⟩ := List.cons.inj h
      exact ⟨rfl, hnil, hexponent⟩
  · rintro ⟨hne, hrest⟩
    have hwhole : ∀ c ∈ s.toList.takeWhile Char.isDigit, c.isDigit = true :=
      fun c hc => List.mem_takeWhile_imp hc
    have hsplit := (List.takeWhile_append_dropWhile (p := Char.isDigit) (l := s.toList)).symm
    cases hdrop : s.toList.dropWhile Char.isDigit with
    | nil =>
        rw [hdrop, List.append_nil] at hsplit
        exact ⟨_, [], hne, by simpa using hwhole, .inl hsplit⟩
    | cons c exponent =>
        obtain ⟨rfl, hnil, hexponent⟩ := hrest c exponent hdrop
        rw [hdrop] at hsplit
        refine ⟨_, exponent, hne, fun c hc => ?_, .inr ⟨hnil, hsplit⟩⟩
        rcases List.mem_append.mp hc with hc | hc
        · exact hwhole c hc
        · exact hexponent c hc

/-- A hex string is kept as text unless it looks like a number. -/
theorem integerAffinity_hex {s : String} (hex : ∀ c ∈ s.toList, IsHexDigit c) :
    (integerAffinity s).asText ≠ none ↔ ¬ LooksNumeric s := by
  have hliteral : numericLiteral s ≠ none ↔ LooksNumeric s := by
    rw [numericLiteral_hex hex, looksNumeric_iff]
    refine and_congr Iff.rfl (forall_congr' fun c => forall_congr' fun cs => ?_)
    refine imp_congr_right fun hdrop => and_congr Iff.rfl (exponentLiteral_hex fun d hd => ?_)
    refine hex d ((List.dropWhile_suffix Char.isDigit).subset ?_)
    rw [hdrop]
    exact List.mem_cons_of_mem c hd
  rw [← hliteral, not_not]
  unfold integerAffinity
  cases numericLiteral s with
  | none => exact ⟨fun _ => rfl, fun _ => nofun⟩
  | some d => cases h : d.toInteger? <;> simp [h, SqlValue.asText]

/-! ## Runs of `store_created_invoice` -/

/-- A call of `store_created_invoice`. -/
structure InvoiceCall where
  env : Env
  hash : String
  invoice : String
  channelOpeningFees : Option UInt64
  invoiceExpiryTimestamp : UInt64

namespace InvoiceCall

def result (dataStore : DataStore) (call : InvoiceCall) : Result Unit × DataStore :=
  dataStore.storeCreatedInvoice call.env call.hash call.invoice call.channelOpeningFees
    call.invoiceExpiryTimestamp

def step (dataStore : DataStore) (call : InvoiceCall) : DataStore := (call.result dataStore).2

/-- The call returns `Ok`. -/
def stores (call : InvoiceCall) : Bool :=
  DataStore.invoiceCommits call.env call.channelOpeningFees call.invoiceExpiryTimestamp

def row (call : InvoiceCall) : CreatedInvoiceRow :=
  ⟨integerAffinity call.hash, call.invoice, call.channelOpeningFees, call.invoiceExpiryTimestamp⟩

@[simp] theorem row_hash (call : InvoiceCall) : call.row.hash = integerAffinity call.hash := by
  rw [row]

/-- What the call is to store. -/
def created (call : InvoiceCall) : CreatedInvoice :=
  ⟨call.hash, call.invoice, call.channelOpeningFees⟩

/-- The calls that store their invoice are those that return `Ok`. -/
theorem succeeded_result (dataStore : DataStore) (call : InvoiceCall) :
    succeeded (call.result dataStore).1 = call.stores :=
  DataStore.storeCreatedInvoice_succeeded ..

/-- A call appends its row or leaves the table as it is. -/
theorem rows_step (dataStore : DataStore) (call : InvoiceCall) :
    (step dataStore call).conn.createdInvoices
      = dataStore.conn.createdInvoices ++ if call.stores then [call.row] else [] := by
  unfold step result stores
  rw [DataStore.storeCreatedInvoice_conn]
  split
  · rfl
  · exact (List.append_nil _).symm

theorem rows_run (calls : List InvoiceCall) (dataStore : DataStore) :
    (Runs.run step dataStore calls).conn.createdInvoices
      = dataStore.conn.createdInvoices ++ (calls.filter stores).map row := by
  induction calls generalizing dataStore with
  | nil => exact (List.append_nil _).symm
  | cons call calls ih =>
      rw [Runs.run_cons, ih, rows_step, List.filter_cons, List.append_assoc]
      split <;> rfl

/-- The table of a new db holds what was stored, in the order it was stored in. -/
theorem rows_new (backupFile : Option Db) (calls : List InvoiceCall) :
    (Runs.run step (.new .migrated backupFile) calls).conn.createdInvoices
      = (calls.filter stores).map row := by
  rw [rows_run]
  exact List.nil_append _

end InvoiceCall

/-! ## What comes back -/

/-- The stored invoices with `expiry >= now`, and the `n` most recently stored ones with
`expiry < now`. -/
def pendingAndLatest (stored : List InvoiceCall) (now : UInt64) (n : Nat) : List InvoiceCall :=
  stored.filter (fun call => now ≤ call.invoiceExpiryTimestamp)
    ++ (stored.filter (fun call => call.invoiceExpiryTimestamp < now)).reverse.take n

/-- What was stored is listed, and found by its hash. The clock reads `secs`, an `i64` number of
seconds since the Unix epoch. -/
structure ComesBackComplete (dataStore : DataStore) (stored : List InvoiceCall) : Prop where
  listed : ∀ (now : SystemTime) (secs : UInt64) (n : UInt32),
    asSecs now = some secs → secs < 2 ^ 63 →
      ∃ invoices, dataStore.retrieveCreatedInvoices now n = .ok invoices ∧ invoices.Nodup ∧
        invoices.Perm ((pendingAndLatest stored secs n.toNat).map InvoiceCall.created)
  byHash : ∀ hash, dataStore.retrieveCreatedInvoiceByHash hash
    = (stored.find? (fun call => call.hash = hash)).map InvoiceCall.created

/-- The two parts of the `UNION` select the rows of those invoices. -/
theorem selectCreatedInvoices_map {db : Db} {stored : List InvoiceCall}
    (hrows : db.createdInvoices = stored.map InvoiceCall.row) (now : UInt64) (n : Nat) :
    DataStore.selectCreatedInvoices db now n
      = (pendingAndLatest stored now n).map InvoiceCall.row := by
  rw [DataStore.selectCreatedInvoices, pendingAndLatest, hrows, List.map_append, List.map_take,
    List.map_reverse, List.filter_map, List.filter_map]
  rfl

/-- The row of a hash that is kept as text reads as what was stored. -/
theorem createdInvoiceFromRow_row {call : InvoiceCall}
    (htext : (integerAffinity call.hash).asText ≠ none) :
    DataStore.createdInvoiceFromRow call.row = .ok call.created := by
  obtain ⟨t, ht⟩ := Option.ne_none_iff_exists'.mp htext
  obtain rfl := (asText_integerAffinity ht).2
  have htext : call.row.hash.asText = some call.hash := by rw [InvoiceCall.row_hash, ht]
  rw [DataStore.createdInvoiceFromRow, htext]
  rfl

/-- A row that is read has a hash that is text. -/
theorem asText_of_createdInvoiceFromRow {r : CreatedInvoiceRow} {i : CreatedInvoice}
    (h : DataStore.createdInvoiceFromRow r = .ok i) : r.hash.asText ≠ none := by
  unfold DataStore.createdInvoiceFromRow at h
  cases htext : r.hash.asText with
  | some t => exact nofun
  | none =>
      rw [htext] at h
      cases h

/-- Every row can be read once all of them were listed. -/
theorem asText_of_complete {dataStore : DataStore} {stored : List InvoiceCall}
    (hrows : dataStore.conn.createdInvoices = stored.map InvoiceCall.row)
    (hcomplete : ComesBackComplete dataStore stored) :
    ∀ call ∈ stored, (integerAffinity call.hash).asText ≠ none := by
  -- no invoice has expired at the epoch
  obtain ⟨invoices, hinvoices, -⟩ := hcomplete.listed 0 0 0 rfl (by grind)
  intro call hcall
  have hread : ∃ read, (DataStore.selectCreatedInvoices dataStore.conn 0 0).mapM
      DataStore.createdInvoiceFromRow = .ok read := by
    obtain ⟨-, -, h⟩ := bind_eq_ok.mp hinvoices
    obtain ⟨read, hread, -⟩ := bind_eq_ok.mp h
    exact ⟨read, hread⟩
  obtain ⟨read, hread⟩ := hread
  rw [selectCreatedInvoices_map hrows] at hread
  have hlisted : call ∈ pendingAndLatest stored 0 0 := by
    exact List.mem_append_left _ (List.mem_filter.mpr ⟨hcall, by simp⟩)
  obtain ⟨i, hi⟩ := ok_of_mapM_ok hread call.row (List.mem_map_of_mem hlisted)
  rw [← InvoiceCall.row_hash]
  exact asText_of_createdInvoiceFromRow hi

/-- Hashes kept as text are found, and only under themselves. -/
theorem byHash_of_asText {dataStore : DataStore} {stored : List InvoiceCall}
    (hrows : dataStore.conn.createdInvoices = stored.map InvoiceCall.row)
    (htext : ∀ call ∈ stored, (integerAffinity call.hash).asText ≠ none) (hash : String) :
    dataStore.retrieveCreatedInvoiceByHash hash
      = (stored.find? (fun call => call.hash = hash)).map InvoiceCall.created := by
  have hfind : stored.find? (fun call => call.row.hash = integerAffinity hash)
      = stored.find? (fun call => call.hash = hash) := by
    refine List.find?_congr fun call hcall => decide_eq_decide.mpr ⟨fun h => ?_, fun h => ?_⟩
    · rw [InvoiceCall.row_hash] at h
      obtain ⟨t, ht⟩ := Option.ne_none_iff_exists'.mp (htext call hcall)
      have hstored := (asText_integerAffinity ht).2
      have hasked := (asText_integerAffinity (h ▸ ht)).2
      rw [← hstored, ← hasked]
    · rw [InvoiceCall.row_hash, h]
  rw [DataStore.retrieveCreatedInvoiceByHash, hrows, List.find?_map, Option.map_map]
  show (stored.find? (fun call => call.row.hash = integerAffinity hash)).map _ = _
  rw [hfind]
  refine Option.map_congr fun call hcall => ?_
  have hcall : call.hash = hash := by simpa using List.find?_some hcall
  rw [← hcall]
  rfl

theorem pendingAndLatest_subset (stored : List InvoiceCall) (now : UInt64) (n : Nat) :
    pendingAndLatest stored now n ⊆ stored := by
  intro call hcall
  rcases List.mem_append.mp hcall with hcall | hcall
  · exact (List.mem_filter.mp hcall).1
  · exact (List.mem_filter.mp (List.mem_reverse.mp (List.mem_of_mem_take hcall))).1

/-- No invoice is both pending and expired. -/
theorem pendingAndLatest_nodup {stored : List InvoiceCall} (h : stored.Nodup) (now : UInt64)
    (n : Nat) : (pendingAndLatest stored now n).Nodup := by
  have hexpired : (stored.filter (fun call => call.invoiceExpiryTimestamp < now)).Nodup :=
    h.filter _
  refine List.nodup_append'.mpr ⟨h.filter _,
    (List.nodup_reverse.mpr hexpired).sublist (List.take_sublist ..), fun call hp he => ?_⟩
  have hpending : now ≤ call.invoiceExpiryTimestamp := by simpa using (List.mem_filter.mp hp).2
  have hexpired : call.invoiceExpiryTimestamp < now := by
    simpa using (List.mem_filter.mp (List.mem_reverse.mp (List.mem_of_mem_take he))).2
  exact absurd hexpired (UInt64.not_lt.mpr hpending)

theorem complete_of_asText {dataStore : DataStore} {stored : List InvoiceCall}
    (hrows : dataStore.conn.createdInvoices = stored.map InvoiceCall.row)
    (hdistinct : (stored.map InvoiceCall.hash).Nodup)
    (htext : ∀ call ∈ stored, (integerAffinity call.hash).asText ≠ none) :
    ComesBackComplete dataStore stored where
  listed now secs n hsecs hbound := by
    have hread : (DataStore.selectCreatedInvoices dataStore.conn secs n.toNat).mapM
        DataStore.createdInvoiceFromRow
          = .ok ((pendingAndLatest stored secs n.toNat).map InvoiceCall.created) := by
      rw [selectCreatedInvoices_map hrows, List.mapM_map]
      exact mapM_ok fun call hcall => createdInvoiceFromRow_row
        (htext call (pendingAndLatest_subset stored secs n.toNat hcall))
    have hnodup : ((pendingAndLatest stored secs n.toNat).map InvoiceCall.created).Nodup := by
      refine (pendingAndLatest_nodup hdistinct.of_map secs n.toNat).map_on
        fun call hcall other hother h => ?_
      exact List.inj_on_of_nodup_map hdistinct (pendingAndLatest_subset _ _ _ hcall)
        (pendingAndLatest_subset _ _ _ hother) (congrArg CreatedInvoice.hash h)
    have hsorted := List.perm_insertionSort
      (fun i j => DataStore.createdInvoiceKey i ≤ DataStore.createdInvoiceKey j)
      ((pendingAndLatest stored secs n.toNat).map InvoiceCall.created)
    refine ⟨_, ?_, hsorted.nodup_iff.mpr hnodup, hsorted⟩
    rw [DataStore.retrieveCreatedInvoices_of_read hsecs hbound hread, hnodup.dedup]
  byHash := byHash_of_asText hrows htext

/-- **When created invoices come back complete.** After any calls of `store_created_invoice`
with pairwise distinct payment hashes, the pending invoices and the latest expired ones are
listed at every clock and for every number of them, and each invoice is found under its hash
alone, exactly if no stored hash looks like a number. -/
theorem createdInvoices_complete_iff (backupFile : Option Db) (calls : List InvoiceCall)
    (hhash : ∀ call ∈ calls, IsPaymentHash call.hash)
    (hdistinct : (calls.map InvoiceCall.hash).Nodup) :
    ComesBackComplete (Runs.run InvoiceCall.step (.new .migrated backupFile) calls)
        (calls.filter InvoiceCall.stores)
      ↔ ∀ call ∈ calls, call.stores = true → ¬ LooksNumeric call.hash := by
  have hrows := InvoiceCall.rows_new backupFile calls
  have hstored : (calls.filter InvoiceCall.stores).Sublist calls := List.filter_sublist
  constructor
  · intro hcomplete call hcall hstores
    have htext := asText_of_complete hrows hcomplete call (List.mem_filter.mpr ⟨hcall, hstores⟩)
    exact (integerAffinity_hex (hhash call hcall).hex).mp htext
  · intro hnone
    refine complete_of_asText hrows (hdistinct.sublist (hstored.map _)) fun call hcall => ?_
    obtain ⟨hcall, hstores⟩ := List.mem_filter.mp hcall
    exact (integerAffinity_hex (hhash call hcall).hex).mpr (hnone call hcall hstores)

def workingEnv : Env := ⟨1700000000000000000, fun _ => false⟩

/-- A call that stores an invoice without a fee under the hash. -/
def storeUnder (hash : String) : InvoiceCall := ⟨workingEnv, hash, "lnbc1", none, 1700003600⟩

theorem storeUnder_stores (hash : String) : (storeUnder hash).stores = true := by
  have hbound : (1700003600 : UInt64) < 2 ^ 63 := by grind
  simp [InvoiceCall.stores, storeUnder, DataStore.invoiceCommits, workingEnv, hbound]

/-- The payment hash whose digits are all the same. -/
def hashOf (c : Char) : String := String.ofList (List.replicate 64 c)

theorem isPaymentHash_hashOf {c : Char} (hc : IsHexDigit c) : IsPaymentHash (hashOf c) := by
  have hdigits : (hashOf c).toList = List.replicate 64 c := String.toList_ofList
  constructor
  · rw [← String.length_toList, hdigits, List.length_replicate]
  · intro d hd
    rw [hdigits] at hd
    rw [List.eq_of_mem_replicate hd]
    exact hc

/-- Without a decimal digit in front, a hash does not look like a number. -/
theorem not_looksNumeric_hashOf {c : Char} (hc : c.isDigit = false) :
    ¬ LooksNumeric (hashOf c) := by
  intro h
  have hdigits : (hashOf c).toList = List.replicate 64 c := String.toList_ofList
  refine ((looksNumeric_iff (hashOf c)).mp h).1 ?_
  rw [hdigits, List.replicate_succ, List.takeWhile_cons_of_neg (by simp [hc])]

/-- Two invoices that expire within two hours, one that expires after a day, and one that is not
stored because the db is locked. -/
def storedInvoices : List InvoiceCall :=
  [⟨workingEnv, hashOf 'a', "lnbc1", none, 1700003600⟩,
    ⟨workingEnv, hashOf 'e', "lnbc2", some 2500000, 1700086400⟩,
    ⟨workingEnv, hashOf 'b', "lnbc3", none, 1700007200⟩,
    ⟨⟨1700000000000000000, fun _ => true⟩, hashOf 'c', "lnbc4", none, 1700086400⟩]

/-- Of these, a request for one expired invoice returns the pending one and the latest expired
one. -/
theorem createdInvoices_complete_iff_letters :
    let dataStore := Runs.run InvoiceCall.step (.new .migrated none) storedInvoices
    ComesBackComplete dataStore (storedInvoices.filter InvoiceCall.stores)
      ∧ dataStore.retrieveCreatedInvoices 1700050000000000000 1
        = .ok [⟨hashOf 'b', "lnbc3", none⟩, ⟨hashOf 'e', "lnbc2", some 2500000⟩] := by
  intro dataStore
  have hletters : ∀ call ∈ storedInvoices,
      ∃ c, call.hash = hashOf c ∧ IsHexDigit c ∧ c.isDigit = false := by
    intro call hcall
    simp only [storedInvoices, List.mem_cons, List.not_mem_nil, or_false] at hcall
    rcases hcall with rfl | rfl | rfl | rfl
    · exact ⟨'a', rfl, by decide, by decide⟩
    · exact ⟨'e', rfl, by decide, by decide⟩
    · exact ⟨'b', rfl, by decide, by decide⟩
    · exact ⟨'c', rfl, by decide, by decide⟩
  refine ⟨(createdInvoices_complete_iff none storedInvoices (fun call hcall => ?_)
    (by decide +kernel)).mpr fun call hcall _ => ?_, by decide +kernel⟩
  · obtain ⟨c, hhash, hhex, -⟩ := hletters call hcall
    rw [hhash]
    exact isPaymentHash_hashOf hhex
  · obtain ⟨c, hhash, -, hdigit⟩ := hletters call hcall
    rw [hhash]
    exact not_looksNumeric_hashOf hdigit

def onesHash : String := "1111111111111111111111111111111111111111111111111111111111111111"

/-- An invoice whose payment hash has decimal digits only makes the whole list unreadable. -/
theorem decimal_hash_corrupts_list :
    ¬ ∀ (backupFile : Option Db) (calls : List InvoiceCall),
      (∀ call ∈ calls, IsPaymentHash call.hash) → (calls.map InvoiceCall.hash).Nodup →
      ComesBackComplete (Runs.run InvoiceCall.step (.new .migrated backupFile) calls)
        (calls.filter InvoiceCall.stores) := by
  intro h
  have hhash : ∀ call ∈ [storeUnder onesHash], IsPaymentHash call.hash := by
    intro call hcall
    obtain rfl := List.mem_singleton.mp hcall
    exact ⟨by decide, by simp [storeUnder, onesHash, IsHexDigit]⟩
  have hstored : storeUnder onesHash ∈ [storeUnder onesHash].filter InvoiceCall.stores :=
    List.mem_filter.mpr ⟨List.mem_singleton_self _, storeUnder_stores onesHash⟩
  have htext := asText_of_complete (InvoiceCall.rows_new none [storeUnder onesHash])
    (h none [storeUnder onesHash] hhash (List.nodup_singleton _)) (storeUnder onesHash) hstored
  exact htext (by decide)

end LipaLightning
