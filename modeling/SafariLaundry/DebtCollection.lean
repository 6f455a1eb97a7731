import SafariLaundry.Receivables

/-!
# Collected debt as journal rows

Two services spread a collected amount over open invoices and mirror it to the
journal, one payment row per slice and one for what no slice took.  The rows are
under references that carry the key of a row created in the same transaction, so
they never meet an entry that is already there.
-/

namespace SafariLaundry

open Library Library.Bookkeeping Library.Transaction Library.Allocation List

structure DebtCollection where
  /-- The second word of the source reference. -/
  route : String
  (keyId customerId actorUserId : Uuid)
  paymentMethod : PosPaymentMethod
  (sliceNote residualNote : String)

namespace DebtCollection

def paymentRef (collection : DebtCollection) (tail : RefSegment) : SourceRef :=
  [.word "PAYMENT", .word collection.route, .id collection.keyId, tail]

def sliceRow (collection : DebtCollection) (slice : Slice Uuid) :
    MirrorDebtLedgerInput where
  source := .PAYMENT
  amount := slice.amount
  sourceRef := collection.paymentRef (.id slice.item)
  actorUserId := collection.actorUserId
  customerId := collection.customerId
  orderId := some slice.item
  paymentMethod := some collection.paymentMethod
  note := collection.sliceNote

def residualRow (collection : DebtCollection) (amount : ℤ) : MirrorDebtLedgerInput where
  source := .PAYMENT
  amount := amount
  sourceRef := collection.paymentRef (.word "RESIDUAL")
  actorUserId := collection.actorUserId
  customerId := collection.customerId
  orderId := none
  paymentMethod := some collection.paymentMethod
  note := collection.residualNote

def rows (collection : DebtCollection) (slices : List (Slice Uuid)) (residual : ℤ) :
    List MirrorDebtLedgerInput :=
  slices.map collection.sliceRow ++ if 0 < residual then [collection.residualRow residual] else []

def entries (collection : DebtCollection) (slices : List (Slice Uuid)) (residual : ℤ) :
    List JournalEntry :=
  (collection.rows slices residual).flatMap mirrorEntries

end DebtCollection

def mirrorPaymentRow (env : Env) (row : MirrorDebtLedgerInput) : Tx Unit := do
  assertDebtLedgerPaymentWrite row.actorUserId row.sourceRef
  mirrorDebtLedgerEntrySafe env row

variable {rows : List MirrorDebtLedgerInput}

theorem wrote_forM {write : MirrorDebtLedgerInput → Tx Unit} {db db' : Db} {a : Unit}
    (hwrite : ∀ row ∈ rows, ∀ db db', (write row).Commits db () db' →
      Wrote (mirrorEntries row) db db') (hcommits : (rows.forM write).Commits db a db') :
    Wrote (rows.flatMap mirrorEntries) db db' := by
  induction rows generalizing db with
  | nil =>
      rw [commits_forM_nil] at hcommits
      subst hcommits
      exact Wrote.refl db
  | cons row rest ih =>
      obtain ⟨mid, hfirst, hrest⟩ := commits_forM_cons.1 hcommits
      have hwrote := hwrite row (by simp) db mid hfirst
      rw [flatMap_cons]
      exact hwrote.trans
        (ih (fun other hother => hwrite other (mem_cons_of_mem row hother)) hrest)

theorem commits_checks {db db' : Db} {a : Unit}
    (hcommits : (rows.forM fun row =>
      assertDebtLedgerPaymentWrite row.actorUserId row.sourceRef).Commits db a db') :
    db = db' := by
  induction rows generalizing db with
  | nil => exact commits_forM_nil.1 hcommits
  | cons row rest ih =>
      obtain ⟨mid, hfirst, hrest⟩ := commits_forM_cons.1 hcommits
      have hsame := commits_assertDebtLedgerPaymentWrite hfirst
      subst hsame
      exact ih hrest

theorem commits_mirrorPaymentRows {env : Env} {db db' : Db} {a : Unit} (henv : env.StoreHealthy)
    (hrows : ∀ row ∈ rows, row.actorUserId ≠ "" ∧ row.sourceRef ≠ [])
    (hcommits : (rows.forM (mirrorPaymentRow env)).Commits db a db') :
    Wrote (rows.flatMap mirrorEntries) db db' := by
  refine wrote_forM (fun row hmem db db' hrow => ?_) hcommits
  unfold mirrorPaymentRow at hrow
  simp only [commits_bind] at hrow
  obtain ⟨⟨⟩, checked, hassert, hmirror⟩ := hrow
  have hsame := commits_assertDebtLedgerPaymentWrite hassert
  subst hsame
  exact commits_mirrorDebtLedgerEntrySafe henv (hrows row hmem).1 (hrows row hmem).2 hmirror

def Unmentioned (key : Uuid) (journal : List JournalEntry) : Prop :=
  ∀ entry ∈ journal, RefSegment.id key ∉ entry.sourceRef

theorem Unmentioned.not_recorded {key : Uuid} {journal : List JournalEntry}
    (hfresh : Unmentioned key journal) {ref : SourceRef} (hmem : RefSegment.id key ∈ ref) :
    ¬ Recorded journal ref := by
  rintro ⟨entry, hentry, rfl⟩
  exact hfresh entry hentry hmem

namespace DebtCollection

variable {collection : DebtCollection}

/-- A row's reference names the route and not a method. -/
def PlainRoute (collection : DebtCollection) : Prop :=
  collection.route ≠ "KNET" ∧ collection.route ≠ "ONLINE" ∧
    collection.route ≠ "PAYMENT_LINK" ∧ collection.route ≠ "CASH" ∧
    collection.route ≠ "WALLET"

variable {slices : List (Slice Uuid)} {row : MirrorDebtLedgerInput}

theorem sourceRef_of_mem_rows {residual : ℤ} (hmem : row ∈ collection.rows slices residual) :
    ∃ tail, row.sourceRef = collection.paymentRef tail ∧
      ((∃ slice ∈ slices, tail = .id slice.item ∧ row = collection.sliceRow slice) ∨
        (0 < residual ∧ tail = .word "RESIDUAL" ∧ row = collection.residualRow residual)) := by
  unfold rows at hmem
  rcases mem_append.1 hmem with hslice | hresidual
  · obtain ⟨slice, hmember, rfl⟩ := mem_map.1 hslice
    exact ⟨_, rfl, .inl ⟨slice, hmember, rfl, rfl⟩⟩
  · by_cases hpos : 0 < residual
    · rw [if_pos hpos, mem_singleton] at hresidual
      subst hresidual
      exact ⟨_, rfl, .inr ⟨hpos, rfl, rfl⟩⟩
    · rw [if_neg hpos] at hresidual
      cases hresidual

theorem paymentAssetAccount_row (hroute : collection.PlainRoute) {tail : RefSegment}
    (hmethod : row.paymentMethod = some collection.paymentMethod)
    (href : row.sourceRef = collection.paymentRef tail) :
    (collection.paymentMethod.External →
      paymentAssetAccount row = externalPaymentAssetAccount collection.paymentMethod) ∧
    (¬ collection.paymentMethod.External → paymentAssetAccount row =
        if IncludesText (lower row.note) "void" ∨ IncludesText (lower row.note) "edit" then
          some .ADJUSTMENTS
        else none) := by
  obtain ⟨hknet, honline, hlink, hcash, _⟩ := hroute
  have hincludes : ∀ text, row.sourceRef.Includes text ↔ collection.route = text := by
    intro text
    rw [href]
    simp [SourceRef.Includes, paymentRef, eq_comm]
  have hadjustment : ¬ row.sourceRef.StartsWith ["ADJUSTMENT"] := by
    rw [href]
    simp [SourceRef.StartsWith, paymentRef]
  unfold paymentAssetAccount
  simp only [hincludes, hmethod, hknet, honline, hlink, hcash, hadjustment, false_or]
  constructor
  · rintro (hcase | hcase | hcase | hcase) <;>
      simp [hcase, externalPaymentAssetAccount]
  · intro hother
    have hcases : collection.paymentMethod = .SUBSCRIPTION_WALLET ∨
        collection.paymentMethod = .DEBT_ON_ACCOUNT := by
      unfold PosPaymentMethod.External at hother
      cases hcase : collection.paymentMethod <;> simp [hcase] at hother ⊢
    rcases hcases with hcase | hcase <;> simp [hcase]

theorem not_startsWith_wallet (hroute : collection.PlainRoute) (tail : RefSegment) :
    ¬ (collection.paymentRef tail).StartsWith ["PAYMENT", "WALLET"] := by
  have hwallet := hroute.2.2.2.2
  simp [SourceRef.StartsWith, paymentRef, hwallet]

theorem mirrorEntries_row (hroute : collection.PlainRoute) {tail : RefSegment}
    (hsource : row.source = .PAYMENT) (href : row.sourceRef = collection.paymentRef tail) :
    mirrorEntries row =
      match paymentAssetAccount row with
      | some account => (mirrorPaymentEntry row account).entries
      | none => [] := by
  have hwallet : ¬ row.sourceRef.StartsWith ["PAYMENT", "WALLET"] :=
    href ▸ not_startsWith_wallet hroute tail
  unfold mirrorEntries
  cases paymentAssetAccount row with
  | none => simp only [hsource, if_neg hwallet]
  | some account => simp only [hsource, if_neg hwallet]

/-! ## Money actually received -/

theorem figures_row (hroute : collection.PlainRoute) (hexternal : collection.paymentMethod.External)
    {row : MirrorDebtLedgerInput} {tail : RefSegment} (hsource : row.source = .PAYMENT)
    (hmethod : row.paymentMethod = some collection.paymentMethod)
    (hcustomer : row.customerId = collection.customerId)
    (href : row.sourceRef = collection.paymentRef tail) (hamount : 0 < row.amount) :
    receivable collection.customerId (mirrorEntries row) = -row.amount ∧
      customerNet .WALLET_LIABILITY collection.customerId (mirrorEntries row) = 0 ∧
      assetDebits (mirrorEntries row) = row.amount := by
  have haccount := (paymentAssetAccount_row hroute hmethod href).1 hexternal
  obtain ⟨account, hsome⟩ := Option.isSome_iff_exists.1
    (externalPaymentAssetAccount_isSome.2 hexternal)
  have hasset := externalPaymentAssetAccount_asset hsome
  have hentries : mirrorEntries row = [(mirrorPaymentEntry row account).input.entry] := by
    rw [mirrorEntries_row hroute hsource href, haccount, hsome]
    exact PairPosting.entries_of_pos hamount
  have hsame : (mirrorPaymentEntry row account).customerId = collection.customerId :=
    hcustomer
  have hreceivable : account ≠ .ACCOUNTS_RECEIVABLE := by
    rintro rfl
    revert hasset
    decide
  have hliability : account ≠ .WALLET_LIABILITY := by
    rintro rfl
    revert hasset
    decide
  rw [hentries]
  refine ⟨?_, ?_, ?_⟩
  · unfold receivable
    rw [← hsame, customerNet_pair]
    simp [mirrorPaymentEntry, hreceivable]
  · rw [← hsame, customerNet_pair]
    simp [mirrorPaymentEntry, hliability]
  · rw [assetDebits_pair]
    simp [mirrorPaymentEntry, hasset]

theorem figures_rows (hroute : collection.PlainRoute)
    (hexternal : collection.paymentMethod.External)
    (slices : List (Slice Uuid)) (hslices : ∀ slice ∈ slices, 0 < slice.amount)
    (residual : ℤ) :
    receivable collection.customerId (collection.entries slices residual) =
        -(allocated slices + max 0 residual) ∧
      customerNet .WALLET_LIABILITY collection.customerId (collection.entries slices residual) = 0 ∧
      assetDebits (collection.entries slices residual) =
        allocated slices + max 0 residual := by
  have hresidual :
      receivable collection.customerId ((if 0 < residual then
          [collection.residualRow residual] else []).flatMap mirrorEntries) =
          -max 0 residual ∧
        customerNet .WALLET_LIABILITY collection.customerId ((if 0 < residual then
          [collection.residualRow residual] else []).flatMap mirrorEntries) = 0 ∧
        assetDebits ((if 0 < residual then
          [collection.residualRow residual] else []).flatMap mirrorEntries) =
          max 0 residual := by
    by_cases hpos : 0 < residual
    · rw [if_pos hpos, flatMap_singleton, max_eq_right hpos.le]
      exact figures_row hroute hexternal rfl rfl rfl rfl hpos
    · rw [if_neg hpos, max_eq_left (by omega)]
      exact ⟨rfl, rfl, rfl⟩
  unfold entries rows
  rw [flatMap_append]
  induction slices with
  | nil => simpa [receivable] using hresidual
  | cons slice rest ih =>
      have hslice : 0 < slice.amount := hslices slice (by simp)
      have hrest := ih fun other hother => hslices other (mem_cons_of_mem slice hother)
      have hhead := @figures_row collection hroute hexternal (collection.sliceRow slice) _ rfl
        rfl rfl rfl hslice
      obtain ⟨hreceivable, hliability, hassets⟩ := hhead
      obtain ⟨hreceivable', hliability', hassets'⟩ := hrest
      unfold receivable at hreceivable hreceivable' ⊢
      simp only [map_cons, flatMap_cons, append_assoc, customerNet_append,
        assetDebits_append, allocated_cons] at hreceivable' hliability' hassets' ⊢
      have hamount : (collection.sliceRow slice).amount = slice.amount := rfl
      rw [hamount] at hreceivable hassets
      refine ⟨?_, ?_, ?_⟩
      · rw [hreceivable, hreceivable']
        ring
      · rw [hliability, hliability', add_zero]
      · rw [hassets, hassets']
        ring

theorem assetDebits_rows_of_not_external (hroute : collection.PlainRoute)
    (hexternal : ¬ collection.paymentMethod.External)
    (slices : List (Slice Uuid)) (residual : ℤ) :
    assetDebits (collection.entries slices residual) = 0 := by
  have hrow : ∀ row ∈ collection.rows slices residual,
      assetDebits (mirrorEntries row) = 0 := by
    intro row hmem
    obtain ⟨tail, href, hshape⟩ := sourceRef_of_mem_rows hmem
    have hkind : row.source = .PAYMENT ∧
        row.paymentMethod = some collection.paymentMethod := by
      rcases hshape with ⟨slice, _, _, rfl⟩ | ⟨_, _, rfl⟩
      · exact ⟨rfl, rfl⟩
      · exact ⟨rfl, rfl⟩
    rw [mirrorEntries_row hroute hkind.1 href,
      (paymentAssetAccount_row hroute hkind.2 href).2 hexternal]
    by_cases hnote : IncludesText (lower row.note) "void" ∨ IncludesText (lower row.note) "edit"
    · rw [if_pos hnote]
      simp only [PairPosting.entries]
      by_cases hamount : (mirrorPaymentEntry row .ADJUSTMENTS).amount ≤ 0
      · rw [if_pos hamount, assetDebits_nil]
      · have hadjustments : ¬ JournalAccount.Asset .ADJUSTMENTS := by decide
        rw [if_neg hamount, assetDebits_pair]
        exact if_neg hadjustments
    · rw [if_neg hnote, assetDebits_nil]
  unfold entries
  revert hrow
  induction collection.rows slices residual with
  | nil =>
      intro _
      rfl
  | cons row rest ih =>
      intro hrow
      rw [flatMap_cons, assetDebits_append, hrow row (by simp),
        ih fun other hother => hrow other (mem_cons_of_mem row hother), add_zero]

theorem entries_of_not_external (hroute : collection.PlainRoute)
    (hexternal : ¬ collection.paymentMethod.External)
    (hslice : ¬ (IncludesText (lower collection.sliceNote) "void" ∨
      IncludesText (lower collection.sliceNote) "edit"))
    (hresidual : ¬ (IncludesText (lower collection.residualNote) "void" ∨
      IncludesText (lower collection.residualNote) "edit"))
    (slices : List (Slice Uuid)) (residual : ℤ) :
    collection.entries slices residual = [] := by
  unfold entries
  rw [flatMap_eq_nil_iff]
  intro row hmem
  obtain ⟨tail, href, hshape⟩ := sourceRef_of_mem_rows hmem
  rcases hshape with ⟨slice, _, _, rfl⟩ | ⟨_, _, rfl⟩
  · have hnote : (collection.sliceRow slice).note = collection.sliceNote := rfl
    rw [mirrorEntries_row hroute rfl href,
      (paymentAssetAccount_row hroute rfl href).2 hexternal, hnote, if_neg hslice]
  · have hnote : (collection.residualRow residual).note = collection.residualNote := rfl
    rw [mirrorEntries_row hroute rfl href,
      (paymentAssetAccount_row hroute rfl href).2 hexternal, hnote, if_neg hresidual]

theorem mirrorEntries_ref {row : MirrorDebtLedgerInput} {entry : JournalEntry}
    (hmem : entry ∈ mirrorEntries row) :
    entry.sourceRef = row.sourceRef := by
  unfold mirrorEntries at hmem
  cases hsource : row.source with
  | PAYMENT =>
      simp only [hsource] at hmem
      by_cases hwallet : row.sourceRef.StartsWith ["PAYMENT", "WALLET"]
      · rw [if_pos hwallet] at hmem
        cases hmem
      · rw [if_neg hwallet] at hmem
        cases haccount : paymentAssetAccount row with
        | none =>
            rw [haccount] at hmem
            cases hmem
        | some account =>
            rw [haccount] at hmem
            exact PairPosting.ref_of_mem_entries hmem
  | INVOICE_SHORTFALL =>
      simp only [hsource] at hmem
      exact PairPosting.ref_of_mem_entries hmem
  | SUBSCRIPTION_OVERUSE =>
      simp only [hsource] at hmem
      exact PairPosting.ref_of_mem_entries hmem

theorem mirrorEntries_refs_sublist (row : MirrorDebtLedgerInput) :
    ((mirrorEntries row).map JournalEntry.sourceRef).Sublist [row.sourceRef] := by
  have hlength : (mirrorEntries row).length ≤ 1 := by
    have hpair : ∀ posting : PairPosting, posting.entries.length ≤ 1 := by
      intro posting
      unfold PairPosting.entries
      split_ifs <;> simp
    unfold mirrorEntries
    cases row.source with
    | PAYMENT =>
        simp only
        split_ifs
        · simp
        · cases paymentAssetAccount row with
          | none => simp
          | some account => exact hpair _
    | INVOICE_SHORTFALL => exact hpair _
    | SUBSCRIPTION_OVERUSE => exact hpair _
  cases hentries : mirrorEntries row with
  | nil => exact nil_sublist _
  | cons entry rest =>
      have href := @mirrorEntries_ref row entry (by simp [hentries])
      have hnil : rest = [] := by
        rw [hentries, length_cons] at hlength
        exact length_eq_zero_iff.1 (by omega)
      rw [hnil, map_singleton, href]

theorem entries_refs_sublist (slices : List (Slice Uuid)) (residual : ℤ) :
    ((collection.entries slices residual).map JournalEntry.sourceRef).Sublist
      ((collection.rows slices residual).map MirrorDebtLedgerInput.sourceRef) := by
  unfold entries
  induction collection.rows slices residual with
  | nil => exact List.Sublist.refl _
  | cons row rest ih =>
      rw [flatMap_cons, map_append, map_cons]
      exact (mirrorEntries_refs_sublist row).append ih

theorem rows_refs_nodup (hitems : (slices.map Slice.item).Nodup) (residual : ℤ) :
    ((collection.rows slices residual).map MirrorDebtLedgerInput.sourceRef).Nodup := by
  have hslices : (slices.map fun slice => collection.paymentRef (.id slice.item)).Nodup := by
    have hinj : Function.Injective fun item => collection.paymentRef (.id item) := by
      intro first second heq
      simpa [paymentRef] using heq
    have hmapped := hitems.map hinj
    rwa [map_map] at hmapped
  unfold rows
  rw [map_append, map_map]
  by_cases hpos : 0 < residual
  · rw [if_pos hpos, map_singleton, nodup_append]
    refine ⟨hslices, by simp, ?_⟩
    intro ref hslice ref' hresidual heq
    rw [mem_singleton] at hresidual
    obtain ⟨slice, _, rfl⟩ := mem_map.1 hslice
    rw [hresidual] at heq
    simp [sliceRow, residualRow, paymentRef] at heq
  · rw [if_neg hpos, map_nil, append_nil]
    exact hslices

theorem entries_refs_nodup (hitems : (slices.map Slice.item).Nodup) (residual : ℤ) :
    ((collection.entries slices residual).map JournalEntry.sourceRef).Nodup :=
  (rows_refs_nodup hitems residual).sublist (entries_refs_sublist slices residual)

theorem ref_of_mem_entries {residual : ℤ} {entry : JournalEntry}
    (hmem : entry ∈ collection.entries slices residual) :
    ∃ tail, entry.sourceRef = collection.paymentRef tail := by
  unfold entries at hmem
  obtain ⟨row, hrow, hentry⟩ := mem_flatMap.1 hmem
  obtain ⟨tail, href, _⟩ := sourceRef_of_mem_rows hrow
  exact ⟨tail, (mirrorEntries_ref hentry).trans href⟩

end DebtCollection

end SafariLaundry
