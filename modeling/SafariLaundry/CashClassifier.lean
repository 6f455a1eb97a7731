import SafariLaundry.BranchScope
import SafariLaundry.NumberText
import SafariLaundry.Library.KeyedFold

/-!
# The cash classifier

Each anomaly of the cash analysis becomes one alert, financial or compliance.  Its severity
goes by its type, by its amount and by the age of the oldest cash its driver holds; the traffic
light goes by the financial alerts alone.
-/

namespace SafariLaundry

open Library Library.Bookkeeping List

inductive CashV2Severity
  | INFO | WARNING | CRITICAL | CRITICAL_ESCALATED
  deriving DecidableEq

structure CashV2FlowDto where
  driverId : Uuid
  driverName : Option String
  branchId : Option Uuid
  amount : String
  ageHours : ℚ
  shiftStatus : ShownShiftStatus
  shiftDurationHours : Option ℚ

structure CashV2AnomalyDto where
  type : CashV2AnomalyType
  severity : CashV2Severity
  amount : String
  ageDays : ℚ
  (driverId branchId : Option Uuid)
  reason : String

structure CashIntelligenceAnalysisDto where
  flows : List CashV2FlowDto
  anomalies : List CashV2AnomalyDto

def CashV2AnomalyType.text : CashV2AnomalyType → String
  | .SHIFT_OVERDUE => "SHIFT_OVERDUE"
  | .STUCK_AT_DRIVER => "STUCK_AT_DRIVER"
  | .HANDOVER_DELAY => "HANDOVER_DELAY"
  | .CUSTODY_DELAY => "CUSTODY_DELAY"
  | .DEPOSIT_NOT_REGISTERED => "DEPOSIT_NOT_REGISTERED"
  | .DEPOSIT_AMOUNT_MISMATCH => "DEPOSIT_AMOUNT_MISMATCH"
  | .DOUBLE_COUNT_RISK => "DOUBLE_COUNT_RISK"
  | .OVERPAYMENT_ANOMALY => "OVERPAYMENT_ANOMALY"
  | .SUBSCRIPTION_LEAKAGE => "SUBSCRIPTION_LEAKAGE"

def GRACE_PERIOD_HOURS : ℚ := 24

def SMALL_AMOUNT_FLOOR_KD : ℚ := 5

def FINANCIAL_CHAIN_TYPES : List CashV2AnomalyType :=
  [.DEPOSIT_NOT_REGISTERED, .DEPOSIT_AMOUNT_MISMATCH, .OVERPAYMENT_ANOMALY, .DOUBLE_COUNT_RISK]

def COMPLIANCE_TYPES : List CashV2AnomalyType := [.SHIFT_OVERDUE]

def AGING_TYPES : List CashV2AnomalyType :=
  [.STUCK_AT_DRIVER, .HANDOVER_DELAY, .CUSTODY_DELAY, .SUBSCRIPTION_LEAKAGE]

def parseAmount (text : String) : ℚ := (numberOf text).getD 0

def round2 (n : ℚ) : ℚ := ⌊n * 100 + 1 / 2⌋ / 100

def normaliseSeverity : CashV2Severity → MonitorAlertSeverity
  | .CRITICAL | .CRITICAL_ESCALATED => .CRITICAL
  | .WARNING => .WARNING
  | .INFO => .INFO

def capSeverityByAmount (s : MonitorAlertSeverity) (amountKd : ℚ) : MonitorAlertSeverity :=
  if amountKd < SMALL_AMOUNT_FLOOR_KD ∧ s = .CRITICAL then .WARNING else s

def oldestFlowAgeHours (flows : List CashV2FlowDto) : ℚ :=
  flows.foldl (fun oldest f => if f.ageHours > oldest then f.ageHours else oldest) 0

def oldestCashAgeHours (flows : List CashV2FlowDto) (a : CashV2AnomalyDto) : ℚ :=
  if flows ≠ [] then oldestFlowAgeHours flows
  else if a.type = .SHIFT_OVERDUE then 0
  else max 0 (a.ageDays * 24)

def finalAlert (anomaly : CashV2AnomalyDto) (domain : AlertDomain) (type : String)
    (severity : MonitorAlertSeverity) (cashAgeHours : ℚ) (reason : String)
    (originalType : Option String) : ClassifiedAlertDto :=
  { domain, type, severity
    driverId := anomaly.driverId
    driverName := none
    branchId := anomaly.branchId
    amount := anomaly.amount
    cashAgeHours := round2 cashAgeHours
    reason, originalType }

def projectAlert (a : CashV2AnomalyDto) (cashAgeHours amountKd : ℚ) : ClassifiedAlertDto :=
  let isYoung := cashAgeHours < GRACE_PERIOD_HOURS
  let isSmall := amountKd < SMALL_AMOUNT_FLOOR_KD
  if a.type ∈ FINANCIAL_CHAIN_TYPES then
    finalAlert a .FINANCIAL a.type.text
      (capSeverityByAmount (normaliseSeverity a.severity) amountKd) cashAgeHours a.reason none
  else if a.type = .SHIFT_OVERDUE then
    if isYoung ∨ isSmall ∨ amountKd = 0 then
      finalAlert a .COMPLIANCE "SHIFT_COMPLIANCE_ONLY" .INFO cashAgeHours
        (a.reason ++
          " (Reclassified COMPLIANCE: cash is fresh and/or trivial — no financial risk.)")
        (some "SHIFT_OVERDUE")
    else
      finalAlert a .FINANCIAL "SHIFT_OVERDUE_FINANCIAL" .WARNING cashAgeHours
        (a.reason ++
          " (Reclassified FINANCIAL: cash >= 24h and amount material; capped at WARNING.)")
        (some "SHIFT_OVERDUE")
  else if a.type ∈ AGING_TYPES then
    if isYoung ∨ isSmall then
      finalAlert a .COMPLIANCE a.type.text .INFO cashAgeHours
        (a.reason ++ " (Reclassified COMPLIANCE: under 24h grace or amount below 5 KD.)")
        (some a.type.text)
    else
      finalAlert a .FINANCIAL a.type.text
        (capSeverityByAmount (normaliseSeverity a.severity) amountKd) cashAgeHours a.reason none
  else finalAlert a .COMPLIANCE a.type.text .INFO cashAgeHours a.reason none

/-! ## The response -/

def deriveSystemStatus (financialAlerts : List ClassifiedAlertDto) : TrafficLight :=
  let seen := financialAlerts.foldl (fun seen a =>
    if a.severity = .CRITICAL then (true, seen.2)
    else if a.severity = .WARNING then (seen.1, true)
    else seen) (false, false)
  if seen.1 then .RED else if seen.2 then .YELLOW else .GREEN

def driverNameFromAlerts (driverId : Uuid) (alerts : List ClassifiedAlertDto) : Option String :=
  (alerts.find? fun a =>
    a.driverId = some driverId ∧ a.driverName ≠ none ∧ a.driverName ≠ some "").bind
      ClassifiedAlertDto.driverName

def noteForDriver (status : ClassifiedDriverStatus) (shiftDurationHours : Option ℚ)
    (cashAgeHours amountKd : ℚ) (financialAlerts : List ClassifiedAlertDto) (driverId : Uuid) :
    String :=
  match status with
  | .AT_RISK =>
      let types := (financialAlerts.filter fun a => a.driverId = some driverId).map
        ClassifiedAlertDto.type
      "Financial risk: " ++ ", ".intercalate types ++ "."
  | .COMPLIANCE_ONLY =>
      let shiftPart := match shiftDurationHours with
        | some hours => "Shift open " ++ toFixed 1 hours ++ "h."
        | none => "Operational concern."
      shiftPart ++ " Cash on driver: " ++ toFixed 4 amountKd ++ " KD, age " ++
        toFixed 2 cashAgeHours ++ "h. No financial risk."
  | .NORMAL =>
      if amountKd = 0 then "No live cash."
      else "Cash " ++ toFixed 4 amountKd ++ " KD aged " ++ toFixed 2 cashAgeHours ++
        "h within grace period — normal."

def composeFinalDecision (systemStatus : TrafficLight)
    (financialAlerts complianceAlerts : List ClassifiedAlertDto)
    (drivers : List ClassifiedDriverDto) : String :=
  let fin := toString financialAlerts.length
  let comp := toString complianceAlerts.length
  let atRisk := toString (drivers.filter fun d => d.status = .AT_RISK).length
  let compOnly := toString (drivers.filter fun d => d.status = .COMPLIANCE_ONLY).length
  match systemStatus with
  | .GREEN =>
      if complianceAlerts = [] then "No financial or compliance issues — system healthy."
      else "No financial risk. " ++ comp ++ " operational compliance item(s) on " ++ compOnly ++
        " driver(s) — no dashboard escalation."
  | .YELLOW =>
      fin ++ " financial warning(s) on " ++ atRisk ++ " driver(s). " ++ comp ++
        " compliance item(s) display-only."
  | .RED =>
      "CRITICAL financial risk on " ++ atRisk ++ " driver(s) (" ++ fin ++
        " alert(s)). Immediate action required."

def sevRank : MonitorAlertSeverity → ℕ
  | .CRITICAL => 0
  | .WARNING => 1
  | .INFO => 2

def sortAlerts (alerts : List ClassifiedAlertDto) : List ClassifiedAlertDto :=
  alerts.insertionSort fun a b =>
    sevRank a.severity < sevRank b.severity ∨
      sevRank a.severity = sevRank b.severity ∧ parseAmount b.amount ≤ parseAmount a.amount

def driverRank : ClassifiedDriverStatus → ℕ
  | .AT_RISK => 0
  | .COMPLIANCE_ONLY => 1
  | .NORMAL => 2

def sortDrivers (drivers : List ClassifiedDriverDto) : List ClassifiedDriverDto :=
  drivers.insertionSort fun a b =>
    driverRank a.status < driverRank b.status ∨
      driverRank a.status = driverRank b.status ∧ parseAmount b.amount ≤ parseAmount a.amount

def alertDrivers (alerts : List ClassifiedAlertDto) : List Uuid :=
  (alerts.filterMap ClassifiedAlertDto.driverId).filter fun driverId => driverId ≠ ""

namespace CashIntelligenceAnalysisDto

variable (analysis : CashIntelligenceAnalysisDto)

def flowsByDriver : OrderedMap Uuid (List CashV2FlowDto) :=
  KeyedFold.collectSome KeyedFold.Accumulation.rows
    (fun f : CashV2FlowDto =>
      if f.driverId = "" ∨ parseAmount f.amount ≤ 0 then none else some f.driverId)
    analysis.flows

def flowsOf (driverId : Uuid) : List CashV2FlowDto :=
  (analysis.flowsByDriver.get? driverId).getD []

def driverFlows (a : CashV2AnomalyDto) : List CashV2FlowDto :=
  match a.driverId with
  | none => []
  | some driverId => if driverId = "" then [] else analysis.flowsOf driverId

def alertOf (a : CashV2AnomalyDto) : ClassifiedAlertDto :=
  projectAlert a (oldestCashAgeHours (analysis.driverFlows a) a) (parseAmount a.amount)

def placeAlert (lists : List ClassifiedAlertDto × List ClassifiedAlertDto)
    (a : CashV2AnomalyDto) : List ClassifiedAlertDto × List ClassifiedAlertDto :=
  let projected := analysis.alertOf a
  if projected.domain = .FINANCIAL then (lists.1 ++ [projected], lists.2)
  else (lists.1, lists.2 ++ [projected])

def placed : List ClassifiedAlertDto × List ClassifiedAlertDto :=
  analysis.anomalies.foldl analysis.placeAlert ([], [])

def driverRow (financialAlerts complianceAlerts : List ClassifiedAlertDto) (driverId : Uuid) :
    ClassifiedDriverDto :=
  let flows := analysis.flowsOf driverId
  let status : ClassifiedDriverStatus :=
    if driverId ∈ alertDrivers financialAlerts then .AT_RISK
    else if driverId ∈ alertDrivers complianceAlerts then .COMPLIANCE_ONLY
    else .NORMAL
  let cashAgeHours := oldestFlowAgeHours flows
  let amountKd := tally (fun f => parseAmount f.amount) flows
  let lead := flows.head?
  let shiftDurationHours :=
    (flows.find? fun f => f.shiftStatus = .OPEN).bind CashV2FlowDto.shiftDurationHours
  { driverId
    driverName := (lead.bind CashV2FlowDto.driverName).or
      (driverNameFromAlerts driverId (financialAlerts ++ complianceAlerts))
    branchId := lead.bind CashV2FlowDto.branchId
    holderRole := none
    status, cashAgeHours
    amount := toFixed 4 amountKd
    shiftDurationHours
    note := noteForDriver status shiftDurationHours cashAgeHours amountKd financialAlerts driverId }

def composeFromAnalysis (generatedAt : String) : CashClassifiedResponseDto :=
  let financialAlerts := analysis.placed.1
  let complianceAlerts := analysis.placed.2
  let driverIds := (analysis.flowsByDriver.keys ++ alertDrivers financialAlerts ++
    alertDrivers complianceAlerts).eraseDups
  let drivers := driverIds.map (analysis.driverRow financialAlerts complianceAlerts)
  let systemStatus := deriveSystemStatus financialAlerts
  { systemStatus
    financialAlerts := sortAlerts financialAlerts
    complianceAlerts := sortAlerts complianceAlerts
    drivers := sortDrivers drivers
    totalCashKd := toFixed 4 (tally (fun d => parseAmount d.amount) drivers)
    finalDecision := composeFinalDecision systemStatus financialAlerts complianceAlerts drivers
    rules :=
      { gracePeriodHours := GRACE_PERIOD_HOURS
        smallAmountFloorKd := toFixed 4 SMALL_AMOUNT_FLOOR_KD
        financialChainTypes := FINANCIAL_CHAIN_TYPES.map CashV2AnomalyType.text
        complianceTypes := COMPLIANCE_TYPES.map CashV2AnomalyType.text
        shiftFinancialSeverityCap := .WARNING
        generatedAt }
    readOnly := true
    advisoryOnly := true }

end CashIntelligenceAnalysisDto

namespace CashIntelligenceAnalysisDto

variable (analysis : CashIntelligenceAnalysisDto)

def heldBy (a : CashV2AnomalyDto) : List CashV2FlowDto :=
  analysis.flows.filter fun f =>
    f.driverId ≠ "" ∧ 0 < parseAmount f.amount ∧ a.driverId = some f.driverId

def CashIsYoung (a : CashV2AnomalyDto) : Prop :=
  (analysis.heldBy a = [] → a.type = .SHIFT_OVERDUE ∨ a.ageDays * 24 < GRACE_PERIOD_HOURS) ∧
    ∀ f ∈ analysis.heldBy a, f.ageHours < GRACE_PERIOD_HOURS
  deriving Decidable

def withoutShift : CashIntelligenceAnalysisDto :=
  { analysis with anomalies := analysis.anomalies.filter fun a => a.type ≠ .SHIFT_OVERDUE }

structure ChainBrokeYoung (a : CashV2AnomalyDto) : Prop where
  chain : a.type ∈ FINANCIAL_CHAIN_TYPES
  severe : a.severity = .CRITICAL ∨ a.severity = .CRITICAL_ESCALATED
  material : SMALL_AMOUNT_FLOOR_KD ≤ parseAmount a.amount
  young : analysis.CashIsYoung a

structure AlertsAsDocumented (generatedAt : String) : Prop where
  placed : ((analysis.composeFromAnalysis generatedAt).financialAlerts ++
    (analysis.composeFromAnalysis generatedAt).complianceAlerts).Perm
      (analysis.anomalies.map analysis.alertOf)
  financial : ∀ alert ∈ (analysis.composeFromAnalysis generatedAt).financialAlerts,
    alert.domain = .FINANCIAL
  compliance : ∀ alert ∈ (analysis.composeFromAnalysis generatedAt).complianceAlerts,
    alert.domain = .COMPLIANCE
  critical : ∀ a ∈ analysis.anomalies,
    analysis.CashIsYoung a ∨ parseAmount a.amount < SMALL_AMOUNT_FLOOR_KD →
      (analysis.alertOf a).severity ≠ .CRITICAL
  shift : (analysis.composeFromAnalysis generatedAt).systemStatus = .RED →
    (analysis.withoutShift.composeFromAnalysis generatedAt).systemStatus = .RED

end CashIntelligenceAnalysisDto

@[simp] theorem normaliseSeverity_eq_critical {s : CashV2Severity} :
    normaliseSeverity s = .CRITICAL ↔ s = .CRITICAL ∨ s = .CRITICAL_ESCALATED := by
  cases s <;> simp [normaliseSeverity]

@[simp] theorem capSeverityByAmount_eq_critical {s : MonitorAlertSeverity} {amountKd : ℚ} :
    capSeverityByAmount s amountKd = .CRITICAL ↔
      s = .CRITICAL ∧ SMALL_AMOUNT_FLOOR_KD ≤ amountKd := by
  unfold capSeverityByAmount
  by_cases hsmall : amountKd < SMALL_AMOUNT_FLOOR_KD
  · cases s <;> simp [hsmall]
  · simp [hsmall, not_lt.1 hsmall]

theorem projectAlert_critical_iff {a : CashV2AnomalyDto} {cashAgeHours amountKd : ℚ} :
    (projectAlert a cashAgeHours amountKd).severity = .CRITICAL ↔
      (a.severity = .CRITICAL ∨ a.severity = .CRITICAL_ESCALATED) ∧
        SMALL_AMOUNT_FLOOR_KD ≤ amountKd ∧
        (a.type ∈ FINANCIAL_CHAIN_TYPES ∨
          a.type ∈ AGING_TYPES ∧ GRACE_PERIOD_HOURS ≤ cashAgeHours) := by
  unfold projectAlert
  by_cases hchain : a.type ∈ FINANCIAL_CHAIN_TYPES
  · simp [hchain, finalAlert]
  · by_cases hshift : a.type = .SHIFT_OVERDUE
    · by_cases hcompliance : cashAgeHours < GRACE_PERIOD_HOURS ∨
          amountKd < SMALL_AMOUNT_FLOOR_KD ∨ amountKd = 0
      · simp [hshift, hcompliance, finalAlert, FINANCIAL_CHAIN_TYPES, AGING_TYPES]
      · simp [hshift, hcompliance, finalAlert, FINANCIAL_CHAIN_TYPES, AGING_TYPES]
    · by_cases haging : a.type ∈ AGING_TYPES
      · by_cases hcompliance : cashAgeHours < GRACE_PERIOD_HOURS ∨ amountKd < SMALL_AMOUNT_FLOOR_KD
        · simp only [hchain, hshift, haging, hcompliance, finalAlert, if_true, if_false]
          simp only [reduceCtorEq, false_or, true_and, false_iff, not_and, not_le]
          intro _ hmaterial
          exact hcompliance.resolve_right (not_lt.2 hmaterial)
        · have hold := not_or.1 hcompliance
          simp [hchain, hshift, haging, hcompliance, finalAlert, not_lt.1 hold.1]
      · simp [hchain, hshift, haging, finalAlert]

theorem projectAlert_domain_of_critical {a : CashV2AnomalyDto} {cashAgeHours amountKd : ℚ}
    (hcritical : (projectAlert a cashAgeHours amountKd).severity = .CRITICAL) :
    (projectAlert a cashAgeHours amountKd).domain = .FINANCIAL := by
  revert hcritical
  unfold projectAlert
  dsimp only
  split_ifs <;> simp [finalAlert]

theorem oldestFlowAgeHours_lt_iff {flows : List CashV2FlowDto} {bound : ℚ} (hbound : 0 < bound) :
    oldestFlowAgeHours flows < bound ↔ ∀ f ∈ flows, f.ageHours < bound := by
  unfold oldestFlowAgeHours
  induction flows using List.reverseRecOn with
  | nil => simp [hbound]
  | append_singleton flows f ih =>
      rw [foldl_append, foldl_cons, foldl_nil]
      by_cases holder : f.ageHours > flows.foldl
          (fun oldest f => if f.ageHours > oldest then f.ageHours else oldest) 0
      · rw [if_pos holder]
        simp only [mem_append, mem_singleton]
        constructor
        · intro hlt g hg
          rcases hg with hg | rfl
          · exact ih.1 (holder.trans hlt) g hg
          · exact hlt
        · intro hall
          exact hall f (.inr rfl)
      · rw [if_neg holder, ih]
        simp only [mem_append, mem_singleton]
        constructor
        · intro hall g hg
          rcases hg with hg | rfl
          · exact hall g hg
          · exact (not_lt.1 holder).trans_lt (ih.2 hall)
        · intro hall g hg
          exact hall g (.inl hg)

theorem deriveSystemStatus_eq_red_iff {alerts : List ClassifiedAlertDto} :
    deriveSystemStatus alerts = .RED ↔ ∃ alert ∈ alerts, alert.severity = .CRITICAL := by
  have hseen : ∀ seen : Bool × Bool,
      (alerts.foldl (fun seen a =>
        if a.severity = .CRITICAL then (true, seen.2)
        else if a.severity = .WARNING then (seen.1, true)
        else seen) seen).1 = true ↔
      seen.1 = true ∨ ∃ alert ∈ alerts, alert.severity = .CRITICAL := by
    induction alerts with
    | nil => simp
    | cons alert rest ih =>
        intro seen
        rw [foldl_cons, ih]
        cases hseverity : alert.severity <;> simp [hseverity]
  have hred := hseen (false, false)
  simp only [Bool.false_eq_true, false_or] at hred
  rw [← hred]
  unfold deriveSystemStatus
  dsimp only
  split_ifs <;> simp_all

namespace CashIntelligenceAnalysisDto

variable {analysis : CashIntelligenceAnalysisDto}

/-! ## The loop -/

theorem driverFlows_eq (a : CashV2AnomalyDto) : analysis.driverFlows a = analysis.heldBy a := by
  cases hdriver : a.driverId with
  | none => simp [driverFlows, heldBy, hdriver]
  | some driverId =>
      by_cases hempty : driverId = ""
      · have hnone : analysis.heldBy a = [] := by
          simp only [heldBy, hdriver, filter_eq_nil_iff]
          intro f _ hf
          have hheld := of_decide_eq_true hf
          exact hheld.1 (hempty ▸ (Option.some.inj hheld.2.2).symm)
        rw [hnone, driverFlows, hdriver]
        simp [hempty]
      · have hheld : analysis.flows.filter (fun f => (if f.driverId = "" ∨ parseAmount f.amount ≤ 0
              then none else some f.driverId) = some driverId) = analysis.heldBy a := by
          refine filter_congr fun f _ => ?_
          by_cases hskip : f.driverId = "" ∨ parseAmount f.amount ≤ 0
          · rcases hskip with hskip | hskip
            · simp [hskip]
            · simp [hskip, not_lt.2 hskip]
          · have hkeep := not_or.1 hskip
            simp [hkeep.1, not_le.1 hkeep.2, hdriver, eq_comm]
        simp only [driverFlows, hdriver, hempty, if_false, flowsOf, flowsByDriver,
          KeyedFold.get?_collectSome, KeyedFold.Accumulation.getD_made_rows, hheld]

theorem oldestCashAgeHours_lt_iff (a : CashV2AnomalyDto) :
    oldestCashAgeHours (analysis.driverFlows a) a < GRACE_PERIOD_HOURS ↔
      analysis.CashIsYoung a := by
  have hgrace : (0 : ℚ) < GRACE_PERIOD_HOURS := by norm_num [GRACE_PERIOD_HOURS]
  rw [driverFlows_eq, oldestCashAgeHours, CashIsYoung]
  by_cases hnone : analysis.heldBy a = []
  · by_cases hshift : a.type = .SHIFT_OVERDUE
    · simp [hnone, hshift, hgrace]
    · simp [hnone, hshift, hgrace]
  · simp [hnone, oldestFlowAgeHours_lt_iff hgrace]

theorem placed_eq :
    analysis.placed =
      ((analysis.anomalies.map analysis.alertOf).filter fun alert => alert.domain = .FINANCIAL,
        (analysis.anomalies.map analysis.alertOf).filter fun alert => alert.domain ≠ .FINANCIAL) := by
  unfold placed
  induction analysis.anomalies using List.reverseRecOn with
  | nil => rfl
  | append_singleton anomalies a ih =>
      rw [foldl_append, ih, foldl_cons, foldl_nil, placeAlert]
      by_cases hdomain : (analysis.alertOf a).domain = .FINANCIAL
      · simp [hdomain]
      · simp [hdomain]

theorem alertOf_critical_iff {a : CashV2AnomalyDto} :
    (analysis.alertOf a).severity = .CRITICAL ↔
      (a.severity = .CRITICAL ∨ a.severity = .CRITICAL_ESCALATED) ∧
        SMALL_AMOUNT_FLOOR_KD ≤ parseAmount a.amount ∧
        (a.type ∈ FINANCIAL_CHAIN_TYPES ∨ a.type ∈ AGING_TYPES ∧ ¬ analysis.CashIsYoung a) := by
  rw [alertOf, projectAlert_critical_iff, ← oldestCashAgeHours_lt_iff, not_lt]

theorem systemStatus_eq_red_iff {generatedAt : String} :
    (analysis.composeFromAnalysis generatedAt).systemStatus = .RED ↔
      ∃ a ∈ analysis.anomalies, (analysis.alertOf a).severity = .CRITICAL := by
  rw [show (analysis.composeFromAnalysis generatedAt).systemStatus =
    deriveSystemStatus analysis.placed.1 from rfl, deriveSystemStatus_eq_red_iff, placed_eq]
  constructor
  · rintro ⟨alert, halert, hcritical⟩
    obtain ⟨a, ha, rfl⟩ := mem_map.1 (mem_filter.1 halert).1
    exact ⟨a, ha, hcritical⟩
  · rintro ⟨a, ha, hcritical⟩
    have hdomain : (analysis.alertOf a).domain = .FINANCIAL :=
      projectAlert_domain_of_critical hcritical
    exact ⟨_, mem_filter.2 ⟨mem_map_of_mem ha, by simpa using hdomain⟩, hcritical⟩

theorem red_withoutShift {generatedAt : String}
    (hred : (analysis.composeFromAnalysis generatedAt).systemStatus = .RED) :
    (analysis.withoutShift.composeFromAnalysis generatedAt).systemStatus = .RED := by
  obtain ⟨a, ha, hcritical⟩ := systemStatus_eq_red_iff.1 hred
  refine systemStatus_eq_red_iff.2 ⟨a, mem_filter.2 ⟨ha, ?_⟩, hcritical⟩
  obtain ⟨-, -, htype⟩ := alertOf_critical_iff.1 hcritical
  rw [decide_eq_true_eq]
  rintro hshift
  simp [hshift, FINANCIAL_CHAIN_TYPES, AGING_TYPES] at htype

end CashIntelligenceAnalysisDto

open CashIntelligenceAnalysisDto

theorem alertsAsDocumented_iff (analysis : CashIntelligenceAnalysisDto) (generatedAt : String) :
    analysis.AlertsAsDocumented generatedAt ↔
      ∀ a ∈ analysis.anomalies, ¬ analysis.ChainBrokeYoung a := by
  constructor
  · rintro hdocumented a ha hbroke
    refine hdocumented.critical a ha (.inl hbroke.young) (alertOf_critical_iff.2 ?_)
    exact ⟨hbroke.severe, hbroke.material, .inl hbroke.chain⟩
  · intro hclear
    have hfinancial : (analysis.composeFromAnalysis generatedAt).financialAlerts.Perm
        analysis.placed.1 := perm_insertionSort _ _
    have hcompliance : (analysis.composeFromAnalysis generatedAt).complianceAlerts.Perm
        analysis.placed.2 := perm_insertionSort _ _
    constructor
    case placed =>
      refine (hfinancial.append hcompliance).trans ?_
      rw [placed_eq]
      simpa using filter_append_perm (fun alert => decide (alert.domain = .FINANCIAL))
        (analysis.anomalies.map analysis.alertOf)
    case financial =>
      intro alert halert
      have hmem := hfinancial.mem_iff.1 halert
      rw [placed_eq] at hmem
      simpa using (mem_filter.1 hmem).2
    case compliance =>
      intro alert halert
      have hmem := hcompliance.mem_iff.1 halert
      rw [placed_eq] at hmem
      have hdomain : alert.domain ≠ .FINANCIAL := by simpa using (mem_filter.1 hmem).2
      cases hcase : alert.domain with
      | FINANCIAL => exact absurd hcase hdomain
      | COMPLIANCE => rfl
    case critical =>
      intro a ha hspared hcritical
      obtain ⟨hsevere, hmaterial, htype⟩ := alertOf_critical_iff.1 hcritical
      have hyoung := hspared.resolve_right (not_lt.2 hmaterial)
      rcases htype with hchain | ⟨-, hold⟩
      · exact hclear a ha ⟨hchain, hsevere, hmaterial, hyoung⟩
      · exact hold hyoung
    case shift => exact red_withoutShift

namespace Sample

/-- Taken at eleven at night and verified the next morning, ten hours later. -/
def nightFlow : CashV2FlowDto :=
  { driverId := "driver", driverName := none, branchId := some "branch", amount := "600.0000"
    ageHours := 10, shiftStatus := .CLOSED, shiftDurationHours := none }

def unregistered : CashV2AnomalyDto :=
  { type := .DEPOSIT_NOT_REGISTERED, severity := .CRITICAL, amount := "600.0000", ageDays := 1
    driverId := some "driver", branchId := some "branch"
    reason := "Custody marked VERIFIED but no BankDepositLog row links it." }

def youngChain : CashIntelligenceAnalysisDto := ⟨[nightFlow], [unregistered]⟩

end Sample

theorem alertsAsDocumented_fails :
    ¬ Sample.youngChain.AlertsAsDocumented "2026-01-02T09:00:00.000Z" := by
  intro hdocumented
  have hyoung : Sample.youngChain.CashIsYoung Sample.unregistered := by decide +kernel
  have hmaterial : SMALL_AMOUNT_FLOOR_KD ≤ parseAmount Sample.unregistered.amount := by
    decide +kernel
  have hcritical : (Sample.youngChain.alertOf Sample.unregistered).severity = .CRITICAL :=
    alertOf_critical_iff.2 ⟨by decide, hmaterial, by decide⟩
  exact hdocumented.critical _ (mem_singleton_self _) (.inl hyoung) hcritical

end SafariLaundry
