import Mathlib.Data.List.Infix
import EvServer.ChargingStation

/-!
# The sections of a charging station template (`OCPPUtils`)

A template has its OCPP parameters and its capabilities in sections, each for some firmware and
OCPP versions.  The search for the section of a station keeps what it has matched in two flags,
which it declares ahead of its loop: the firmware that one section lists counts for each section
behind it.  So a section may apply to a station whose firmware it does not list.
-/

namespace EvServer

/-- A section of `ocppStandardParameters`, `ocppVendorParameters` or `capabilities`. -/
structure TemplateSection (α : Type) where
  supportedFirmwareVersions : Option (List String)
  supportedOcppVersions : Option (List String)
  content : α
  deriving DecidableEq, Repr

/-- `ChargingStationCapabilities`. -/
structure ChargingStationCapabilities where
  supportStaticLimitation : Option Bool := none
  supportChargingProfiles : Option Bool := none
  supportCreditCard : Option Bool := none
  supportRemoteStartStopTransaction : Option Bool := none
  supportUnlockConnector : Option Bool := none
  supportReservation : Option Bool := none
  supportRFIDCard : Option Bool := none
  supportFirmwareUpgrade : Option Bool := none
  supportSlave : Option Bool := none
  deriving DecidableEq, Repr

/-- The properties that hold OCPP parameters. -/
inductive OcppProperty
  | ocppStandardParameters
  | ocppVendorParameters
  deriving DecidableEq, Repr

/-- Keys with their values. -/
abbrev OcppParameters := List (String × String)

/-- `ChargingStationTemplate`: its sections, with their hashes. -/
structure ChargingStationTemplateSections where
  hashCapabilities : Option String
  /-- `hashOcppStandard` and `hashOcppVendor`. -/
  hashOcpp : OcppProperty → Option String
  capabilities : Option (List (TemplateSection ChargingStationCapabilities))
  ocppParameters : OcppProperty → Option (List (TemplateSection OcppParameters))

/-- `ChargingStation`, with what a template is matched with and what it is applied to. -/
structure TemplatedChargingStation where
  firmwareVersion : Option String
  ocppVersion : String
  chargePoints : List ChargePoint := []
  excludeFromSmartCharging : Bool := false
  capabilities : ChargingStationCapabilities := {}
  templateHashCapabilities : Option String := none
  /-- `templateHashOcppStandard` and `templateHashOcppVendor`. -/
  templateHashOcpp : OcppProperty → Option String := fun _ => none
  ocppParameters : OcppProperty → OcppParameters := fun _ => []

/-- `matchFirmware` and `matchOcpp`. -/
structure TemplateMatch where
  matchFirmware : Bool := false
  matchOcpp : Bool := false
  deriving DecidableEq, Repr

section Search

variable (regExpTest : (pattern text : String) → Bool)
  (chargingStation : TemplatedChargingStation) {α : Type}

/-- The section lists a firmware version that matches the one of the station.  `regExpTest` is
`new RegExp(pattern).test(text)`; the patterns of a template are valid ones. -/
def listsFirmware (candidate : TemplateSection α) : Bool :=
  (candidate.supportedFirmwareVersions.getD []).any fun supportedFirmwareVersion =>
    regExpTest supportedFirmwareVersion (chargingStation.firmwareVersion.getD "undefined")

/-- The section lists the OCPP version of the station. -/
def listsOcppVersion (candidate : TemplateSection α) : Bool :=
  (candidate.supportedOcppVersions.getD []).contains chargingStation.ocppVersion

/-- The flags after one section; a section without OCPP versions leaves that flag. -/
def TemplateMatch.check (flags : TemplateMatch) (candidate : TemplateSection α) :
    TemplateMatch where
  matchFirmware := flags.matchFirmware || listsFirmware regExpTest chargingStation candidate
  matchOcpp :=
    match candidate.supportedOcppVersions with
    | some supportedOcppVersions => supportedOcppVersions.contains chargingStation.ocppVersion
    | none => flags.matchOcpp

/-- The search: the section it stops at, with its position. -/
def findSection (flags : TemplateMatch) : List (TemplateSection α) → Option (ℕ × TemplateSection α)
  | [] => none
  | candidate :: rest =>
      let flags := flags.check regExpTest chargingStation candidate
      if flags.matchFirmware && flags.matchOcpp then some (0, candidate)
      else (findSection flags rest).map fun found => (found.1 + 1, found.2)

end Search

section Enrich

variable (regExpTest : (pattern text : String) → Bool)
  (chargingStation : TemplatedChargingStation)
  (chargingStationTemplate : ChargingStationTemplateSections)

/-- `isOcppParamForPowerLimitationKey`. -/
def isOcppParamForPowerLimitationKey (ocppParameterKey : String) : Bool :=
  chargingStation.chargePoints.any fun chargePoint =>
    chargePoint.ocppParamForPowerLimitation ≠ "" &&
      chargePoint.ocppParamForPowerLimitation.toList <:+: ocppParameterKey.toList

/-- `Constants.OCPP_HEARTBEAT_KEYS`. -/
def Constants.ocppHeartbeatKeys : List String := ["HeartbeatInterval", "HeartBeatInterval"]

/-- The section of OCPP parameters that is applied to the station, if the template has not been
applied already. -/
def appliedOcppSection (ocppProperty : OcppProperty) :
    Option (ℕ × TemplateSection OcppParameters) :=
  if chargingStation.templateHashOcpp ocppProperty ≠ chargingStationTemplate.hashOcpp ocppProperty
  then
    (chargingStationTemplate.ocppParameters ocppProperty).bind
      (findSection regExpTest chargingStation {})
  else none

/-- `enrichChargingStationWithTemplateOcppStandardParams` and `…OcppVendorParams`, with
`enrichChargingStationWithTemplateOcppParams`; the station is updated or not. -/
def enrichChargingStationWithTemplateOcppParams (ocppProperty : OcppProperty) :
    TemplatedChargingStation × Bool :=
  if chargingStation.templateHashOcpp ocppProperty ≠ chargingStationTemplate.hashOcpp ocppProperty
  then
    let enriched := { chargingStation with
      templateHashOcpp := Function.update chargingStation.templateHashOcpp ocppProperty
        (chargingStationTemplate.hashOcpp ocppProperty)
      ocppParameters := Function.update chargingStation.ocppParameters ocppProperty [] }
    match appliedOcppSection regExpTest chargingStation chargingStationTemplate ocppProperty with
    | some (_, ocppParameters) =>
        ({ enriched with
          ocppParameters := Function.update enriched.ocppParameters ocppProperty
            (ocppParameters.content.filter fun parameter =>
              !isOcppParamForPowerLimitationKey chargingStation parameter.1 &&
                !Constants.ocppHeartbeatKeys.contains parameter.1) }, true)
    | none => (enriched, false)
  else (chargingStation, false)

/-- The section of capabilities that is applied to the station, if the template has not been
applied already. -/
def appliedCapabilities : Option (ℕ × TemplateSection ChargingStationCapabilities) :=
  if chargingStation.templateHashCapabilities ≠ chargingStationTemplate.hashCapabilities then
    chargingStationTemplate.capabilities.bind (findSection regExpTest chargingStation {})
  else none

/-- `enrichChargingStationWithTemplateCapabilities`. -/
def enrichChargingStationWithTemplateCapabilities : TemplatedChargingStation × Bool :=
  if chargingStation.templateHashCapabilities ≠ chargingStationTemplate.hashCapabilities then
    let enriched := { chargingStation with capabilities := {} }
    match appliedCapabilities regExpTest chargingStation chargingStationTemplate with
    | some (_, capabilities) =>
        ({ enriched with
          excludeFromSmartCharging :=
            if capabilities.content.supportChargingProfiles = some false then true
            else chargingStation.excludeFromSmartCharging
          capabilities := capabilities.content
          templateHashCapabilities := chargingStationTemplate.hashCapabilities }, true)
    | none => (enriched, false)
  else (chargingStation, false)

end Enrich

/-! ## What the search stops at -/

section Spec

variable (regExpTest : (pattern text : String) → Bool)
  (chargingStation : TemplatedChargingStation) {α : Type}

/-- The section lists both versions of the station itself. -/
def TemplateSection.matchesStation (candidate : TemplateSection α) : Bool :=
  listsFirmware regExpTest chargingStation candidate && listsOcppVersion chargingStation candidate

/-- Of the sections up to position `i`, one lists the firmware of the station, and the last one
with OCPP versions lists that of the station. -/
def matchesUpTo (sections : List (TemplateSection α)) (i : ℕ) : Bool :=
  (sections.take (i + 1)).any (listsFirmware regExpTest chargingStation) &&
    (((sections.take (i + 1)).filterMap TemplateSection.supportedOcppVersions).getLast?.any
      fun supportedOcppVersions => supportedOcppVersions.contains chargingStation.ocppVersion)

/-- The flags of the search after some sections. -/
theorem foldl_check_eq (sections : List (TemplateSection α)) :
    sections.foldl (TemplateMatch.check regExpTest chargingStation) {} = {
      matchFirmware := sections.any (listsFirmware regExpTest chargingStation)
      matchOcpp := (sections.filterMap TemplateSection.supportedOcppVersions).getLast?.any
        fun supportedOcppVersions =>
          supportedOcppVersions.contains chargingStation.ocppVersion } := by
  induction sections using List.reverseRecOn with
  | nil => rfl
  | append_singleton before candidate ih =>
      rw [List.foldl_append, ih, List.any_append, List.filterMap_append]
      cases versions : candidate.supportedOcppVersions with
      | none => simp [TemplateMatch.check, versions]
      | some supportedOcppVersions => simp [TemplateMatch.check, versions]

/-- The search stops at the first section that the flags are both set at. -/
theorem findSection_eq_some_iff (flags : TemplateMatch) (sections : List (TemplateSection α))
    (i : ℕ) (candidate : TemplateSection α) :
    findSection regExpTest chargingStation flags sections = some (i, candidate) ↔
      sections[i]? = some candidate ∧
        (∀ j ≤ i,
          (((sections.take (j + 1)).foldl (TemplateMatch.check regExpTest chargingStation)
              flags).matchFirmware &&
            ((sections.take (j + 1)).foldl (TemplateMatch.check regExpTest chargingStation)
              flags).matchOcpp) = decide (j = i)) := by
  induction sections generalizing flags i with
  | nil => simp [findSection]
  | cons first rest ih =>
      rw [findSection]
      cases stops : (flags.check regExpTest chargingStation first).matchFirmware &&
          (flags.check regExpTest chargingStation first).matchOcpp with
      | true =>
          rw [if_pos rfl]
          constructor
          · intro found
            obtain ⟨rfl, rfl⟩ := Prod.mk.injEq .. ▸ Option.some.inj found
            refine ⟨rfl, fun j bound => ?_⟩
            obtain rfl := Nat.le_zero.mp bound
            exact stops
          · rintro ⟨atPosition, first'⟩
            obtain rfl : 0 = i := of_decide_eq_true ((first' 0 i.zero_le).symm.trans stops)
            rw [List.getElem?_cons_zero, Option.some.injEq] at atPosition
            rw [atPosition]
      | false =>
          rw [if_neg Bool.false_ne_true, Option.map_eq_some_iff]
          constructor
          · rintro ⟨⟨k, other⟩, found, same⟩
            obtain ⟨rfl, rfl⟩ := Prod.mk.injEq .. ▸ same
            obtain ⟨atPosition, others⟩ := (ih _ k).mp found
            refine ⟨atPosition, fun j bound => ?_⟩
            cases j with
            | zero => exact stops
            | succ j =>
                have turn := others j (Nat.le_of_succ_le_succ bound)
                simpa using turn
          · rintro ⟨atPosition, first'⟩
            cases i with
            | zero => exact absurd ((first' 0 le_rfl).symm.trans stops) (by simp)
            | succ i =>
                refine ⟨(i, candidate), (ih _ i).mpr ⟨atPosition, fun j bound => ?_⟩, rfl⟩
                have turn := first' (j + 1) (Nat.succ_le_succ bound)
                simpa using turn

/-- The search stops at the first section that the versions match up to. -/
theorem findSection_eq_some_iff_matchesUpTo (sections : List (TemplateSection α)) (i : ℕ)
    (candidate : TemplateSection α) :
    findSection regExpTest chargingStation {} sections = some (i, candidate) ↔
      sections[i]? = some candidate ∧
        ∀ j ≤ i, matchesUpTo regExpTest chargingStation sections j = decide (j = i) := by
  rw [findSection_eq_some_iff]
  refine and_congr_right fun _ => forall₂_congr fun j _ => ?_
  rw [foldl_check_eq]
  rfl

/-- Up to a section that matches by itself the versions match. -/
theorem matchesUpTo_of_matchesStation {sections : List (TemplateSection α)} {i : ℕ}
    {candidate : TemplateSection α} (atPosition : sections[i]? = some candidate)
    (isMatch : candidate.matchesStation regExpTest chargingStation) :
    matchesUpTo regExpTest chargingStation sections i := by
  have upTo : sections.take (i + 1) = sections.take i ++ [candidate] := by
    rw [List.take_add_one, atPosition, Option.toList_some]
  obtain ⟨firmware, ocpp⟩ := Bool.and_eq_true_iff.mp isMatch
  unfold matchesUpTo
  rw [upTo, List.any_append, List.filterMap_append]
  unfold listsOcppVersion at ocpp
  cases versions : candidate.supportedOcppVersions with
  | none => simp [versions] at ocpp
  | some supportedOcppVersions =>
      rw [versions, Option.getD_some] at ocpp
      simp [firmware, versions, List.contains_iff_mem.mp ocpp]

end Spec

/-! ## Sections that apply by themselves -/

section Apply

variable (regExpTest : (pattern text : String) → Bool)
  (chargingStation : TemplatedChargingStation) {α : Type}

/-- The section that is applied is each section that matches the station by itself. -/
def AppliesMatching (sections : List (TemplateSection α))
    (applied : Option (ℕ × TemplateSection α)) : Prop :=
  ∀ i candidate, sections[i]? = some candidate →
    (applied = some (i, candidate) ↔ candidate.matchesStation regExpTest chargingStation)

/-- One section at most matches the station by itself, and the versions match up to no section
ahead of it. -/
structure MatchesAlone (sections : List (TemplateSection α)) : Prop where
  unique : ∀ (i j : ℕ) (candidate other : TemplateSection α),
    sections[i]? = some candidate → sections[j]? = some other →
      candidate.matchesStation regExpTest chargingStation →
        other.matchesStation regExpTest chargingStation → i = j
  ownMatch : ∀ i < sections.length, matchesUpTo regExpTest chargingStation sections i →
    ∃ j ≤ i, ∃ candidate : TemplateSection α, sections[j]? = some candidate ∧
      candidate.matchesStation regExpTest chargingStation

variable {regExpTest chargingStation} {sections : List (TemplateSection α)}

/-- Where the versions match up to a section, the search stops there or ahead of it. -/
theorem exists_findSection_of_matchesUpTo {i : ℕ} (bound : i < sections.length)
    (upTo : matchesUpTo regExpTest chargingStation sections i) :
    ∃ first ≤ i, ∃ candidate,
      findSection regExpTest chargingStation {} sections = some (first, candidate) := by
  have some' : ∃ k, matchesUpTo regExpTest chargingStation sections k := ⟨i, upTo⟩
  have first := Nat.find_min' some' upTo
  refine ⟨Nat.find some', first, sections[Nat.find some'],
    (findSection_eq_some_iff_matchesUpTo _ _ _ _ _).mpr
      ⟨List.getElem?_eq_getElem (first.trans_lt bound), fun j reached => ?_⟩⟩
  rcases reached.lt_or_eq with lower | same
  · rw [decide_eq_false lower.ne]
    exact Bool.eq_false_iff.mpr (Nat.find_min some' lower)
  · rw [same, decide_eq_true rfl]
    exact Nat.find_spec some'

/-- **The search.**  It applies each section that matches by itself, and no other, just when one
section at most does and nothing that is left over in the flags makes another one match. -/
theorem appliesMatching_findSection_iff :
    AppliesMatching regExpTest chargingStation sections
        (findSection regExpTest chargingStation {} sections) ↔
      MatchesAlone regExpTest chargingStation sections := by
  constructor
  · intro applies
    refine ⟨?_, ?_⟩
    · intro i j candidate other atI atJ matchI matchJ
      have foundI := (applies i candidate atI).mpr matchI
      have foundJ := (applies j other atJ).mpr matchJ
      exact congrArg Prod.fst (Option.some.inj (foundI.symm.trans foundJ))
    · intro i bound upTo
      obtain ⟨first, reached, candidate, found⟩ := exists_findSection_of_matchesUpTo bound upTo
      have atFirst := ((findSection_eq_some_iff_matchesUpTo _ _ _ _ _).mp found).1
      exact ⟨first, reached, candidate, atFirst, (applies first candidate atFirst).mp found⟩
  · intro alone i candidate atI
    have bound := (List.getElem?_eq_some_iff.mp atI).1
    constructor
    · intro found
      obtain ⟨-, stops⟩ := (findSection_eq_some_iff_matchesUpTo _ _ _ _ _).mp found
      obtain ⟨j, reached, other, atJ, isMatch⟩ :=
        alone.ownMatch i bound ((stops i le_rfl).trans (decide_eq_true rfl))
      have same := (stops j reached).symm.trans (matchesUpTo_of_matchesStation _ _ atJ isMatch)
      obtain rfl : j = i := of_decide_eq_true same
      obtain rfl := Option.some.inj (atI.symm.trans atJ)
      exact isMatch
    · intro isMatch
      obtain ⟨first, reached, other, found⟩ :=
        exists_findSection_of_matchesUpTo bound (matchesUpTo_of_matchesStation _ _ atI isMatch)
      obtain ⟨atFirst, stops⟩ := (findSection_eq_some_iff_matchesUpTo _ _ _ _ _).mp found
      obtain ⟨j, ahead, owner, atJ, ownMatch⟩ :=
        alone.ownMatch first (reached.trans_lt bound)
          ((stops first le_rfl).trans (decide_eq_true rfl))
      obtain rfl := alone.unique j i owner candidate atJ atI ownMatch isMatch
      obtain rfl : first = j := le_antisymm reached ahead
      obtain rfl := Option.some.inj (atI.symm.trans atFirst)
      exact found

/-- Where nothing is applied, no section may match. -/
theorem appliesMatching_none_iff :
    AppliesMatching regExpTest chargingStation sections none ↔
      ∀ candidate ∈ sections, ¬ candidate.matchesStation regExpTest chargingStation := by
  constructor
  · intro applies candidate mem isMatch
    obtain ⟨i, atI⟩ := List.mem_iff_getElem?.mp mem
    exact Option.some_ne_none _ ((applies i candidate atI).mpr isMatch).symm
  · intro none i candidate atI
    exact iff_of_false (fun applied => Option.some_ne_none _ applied.symm)
      (none candidate (List.mem_of_getElem? atI))

/-- When a part of a template applies its sections as they match by themselves: what is new to
the station in a search, and what is not so only if nothing matches. -/
def AppliesAlone (regExpTest : (pattern text : String) → Bool)
    (chargingStation : TemplatedChargingStation) (isNew : Prop) [Decidable isNew]
    (sections : List (TemplateSection α)) : Prop :=
  if isNew then MatchesAlone regExpTest chargingStation sections
  else ∀ candidate ∈ sections, ¬ candidate.matchesStation regExpTest chargingStation

theorem appliesMatching_ite_iff {isNew : Prop} [Decidable isNew]
    {sections : Option (List (TemplateSection α))} :
    AppliesMatching regExpTest chargingStation (sections.getD [])
        (if isNew then sections.bind (findSection regExpTest chargingStation {}) else none) ↔
      AppliesAlone regExpTest chargingStation isNew (sections.getD []) := by
  unfold AppliesAlone
  split
  · cases sections with
    | none => exact appliesMatching_findSection_iff
    | some sections => exact appliesMatching_findSection_iff
  · exact appliesMatching_none_iff

end Apply

/-! ## The template -/

section Template

variable (regExpTest : (pattern text : String) → Bool)
  (chargingStation : TemplatedChargingStation)
  (chargingStationTemplate : ChargingStationTemplateSections)

/-- Parameters are updated just when a section is applied. -/
theorem snd_enrichChargingStationWithTemplateOcppParams (ocppProperty : OcppProperty) :
    (enrichChargingStationWithTemplateOcppParams regExpTest chargingStation
        chargingStationTemplate ocppProperty).2 =
      (appliedOcppSection regExpTest chargingStation chargingStationTemplate
        ocppProperty).isSome := by
  unfold enrichChargingStationWithTemplateOcppParams
  split
  · cases appliedOcppSection regExpTest chargingStation chargingStationTemplate ocppProperty with
    | none => rfl
    | some _ => rfl
  · rename_i same
    rw [appliedOcppSection, if_neg same]
    rfl

/-- Capabilities are updated just when a section is applied, and then they are its own. -/
theorem enrichChargingStationWithTemplateCapabilities_eq_true_iff
    (capabilities : ChargingStationCapabilities) :
    (enrichChargingStationWithTemplateCapabilities regExpTest chargingStation
          chargingStationTemplate).2 = true ∧
        (enrichChargingStationWithTemplateCapabilities regExpTest chargingStation
          chargingStationTemplate).1.capabilities = capabilities ↔
      (appliedCapabilities regExpTest chargingStation chargingStationTemplate).map
        (fun applied => applied.2.content) = some capabilities := by
  unfold enrichChargingStationWithTemplateCapabilities
  split
  · cases appliedCapabilities regExpTest chargingStation chargingStationTemplate with
    | none => simp
    | some _ => simp
  · rename_i same
    rw [appliedCapabilities, if_neg same]
    simp

/-- **The sections of a template.**  Those are applied that match the station by themselves just
when, in each part of the template that is new to the station, one section at most does and none
matches by what sections ahead of it have left in the flags. -/
theorem appliesMatching_enrichChargingStationWithTemplate_iff :
    ((∀ ocppProperty, AppliesMatching regExpTest chargingStation
          ((chargingStationTemplate.ocppParameters ocppProperty).getD [])
          (appliedOcppSection regExpTest chargingStation chargingStationTemplate ocppProperty)) ∧
        AppliesMatching regExpTest chargingStation (chargingStationTemplate.capabilities.getD [])
          (appliedCapabilities regExpTest chargingStation chargingStationTemplate)) ↔
      (∀ ocppProperty, AppliesAlone regExpTest chargingStation
          (chargingStation.templateHashOcpp ocppProperty ≠
            chargingStationTemplate.hashOcpp ocppProperty)
          ((chargingStationTemplate.ocppParameters ocppProperty).getD [])) ∧
        AppliesAlone regExpTest chargingStation
          (chargingStation.templateHashCapabilities ≠ chargingStationTemplate.hashCapabilities)
          (chargingStationTemplate.capabilities.getD []) :=
  and_congr (forall_congr' fun _ => appliesMatching_ite_iff) appliesMatching_ite_iff

end Template

/-! ## A firmware match that is left over -/

/-- A test that is right for patterns of letters and digits: the text contains the pattern. -/
def containsText (pattern text : String) : Bool :=
  pattern.toList <:+: text.toList

/-- The first section is for the firmware of the station and OCPP 2.0, the second one for
another firmware and OCPP 1.6. -/
def leftOverTemplate : ChargingStationTemplateSections where
  hashCapabilities := some "hash"
  hashOcpp := fun _ => none
  capabilities := some [
    { supportedFirmwareVersions := some ["v1"]
      supportedOcppVersions := some ["2.0"]
      content := {} },
    { supportedFirmwareVersions := some ["v2"]
      supportedOcppVersions := some ["1.6"]
      content := { supportChargingProfiles := some true } }]
  ocppParameters := fun _ => none

/-- The second section is applied to a station with the firmware of the first one. -/
theorem not_appliesMatching_leftOver :
    ¬ AppliesMatching containsText { firmwareVersion := some "v1", ocppVersion := "1.6" }
      (leftOverTemplate.capabilities.getD [])
      (appliedCapabilities containsText { firmwareVersion := some "v1", ocppVersion := "1.6" }
        leftOverTemplate) := by
  intro applies
  have isMatch := (applies 1 _ rfl).mp (by decide +kernel)
  exact absurd isMatch (by decide +kernel)

end EvServer
