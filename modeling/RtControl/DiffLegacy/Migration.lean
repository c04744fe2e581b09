import RtControl.DiffLegacy.Frozen

/-!
# The migration gate

The gate compares thirteen overlaid profiles, one new profile and the joint limits, and its exit
status is `0` when it finds no difference.  On legible documents this says that every target
profile is the frozen document of its legacy profile, and that the target limits are the legacy
limits with the approved ones in their place.
-/

namespace RtControl.DiffLegacy

open RtControl.Codec

/-! ## The built-in documents -/

/-- `XMC_UPDOWN_SW511_PROFILE`. -/
def xmcUpdownSw511Profile : List (Node × Node) :=
  fields [
    ("vendor_id", intNode "0x0000034E"),
    ("product_id", intNode "0x00445566"),
    ("assign_activate", intNode "0x0300"),
    ("auto_fault_reset", boolNode "false"),
    ("auto_state_transitions", boolNode "false"),
    ("sdo", .sequence [
      objectNode "0x10f1" "2" "uint16" [("value", intNode "250")],
      objectNode "0x60c2" "1" "uint8" [("value", intNode "4")],
      objectNode "0x60c2" "2" "int8" [("value", intNode "-3")],
      objectNode "0x6060" "0" "int8" [("value", intNode "8")]]),
    ("rpdo", .sequence [pdoNode "0x1600" [
      objectNode "0x6040" "0" "uint16" [("command_interface", textNode "control_word"),
        ("default", intNode "0")],
      objectNode "0x6071" "0" "int16" [("command_interface", textNode "fixed_target_torque"),
        ("default", intNode "0")],
      objectNode "0x60ff" "0" "int32" [("command_interface", textNode "fixed_target_velocity"),
        ("default", intNode "0")],
      objectNode "0x607a" "0" "int32" [("command_interface", textNode "position"),
        ("factor", floatNode "6553600.0"), ("default", floatNode ".nan")],
      objectNode "0x6081" "0" "uint32" [("command_interface", textNode "fixed_profile_velocity"),
        ("default", intNode "0")],
      objectNode "0x6060" "0" "int8" [("command_interface", textNode "mode_of_operation"),
        ("default", intNode "8")],
      objectNode "0x2302" "0" "uint16" [("command_interface", textNode "fixed_vendor_control"),
        ("default", intNode "0")]]]),
    ("tpdo", .sequence [pdoNode "0x1a00" [
      objectNode "0x6041" "0" "uint16" [("state_interface", textNode "status_word")],
      objectNode "0x603f" "0" "uint16" [],
      objectNode "0x6078" "0" "int16" [],
      objectNode "0x606c" "0" "int32" [],
      objectNode "0x6064" "0" "int32" [("state_interface", textNode "position"),
        ("factor", floatNode "0.000000152587890625")],
      objectNode "0x6061" "0" "int8" [],
      objectNode "0x6000" "0" "uint8" [],
      objectNode "0x2300" "0" "uint16" [],
      objectNode "0x2301" "0" "uint16" [],
      objectNode "0x60fd" "0" "uint32" []]])]

/-- `XMC_UPDOWN_LIMITS`. -/
def xmcUpdownLimits : List (Node × Node) :=
  fields [("joints", .mapping (fields [("updown", .mapping (fields [
    ("profile", textNode "xmc_updown_sw511"),
    ("lower_position_m", floatNode "0.0"),
    ("upper_position_m", floatNode "0.8"),
    ("max_velocity_m_s", floatNode "0.3"),
    ("max_acceleration_m_s2", floatNode "0.5"),
    ("max_deceleration_m_s2", floatNode "0.5"),
    ("counts_per_rev", intNode "65536"),
    ("screw_lead_m_per_rev", floatNode "0.01"),
    ("reduction_ratio", floatNode "1.0"),
    ("counts_per_m", floatNode "6553600.0"),
    ("m_per_count", floatNode "0.000000152587890625"),
    ("direction", intNode "1"),
    ("zero_offset_m", floatNode "0.0"),
    ("verification", .mapping (fields [
      ("source", textNode "USER_AND_SUPPLIER_CONFIRMED_XMC_SW_5_11"),
      ("direction", textNode "RAW_6064_INCREASES_UPWARD"),
      ("zero_offset", textNode "RAW_0_IS_0_M")]))]))]))]

/-- `AXIS_PROFILES`: an axis, its legacy profile and its target profile. -/
def axisProfiles : List (String × String × String) :=
  [("right_joint1", "joint1.yaml", "zeroerr_j1.yaml"),
    ("right_joint2", "joint2.yaml", "ti5_j2.yaml"),
    ("right_joint3", "joint3.yaml", "ti5_j3.yaml"),
    ("right_joint4", "joint4.yaml", "zeroerr_j4.yaml"),
    ("right_joint5", "joint5.yaml", "zeroerr_j5.yaml"),
    ("right_joint6", "right_joint6.yaml", "right_j6.yaml"),
    ("left_joint1", "joint1.yaml", "zeroerr_j1.yaml"),
    ("left_joint2", "joint2.yaml", "ti5_j2.yaml"),
    ("left_joint3", "joint3.yaml", "ti5_j3.yaml"),
    ("left_joint4", "joint4.yaml", "zeroerr_j4.yaml"),
    ("left_joint5", "joint5.yaml", "zeroerr_j5.yaml"),
    ("left_joint6", "left_joint6.yaml", "left_j6.yaml"),
    ("turn", "turn.yaml", "turn.yaml")]

/-! ## The gate -/

/-- What reading and composing the files under the two roots gives. -/
structure Roots where
  legacyProfile : String → Except Failure Node
  legacyLimits : Except Failure Node
  targetProfile : String → Except Failure Node
  targetLimits : Except Failure Node

/-- `load_yaml`, and `compose_yaml` of a composed document. -/
def loadYaml (document : Except Failure Node) : Except Failure SemanticMap :=
  document >>= flattenNode ""

/-- The legacy profiles of the axes with another drive. -/
def isTi5 (legacyName : String) : Bool :=
  legacyName = "joint2.yaml" || legacyName = "joint3.yaml"

/-- The differences so far and the compared values. -/
abbrev Report := List Difference × Nat

/-- One more comparison. -/
def Report.compare (report : Report) (axis : String) (expected actual : SemanticMap) : Report :=
  (report.1 ++ compareMaps axis expected actual, report.2 + expected.entries.length)

/-- The loop over the axes. -/
def compareAxes (roots : Roots) :
    List (String × String × String) → Report → Except Failure Report
  | [], report => .ok report
  | (axis, legacyName, targetName) :: axes, report => do
      let legacy ← loadYaml (roots.legacyProfile legacyName)
      let expected ← applyFrozenOverlay legacy (isTi5 legacyName)
      let actual ← loadYaml (roots.targetProfile targetName)
      compareAxes roots axes (report.compare axis expected actual)

/-- `compare_configuration`; the updates of the limits are unions that prefer the new values. -/
def compareConfiguration (roots : Roots) : Except Failure Report := do
  let report ← compareAxes roots axisProfiles ([], 0)
  let expectedUpdown ← loadYaml (.ok (.mapping xmcUpdownSw511Profile))
  let actualUpdown ← loadYaml (roots.targetProfile "xmc_updown_sw511.yaml")
  let report := report.compare "updown" expectedUpdown actualUpdown
  let legacyLimits ← loadYaml roots.legacyLimits
  let approvedUpdownLimits ← loadYaml (.ok (.mapping xmcUpdownLimits))
  let migratedLimits ← loadYaml roots.targetLimits
  return report.compare "joint_limits" (approvedUpdownLimits ∪ legacyLimits) migratedLimits

/-- The exit status of `main`; only `GateError` is caught. -/
def main (roots : Roots) : Except Failure Nat :=
  match compareConfiguration roots with
  | .ok (differences, _) => .ok (if differences = [] then 0 else 1)
  | .error (.gateError _) => .ok 2
  | .error .valueError => .error .valueError

/-! ## Maps that show leaves -/

/-- The entries of a map are leaves under plain paths. -/
structure Shows (flattened : SemanticMap) (leaf : List Segment → Scalar → Prop) : Prop where
  lookup_iff : ∀ key scalar, flattened.lookup key = some scalar ↔
    ∃ steps, leaf steps scalar ∧ spell "" steps = key
  plain : ∀ steps scalar, leaf steps scalar → PlainPath steps

/-- The same paths with equivalent scalars. -/
structure Agree (expected actual : List Segment → Scalar → Prop) : Prop where
  forward : ∀ steps first, expected steps first →
    ∃ second, actual steps second ∧ equivalent first second = true
  backward : ∀ steps second, actual steps second →
    ∃ first, expected steps first ∧ equivalent first second = true

/-- The leaves of one document, and those of another one at the paths that the first has not. -/
def Over (first second : List Segment → Scalar → Prop) (steps : List Segment) (scalar : Scalar) :
    Prop :=
  first steps scalar ∨ second steps scalar ∧ ∀ other, ¬first steps other

section Shows

variable {first second : SemanticMap} {leaf otherLeaf : List Segment → Scalar → Prop}

theorem Shows.congr (shows_ : Shows first leaf) (same : ∀ key, second.lookup key = first.lookup key) :
    Shows second leaf where
  lookup_iff := by
    intro key scalar
    rw [same]
    exact shows_.lookup_iff key scalar
  plain := shows_.plain

/-- A path is in the map when it has a leaf. -/
theorem Shows.mem_iff (shows_ : Shows first leaf) {steps : List Segment} (plain : PlainPath steps) :
    spell "" steps ∈ first ↔ ∃ scalar, leaf steps scalar := by
  rw [← AList.lookup_isSome, Option.isSome_iff_exists]
  refine exists_congr fun scalar => ?_
  rw [shows_.lookup_iff]
  constructor
  · rintro ⟨others, found, spelled⟩
    cases spell_injective (shows_.plain others scalar found) plain spelled
    exact found
  · intro found
    exact ⟨steps, found, rfl⟩

/-- An update shows its own leaves over those that were there. -/
theorem Shows.union (shows_ : Shows first leaf) (others : Shows second otherLeaf) :
    Shows (first ∪ second) (Over leaf otherLeaf) where
  lookup_iff := by
    intro key scalar
    rw [AList.lookup_union_eq_some, shows_.lookup_iff, others.lookup_iff]
    constructor
    · rintro (⟨steps, found, rfl⟩ | ⟨absent, steps, found, rfl⟩)
      · exact ⟨steps, .inl found, rfl⟩
      · rw [shows_.mem_iff (others.plain steps scalar found)] at absent
        exact ⟨steps, .inr ⟨found, not_exists.mp absent⟩, rfl⟩
    · rintro ⟨steps, found | ⟨found, absent⟩, rfl⟩
      · exact .inl ⟨steps, found, rfl⟩
      · rw [shows_.mem_iff (others.plain steps scalar found)]
        exact .inr ⟨not_exists.mpr absent, steps, found, rfl⟩
  plain := by
    rintro steps scalar (found | ⟨found, _⟩)
    · exact shows_.plain steps scalar found
    · exact others.plain steps scalar found

/-- Two maps compare equal when their leaves agree. -/
theorem Shows.compare_iff (shows_ : Shows first leaf) (others : Shows second otherLeaf)
    (axis : String) : compareMaps axis first second = [] ↔ Agree leaf otherLeaf := by
  simp only [compareMaps_eq_nil_iff, shows_.lookup_iff, others.lookup_iff]
  constructor
  · rintro ⟨forward, backward⟩
    constructor
    · intro steps scalar found
      obtain ⟨other, ⟨path, there, spelled⟩, same⟩ := forward _ scalar ⟨steps, found, rfl⟩
      cases spell_injective (others.plain path other there) (shows_.plain steps scalar found) spelled
      exact ⟨other, there, same⟩
    · intro steps scalar found
      obtain ⟨other, ⟨path, there, spelled⟩, same⟩ := backward _ scalar ⟨steps, found, rfl⟩
      cases spell_injective (shows_.plain path other there) (others.plain steps scalar found) spelled
      exact ⟨other, there, same⟩
  · rintro ⟨forward, backward⟩
    constructor
    · rintro key scalar ⟨steps, found, rfl⟩
      obtain ⟨other, there, same⟩ := forward steps scalar found
      exact ⟨other, ⟨steps, there, rfl⟩, same⟩
    · rintro key scalar ⟨steps, found, rfl⟩
      obtain ⟨other, there, same⟩ := backward steps scalar found
      exact ⟨other, ⟨steps, there, rfl⟩, same⟩

end Shows

/-! ## Comparable documents -/

/-- A document that flattens, has distinct keys and whose paths can be read back. -/
structure Comparable (document : Node) : Prop where
  distinct : Everywhere DistinctKeys document
  unambiguous : Unambiguous document
  flat : ∃ flattened, flattenNode "" document = .ok flattened

theorem Legible.comparable {entries : List (Node × Node)} (legible : Legible entries) :
    Comparable (.mapping entries) :=
  ⟨legible.distinct, legible.unambiguous, legible.flat⟩

section Comparable

variable {document other : Node}

theorem Comparable.shows (comparable : Comparable document) {flattened : SemanticMap}
    (flat : flattenNode "" document = .ok flattened) : Shows flattened (Leaf document) where
  lookup_iff := fun _ _ => lookup_eq_some_iff comparable.distinct comparable.unambiguous flat
  plain := fun _ _ leaf => leaf.plainPath comparable.unambiguous

theorem Comparable.accepted (comparable : Comparable document) : Accepted document where
  readable := comparable.unambiguous.readable
  distinct := comparable.distinct
  flat := ⟨"", comparable.flat⟩

/-- Comparable documents with the same leaves have the same shape. -/
theorem Comparable.agree_iff (comparable : Comparable document) (others : Comparable other) :
    Agree (Leaf document) (Leaf other) ↔ Same document other := by
  constructor
  · rintro ⟨forward, backward⟩
    exact same_of_sameLeaves comparable.accepted others.accepted ⟨forward, backward⟩
  · intro same
    obtain ⟨forward, backward⟩ := sameLeaves_of_same same
    exact ⟨forward, backward⟩

/-- The comparison with a map that has the items of a document. -/
theorem Comparable.compare_iff (comparable : Comparable document) (others : Comparable other)
    {flattened otherMap expected : SemanticMap} (flat : flattenNode "" document = .ok flattened)
    (otherFlat : flattenNode "" other = .ok otherMap)
    (same : ∀ key, expected.lookup key = flattened.lookup key) (axis : String) :
    compareMaps axis expected otherMap = [] ↔ Same document other := by
  rw [((comparable.shows flat).congr same).compare_iff (others.shows otherFlat),
    comparable.agree_iff others]

end Comparable

/-! ## The run of the gate -/

theorem legible_xmcUpdownSw511Profile : Legible xmcUpdownSw511Profile :=
  legible_of_isTidy (by decide +kernel) (by decide +kernel) (by decide +kernel)

theorem legible_xmcUpdownLimits : Legible xmcUpdownLimits :=
  legible_of_isTidy (by decide +kernel) (by decide +kernel) (by decide +kernel)

/-- The documents under the two roots. -/
structure Documents where
  legacyProfile : String → List (Node × Node)
  legacyLimits : Node
  targetProfile : String → Node
  targetLimits : Node

/-- Roots whose files compose. -/
def Documents.roots (documents : Documents) : Roots where
  legacyProfile := fun name => .ok (.mapping (documents.legacyProfile name))
  legacyLimits := .ok documents.legacyLimits
  targetProfile := fun name => .ok (documents.targetProfile name)
  targetLimits := .ok documents.targetLimits

/-- The files that the gate reads are comparable, and the legacy profiles can be overlaid. -/
structure Documents.Readable (documents : Documents) : Prop where
  legacy : ∀ profile ∈ axisProfiles, Migratable (documents.legacyProfile profile.2.1)
  target : ∀ profile ∈ axisProfiles, Comparable (documents.targetProfile profile.2.2)
  updown : Comparable (documents.targetProfile "xmc_updown_sw511.yaml")
  legacyLimits : Comparable documents.legacyLimits
  targetLimits : Comparable documents.targetLimits

/-- The target profile of an axis is the frozen document of its legacy profile. -/
def Documents.Frozen (documents : Documents) (profile : String × String × String) : Prop :=
  Same (.mapping (frozenDocument (isTi5 profile.2.1) (documents.legacyProfile profile.2.1)))
    (documents.targetProfile profile.2.2)

/-- The migrated configuration. -/
structure Documents.Migrated (documents : Documents) : Prop where
  profiles : ∀ profile ∈ axisProfiles, documents.Frozen profile
  updown : Same (.mapping xmcUpdownSw511Profile)
    (documents.targetProfile "xmc_updown_sw511.yaml")
  limits : Agree (Over (Leaf (.mapping xmcUpdownLimits)) (Leaf documents.legacyLimits))
    (Leaf documents.targetLimits)

theorem Report.compare_eq_nil_iff {report : Report} {axis : String}
    {expected actual : SemanticMap} :
    (report.compare axis expected actual).1 = [] ↔
      report.1 = [] ∧ compareMaps axis expected actual = [] :=
  List.append_eq_nil_iff

section Documents

variable {documents : Documents}

/-- The loop reports nothing new when every target profile is frozen. -/
theorem compareAxes_roots {profiles : List (String × String × String)}
    (legacy : ∀ profile ∈ profiles, Migratable (documents.legacyProfile profile.2.1))
    (target : ∀ profile ∈ profiles, Comparable (documents.targetProfile profile.2.2))
    (report : Report) :
    ∃ result, compareAxes documents.roots profiles report = .ok result ∧
      (result.1 = [] ↔ report.1 = [] ∧ ∀ profile ∈ profiles, documents.Frozen profile) := by
  induction profiles generalizing report with
  | nil => exact ⟨report, rfl, by simp⟩
  | cons profile profiles ih =>
      obtain ⟨axis, legacyName, targetName⟩ := profile
      obtain ⟨migratable, legacy⟩ := List.forall_mem_cons.mp legacy
      obtain ⟨comparable, target⟩ := List.forall_mem_cons.mp target
      obtain ⟨legacyMap, legacyFlat⟩ := migratable.flat
      obtain ⟨expected, frozenMap, overlaid, frozenFlat, same⟩ :=
        migratable.applyFrozenOverlay legacyFlat (isTi5 legacyName)
      obtain ⟨actual, actualFlat⟩ := comparable.flat
      obtain ⟨result, done, empty⟩ := ih legacy target (report.compare axis expected actual)
      refine ⟨result, ?_, ?_⟩
      · have legacyLoaded : loadYaml (documents.roots.legacyProfile legacyName) = .ok legacyMap :=
          legacyFlat
        have actualLoaded : loadYaml (documents.roots.targetProfile targetName) = .ok actual :=
          actualFlat
        rw [compareAxes, legacyLoaded, ok_bind, overlaid, ok_bind, actualLoaded, ok_bind]
        exact done
      · have frozen := (migratable.legible_frozenDocument (isTi5 legacyName)).comparable
        rw [empty, Report.compare_eq_nil_iff,
          frozen.compare_iff comparable frozenFlat actualFlat same, List.forall_mem_cons, and_assoc]
        rfl

/-- The gate finds no difference when the configuration is migrated. -/
theorem compareConfiguration_roots (readable : documents.Readable) :
    ∃ report, compareConfiguration documents.roots = .ok report ∧
      (report.1 = [] ↔ documents.Migrated) := by
  obtain ⟨axes, compared, axesEmpty⟩ :=
    compareAxes_roots readable.legacy readable.target ([], 0)
  have updown := legible_xmcUpdownSw511Profile.comparable
  have approved := legible_xmcUpdownLimits.comparable
  obtain ⟨expectedUpdown, expectedFlat⟩ := updown.flat
  obtain ⟨actualUpdown, actualFlat⟩ := readable.updown.flat
  obtain ⟨legacyLimits, legacyFlat⟩ := readable.legacyLimits.flat
  obtain ⟨approvedLimits, approvedFlat⟩ := approved.flat
  obtain ⟨migratedLimits, migratedFlat⟩ := readable.targetLimits.flat
  refine ⟨(axes.compare "updown" expectedUpdown actualUpdown).compare "joint_limits"
    (approvedLimits ∪ legacyLimits) migratedLimits, ?_, ?_⟩
  · have updownLoaded : loadYaml (.ok (.mapping xmcUpdownSw511Profile)) = .ok expectedUpdown :=
      expectedFlat
    have targetLoaded : loadYaml (documents.roots.targetProfile "xmc_updown_sw511.yaml") =
        .ok actualUpdown := actualFlat
    have legacyLoaded : loadYaml documents.roots.legacyLimits = .ok legacyLimits := legacyFlat
    have approvedLoaded : loadYaml (.ok (.mapping xmcUpdownLimits)) = .ok approvedLimits :=
      approvedFlat
    have limitsLoaded : loadYaml documents.roots.targetLimits = .ok migratedLimits := migratedFlat
    simp only [compareConfiguration, compared, updownLoaded, targetLoaded, legacyLoaded,
      approvedLoaded, limitsLoaded, ok_bind]
    rfl
  · have limits := (approved.shows approvedFlat).union (readable.legacyLimits.shows legacyFlat)
    rw [Report.compare_eq_nil_iff, Report.compare_eq_nil_iff, axesEmpty,
      updown.compare_iff readable.updown expectedFlat actualFlat (fun _ => rfl),
      limits.compare_iff (readable.targetLimits.shows migratedFlat)]
    constructor
    · rintro ⟨⟨⟨_, profiles⟩, same⟩, agree⟩
      exact ⟨profiles, same, agree⟩
    · rintro ⟨profiles, same, agree⟩
      exact ⟨⟨⟨rfl, profiles⟩, same⟩, agree⟩

/-- The exit status says whether the configuration is migrated. -/
theorem main_migrated (readable : documents.Readable) :
    (main documents.roots = .ok 0 ↔ documents.Migrated) ∧
      (main documents.roots = .ok 1 ↔ ¬documents.Migrated) := by
  obtain ⟨⟨differences, compared⟩, done, empty⟩ := compareConfiguration_roots readable
  rw [← empty, main, done]
  by_cases none : differences = []
  · simp [none]
  · simp [none]

end Documents

/-! ## A migrated configuration -/

theorem Agree.refl (leaf : List Segment → Scalar → Prop) : Agree leaf leaf where
  forward := fun _ first found => ⟨first, found, by simp [equivalent]⟩
  backward := fun _ second found => ⟨second, found, by simp [equivalent]⟩

theorem Comparable.same {document : Node} (comparable : Comparable document) :
    Same document document :=
  (comparable.agree_iff comparable).mp (.refl _)

/-- A profile whose switch is on, with one start-up object. -/
def switchedOn : List (Node × Node) :=
  fields [("auto_state_transitions", boolNode "true"),
    ("sdo", .sequence [objectNode "0x6060" "0" "int8" [("value", intNode "8")]])]

theorem migratable_switchedOn : Migratable switchedOn := by
  have legible : Legible switchedOn :=
    legible_of_isTidy (by decide +kernel) (by decide +kernel) (by decide +kernel)
  have list : Child (.mapping switchedOn) (.key "sdo") (.sequence _) :=
    .entry (List.mem_cons_of_mem _ List.mem_cons_self) rfl
  have switch : Child (.mapping switchedOn) (.key "auto_state_transitions") (boolNode "true") :=
    .entry List.mem_cons_self rfl
  exact ⟨legible, fun value child => ⟨_, child.unique legible.distinct.here list⟩,
    fun value child => ⟨_, _, child.unique legible.distinct.here switch⟩⟩

/-- The documents of a migration of this profile. -/
def migratedDocuments : Documents where
  legacyProfile := fun _ => switchedOn
  legacyLimits := .mapping xmcUpdownLimits
  targetProfile := fun name =>
    if name = "xmc_updown_sw511.yaml" then .mapping xmcUpdownSw511Profile
    else .mapping (frozenDocument (name = "ti5_j2.yaml" || name = "ti5_j3.yaml") switchedOn)
  targetLimits := .mapping xmcUpdownLimits

theorem readable_migratedDocuments : migratedDocuments.Readable := by
  have target (name : String) : Comparable (migratedDocuments.targetProfile name) := by
    simp only [migratedDocuments]
    split_ifs
    · exact legible_xmcUpdownSw511Profile.comparable
    · exact (migratable_switchedOn.legible_frozenDocument _).comparable
  have limits := legible_xmcUpdownLimits.comparable
  exact ⟨fun _ _ => migratable_switchedOn, fun _ _ => target _, target _, limits, limits⟩

theorem migrated_migratedDocuments : migratedDocuments.Migrated where
  profiles := by
    have names : ∀ profile ∈ axisProfiles, profile.2.2 ≠ "xmc_updown_sw511.yaml" ∧
        (profile.2.2 = "ti5_j2.yaml" || profile.2.2 = "ti5_j3.yaml") = isTi5 profile.2.1 := by
      decide +kernel
    intro profile inside
    obtain ⟨other, drive⟩ := names profile inside
    rw [Documents.Frozen, migratedDocuments]
    simp only [if_neg other, drive]
    exact (migratable_switchedOn.legible_frozenDocument _).comparable.same
  updown := legible_xmcUpdownSw511Profile.comparable.same
  limits := by
    refine ⟨fun steps first found => ⟨first, ?_, by simp [equivalent]⟩,
      fun steps second found => ⟨second, .inl found, by simp [equivalent]⟩⟩
    rcases found with own | ⟨own, _⟩
    · exact own
    · exact own

theorem main_migrated_of_switchedOn : main migratedDocuments.roots = .ok 0 :=
  (main_migrated readable_migratedDocuments).1.mpr migrated_migratedDocuments

end RtControl.DiffLegacy
